import Mathlib.Data.List.Basic

/-!
# Trees over a list, layer by layer

The nodes of a layer are joined in pairs, the last of an odd number with itself,
until one node is left. A node is led back to the root by its siblings, one from
each layer under the root.
-/

namespace EpicKfc.Lib.PairTree

variable {α β : Type}

/-- Neighbours, the last of an odd number being its own. -/
def pairs : List α → List (α × α)
  | [] => []
  | [last] => [(last, last)]
  | first :: second :: rest => (first, second) :: pairs rest

theorem length_pairs (layer : List α) : (pairs layer).length = (layer.length + 1) / 2 := by
  induction layer using pairs.induct with
  | case1 => simp [pairs]
  | case2 last => simp [pairs]
  | case3 first second rest ih =>
    rw [pairs, List.length_cons, ih]
    simp only [List.length_cons]
    omega

theorem pairs_map (f : α → β) (layer : List α) :
    pairs (layer.map f) = (pairs layer).map fun pair => (f pair.1, f pair.2) := by
  induction layer using pairs.induct with
  | case1 => rfl
  | case2 last => rfl
  | case3 first second rest ih => simp [pairs, ih]

theorem mem_of_mem_pairs {layer : List α} {pair : α × α} (member : pair ∈ pairs layer) :
    pair.1 ∈ layer ∧ pair.2 ∈ layer := by
  induction layer using pairs.induct with
  | case1 => cases member
  | case2 last =>
    rw [pairs, List.mem_singleton] at member
    subst member
    simp
  | case3 first second rest ih =>
    rw [pairs, List.mem_cons] at member
    rcases member with rfl | later
    · simp
    · obtain ⟨left, right⟩ := ih later
      exact ⟨List.mem_cons_of_mem _ (List.mem_cons_of_mem _ left),
        List.mem_cons_of_mem _ (List.mem_cons_of_mem _ right)⟩

section Nodes
variable (node : α → α → α)

/-- The layer above. -/
def nextLayer (layer : List α) : List α := (pairs layer).map fun pair => node pair.1 pair.2

theorem length_nextLayer (layer : List α) : (nextLayer node layer).length = (layer.length + 1) / 2 := by
  rw [nextLayer, List.length_map, length_pairs]

/-- All layers up to the one that cannot be joined any more. -/
def layers (layer : List α) : List (List α) :=
  if layer.length ≤ 1 then [layer] else layer :: layers (nextLayer node layer)
termination_by layer.length
decreasing_by
  rw [length_nextLayer]
  omega

/-- The single node of the last layer. -/
def root (first : α) : List α → α
  | [] => first
  | second :: rest => root (node first second) (nextLayer node rest)
termination_by rest => rest.length
decreasing_by
  rw [length_nextLayer, List.length_cons]
  omega

/-- The pairs that are joined on the way to the root. -/
def joined (layer : List α) : List (α × α) := (layers node layer).dropLast.flatMap pairs

theorem layers_single (only : α) : layers node [only] = [[only]] := by
  have short : [only].length ≤ 1 := Nat.le_refl 1
  rw [layers, if_pos short]

theorem layers_cons_cons (first second : α) (rest : List α) :
    layers node (first :: second :: rest) =
      (first :: second :: rest) :: layers node (node first second :: nextLayer node rest) := by
  rw [layers, if_neg (by simp), nextLayer, pairs, List.map_cons, nextLayer]

theorem layers_eq_cons (layer : List α) : ∃ higher, layers node layer = layer :: higher := by
  rw [layers]
  split
  · exact ⟨[], rfl⟩
  · exact ⟨_, rfl⟩

theorem joined_single (only : α) : joined node [only] = [] := by
  rw [joined, layers_single, List.dropLast_singleton, List.flatMap_nil]

theorem joined_cons_cons (first second : α) (rest : List α) :
    joined node (first :: second :: rest) = pairs (first :: second :: rest) ++
      joined node (node first second :: nextLayer node rest) := by
  obtain ⟨higher, shape⟩ := layers_eq_cons node (node first second :: nextLayer node rest)
  rw [joined, joined, layers_cons_cons, shape, List.dropLast_cons_cons, List.flatMap_cons]

theorem getLast?_layers (first : α) (rest : List α) :
    (layers node (first :: rest)).getLast? = some [root node first rest] := by
  induction first, rest using root.induct node with
  | case1 only => rw [layers_single, root, List.getLast?_singleton]
  | case2 first second rest ih =>
    obtain ⟨higher, shape⟩ := layers_eq_cons node (node first second :: nextLayer node rest)
    rw [layers_cons_cons, root, ← ih, shape, List.getLast?_cons_cons]

/-! ## Properties of nodes -/

section Properties
variable {node} {Q P : α → Prop}

theorem all_nextLayer (closed : ∀ left right, Q left → Q right → Q (node left right))
    {layer : List α} (all : ∀ value ∈ layer, Q value) : ∀ value ∈ nextLayer node layer, Q value := by
  intro value member
  obtain ⟨pair, below, rfl⟩ := List.mem_map.mp member
  obtain ⟨left, right⟩ := mem_of_mem_pairs below
  exact closed _ _ (all pair.1 left) (all pair.2 right)

theorem exists_mem_nextLayer
    (splits : ∀ left right, Q left → Q right → (P (node left right) ↔ P left ∨ P right))
    {layer : List α} (all : ∀ value ∈ layer, Q value) :
    (∃ value ∈ nextLayer node layer, P value) ↔ ∃ value ∈ layer, P value := by
  rw [nextLayer]
  induction layer using pairs.induct with
  | case1 => simp [pairs]
  | case2 last =>
    have here := all last List.mem_cons_self
    simp [pairs, splits last last here here]
  | case3 first second rest ih =>
    have later : ∀ value ∈ rest, Q value := fun value member =>
      all value (List.mem_cons_of_mem _ (List.mem_cons_of_mem _ member))
    have here := splits first second (all first List.mem_cons_self)
      (all second (List.mem_cons_of_mem _ List.mem_cons_self))
    rw [pairs, List.map_cons]
    simp only [List.exists_mem_cons_iff, ih later, here, or_assoc]

/-- What a node has exactly from its children, the root has exactly from the layer. -/
theorem holds_root (closed : ∀ left right, Q left → Q right → Q (node left right))
    (splits : ∀ left right, Q left → Q right → (P (node left right) ↔ P left ∨ P right))
    {first : α} {rest : List α} (all : ∀ value ∈ first :: rest, Q value) :
    P (root node first rest) ↔ ∃ value ∈ first :: rest, P value := by
  induction first, rest using root.induct node with
  | case1 only => simp [root]
  | case2 first second rest ih =>
    have above : nextLayer node (first :: second :: rest) =
        node first second :: nextLayer node rest := rfl
    have all' := all_nextLayer closed all
    rw [above] at all'
    rw [root, ih all', ← above, exists_mem_nextLayer splits all]

end Properties

/-! ## Proofs -/

/-- The neighbour of the node at an index, or the node itself when it has none. -/
def sibling (layer : List α) (index : Nat) : Option α :=
  let siblingIndex := if index % 2 = 0 then index + 1 else index - 1
  if siblingIndex < layer.length then layer[siblingIndex]? else layer[index]?

/-- The siblings on the way from an index of the first layer to the last layer. -/
def siblings : List (List α) → Nat → List (Option α)
  | layer :: above :: higher, index => sibling layer index :: siblings (above :: higher) (index / 2)
  | _, _ => []

def climb (leaf : α) (proof : List α) : α := proof.foldl node leaf

theorem sibling_cons_cons (first second : α) (rest : List α) (index : Nat) :
    sibling (first :: second :: rest) (index + 2) = sibling rest index := by
  rcases Nat.mod_two_eq_zero_or_one index with even | odd
  · have even' : (index + 2) % 2 = 0 := by omega
    have shift : index + 2 + 1 = index + 1 + 2 := by omega
    simp only [sibling, even, even', if_true, shift, List.length_cons, Nat.add_lt_add_iff_right,
      List.getElem?_cons_succ]
  · have odd' : (index + 2) % 2 = 1 := by omega
    obtain ⟨before, rfl⟩ : ∃ before, index = before + 1 := ⟨index - 1, by omega⟩
    have shift : before + 1 + 2 - 1 = before + 2 := by omega
    simp only [sibling, odd, odd', Nat.one_ne_zero, if_false, shift, List.length_cons,
      Nat.add_lt_add_iff_right, List.getElem?_cons_succ, Nat.add_sub_cancel]

/-- A node and its sibling are joined to the node over them. -/
theorem sibling_joins (symmetric : ∀ left right, node left right = node right left)
    {layer : List α} {index : Nat} {value : α} (here : layer[index]? = some value) :
    ∃ other, sibling layer index = some other ∧
      (nextLayer node layer)[index / 2]? = some (node value other) := by
  rw [nextLayer]
  induction layer using pairs.induct generalizing index with
  | case1 => cases here
  | case2 last =>
    cases index with
    | zero =>
      cases here
      exact ⟨_, rfl, rfl⟩
    | succ index => cases here
  | case3 first second rest ih =>
    match index with
    | 0 =>
      cases here
      exact ⟨second, rfl, rfl⟩
    | 1 =>
      cases here
      refine ⟨first, rfl, ?_⟩
      rw [symmetric]
      rfl
    | index + 2 =>
      obtain ⟨other, beside, upper⟩ := ih here
      refine ⟨other, (sibling_cons_cons first second rest index).trans beside, ?_⟩
      have half : (index + 2) / 2 = index / 2 + 1 := by omega
      rw [half, pairs, List.map_cons, List.getElem?_cons_succ]
      exact upper

/-- The siblings of a node lead to the root. -/
theorem climb_siblings (symmetric : ∀ left right, node left right = node right left)
    {first : α} {rest : List α} {index : Nat} {leaf : α} (here : (first :: rest)[index]? = some leaf) :
    ∃ proof, siblings (layers node (first :: rest)) index = proof.map some ∧
      climb node leaf proof = root node first rest := by
  induction first, rest using root.induct node generalizing index leaf with
  | case1 only =>
    refine ⟨[], by simp [layers_single, siblings], ?_⟩
    cases index with
    | zero =>
      cases here
      rw [climb, root, List.foldl_nil]
    | succ index => cases here
  | case2 first second rest ih =>
    obtain ⟨other, beside, upper⟩ := sibling_joins node symmetric here
    rw [nextLayer, pairs, List.map_cons] at upper
    obtain ⟨proof, above, climbs⟩ := ih upper
    obtain ⟨higher, shape⟩ := layers_eq_cons node (node first second :: nextLayer node rest)
    refine ⟨other :: proof, ?_, ?_⟩
    · rw [layers_cons_cons, shape, siblings, beside, ← shape, above, List.map_cons]
    · rw [climb, List.foldl_cons, root]
      exact climbs

end Nodes

/-! ## Maps that respect the nodes -/

section Maps
variable {node : α → α → α} {node' : β → β → β} {f : α → β}

theorem nextLayer_map (joins : ∀ left right, f (node left right) = node' (f left) (f right))
    (layer : List α) : (nextLayer node layer).map f = nextLayer node' (layer.map f) := by
  rw [nextLayer, nextLayer, pairs_map, List.map_map, List.map_map]
  apply List.map_congr_left
  intro pair _
  exact joins pair.1 pair.2

theorem root_map (joins : ∀ left right, f (node left right) = node' (f left) (f right))
    (first : α) (rest : List α) :
    f (root node first rest) = root node' (f first) (rest.map f) := by
  induction first, rest using root.induct node with
  | case1 only => rw [root, List.map_nil, root]
  | case2 first second rest ih =>
    rw [root, ih, joins, nextLayer_map joins, List.map_cons, root]

theorem climb_map (joins : ∀ left right, f (node left right) = node' (f left) (f right))
    (leaf : α) (proof : List α) : f (climb node leaf proof) = climb node' (f leaf) (proof.map f) := by
  induction proof generalizing leaf with
  | nil => rfl
  | cons other rest ih => rw [climb, List.foldl_cons, ← climb, ih, joins]; rfl

end Maps

end EpicKfc.Lib.PairTree
