import EpicKfc.Lib.PairTree

/-!
# Hash trees

A leaf is the hash of its input, a node the hash of its two children's encoding.
The encoding does not tell its arguments' order, and no leaf has the input of a
node. What a digest says of its tree holds up to a collision among the inputs that
were hashed.
-/

namespace EpicKfc.Lib.HashTree
open EpicKfc.Lib.PairTree

variable {α β : Type}

inductive Tree (β : Type) where
  | leaf (input : β)
  | node (left right : Tree β)

namespace Tree

def leaves : Tree β → List β
  | leaf input => [input]
  | node left right => left.leaves ++ right.leaves

/-- All leaves are at one depth. -/
def Perfect : Nat → Tree β → Prop
  | 0, leaf _ => True
  | depth + 1, node left right => left.Perfect depth ∧ right.Perfect depth
  | _, _ => False

/-- Two leaves are the children of one node. -/
def Together (input input' : β) : Tree β → Prop
  | leaf _ => False
  | node left right => (left = leaf input ∧ right = leaf input') ∨
      (left = leaf input' ∧ right = leaf input) ∨
      left.Together input input' ∨ right.Together input input'

def IsNode : Tree β → Prop
  | leaf _ => False
  | node _ _ => True

def map {γ : Type} (f : β → γ) : Tree β → Tree γ
  | leaf input => leaf (f input)
  | node left right => node (left.map f) (right.map f)

/-- The same tree when the order of children does not count. -/
inductive SameUpToSwaps : Tree β → Tree β → Prop
  | leaf (input : β) : SameUpToSwaps (.leaf input) (.leaf input)
  | straight {left right left' right' : Tree β} : SameUpToSwaps left left' →
      SameUpToSwaps right right' → SameUpToSwaps (.node left right) (.node left' right')
  | crossed {left right left' right' : Tree β} : SameUpToSwaps left right' →
      SameUpToSwaps right left' → SameUpToSwaps (.node left right) (.node left' right')

theorem SameUpToSwaps.perm {tree tree' : Tree β} (same : SameUpToSwaps tree tree') :
    List.Perm tree.leaves tree'.leaves := by
  induction same with
  | leaf input => exact List.Perm.refl _
  | straight _ _ ih ih' => exact ih.append ih'
  | crossed _ _ ih ih' => exact (ih.append ih').trans List.perm_append_comm

theorem SameUpToSwaps.leaf_left {input : β} {tree : Tree β} (same : SameUpToSwaps (.leaf input) tree) :
    tree = .leaf input := by
  cases same
  rfl

theorem SameUpToSwaps.together {tree tree' : Tree β} (same : SameUpToSwaps tree tree')
    {input input' : β} (together : tree.Together input input') : tree'.Together input input' := by
  induction same with
  | leaf other => cases together
  | straight first second ih ih' =>
    rcases together with ⟨rfl, rfl⟩ | ⟨rfl, rfl⟩ | inside | inside
    · exact Or.inl ⟨first.leaf_left, second.leaf_left⟩
    · exact Or.inr (Or.inl ⟨first.leaf_left, second.leaf_left⟩)
    · exact Or.inr (Or.inr (Or.inl (ih inside)))
    · exact Or.inr (Or.inr (Or.inr (ih' inside)))
  | crossed first second ih ih' =>
    rcases together with ⟨rfl, rfl⟩ | ⟨rfl, rfl⟩ | inside | inside
    · exact Or.inr (Or.inl ⟨second.leaf_left, first.leaf_left⟩)
    · exact Or.inl ⟨second.leaf_left, first.leaf_left⟩
    · exact Or.inr (Or.inr (Or.inr (ih inside)))
    · exact Or.inr (Or.inr (Or.inl (ih' inside)))

theorem SameUpToSwaps.of_leaves {input input' : β}
    (same : SameUpToSwaps (.leaf input) (.leaf input')) : input = input' := by
  cases same
  rfl

/-- Leaves that are the same under one map are so under another. -/
theorem SameUpToSwaps.transfer {γ δ : Type} {f : β → γ} {g : β → δ} {tree tree' : Tree β}
    (agree : ∀ input ∈ tree.leaves, ∀ input' ∈ tree'.leaves, f input = f input' → g input = g input')
    (same : SameUpToSwaps (tree.map f) (tree'.map f)) : SameUpToSwaps (tree.map g) (tree'.map g) := by
  induction tree generalizing tree' with
  | leaf input =>
    cases tree' with
    | leaf input' =>
      rw [map, map, agree input List.mem_cons_self input' List.mem_cons_self same.of_leaves]
      exact .leaf (g input')
    | node left' right' => cases same
  | node left right ihLeft ihRight =>
    cases tree' with
    | leaf input' => cases same
    | node left' right' =>
      simp only [leaves, List.mem_append] at agree
      cases same with
      | straight first second =>
        exact .straight
          (ihLeft (fun input here input' there => agree input (Or.inl here) input' (Or.inl there)) first)
          (ihRight (fun input here input' there => agree input (Or.inr here) input' (Or.inr there))
            second)
      | crossed first second =>
        exact .crossed
          (ihLeft (fun input here input' there => agree input (Or.inl here) input' (Or.inr there)) first)
          (ihRight (fun input here input' there => agree input (Or.inr here) input' (Or.inl there))
            second)

end Tree

/-- Two different inputs of the list have one hash. -/
def Collides (hash : β → α) (inputs : List β) : Prop :=
  ∃ first ∈ inputs, ∃ second ∈ inputs, first ≠ second ∧ hash first = hash second

theorem Collides.mono {hash : β → α} {inputs inputs' : List β}
    (within : ∀ input ∈ inputs, input ∈ inputs') (collides : Collides hash inputs) :
    Collides hash inputs' := by
  obtain ⟨first, member, second, member', different, same⟩ := collides
  exact ⟨first, within first member, second, within second member', different, same⟩

theorem eq_of_not_collides {hash : β → α} {inputs : List β} (safe : ¬ Collides hash inputs)
    {first second : β} (member : first ∈ inputs) (member' : second ∈ inputs)
    (same : hash first = hash second) : first = second := by
  by_contra different
  exact safe ⟨first, member, second, member', different, same⟩

/-- What the encoding of a node must give. -/
structure Encodes (encode : α → α → β) (isLeaf : β → Prop) : Prop where
  symmetric : ∀ left right, encode left right = encode right left
  swaps : ∀ left right left' right', encode left right = encode left' right' →
    left = left' ∧ right = right' ∨ left = right' ∧ right = left'
  apart : ∀ left right, ¬ isLeaf (encode left right)

section Digests
variable (hash : β → α) (encode : α → α → β)

def hashNode (left right : α) : α := hash (encode left right)

def digest : Tree β → α
  | .leaf input => hash input
  | .node left right => hashNode hash encode (digest left) (digest right)

/-- The inputs hashed for the digest. -/
def inputs : Tree β → List β
  | .leaf input => [input]
  | .node left right => encode (digest hash encode left) (digest hash encode right) ::
      (inputs left ++ inputs right)

/-- The inputs hashed on the way up from a leaf's hash. -/
def climbInputs (leaf : α) : List α → List β
  | [] => []
  | other :: rest => encode leaf other :: climbInputs (hashNode hash encode leaf other) rest

/-- The inputs hashed for the nodes over a layer. -/
def nodeInputs (layer : List α) : List β :=
  (joined (hashNode hash encode) layer).map fun pair => encode pair.1 pair.2

end Digests

/-- The tree over some leaves. -/
def treeOf (first : β) (rest : List β) : Tree β := root Tree.node (.leaf first) (rest.map Tree.leaf)

theorem treeOf_map {γ : Type} (f : β → γ) (first : β) (rest : List β) :
    treeOf (f first) (rest.map f) = (treeOf first rest).map f := by
  have joins (left right : Tree β) : (Tree.node left right).map f =
      Tree.node (left.map f) (right.map f) := rfl
  rw [treeOf, treeOf, root_map joins, List.map_map, List.map_map]
  rfl

/-- In the tree over some leaves those of a pair are together, and no others. -/
theorem together_treeOf {first second input input' : β} {rest : List β} :
    (treeOf first (second :: rest)).Together input input' ↔
      ∃ pair ∈ pairs (first :: second :: rest), pair = (input, input') ∨ pair = (input', input) := by
  have above : nextLayer Tree.node ((first :: second :: rest).map Tree.leaf) =
      .node (.leaf first) (.leaf second) :: nextLayer Tree.node (rest.map Tree.leaf) := rfl
  have all : ∀ tree ∈ nextLayer Tree.node ((first :: second :: rest).map Tree.leaf), tree.IsNode := by
    intro tree member
    obtain ⟨pair, -, rfl⟩ := List.mem_map.mp member
    trivial
  have splits (left right : Tree β) (here : left.IsNode) (there : right.IsNode) :
      (Tree.node left right).Together input input' ↔
        left.Together input input' ∨ right.Together input input' := by
    cases left with
    | leaf _ => cases here
    | node _ _ =>
      cases right with
      | leaf _ => cases there
      | node _ _ => simp [Tree.Together]
  rw [above] at all
  have found := @holds_root _ Tree.node Tree.IsNode (Tree.Together input input')
    (fun _ _ _ _ => trivial) splits _ _ all
  rw [treeOf, List.map_cons, root, found, ← above, nextLayer, pairs_map]
  simp only [List.map_map, List.mem_map, Function.comp_apply, exists_exists_and_eq_and,
    Tree.Together, or_false, Tree.leaf.injEq, Prod.ext_iff]

/-- How deep the leaves are depends only on their number. -/
theorem perfect_root (count : Nat) : ∃ height, ∀ (first : Tree β) (rest : List (Tree β)) (depth : Nat),
    rest.length = count → (∀ tree ∈ first :: rest, tree.Perfect depth) →
      (root Tree.node first rest).Perfect (depth + height) := by
  induction count using Nat.strongRecOn with
  | ind count ih =>
    cases count with
    | zero =>
      refine ⟨0, fun first rest depth sized all => ?_⟩
      rw [List.length_eq_zero_iff] at sized
      subst sized
      rw [root]
      exact all first List.mem_cons_self
    | succ count =>
      obtain ⟨height, higher⟩ := ih ((count + 1) / 2) (by omega)
      refine ⟨height + 1, fun first rest depth sized all => ?_⟩
      cases rest with
      | nil => cases sized
      | cons second rest =>
        have above : ∀ tree ∈ nextLayer Tree.node (first :: second :: rest),
            tree.Perfect (depth + 1) := by
          intro tree member
          obtain ⟨pair, below, rfl⟩ := List.mem_map.mp member
          obtain ⟨left, right⟩ := mem_of_mem_pairs below
          exact ⟨all pair.1 left, all pair.2 right⟩
        have fewer : (nextLayer Tree.node rest).length = (count + 1) / 2 := by
          rw [length_nextLayer]
          simp only [List.length_cons, Nat.add_right_cancel_iff] at sized
          omega
        have raised := higher (.node first second) (nextLayer Tree.node rest) (depth + 1) fewer above
        rw [root, show depth + (height + 1) = depth + 1 + height by omega]
        exact raised

/-- Trees over equally many leaves have them at the same depth. -/
theorem perfect_treeOf (count : Nat) : ∃ height, ∀ (first : β) (rest : List β),
    rest.length = count → (treeOf first rest).Perfect height := by
  obtain ⟨height, perfect⟩ := @perfect_root β count
  refine ⟨height, fun first rest sized => ?_⟩
  have all : ∀ tree ∈ Tree.leaf first :: rest.map Tree.leaf, tree.Perfect 0 := by
    intro tree member
    rw [← List.map_cons] at member
    obtain ⟨input, -, rfl⟩ := List.mem_map.mp member
    trivial
  have whole := perfect _ _ 0 ((List.length_map _).trans sized) all
  rw [Nat.zero_add] at whole
  exact whole

section
variable {hash : β → α} {encode : α → α → β} {isLeaf : β → Prop}

theorem climbInputs_append (leaf : α) (proof later : List α) :
    climbInputs hash encode leaf (proof ++ later) = climbInputs hash encode leaf proof ++
      climbInputs hash encode (climb (hashNode hash encode) leaf proof) later := by
  induction proof generalizing leaf with
  | nil => rfl
  | cons other rest ih =>
    rw [List.cons_append, climbInputs, climbInputs, ih, List.cons_append, climb, climb,
      List.foldl_cons]

theorem mem_inputs_left {left right : Tree β} {input : β}
    (member : input ∈ inputs hash encode left) : input ∈ inputs hash encode (.node left right) :=
  List.mem_cons_of_mem _ (List.mem_append_left _ member)

theorem mem_inputs_right {left right : Tree β} {input : β}
    (member : input ∈ inputs hash encode right) : input ∈ inputs hash encode (.node left right) :=
  List.mem_cons_of_mem _ (List.mem_append_right _ member)

/-- The digest of the tree over the leaves is the root over their hashes. -/
theorem digest_treeOf (first : β) (rest : List β) : digest hash encode (treeOf first rest) =
    root (hashNode hash encode) (hash first) (rest.map hash) := by
  have joins (left right : Tree β) : digest hash encode (.node left right) =
      hashNode hash encode (digest hash encode left) (digest hash encode right) := rfl
  rw [treeOf, root_map joins, List.map_map]
  rfl

theorem mem_leaves_treeOf {first : β} {rest : List β} {input : β} :
    input ∈ (treeOf first rest).leaves ↔ input ∈ first :: rest := by
  have splits (left right : Tree β) (_ : True) (_ : True) :
      input ∈ (Tree.node left right).leaves ↔ input ∈ left.leaves ∨ input ∈ right.leaves :=
    List.mem_append
  have found := @holds_root _ Tree.node (fun _ => True) (fun tree => input ∈ tree.leaves)
    (fun _ _ _ _ => trivial) splits (.leaf first) (rest.map Tree.leaf) (fun _ _ => trivial)
  rw [treeOf, found]
  simp [Tree.leaves]

/-- The inputs of a tree over some trees are theirs and those of the nodes over them. -/
theorem mem_inputs_root {first : Tree β} {rest : List (Tree β)} {input : β}
    (member : input ∈ inputs hash encode (root Tree.node first rest)) :
    (∃ tree ∈ first :: rest, input ∈ inputs hash encode tree) ∨
      input ∈ nodeInputs hash encode ((first :: rest).map (digest hash encode)) := by
  induction first, rest using root.induct Tree.node with
  | case1 only =>
    rw [root] at member
    exact Or.inl ⟨only, List.mem_cons_self, member⟩
  | case2 first second rest ih =>
    rw [root] at member
    have joins (left right : Tree β) : digest hash encode (.node left right) =
      hashNode hash encode (digest hash encode left) (digest hash encode right) := rfl
    have above : (Tree.node first second :: nextLayer Tree.node rest).map (digest hash encode) =
        hashNode hash encode (digest hash encode first) (digest hash encode second) ::
          nextLayer (hashNode hash encode) (rest.map (digest hash encode)) := by
      rw [List.map_cons, nextLayer_map joins, joins]
    rw [nodeInputs, List.map_cons, List.map_cons, joined_cons_cons, List.map_append, ← nodeInputs,
      List.mem_append, ← above]
    rcases ih member with ⟨tree, upper, found⟩ | higher
    · have upper' : tree ∈ nextLayer Tree.node (first :: second :: rest) := upper
      obtain ⟨pair, below, rfl⟩ := List.mem_map.mp upper'
      obtain ⟨left, right⟩ := mem_of_mem_pairs below
      rw [inputs, List.mem_cons, List.mem_append] at found
      rcases found with rfl | found | found
      · refine Or.inr (Or.inl (List.mem_map.mpr ⟨(digest hash encode pair.1,
          digest hash encode pair.2), ?_, rfl⟩))
        rw [← List.map_cons, ← List.map_cons, pairs_map]
        exact List.mem_map.mpr ⟨pair, below, rfl⟩
      · exact Or.inl ⟨pair.1, left, found⟩
      · exact Or.inl ⟨pair.2, right, found⟩
    · exact Or.inr (Or.inr higher)

theorem mem_inputs_treeOf {first : β} {rest : List β} {input : β}
    (member : input ∈ inputs hash encode (treeOf first rest)) :
    input ∈ first :: rest ++ nodeInputs hash encode ((first :: rest).map hash) := by
  rw [List.mem_append]
  rcases mem_inputs_root member with ⟨tree, below, found⟩ | node
  · rw [← List.map_cons] at below
    obtain ⟨leaf, belongs, rfl⟩ := List.mem_map.mp below
    rw [inputs, List.mem_singleton] at found
    exact Or.inl (found ▸ belongs)
  · rw [← List.map_cons, List.map_map] at node
    exact Or.inr node

/-! ## What a digest says -/

/-- A leaf that leads to the digest of a tree is one of its leaves. -/
theorem mem_leaves_of_climb (encodes : Encodes encode isLeaf) {hashed : List β}
    (safe : ¬ Collides hash hashed) {tree : Tree β} (leaves : ∀ leaf ∈ tree.leaves, isLeaf leaf)
    (built : ∀ input ∈ inputs hash encode tree, input ∈ hashed) {claimed : β}
    (claim : isLeaf claimed) (claimed_mem : claimed ∈ hashed) {proof : List α}
    (climbed : ∀ input ∈ climbInputs hash encode (hash claimed) proof, input ∈ hashed)
    (accepted : climb (hashNode hash encode) (hash claimed) proof = digest hash encode tree) :
    claimed ∈ tree.leaves := by
  induction tree generalizing proof with
  | leaf input =>
    have input_mem : input ∈ hashed := built input List.mem_cons_self
    rcases List.eq_nil_or_concat' proof with rfl | ⟨before, last, rfl⟩
    · have same := eq_of_not_collides safe claimed_mem input_mem accepted
      rw [same, Tree.leaves]
      exact List.mem_singleton_self _
    · -- a node's input cannot be a leaf's
      rw [climb, List.foldl_concat, ← climb] at accepted
      rw [climbInputs_append] at climbed
      have last_mem := climbed _ (List.mem_append_right _ List.mem_cons_self)
      have same := eq_of_not_collides safe last_mem input_mem accepted
      exact absurd (same ▸ leaves input List.mem_cons_self) (encodes.apart _ _)
  | node left right ihLeft ihRight =>
    have node_mem := built _ List.mem_cons_self
    rcases List.eq_nil_or_concat' proof with rfl | ⟨before, last, rfl⟩
    · have same := eq_of_not_collides safe claimed_mem node_mem accepted
      exact absurd (same ▸ claim) (encodes.apart _ _)
    · rw [climb, List.foldl_concat, ← climb] at accepted
      rw [climbInputs_append] at climbed
      have last_mem := climbed _ (List.mem_append_right _ List.mem_cons_self)
      have same := eq_of_not_collides safe last_mem node_mem accepted
      have climbed' : ∀ input ∈ climbInputs hash encode (hash claimed) before, input ∈ hashed :=
        fun input member => climbed input (List.mem_append_left _ member)
      rw [Tree.leaves, List.mem_append]
      rcases encodes.swaps _ _ _ _ same with ⟨under, -⟩ | ⟨under, -⟩
      · left
        apply ihLeft _ _ climbed' under
        · exact fun leaf member => leaves leaf (List.mem_append_left _ member)
        · exact fun input member => built input (mem_inputs_left member)
      · right
        apply ihRight _ _ climbed' under
        · exact fun leaf member => leaves leaf (List.mem_append_right _ member)
        · exact fun input member => built input (mem_inputs_right member)

theorem digest_eq_of_same (encodes : Encodes encode isLeaf) {tree tree' : Tree β}
    (same : Tree.SameUpToSwaps tree tree') : digest hash encode tree = digest hash encode tree' := by
  induction same with
  | leaf input => rfl
  | straight _ _ ih ih' => rw [digest, digest, ih, ih']
  | crossed _ _ ih ih' => rw [digest, digest, ih, ih', hashNode, hashNode, encodes.symmetric]

/-- Trees of one digest are the same up to the order of children. -/
theorem same_of_digest_eq (encodes : Encodes encode isLeaf) {hashed : List β}
    (safe : ¬ Collides hash hashed) {tree tree' : Tree β}
    (leaves : ∀ leaf ∈ tree.leaves, isLeaf leaf) (leaves' : ∀ leaf ∈ tree'.leaves, isLeaf leaf)
    (built : ∀ input ∈ inputs hash encode tree, input ∈ hashed)
    (built' : ∀ input ∈ inputs hash encode tree', input ∈ hashed)
    (equal : digest hash encode tree = digest hash encode tree') :
    Tree.SameUpToSwaps tree tree' := by
  induction tree generalizing tree' with
  | leaf input =>
    cases tree' with
    | leaf other =>
      have same := eq_of_not_collides safe (built _ List.mem_cons_self)
        (built' _ List.mem_cons_self) equal
      rw [same]
      exact .leaf other
    | node left right =>
      have same := eq_of_not_collides safe (built _ List.mem_cons_self)
        (built' _ List.mem_cons_self) equal
      exact absurd (same ▸ leaves input List.mem_cons_self) (encodes.apart _ _)
  | node left right ihLeft ihRight =>
    cases tree' with
    | leaf other =>
      have same := eq_of_not_collides safe (built _ List.mem_cons_self)
        (built' _ List.mem_cons_self) equal
      exact absurd (same ▸ leaves' other List.mem_cons_self) (encodes.apart _ _)
    | node left' right' =>
      have same := eq_of_not_collides safe (built _ List.mem_cons_self)
        (built' _ List.mem_cons_self) equal
      have ofLeft := fun leaf member => leaves leaf (List.mem_append_left right.leaves member)
      have ofRight := fun leaf member => leaves leaf (List.mem_append_right left.leaves member)
      have ofLeft' := fun leaf member => leaves' leaf (List.mem_append_left right'.leaves member)
      have ofRight' := fun leaf member => leaves' leaf (List.mem_append_right left'.leaves member)
      have inLeft := fun input member => built input (mem_inputs_left member)
      have inRight := fun input member => built input (mem_inputs_right member)
      have inLeft' := fun input member => built' input (mem_inputs_left member)
      have inRight' := fun input member => built' input (mem_inputs_right member)
      rcases encodes.swaps _ _ _ _ same with ⟨first, second⟩ | ⟨first, second⟩
      · exact .straight (ihLeft ofLeft ofLeft' inLeft inLeft' first)
          (ihRight ofRight ofRight' inRight inRight' second)
      · exact .crossed (ihLeft ofLeft ofRight' inLeft inRight' first)
          (ihRight ofRight ofLeft' inRight inLeft' second)

/-- Depth alone tells leaves from nodes where all leaves are at one depth. -/
theorem same_of_digest_eq_of_perfect
    (swaps : ∀ left right left' right', encode left right = encode left' right' →
      left = left' ∧ right = right' ∨ left = right' ∧ right = left')
    {hashed : List β} (safe : ¬ Collides hash hashed) {height : Nat} {tree tree' : Tree β}
    (perfect : tree.Perfect height) (perfect' : tree'.Perfect height)
    (built : ∀ input ∈ inputs hash encode tree, input ∈ hashed)
    (built' : ∀ input ∈ inputs hash encode tree', input ∈ hashed)
    (equal : digest hash encode tree = digest hash encode tree') :
    Tree.SameUpToSwaps tree tree' := by
  induction tree generalizing tree' height with
  | leaf input =>
    cases height with
    | succ height => cases perfect
    | zero =>
      cases tree' with
      | node left right => cases perfect'
      | leaf other =>
        have same := eq_of_not_collides safe (built _ List.mem_cons_self)
          (built' _ List.mem_cons_self) equal
        rw [same]
        exact .leaf other
  | node left right ihLeft ihRight =>
    cases height with
    | zero => cases perfect
    | succ height =>
      cases tree' with
      | leaf other => cases perfect'
      | node left' right' =>
        have same := eq_of_not_collides safe (built _ List.mem_cons_self)
          (built' _ List.mem_cons_self) equal
        have inLeft := fun input member => built input (mem_inputs_left member)
        have inRight := fun input member => built input (mem_inputs_right member)
        have inLeft' := fun input member => built' input (mem_inputs_left member)
        have inRight' := fun input member => built' input (mem_inputs_right member)
        rcases swaps _ _ _ _ same with ⟨first, second⟩ | ⟨first, second⟩
        · exact .straight (ihLeft perfect.1 perfect'.1 inLeft inLeft' first)
            (ihRight perfect.2 perfect'.2 inRight inRight' second)
        · exact .crossed (ihLeft perfect.1 perfect'.2 inLeft inRight' first)
            (ihRight perfect.2 perfect'.1 inRight inLeft' second)

end

end EpicKfc.Lib.HashTree
