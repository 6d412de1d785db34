import Mathlib.Data.List.Basic
import Mathlib.Data.List.Nodup

/-!
# Lists with keys

A list used as a table: an entry is found by its key, and saving an item updates
the first entry of its key or appends it.
-/

namespace EpicKfc.Lib.KeyedList

variable {α κ : Type} [DecidableEq κ] (key : α → κ)

def find (k : κ) (entries : List α) : Option α := entries.find? fun entry => key entry = k

/-- Save `item`: the first entry of its key becomes `update` of it, else `item` is added. -/
def upsertWith (update : α → α) (item : α) : List α → List α
  | [] => [item]
  | entry :: rest =>
    if key entry = key item then update entry :: rest else entry :: upsertWith update item rest

/-- Save `item` in place of the entry of its key. -/
def upsert (item : α) (entries : List α) : List α := upsertWith key (fun _ => item) item entries

variable {key}

theorem find_cons (k : κ) (entry : α) (rest : List α) :
    find key k (entry :: rest) = if key entry = k then some entry else find key k rest := by
  unfold find
  by_cases same : key entry = k <;> simp [same]

/-- A found entry has its key and is in the list. -/
theorem find_some {k : κ} {entries : List α} {entry : α} (found : find key k entries = some entry) :
    entry ∈ entries ∧ key entry = k :=
  ⟨List.mem_of_find?_eq_some found, by simpa using List.find?_some found⟩

/-- A change that keeps keys commutes with finding. -/
theorem find_map (change : α → α) (keeps : ∀ entry, key (change entry) = key entry) (k : κ)
    (entries : List α) : find key k (entries.map change) = (find key k entries).map change := by
  induction entries with
  | nil => rfl
  | cons entry rest ih =>
    rw [List.map_cons, find_cons, find_cons, keeps, ih]
    split <;> rfl

theorem find_upsertWith_same (update : α → α) (item : α) (keeps : ∀ entry, key entry = key item →
    key (update entry) = key item) (entries : List α) :
    find key (key item) (upsertWith key update item entries) =
      some (((find key (key item) entries).map update).getD item) := by
  induction entries with
  | nil => simp [upsertWith, find]
  | cons entry rest ih =>
    unfold upsertWith
    by_cases same : key entry = key item
    · rw [if_pos same, find_cons, if_pos (keeps entry same), find_cons, if_pos same]
      rfl
    · rw [if_neg same, find_cons, if_neg same, find_cons, if_neg same, ih]

theorem find_upsertWith_other (update : α → α) (item : α) (keeps : ∀ entry, key entry = key item →
    key (update entry) = key item) (k : κ) (other : key item ≠ k) (entries : List α) :
    find key k (upsertWith key update item entries) = find key k entries := by
  induction entries with
  | nil => simp [upsertWith, find, other]
  | cons entry rest ih =>
    unfold upsertWith
    by_cases same : key entry = key item
    · rw [if_pos same, find_cons, if_neg (keeps entry same ▸ other), find_cons,
        if_neg (same ▸ other)]
    · rw [if_neg same, find_cons, find_cons, ih]

theorem find_upsert (item : α) (k : κ) (entries : List α) :
    find key k (upsert key item entries) =
      if key item = k then some item else find key k entries := by
  by_cases same : key item = k
  · subst same
    rw [if_pos rfl, upsert, find_upsertWith_same _ _ fun _ _ => rfl]
    cases find key (key item) entries <;> rfl
  · rw [if_neg same, upsert, find_upsertWith_other _ _ (fun _ _ => rfl) k same]

/-! ## Saving with a merge

A saved item is merged over the entry of its key. When merging is associative and
idempotent, saving the same items again changes nothing.
-/

/-- Save every item of a list, in order. -/
def saveAll (key : α → κ) (merge : α → α → α) (items entries : List α) : List α :=
  items.foldl (fun saved item => upsertWith key (merge item) item saved) entries

structure Merges (key : α → κ) (merge : α → α → α) : Prop where
  key : ∀ item entry, key (merge item entry) = key item
  assoc : ∀ first second third, merge first (merge second third) = merge (merge first second) third
  idem : ∀ item, merge item item = item

/-- An entry under the items of its key. -/
def mergeAll (key : α → κ) (merge : α → α → α) (items : List α) (entry : α) : α :=
  (items.filter fun item => key item = key entry).foldl (fun merged item => merge item merged) entry

variable {merge : α → α → α}

omit [DecidableEq κ] in
theorem key_foldl_merge (merges : Merges key merge) (k : κ) (items : List α) :
    ∀ entry, key entry = k → (∀ item ∈ items, key item = k) →
      key (items.foldl (fun merged item => merge item merged) entry) = k := by
  induction items with
  | nil => exact fun entry same _ => same
  | cons item rest ih =>
    intro entry _ each
    rw [List.foldl_cons]
    refine ih _ ((merges.key item entry).trans (each item List.mem_cons_self)) ?_
    exact fun other member => each other (List.mem_cons_of_mem item member)

theorem key_mergeAll (merges : Merges key merge) (items : List α) (entry : α) :
    key (mergeAll key merge items entry) = key entry := by
  refine key_foldl_merge merges (key entry) _ entry rfl fun item member => ?_
  simpa using (List.mem_filter.mp member).2

/-- The first entry takes the items of its key, the others go on. -/
theorem saveAll_cons (merges : Merges key merge) (items : List α) :
    ∀ (entry : α) (rest : List α), saveAll key merge items (entry :: rest) =
      mergeAll key merge items entry ::
        saveAll key merge (items.filter fun item => key item ≠ key entry) rest := by
  induction items with
  | nil => exact fun entry rest => rfl
  | cons item more ih =>
    intro entry rest
    by_cases same : key entry = key item
    · have kept : key (merge item entry) = key entry := (merges.key item entry).trans same.symm
      simp only [saveAll, List.foldl_cons, upsertWith, if_pos same] at ih ⊢
      rw [ih, mergeAll, mergeAll, kept]
      simp [same]
    · simp only [saveAll, List.foldl_cons, upsertWith, if_neg same] at ih ⊢
      rw [ih, mergeAll, mergeAll]
      simp [Ne.symm same]

omit [DecidableEq κ] in
theorem foldl_merge (merges : Merges key merge) (items : List α) :
    ∀ first entry, items.foldl (fun merged item => merge item merged) (merge first entry) =
      merge (items.foldl (fun merged item => merge item merged) first) entry := by
  induction items with
  | nil => exact fun first entry => rfl
  | cons item rest ih =>
    intro first entry
    rw [List.foldl_cons, merges.assoc, ih, List.foldl_cons]

omit [DecidableEq κ] in
/-- Merging the same items again changes nothing. -/
theorem foldl_merge_again (merges : Merges key merge) (items : List α) (entry : α) :
    items.foldl (fun merged item => merge item merged)
        (items.foldl (fun merged item => merge item merged) entry) =
      items.foldl (fun merged item => merge item merged) entry := by
  cases items with
  | nil => rfl
  | cons item rest =>
    simp only [List.foldl_cons, foldl_merge merges]
    rw [merges.idem]

theorem mergeAll_again (merges : Merges key merge) (items : List α) (entry : α) :
    mergeAll key merge items (mergeAll key merge items entry) = mergeAll key merge items entry := by
  have same := key_mergeAll merges items entry
  rw [mergeAll, same]
  exact foldl_merge_again merges _ entry

/-- Items saved to an empty list, saved again. -/
theorem saveAll_nil_again (merges : Merges key merge) (length : Nat) :
    ∀ items : List α, items.length ≤ length →
      saveAll key merge items (saveAll key merge items []) = saveAll key merge items [] := by
  induction length with
  | zero =>
    intro items short
    rw [List.eq_nil_of_length_eq_zero (Nat.le_zero.mp short)]
    rfl
  | succ length ih =>
    intro items short
    cases items with
    | nil => rfl
    | cons item more =>
      have once : saveAll key merge (item :: more) [] = mergeAll key merge more item ::
          saveAll key merge (more.filter fun other => key other ≠ key item) [] :=
        saveAll_cons merges more item []
      have fewer : (more.filter fun other => key other ≠ key item).length ≤ length :=
        Nat.le_trans (List.length_filter_le _ more) (Nat.le_of_succ_le_succ short)
      have others : (item :: more).filter (fun other => key other ≠ key item) =
          more.filter fun other => key other ≠ key item := by simp
      have first : mergeAll key merge (item :: more) (mergeAll key merge more item) =
          mergeAll key merge more item := by
        rw [mergeAll, key_mergeAll merges, List.filter_cons_of_pos (by simp), List.foldl_cons,
          foldl_merge merges, ← mergeAll, merges.idem]
      rw [once, saveAll_cons merges, key_mergeAll merges, others, first, ih _ fewer]

/-- Saving the same items again changes nothing. -/
theorem saveAll_again (merges : Merges key merge) (entries : List α) :
    ∀ items, saveAll key merge items (saveAll key merge items entries) =
      saveAll key merge items entries := by
  induction entries with
  | nil => exact fun items => saveAll_nil_again merges items.length items (Nat.le_refl _)
  | cons entry rest ih =>
    intro items
    rw [saveAll_cons merges, saveAll_cons merges, key_mergeAll merges, mergeAll_again merges, ih]

/-- Saving commutes with a change that leaves the entries of the items' keys alone. -/
theorem saveAll_map (merges : Merges key merge) {change : α → α}
    (keeps : ∀ entry, key (change entry) = key entry) (items : List α)
    (fixes : ∀ item ∈ items, ∀ entry, key entry = key item → change entry = entry) :
    ∀ entries, saveAll key merge items (entries.map change) =
      (saveAll key merge items entries).map change := by
  induction items with
  | nil => exact fun entries => rfl
  | cons item more ih =>
    have fixed := fixes item List.mem_cons_self
    have one : ∀ entries, upsertWith key (merge item) item (entries.map change) =
        (upsertWith key (merge item) item entries).map change := by
      intro entries
      induction entries with
      | nil => simp [upsertWith, fixed item rfl]
      | cons entry rest later =>
        by_cases same : key entry = key item
        · simp [upsertWith, same, fixed entry same, fixed _ (merges.key item entry)]
        · simp [upsertWith, keeps, same, later]
    intro entries
    simp only [saveAll, List.foldl_cons, one] at ih ⊢
    exact ih (fun other member => fixes other (List.mem_cons_of_mem item member)) _

/-! ## Distinct keys -/

theorem find_of_mem {entries : List α} (distinct : (entries.map key).Nodup) {entry : α}
    (member : entry ∈ entries) : find key (key entry) entries = some entry := by
  induction entries with
  | nil => cases member
  | cons first rest ih =>
    rw [List.map_cons, List.nodup_cons] at distinct
    rw [find_cons]
    rcases List.mem_cons.mp member with rfl | later
    · rw [if_pos rfl]
    · have other : key first ≠ key entry := by
        intro same
        rw [same] at distinct
        exact distinct.1 (List.mem_map_of_mem later)
      rw [if_neg other]
      exact ih distinct.2 later

theorem find_iff_mem {entries : List α} (distinct : (entries.map key).Nodup) {k : κ} {entry : α} :
    find key k entries = some entry ↔ entry ∈ entries ∧ key entry = k := by
  constructor
  · exact find_some
  · rintro ⟨member, rfl⟩
    exact find_of_mem distinct member

theorem map_upsertWith (update : α → α) (item : α) (keeps : ∀ entry, key entry = key item →
    key (update entry) = key item) (entries : List α) : (upsertWith key update item entries).map key =
      if key item ∈ entries.map key then entries.map key else entries.map key ++ [key item] := by
  induction entries with
  | nil => simp [upsertWith]
  | cons entry rest ih =>
    rw [upsertWith]
    split
    · next same => simp [keeps entry same, same]
    · next other =>
      rw [List.map_cons, ih]
      simp only [List.map_cons, List.mem_cons, Ne.symm other, false_or]
      split <;> rfl

theorem nodup_upsertWith {update : α → α} {item : α} (keeps : ∀ entry, key entry = key item →
    key (update entry) = key item) {entries : List α} (distinct : (entries.map key).Nodup) :
    ((upsertWith key update item entries).map key).Nodup := by
  rw [map_upsertWith _ _ keeps]
  split
  · exact distinct
  · next fresh => exact List.nodup_append.mpr ⟨distinct, List.nodup_singleton _, by
      rintro k member _ (listed : _ ∈ [key item]) rfl
      exact fresh (List.mem_singleton.mp listed ▸ member)⟩

theorem nodup_saveAll (merges : Merges key merge) (items : List α) {entries : List α}
    (distinct : (entries.map key).Nodup) : ((saveAll key merge items entries).map key).Nodup := by
  induction items generalizing entries with
  | nil => exact distinct
  | cons item rest ih =>
    exact @ih (upsertWith key (merge item) item entries)
      (nodup_upsertWith (fun entry _ => merges.key item entry) distinct)

/-- Finding after the entries of a key are removed. -/
theorem find_filter_ne (removed k : κ) (entries : List α) :
    find key k (entries.filter fun entry => key entry ≠ removed) =
      if k = removed then none else find key k entries := by
  induction entries with
  | nil => simp [find]
  | cons entry rest ih =>
    by_cases same : key entry = removed
    · rw [List.filter_cons_of_neg (by simp [same]), ih, find_cons, same]
      split
      · rfl
      · next other => rw [if_neg (Ne.symm other)]
    · rw [List.filter_cons_of_pos (by simp [same]), find_cons, find_cons, ih]
      split
      · next here => rw [if_neg (here ▸ same)]
      · rfl

theorem find_saveAll_of_not_mem (merges : Merges key merge) {items : List α} {k : κ}
    (absent : k ∉ items.map key) (entries : List α) :
    find key k (saveAll key merge items entries) = find key k entries := by
  induction items generalizing entries with
  | nil => rfl
  | cons item rest ih =>
    rw [List.map_cons, List.mem_cons, not_or] at absent
    refine (ih absent.2 _).trans ?_
    exact find_upsertWith_other _ item (fun entry _ => merges.key item entry) k (Ne.symm absent.1) entries

/-- Of items with distinct keys each is merged over the entry of its key alone. -/
theorem find_saveAll_of_mem (merges : Merges key merge) {items : List α}
    (distinct : (items.map key).Nodup) {item : α} (member : item ∈ items) (entries : List α) :
    find key (key item) (saveAll key merge items entries) =
      some (((find key (key item) entries).map (merge item)).getD item) := by
  induction items generalizing entries with
  | nil => cases member
  | cons first rest ih =>
    rw [List.map_cons, List.nodup_cons] at distinct
    rcases List.mem_cons.mp member with rfl | later
    · refine (find_saveAll_of_not_mem merges distinct.1 _).trans ?_
      exact find_upsertWith_same _ item (fun entry _ => merges.key item entry) entries
    · have other : key first ≠ key item := fun same => distinct.1 (same ▸ List.mem_map_of_mem later)
      refine (ih distinct.2 later _).trans ?_
      rw [find_upsertWith_other _ first (fun entry _ => merges.key first entry) _ other]

theorem mem_upsertWith {update : α → α} {item entry : α} {entries : List α}
    (member : entry ∈ upsertWith key update item entries) :
    entry ∈ entries ∨ entry = item ∨
      ∃ previous ∈ entries, key previous = key item ∧ entry = update previous := by
  induction entries with
  | nil => exact Or.inr (Or.inl (List.mem_singleton.mp member))
  | cons first rest ih =>
    rw [upsertWith] at member
    split at member
    · next same =>
      rcases List.mem_cons.mp member with rfl | later
      · exact Or.inr (Or.inr ⟨first, List.mem_cons_self, same, rfl⟩)
      · exact Or.inl (List.mem_cons_of_mem _ later)
    · rcases List.mem_cons.mp member with rfl | later
      · exact Or.inl List.mem_cons_self
      · rcases ih later with stored | saved | ⟨previous, stored, same, updated⟩
        · exact Or.inl (List.mem_cons_of_mem _ stored)
        · exact Or.inr (Or.inl saved)
        · exact Or.inr (Or.inr ⟨previous, List.mem_cons_of_mem _ stored, same, updated⟩)

theorem filter_upsertWith {test : α → Bool} {update : α → α} {item : α} (fails : test item = false)
    (updated : ∀ entry, test (update entry) = false) {entries : List α}
    (replaced : ∀ entry ∈ entries, key entry = key item → test entry = false) :
    (upsertWith key update item entries).filter test = entries.filter test := by
  induction entries with
  | nil => simp [upsertWith, fails]
  | cons first rest ih =>
    have later := ih fun entry member => replaced entry (List.mem_cons_of_mem _ member)
    rw [upsertWith]
    split
    · next same =>
      simp [updated first, replaced first List.mem_cons_self same]
    · rw [List.filter_cons, List.filter_cons, later]

/-- Items that fail a test, saved over entries that fail it, leave the others alone. -/
theorem filter_saveAll {test : α → Bool} {items : List α} (fails : ∀ item ∈ items, test item = false)
    (merged : ∀ item ∈ items, ∀ entry, test (merge item entry) = false) {entries : List α}
    (replaced : ∀ item ∈ items, ∀ entry ∈ entries, key entry = key item → test entry = false) :
    (saveAll key merge items entries).filter test = entries.filter test := by
  induction items generalizing entries with
  | nil => rfl
  | cons item rest ih =>
    have here := merged item List.mem_cons_self
    have others : ∀ other ∈ rest, ∀ entry ∈ upsertWith key (merge item) item entries,
        key entry = key other → test entry = false := by
      intro other listed entry member same
      rcases mem_upsertWith member with stored | rfl | ⟨previous, _, _, rfl⟩
      · exact replaced other (List.mem_cons_of_mem _ listed) entry stored same
      · exact fails entry List.mem_cons_self
      · exact here previous
    refine (ih (fun other listed => fails other (List.mem_cons_of_mem _ listed))
      (fun other listed => merged other (List.mem_cons_of_mem _ listed)) others).trans ?_
    exact filter_upsertWith (fails item List.mem_cons_self) here (replaced item List.mem_cons_self)

/-! ## The last save of a key -/

/-- What is found under a key after the items are saved in order. -/
def stored (key : α → κ) (merge : α → α → α) (k : κ) (items : List α) (found : Option α) : Option α :=
  (items.filter fun item => key item = k).foldl
    (fun found item => some ((found.map (merge item)).getD item)) found

theorem stored_cons (k : κ) (item : α) (rest : List α) (found : Option α) :
    stored key merge k (item :: rest) found =
      if key item = k then stored key merge k rest (some ((found.map (merge item)).getD item))
      else stored key merge k rest found := by
  by_cases same : key item = k <;> simp [stored, same]

theorem find_saveAll (merges : Merges key merge) (k : κ) (items : List α) :
    ∀ entries, find key k (saveAll key merge items entries) =
      stored key merge k items (find key k entries) := by
  induction items with
  | nil => exact fun _ => rfl
  | cons item rest ih =>
    intro entries
    have keeps : ∀ entry, key entry = key item → key (merge item entry) = key item :=
      fun entry _ => merges.key item entry
    refine (ih (upsertWith key (merge item) item entries)).trans ?_
    rw [stored_cons]
    by_cases same : key item = k
    · subst same
      rw [if_pos rfl, find_upsertWith_same _ item keeps]
    · rw [if_neg same, find_upsertWith_other _ item keeps k same]

theorem saveAll_append (items later entries : List α) :
    saveAll key merge (items ++ later) entries =
      saveAll key merge later (saveAll key merge items entries) := by
  rw [saveAll, List.foldl_append]
  rfl

/-- The entries whose keys no item has, in their order. -/
def others (key : α → κ) (items entries : List α) : List α :=
  entries.filter fun entry => key entry ∉ items.map key

theorem others_saveAll (merges : Merges key merge) (items entries : List α) :
    others key items (saveAll key merge items entries) = others key items entries := by
  apply filter_saveAll
  · intro item member
    simpa using ⟨item, member, rfl⟩
  · intro item member entry
    simpa [merges.key item entry] using ⟨item, member, rfl⟩
  · intro item member entry _ same
    simpa [same] using ⟨item, member, rfl⟩

theorem mem_keys_saveAll (merges : Merges key merge) {k : κ} {items entries : List α}
    (member : k ∈ (saveAll key merge items entries).map key) :
    k ∈ entries.map key ∨ k ∈ items.map key := by
  induction items generalizing entries with
  | nil => exact Or.inl member
  | cons item rest ih =>
    rw [List.map_cons, List.mem_cons]
    rcases @ih (upsertWith key (merge item) item entries) member with stored | later
    · rw [map_upsertWith _ item fun entry _ => merges.key item entry] at stored
      split at stored
      · exact Or.inl stored
      · rw [List.mem_append, List.mem_singleton] at stored
        exact stored.imp_right Or.inl
    · exact Or.inr (Or.inr later)

omit [DecidableEq κ] in
/-- Saving in place of the entry of the key. -/
theorem merges_const : Merges key (Function.const α) where
  key _ _ := rfl
  assoc _ _ _ := rfl
  idem _ := rfl

/-- The last saved item of the key, else what was there. -/
theorem stored_const (k : κ) (items : List α) :
    ∀ found, stored key (Function.const α) k items found = (find key k items.reverse).or found := by
  induction items with
  | nil => exact fun _ => rfl
  | cons item rest ih =>
    intro found
    have last : find key k (rest.reverse ++ [item]) =
        (find key k rest.reverse).or (if key item = k then some item else none) := by
      rw [find, List.find?_append, ← find, ← find, find_cons]
      rfl
    rw [stored_cons, ih, ih, List.reverse_cons, last]
    by_cases same : key item = k
    · rw [if_pos same, if_pos same, Option.or_assoc]
      cases found <;> rfl
    · rw [if_neg same, if_neg same, Option.or_none]

end EpicKfc.Lib.KeyedList
