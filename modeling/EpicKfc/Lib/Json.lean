import Mathlib.Data.List.Basic
import Mathlib.Data.String.Basic

/-!
# JSON values

Documents as trees, objects as member lists that `insert` keeps in key order. The
compact writer takes the string escaping as a parameter, so that two programs
with their own writers can be compared through their escapes alone.
-/

namespace EpicKfc.Lib

inductive Json where
  | null
  | bool (value : Bool)
  | number (value : Int)
  /-- A number that is not an integer, with its text. -/
  | fraction (literal : String)
  | string (value : String)
  | array (items : List Json)
  | object (members : List (String × Json))
deriving Repr

namespace Json

abbrev Members := List (String × Json)

def lookup (members : Members) (key : String) : Option Json :=
  (members.find? fun member => member.1 = key).map Prod.snd

/-- Replace the member named `key`, or add it in key order. -/
def insert (key : String) (value : Json) : Members → Members
  | [] => [(key, value)]
  | (name, old) :: rest =>
    if name = key then (key, value) :: rest
    else if key < name then (key, value) :: (name, old) :: rest
    else (name, old) :: insert key value rest

/-- Build an object from members in any order; a later member of a name wins. -/
def ofMembers (members : Members) : Members :=
  members.foldl (fun built member => insert member.1 member.2 built) []

@[simp] theorem lookup_nil (key : String) : lookup [] key = none := rfl

theorem lookup_cons (name key : String) (value : Json) (rest : Members) :
    lookup ((name, value) :: rest) key = if name = key then some value else lookup rest key := by
  unfold lookup
  by_cases same : name = key <;> simp [same]

@[simp] theorem lookup_insert_same (key : String) (value : Json) (members : Members) :
    lookup (insert key value members) key = some value := by
  induction members with
  | nil => simp [insert, lookup_cons]
  | cons member rest ih =>
    obtain ⟨name, old⟩ := member
    unfold insert
    split
    · simp [lookup_cons]
    · rename_i different
      split
      · simp [lookup_cons]
      · simp [lookup_cons, different, ih]

theorem lookup_insert_other (key other : String) (value : Json) (members : Members)
    (different : key ≠ other) :
    lookup (insert key value members) other = lookup members other := by
  induction members with
  | nil => simp [insert, lookup_cons, different]
  | cons member rest ih =>
    obtain ⟨name, old⟩ := member
    unfold insert
    split
    · rename_i same
      subst same
      simp [lookup_cons, different]
    · split
      · simp [lookup_cons, different]
      · simp only [lookup_cons, ih]

theorem lookup_insert (key other : String) (value : Json) (members : Members) :
    lookup (insert key value members) other =
      if key = other then some value else lookup members other := by
  by_cases same : key = other
  · subst same
    rw [if_pos rfl, lookup_insert_same]
  · rw [if_neg same, lookup_insert_other key other value members same]

theorem insert_last (key : String) (value : Json) (members : Members)
    (before : ∀ member ∈ members, member.1 < key) :
    insert key value members = members ++ [(key, value)] := by
  induction members with
  | nil => rfl
  | cons member rest ih =>
    obtain ⟨name, old⟩ := member
    have earlier : name < key := before (name, old) List.mem_cons_self
    have tail := ih fun member belongs => before member (List.mem_cons_of_mem _ belongs)
    rw [insert, if_neg (ne_of_lt earlier), if_neg (lt_asymm earlier), tail]
    rfl

/-- Members listed in key order are the object they build. -/
theorem ofMembers_of_sorted (members : Members)
    (sorted : (members.map Prod.fst).Pairwise (· < ·)) : ofMembers members = members := by
  have built (rest : Members) : ∀ built : Members,
      ((built ++ rest).map Prod.fst).Pairwise (· < ·) →
        rest.foldl (fun built member => insert member.1 member.2 built) built = built ++ rest := by
    induction rest with
    | nil => intro built _; simp
    | cons member rest ih =>
      intro built ordered
      have before : ∀ earlier ∈ built, earlier.1 < member.1 := by
        intro earlier belongs
        rw [List.map_append, List.pairwise_append] at ordered
        exact ordered.2.2 _ (List.mem_map_of_mem belongs) _ (by simp)
      rw [List.foldl_cons, insert_last _ _ _ before, ih _ (by simpa using ordered)]
      simp
  exact built members [] sorted

/-- An object built from members of different names has exactly these. -/
theorem lookup_ofMembers (members : Members) (distinct : (members.map Prod.fst).Nodup)
    (key : String) : lookup (ofMembers members) key = lookup members key := by
  have found (rest : Members) : ∀ built : Members, (rest.map Prod.fst).Nodup →
      lookup (rest.foldl (fun built member => insert member.1 member.2 built) built) key =
        (lookup rest key).or (lookup built key) := by
    induction rest with
    | nil => intro built _; simp
    | cons member rest ih =>
      intro built names
      obtain ⟨name, added⟩ := member
      rw [List.map_cons, List.nodup_cons] at names
      rw [List.foldl_cons, ih _ names.2, lookup_cons]
      by_cases same : name = key
      · subst same
        have absent : lookup rest name = none := by
          simp only [lookup, Option.map_eq_none_iff, List.find?_eq_none, decide_eq_true_eq]
          exact fun other belongs same => names.1 (List.mem_map.mpr ⟨other, belongs, same⟩)
        simp [absent]
      · rw [lookup_insert_other _ _ _ _ same, if_neg same]
  simpa [ofMembers] using found members [] distinct

/-- No other names come in. -/
theorem name_mem_of_insert {key : String} {value : Json} {members : Members}
    {member : String × Json} (listed : member ∈ insert key value members) :
    member.1 = key ∨ member.1 ∈ members.map Prod.fst := by
  induction members with
  | nil =>
    rw [insert, List.mem_singleton] at listed
    exact Or.inl (by rw [listed])
  | cons first rest ih =>
    obtain ⟨name, old⟩ := first
    simp only [insert] at listed
    split at listed
    · obtain rfl | later := List.mem_cons.mp listed
      · exact Or.inl rfl
      · exact Or.inr (List.mem_map_of_mem (List.mem_cons_of_mem _ later))
    · split at listed
      · obtain rfl | later := List.mem_cons.mp listed
        · exact Or.inl rfl
        · exact Or.inr (List.mem_map_of_mem later)
      · obtain rfl | later := List.mem_cons.mp listed
        · exact Or.inr List.mem_cons_self
        · exact (ih later).imp_right (List.mem_cons_of_mem _)

theorem name_mem_of_ofMembers {members : Members} {member : String × Json}
    (listed : member ∈ ofMembers members) : member.1 ∈ members.map Prod.fst := by
  have names (rest : Members) : ∀ built : Members,
      member ∈ rest.foldl (fun built added => insert added.1 added.2 built) built →
        member.1 ∈ built.map Prod.fst ∨ member.1 ∈ rest.map Prod.fst := by
    induction rest with
    | nil => exact fun built listed => Or.inl (List.mem_map_of_mem listed)
    | cons added rest ih =>
      intro built listed
      rw [List.map_cons, List.mem_cons]
      obtain earlier | later := ih _ listed
      · obtain ⟨inserted, member', same⟩ := List.mem_map.mp earlier
        obtain here | before := name_mem_of_insert member'
        · exact Or.inr (Or.inl (same ▸ here))
        · exact Or.inl (same ▸ before)
      · exact Or.inr (Or.inr later)
  obtain none | some := names members [] listed
  · cases none
  · exact some

/-- The name of the first member when one more is inserted. -/
def firstName (key : String) : Option String → String
  | none => key
  | some name => if name = key then key else if key < name then key else name

theorem head_insert (key : String) (value : Json) (members : Members) :
    (insert key value members).head?.map Prod.fst =
      some (firstName key (members.head?.map Prod.fst)) := by
  cases members with
  | nil => rfl
  | cons member rest =>
    rw [insert, List.head?_cons, Option.map_some, firstName]
    split
    · rfl
    · split <;> rfl

/-- The first member of a built object depends on the names alone. -/
theorem head_ofMembers (members : Members) : (ofMembers members).head?.map Prod.fst =
    (members.map Prod.fst).foldl (fun first key => some (firstName key first)) none := by
  have built (rest : Members) : ∀ built : Members,
      (rest.foldl (fun built member => insert member.1 member.2 built) built).head?.map Prod.fst =
        (rest.map Prod.fst).foldl (fun first key => some (firstName key first))
          (built.head?.map Prod.fst) := by
    induction rest with
    | nil => exact fun _ => rfl
    | cons member rest ih =>
      intro built
      rw [List.foldl_cons, ih, head_insert, List.map_cons, List.foldl_cons]
  exact built members []
/-! ## Texts -/

/-- `a,b,c`. -/
def separated : List (List Char) → List Char
  | [] => []
  | [last] => last
  | first :: rest => first ++ ',' :: separated rest

def decimal (value : Int) : List Char :=
  if value < 0 then '-' :: Nat.toDigits 10 value.natAbs else Nat.toDigits 10 value.natAbs

mutual

/-- The text of a value without insignificant blanks, strings written by `quote`. -/
def compact (quote : String → List Char) : Json → List Char
  | null => ['n', 'u', 'l', 'l']
  | bool true => ['t', 'r', 'u', 'e']
  | bool false => ['f', 'a', 'l', 's', 'e']
  | number value => decimal value
  | fraction literal => literal.toList
  | string value => quote value
  | array items => '[' :: separated (compactItems quote items) ++ [']']
  | object members => '\x7b' :: separated (compactMembers quote members) ++ ['\x7d']

def compactItems (quote : String → List Char) : List Json → List (List Char)
  | [] => []
  | item :: rest => compact quote item :: compactItems quote rest

def compactMembers (quote : String → List Char) : List (String × Json) → List (List Char)
  | [] => []
  | (name, value) :: rest =>
    (quote name ++ ':' :: compact quote value) :: compactMembers quote rest

end

/-- A text as UTF-8 bytes. -/
def utf8 (text : List Char) : List (BitVec 8) :=
  (text.flatMap String.utf8EncodeChar).map UInt8.toBitVec

/-- Different texts have different bytes. -/
theorem utf8_injective : Function.Injective utf8 := by
  intro first second same
  have bytes : first.flatMap String.utf8EncodeChar = second.flatMap String.utf8EncodeChar :=
    List.map_injective_iff.mpr (fun _ _ => UInt8.toBitVec_inj.mp) same
  have encoded : first.utf8Encode = second.utf8Encode := by
    unfold List.utf8Encode
    rw [bytes]
  have texts : String.ofList first = String.ofList second :=
    String.toByteArray_inj.mp (by rw [String.toByteArray_ofList, String.toByteArray_ofList, encoded])
  exact String.ofList_injective texts

/-- ASCII text has one byte for each character. -/
theorem length_utf8 {text : List Char} (ascii : ∀ char ∈ text, char.toNat < 128) :
    (utf8 text).length = text.length := by
  rw [utf8, List.length_map]
  induction text with
  | nil => rfl
  | cons char rest ih =>
    have small : char.val.toNat ≤ 0x7f := by
      have bound := ascii char List.mem_cons_self
      exact Nat.le_of_lt_succ bound
    have one : (String.utf8EncodeChar char).length = 1 := by
      simp only [String.utf8EncodeChar, small, if_true, List.length_singleton]
    rw [List.flatMap_cons, List.length_append, one, List.length_cons,
      ih fun other member => ascii other (List.mem_cons_of_mem _ member), Nat.add_comm]

/-- Every character has a byte of its own. -/
theorem length_le_utf8 (text : List Char) : text.length ≤ (utf8 text).length := by
  rw [utf8, List.length_map]
  induction text with
  | nil => simp
  | cons char rest ih =>
    have positive : 0 < (String.utf8EncodeChar char).length := by
      rw [String.length_utf8EncodeChar]
      exact Char.utf8Size_pos char
    rw [List.flatMap_cons, List.length_append, List.length_cons]
    omega

end Json

end EpicKfc.Lib
