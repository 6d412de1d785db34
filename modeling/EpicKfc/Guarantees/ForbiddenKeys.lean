import EpicKfc.Source.Server.WirePayloads

/-!
# Forbidden keys in stored payloads

The check walks the value `json.loads` makes of a payload, and the text is what is
stored. Between the two only one thing is lost: the value of a member whose name
comes again in the same object. An accepted text is free of forbidden keys exactly
when these values are.
-/

namespace EpicKfc.Guarantees.ForbiddenKeys
open EpicKfc.Lib
open EpicKfc.Lib.JsonText
open EpicKfc.Source.Server.WirePayloads

/-- A tree, or a part of it at any depth. -/
inductive Within (part : Node) : Node → Prop where
  | self : Within part part
  | item {item : Node} {items : List Node} :
      item ∈ items → Within part item → Within part (.array items)
  | member {name : Text} {value : Node} {members : List (Text × Node)} :
      (name, value) ∈ members → Within part value → Within part (.object members)

/-- No object at any depth has a member of a forbidden name. -/
def FreeOfForbiddenKeys (tree : Node) : Prop :=
  ∀ members, Within (.object members) tree → ∀ name ∈ members.map Prod.fst, isForbidden name = false

/-- A value of the text that a later member of the same object and name replaces. -/
def Replaced (tree value : Node) : Prop :=
  ∃ before name after, Within (.object (before ++ (name, value) :: after)) tree ∧
    name ∈ after.map Prod.fst

theorem Within.trans {part whole tree : Node} (inner : Within part whole)
    (outer : Within whole tree) : Within part tree := by
  induction outer with
  | self => exact inner
  | item listed _ ih => exact .item listed ih
  | member listed _ ih => exact .member listed ih

theorem Replaced.within {value whole tree : Node} (replaced : Replaced whole value)
    (outer : Within whole tree) : Replaced tree value := by
  obtain ⟨before, name, after, inner, later⟩ := replaced
  exact ⟨before, name, after, inner.trans outer, later⟩

theorem FreeOfForbiddenKeys.within {part tree : Node} (free : FreeOfForbiddenKeys tree)
    (inner : Within part tree) : FreeOfForbiddenKeys part :=
  fun members inside => free members (inside.trans inner)

/-! ## What the check has seen -/

theorem forbiddenInItems_none {items : List Node} (clean : forbiddenInItems items = none) :
    ∀ item ∈ items, forbiddenPayloadKey item = none := by
  induction items with
  | nil => simp
  | cons first rest ih =>
    simp only [forbiddenInItems, Option.or_eq_none_iff] at clean
    intro item listed
    rcases List.mem_cons.mp listed with rfl | later
    · exact clean.1
    · exact ih clean.2 item later

theorem forbiddenInMembers_none {members : List (Text × Node)}
    (clean : forbiddenInMembers members = none) :
    ∀ member ∈ members, isForbidden member.1 = false ∧ forbiddenPayloadKey member.2 = none := by
  induction members with
  | nil => simp
  | cons first rest ih =>
    obtain ⟨key, nested⟩ := first
    rw [forbiddenInMembers] at clean
    split_ifs at clean with forbidden
    simp only [Option.or_eq_none_iff] at clean
    intro member listed
    rcases List.mem_cons.mp listed with rfl | later
    · exact ⟨by simpa using forbidden, clean.1⟩
    · exact ih clean.2 member later

theorem mem_pythonItems {items : List Node} {item : Node} (listed : item ∈ items) :
    pythonValue item ∈ pythonItems items := by
  induction items with
  | nil => cases listed
  | cons first rest ih =>
    rw [pythonItems]
    rcases List.mem_cons.mp listed with rfl | later
    · exact List.mem_cons_self
    · exact List.mem_cons_of_mem _ (ih later)

theorem pythonMembers_append (first second : List (Text × Node)) :
    pythonMembers (first ++ second) = pythonMembers first ++ pythonMembers second := by
  induction first with
  | nil => rfl
  | cons member rest ih =>
    obtain ⟨name, value⟩ := member
    simp [pythonMembers, ih]

theorem names_pythonMembers (members : List (Text × Node)) :
    (pythonMembers members).map Prod.fst = members.map Prod.fst := by
  induction members with
  | nil => rfl
  | cons member rest ih =>
    obtain ⟨name, value⟩ := member
    simp [pythonMembers, ih]

/-- A clean value stands for its text except where a member was replaced: by induction on
the way down to an object of the text. -/
theorem free_of_clean {members : List (Text × Node)} {tree : Node}
    (inside : Within (.object members) tree) (clean : forbiddenPayloadKey (pythonValue tree) = none)
    (replaced : ∀ value, Replaced tree value → FreeOfForbiddenKeys value) :
    ∀ name ∈ members.map Prod.fst, isForbidden name = false := by
  induction inside with
  | self =>
    intro name listed
    rw [pythonValue, forbiddenPayloadKey] at clean
    have kept : name ∈ (dictOf (pythonMembers members)).map Prod.fst :=
      name_mem_dictOf (by rwa [names_pythonMembers])
    obtain ⟨member, present, rfl⟩ := List.mem_map.mp kept
    exact (forbiddenInMembers_none clean member present).1
  | @item item items listed inner ih =>
    rw [pythonValue, forbiddenPayloadKey] at clean
    apply ih (forbiddenInItems_none clean _ (mem_pythonItems listed))
    exact fun value deeper => replaced value (deeper.within (.item listed .self))
  | @member name value siblings listed inner ih =>
    rw [pythonValue, forbiddenPayloadKey] at clean
    obtain ⟨before, after, rfl⟩ := List.append_of_mem listed
    by_cases later : name ∈ after.map Prod.fst
    · exact replaced value ⟨before, name, after, .self, later⟩ members inner
    · have kept : (name, pythonValue value) ∈
          dictOf (pythonMembers (before ++ (name, value) :: after)) := by
        rw [pythonMembers_append, pythonMembers]
        exact mem_dictOf (by rwa [names_pythonMembers])
      apply ih (forbiddenInMembers_none clean _ kept).2
      exact fun value deeper => replaced value (deeper.within (.member listed .self))

/-- An accepted text, stored as it is, has no forbidden key at any depth if and only if no
value that a repeated name replaces has one. -/
theorem accepted_free_iff {value result : String}
    (accepted : validateWirePayloadJson value = .ok result) :
    result = value ∧ ∃ tree, parse value.toList = some tree ∧
      (FreeOfForbiddenKeys tree ↔
        ∀ replaced, Replaced tree replaced → FreeOfForbiddenKeys replaced) := by
  obtain ⟨same, -, members, parsed, clean, -⟩ := validateWirePayloadJson_ok_iff.mp accepted
  refine ⟨same, .object members, parsed, ?_, ?_⟩
  · rintro free replaced ⟨before, name, after, inside, -⟩
    have listed : (name, replaced) ∈ before ++ (name, replaced) :: after := by simp
    exact (free.within inside).within (.member listed .self)
  · intro replaced inner inside
    exact free_of_clean inside (by rwa [pythonValue, forbiddenPayloadKey]) replaced

/-! ## Payloads with a repeated name -/

def repeatingPayload : String :=
  "\x7b\"x\":1,\"x\":0,\"format\":\"libsignal-v1\",\"type\":1,\"bodyB64\":\"AA==\"\x7d"

def hidingPayload : String :=
  "\x7b\"x\":\x7b\"plaintext\":1\x7d,\"x\":0,\"format\":\"libsignal-v1\",\"type\":1,\"bodyB64\":\"AA==\"\x7d"

/-- The members of either text, after the value that is replaced. -/
def repeatedMembers (replaced : Node) : List (Text × Node) := [
  (codePoints "x", replaced),
  (codePoints "x", .int 0),
  (codePoints "format", .string (codePoints "libsignal-v1")),
  (codePoints "type", .int 1),
  (codePoints "bodyB64", .string (codePoints "AA=="))]

theorem parse_repeatingPayload :
    parse repeatingPayload.toList = some (.object (repeatedMembers (.int 1))) := by rfl

theorem parse_hidingPayload : parse hidingPayload.toList =
    some (.object (repeatedMembers (.object [(codePoints "plaintext", .int 1)]))) := by rfl

theorem accepted_of_parsed {value : String} {replaced : Node}
    (ascii : ∀ char ∈ value.toList, char.toNat < 128) (short : value.toList.length ≤ 100)
    (parsed : parse value.toList = some (.object (repeatedMembers replaced))) :
    validateWirePayloadJson value = .ok value := by
  have dict : dictOf (pythonMembers (repeatedMembers replaced)) =
      (repeatedMembers (.int 0)).tail := by rfl
  refine validateWirePayloadJson_ok_iff.mpr ⟨rfl, ?_, repeatedMembers replaced, parsed, ?_, ?_⟩
  · rw [Json.length_utf8 ascii]
    exact short.trans (by decide)
  · rw [dict]
    decide
  · rw [dict]
    rfl

theorem accepted_free_repeating : ∃ tree, parse repeatingPayload.toList = some tree ∧
    (FreeOfForbiddenKeys tree ↔
      ∀ replaced, Replaced tree replaced → FreeOfForbiddenKeys replaced) :=
  (accepted_free_iff
    (accepted_of_parsed (ascii_of_all (by decide)) (by decide) parse_repeatingPayload)).2

/-- The name `x` comes twice; the check sees its last value and the text keeps the first. -/
theorem hidden_key_is_stored : validateWirePayloadJson hidingPayload = .ok hidingPayload ∧
    ∃ tree, parse hidingPayload.toList = some tree ∧ ¬ FreeOfForbiddenKeys tree := by
  refine ⟨accepted_of_parsed (ascii_of_all (by decide)) (by decide) parse_hidingPayload, _,
    parse_hidingPayload, ?_⟩
  intro free
  have inside : Within (.object [(codePoints "plaintext", .int 1)])
      (.object (repeatedMembers (.object [(codePoints "plaintext", .int 1)]))) :=
    .member List.mem_cons_self .self
  have clean := free _ inside (codePoints "plaintext") (by simp)
  have forbidden : isForbidden (codePoints "plaintext") = true := by decide
  rw [forbidden] at clean
  cases clean

end EpicKfc.Guarantees.ForbiddenKeys
