import EpicKfc.Lib.JsonText

/-!
# Compact texts are read back

The compact text of a value is read as the tree of that value, whatever writes
the strings, as long as each string is read back and the numbers are integers of
a readable length.
-/

namespace EpicKfc.Lib.JsonText

def codePoints (text : String) : Text := text.toList.map Char.toNat

theorem codePoints_injective : Function.Injective codePoints := by
  intro first second same
  have chars := List.map_injective_iff.mpr (fun _ _ => Char.toNat_inj.mp) same
  exact String.toList_inj.mp chars

mutual

/-- The tree of a value. -/
def ofJson : Json → Node
  | .null => .null
  | .bool value => .bool value
  | .number value => .int value
  | .fraction literal => .float literal.toList
  | .string value => .string (codePoints value)
  | .array items => .array (ofItems items)
  | .object members => .object (ofMembers members)

def ofItems : List Json → List Node
  | [] => []
  | item :: rest => ofJson item :: ofItems rest

def ofMembers : List (String × Json) → List (Text × Node)
  | [] => []
  | (name, value) :: rest => (codePoints name, ofJson value) :: ofMembers rest

end

mutual

/-- Every number is an integer of a readable length. -/
def Readable : Json → Prop
  | .number value => (Nat.toDigits 10 value.natAbs).length ≤ maxIntegerDigits
  | .fraction _ => False
  | .array items => ReadableItems items
  | .object members => ReadableMembers members
  | _ => True

def ReadableItems : List Json → Prop
  | [] => True
  | item :: rest => Readable item ∧ ReadableItems rest

def ReadableMembers : List (String × Json) → Prop
  | [] => True
  | (_, value) :: rest => Readable value ∧ ReadableMembers rest

end

mutual

/-- How deeply values are nested. -/
def nesting : Json → Nat
  | .array items => nestingItems items + 1
  | .object members => nestingMembers members + 1
  | _ => 1

def nestingItems : List Json → Nat
  | [] => 0
  | item :: rest => max (nesting item) (nestingItems rest)

def nestingMembers : List (String × Json) → Nat
  | [] => 0
  | (_, value) :: rest => max (nesting value) (nestingMembers rest)

end

/-- A written string is read back, with the text after it. -/
def Quotes (quote : String → List Char) : Prop :=
  ∀ value, ∃ body, quote value = Char.ofNat 0x22 :: body ∧
    ∀ rest, scanUnits .plain (body ++ rest) = some (codePoints value, rest)

/-- What may follow a value in a compact text. -/
def Stops (rest : List Char) : Prop :=
  ∀ char ∈ rest.head?, char = ',' ∨ char = ']' ∨ char = '\x7d'

theorem stops_nil : Stops [] := by simp [Stops]

theorem stops_cons {char : Char} (rest : List Char)
    (stops : char = ',' ∨ char = ']' ∨ char = '\x7d') : Stops (char :: rest) := by
  simpa [Stops] using stops

/-! ## Strings -/

theorem joinPairs_of_plain {text : Text} (plain : ∀ unit ∈ text, isHighSurrogate unit = false) :
    joinPairs text = text := by
  induction text with
  | nil => rfl
  | cons unit rest ih =>
    have later := ih fun other member => plain other (List.mem_cons_of_mem _ member)
    cases rest with
    | nil => rfl
    | cons next rest => simp [joinPairs, plain unit List.mem_cons_self, later]

theorem joinPairs_codePoints (text : String) : joinPairs (codePoints text) = codePoints text := by
  apply joinPairs_of_plain
  intro unit member
  obtain ⟨char, -, rfl⟩ := List.mem_map.mp member
  have valid : char.toNat < 0xd800 ∨ 0xdfff < char.toNat ∧ char.toNat < 0x110000 := char.valid
  simp only [isHighSurrogate, Bool.and_eq_false_iff, decide_eq_false_iff_not]
  omega

variable {quote : String → List Char}

theorem scanString_quote (quotes : Quotes quote) (value : String) :
    ∃ body, quote value = Char.ofNat 0x22 :: body ∧
      ∀ rest, scanString (body ++ rest) = some (codePoints value, rest) := by
  obtain ⟨body, opens, scanned⟩ := quotes value
  refine ⟨body, opens, fun rest => ?_⟩
  simp only [scanString, scanned, Option.map_some, joinPairs_codePoints]

/-! ## Numbers -/

theorem stops_not_digit {rest : List Char} (stops : Stops rest) :
    ∀ char ∈ rest.head?, char.isDigit = false := by
  intro char head
  obtain rfl | rfl | rfl := stops char head <;> decide

theorem takeDigits_append {digits rest : List Char} (all : ∀ char ∈ digits, char.isDigit = true)
    (stops : Stops rest) : takeDigits (digits ++ rest) = (digits, rest) := by
  have ends : rest.takeWhile Char.isDigit = [] ∧ rest.dropWhile Char.isDigit = rest := by
    cases rest with
    | nil => exact ⟨rfl, rfl⟩
    | cons char rest =>
      have plain := stops_not_digit stops char rfl
      simp [plain]
  simp only [takeDigits, List.takeWhile_append_of_pos all, List.dropWhile_append_of_pos all, ends,
    List.append_nil]

/-- Only zero is written with a leading zero. -/
theorem head_toDigits {value : Nat} (positive : 0 < value) :
    ∀ char ∈ (Nat.toDigits 10 value).head?, char ≠ '0' := by
  induction value using Nat.strong_induction_on with
  | _ value ih =>
    by_cases small : value < 10
    · rw [Nat.toDigits_of_lt_base small]
      have digits : ∀ digit < 10, 0 < digit → Nat.digitChar digit ≠ '0' := by decide
      simpa using digits value small positive
    · have quotient : 0 < value / 10 := by omega
      rw [Nat.toDigits_of_base_le (by decide) (by omega),
        List.head?_append_of_ne_nil _ Nat.toDigits_ne_nil]
      exact ih (value / 10) (by omega) quotient

theorem exists_toDigits (value : Nat) :
    ∃ char more, Nat.toDigits 10 value = char :: more ∧ char.isDigit = true := by
  cases listed : Nat.toDigits 10 value with
  | nil => exact absurd listed Nat.toDigits_ne_nil
  | cons char more =>
    have member : char ∈ Nat.toDigits 10 value := by simp [listed]
    exact ⟨char, more, rfl, Nat.isDigit_of_mem_toDigits (by decide) (by decide) member⟩

theorem takeInteger_toDigits (value : Nat) {rest : List Char} (stops : Stops rest) :
    takeInteger (Nat.toDigits 10 value ++ rest) = (Nat.toDigits 10 value, rest) := by
  have digits := @takeDigits_append (Nat.toDigits 10 value) rest
    (fun _ member => Nat.isDigit_of_mem_toDigits (by decide) (by decide) member) stops
  rcases Nat.eq_zero_or_pos value with rfl | positive
  · rfl
  · have leads := head_toDigits positive
    unfold takeInteger
    split
    · next zero =>
      obtain ⟨char, more, listed, -⟩ := exists_toDigits value
      rw [listed, List.cons_append, List.cons.injEq] at zero
      rw [listed] at leads
      exact absurd zero.1 (leads char rfl)
    · exact digits

theorem takeFraction_of_stops {rest : List Char} (stops : Stops rest) :
    takeFraction rest = ([], rest) := by
  unfold takeFraction
  split
  · obtain point | point | point := stops '.' rfl <;> cases point
  · rfl

theorem takeExponent_of_stops {rest : List Char} (stops : Stops rest) :
    takeExponent rest = ([], rest) := by
  cases rest with
  | nil => rfl
  | cons char rest => obtain rfl | rfl | rfl := stops char rfl <;> rfl

theorem takeMinus_decimal (value : Int) (rest : List Char) :
    takeMinus (Json.decimal value ++ rest) =
      (decide (value < 0), Nat.toDigits 10 value.natAbs ++ rest) := by
  unfold Json.decimal
  split
  · next negative => simp [takeMinus, negative]
  · next positive =>
    unfold takeMinus
    split
    · next minus =>
      obtain ⟨char, more, listed, digit⟩ := exists_toDigits value.natAbs
      rw [listed, List.cons_append, List.cons.injEq] at minus
      rw [minus.1] at digit
      cases digit
    · simp [positive]

/-- A text that a check of its characters finds to be ASCII. -/
theorem ascii_of_all {text : List Char} (checked : (text.all fun char => char.toNat < 128) = true) :
    ∀ char ∈ text, char.toNat < 128 := by
  simpa using checked

theorem scanNumber_decimal {value : Int} {rest : List Char} (stops : Stops rest)
    (short : (Nat.toDigits 10 value.natAbs).length ≤ maxIntegerDigits) :
    scanNumber (Json.decimal value ++ rest) = some (.int value, rest) := by
  have signed : (if decide (value < 0) = true then -(value.natAbs : Int) else value.natAbs) = value := by
    by_cases negative : value < 0
    · rw [if_pos (decide_eq_true negative)]
      omega
    · rw [if_neg (by simpa using negative)]
      omega
  simp only [scanNumber, takeMinus_decimal, takeInteger_toDigits _ stops,
    takeFraction_of_stops stops, takeExponent_of_stops stops, Nat.ofDigitChars_ten_toDigits, signed]
  rw [if_neg Nat.toDigits_ne_nil, if_pos (And.intro trivial trivial), if_neg (by omega)]

/-! ## Values -/

theorem ne_of_isDigit {char other : Char} (digit : char.isDigit = true)
    (plain : other.isDigit = false) : other ≠ char := by
  rintro rfl
  rw [digit] at plain
  cases plain

/-- A number is no keyword, with or without its sign. -/
theorem scanKeyword_decimal (value : Int) (rest : List Char) :
    scanKeyword (Json.decimal value ++ rest) = none := by
  obtain ⟨char, more, listed, digit⟩ := exists_toDigits value.natAbs
  have heads : ∀ other ∈ ['n', 't', 'f', 'N', 'I', '-'], other ≠ char := by
    intro other member
    apply ne_of_isDigit digit
    simp only [List.mem_cons, List.not_mem_nil, or_false] at member
    rcases member with rfl | rfl | rfl | rfl | rfl | rfl <;> decide
  simp only [List.forall_mem_cons, List.not_mem_nil, false_imp_iff, implies_true, and_true] at heads
  unfold Json.decimal
  split <;> simp [scanKeyword, keywords, listed, heads]

theorem head_decimal (value : Int) : ∃ char rest, Json.decimal value = char :: rest ∧
    (char = '-' ∨ char.isDigit = true) := by
  obtain ⟨char, more, listed, digit⟩ := exists_toDigits value.natAbs
  unfold Json.decimal
  split
  · exact ⟨'-', _, rfl, Or.inl rfl⟩
  · exact ⟨char, more, listed, Or.inr digit⟩

theorem scanValue_decimal {value : Int} {rest : List Char} (depth : Nat) (stops : Stops rest)
    (short : (Nat.toDigits 10 value.natAbs).length ≤ maxIntegerDigits) :
    scanValue (depth + 1) (Json.decimal value ++ rest) = some (.int value, rest) := by
  obtain ⟨char, more, listed, starts⟩ := head_decimal value
  have keyword := scanKeyword_decimal value rest
  have number := scanNumber_decimal stops short
  have apart : char.toNat ≠ 0x22 ∧ char ≠ '[' ∧ char ≠ '\x7b' := by
    obtain rfl | digit := starts
    · decide
    · refine ⟨?_, (ne_of_isDigit digit (by decide)).symm, (ne_of_isDigit digit (by decide)).symm⟩
      intro quote
      have same : char = Char.ofNat 0x22 := Char.toNat_inj.mp quote
      rw [same] at digit
      cases digit
  rw [listed, List.cons_append] at keyword number ⊢
  simp only [scanValue, if_neg apart.1, if_neg apart.2.1, if_neg apart.2.2, keyword, number,
    Option.none_or]

/-- A value starts with no blank and no closing bracket. -/
theorem head_compact (quotes : Quotes quote) (json : Json) (readable : Readable json) :
    ∃ char rest, Json.compact quote json = char :: rest ∧ isBlank char = false ∧ char ≠ ']' := by
  cases json with
  | null => exact ⟨'n', _, rfl, by decide, by decide⟩
  | bool value =>
    cases value
    · exact ⟨'f', _, rfl, by decide, by decide⟩
    · exact ⟨'t', _, rfl, by decide, by decide⟩
  | number value =>
    obtain ⟨char, rest, listed, starts⟩ := head_decimal value
    refine ⟨char, rest, listed, ?_⟩
    obtain rfl | digit := starts
    · decide
    · refine ⟨?_, (ne_of_isDigit digit (by decide)).symm⟩
      have code : 48 ≤ char.toNat := (Char.isDigit_iff_toNat.mp digit).1
      simp only [isBlank, Bool.or_eq_false_iff, decide_eq_false_iff_not]
      omega
  | fraction literal => exact readable.elim
  | string value =>
    obtain ⟨body, opens, -⟩ := quotes value
    exact ⟨_, body, opens, by decide, by decide⟩
  | array items => exact ⟨'[', _, rfl, by decide, by decide⟩
  | object members => exact ⟨'\x7b', _, rfl, by decide, by decide⟩

theorem skipBlanks_of_head {char : Char} {rest : List Char} (plain : isBlank char = false) :
    skipBlanks (char :: rest) = char :: rest := by
  simp [skipBlanks, plain]

theorem skipBlanks_compact (quotes : Quotes quote) {json : Json} (readable : Readable json)
    (rest : List Char) :
    skipBlanks (Json.compact quote json ++ rest) = Json.compact quote json ++ rest := by
  obtain ⟨char, more, listed, plain, -⟩ := head_compact quotes json readable
  rw [listed]
  exact skipBlanks_of_head plain

theorem scanName_quote (quotes : Quotes quote) (name : String) {json : Json}
    (readable : Readable json) (rest : List Char) :
    scanName (quote name ++ ':' :: (Json.compact quote json ++ rest)) =
      some (codePoints name, Json.compact quote json ++ rest) := by
  obtain ⟨body, opens, scanned⟩ := scanString_quote quotes name
  have colon : skipBlanks (':' :: (Json.compact quote json ++ rest)) =
      ':' :: (Json.compact quote json ++ rest) := skipBlanks_of_head (by decide)
  have opening : (Char.ofNat 0x22).toNat = 0x22 := by decide
  simp only [opens, List.cons_append, scanName, opening, if_true, scanned, colon,
    skipBlanks_compact quotes readable]

theorem nesting_pos (json : Json) : 0 < nesting json := by
  cases json <;> simp [nesting]

theorem exists_separated (first : List Char) (others : List (List Char)) :
    ∃ tail, Json.separated (first :: others) = first ++ tail := by
  cases others with
  | nil => exact ⟨[], by simp [Json.separated]⟩
  | cons second others => exact ⟨_, rfl⟩

theorem scanArray_of_items {scan : List Char → Option (Node × List Char)} {text : List Char}
    (blanks : skipBlanks text = text) (items : ∀ rest, text ≠ ']' :: rest) :
    scanArray scan text =
      (scanItems scan text.length text).map fun scanned => (.array scanned.1, scanned.2) := by
  unfold scanArray
  rw [blanks]
  split
  · next rest => exact absurd rfl (items rest)
  · rfl

theorem scanObject_of_members {scan : List Char → Option (Node × List Char)} {text : List Char}
    (blanks : skipBlanks text = text) (members : ∀ rest, text ≠ '\x7d' :: rest) :
    scanObject scan text =
      (scanMembers scan text.length text).map fun scanned => (.object scanned.1, scanned.2) := by
  unfold scanObject
  rw [blanks]
  split
  · next rest => exact absurd rfl (members rest)
  · rfl

theorem compactItems_cons (first second : Json) (others : List Json) :
    Json.separated (Json.compactItems quote (first :: second :: others)) =
      Json.compact quote first ++ ',' ::
        Json.separated (Json.compactItems quote (second :: others)) := rfl

theorem compactMembers_cons (first second : String × Json) (others : List (String × Json)) :
    Json.separated (Json.compactMembers quote (first :: second :: others)) =
      (quote first.1 ++ ':' :: Json.compact quote first.2) ++ ',' ::
        Json.separated (Json.compactMembers quote (second :: others)) := rfl

/-- An opening bracket starts the items up to the closing one. -/
theorem scanValue_array {depth : Nat} {text rest : List Char} {items : List Node}
    (blanks : skipBlanks text = text) (opens : ∀ rest, text ≠ ']' :: rest)
    (scanned : scanItems (scanValue depth) text.length text = some (items, rest)) :
    scanValue (depth + 1) ('[' :: text) = some (.array items, rest) := by
  have opening : ('[' : Char).toNat ≠ 0x22 := by decide
  simp only [scanValue, if_neg opening, if_true, scanArray_of_items blanks opens, scanned,
    Option.map_some]

/-- An opening brace starts the members up to the closing one. -/
theorem scanValue_object {depth : Nat} {text rest : List Char} {members : List (Text × Node)}
    (blanks : skipBlanks text = text) (opens : ∀ rest, text ≠ '\x7d' :: rest)
    (scanned : scanMembers (scanValue depth) text.length text = some (members, rest)) :
    scanValue (depth + 1) ('\x7b' :: text) = some (.object members, rest) := by
  have opening : ('\x7b' : Char).toNat ≠ 0x22 ∧ '\x7b' ≠ '[' := by decide
  simp only [scanValue, if_neg opening.1, if_neg opening.2, if_true,
    scanObject_of_members blanks opens, scanned, Option.map_some]

/-- A scanner that reads back the value wherever a value may end. -/
def ReadsBack (quote : String → List Char) (scan : List Char → Option (Node × List Char))
    (json : Json) : Prop :=
  Readable json ∧ ∀ rest, Stops rest → scan (Json.compact quote json ++ rest) = some (ofJson json, rest)

variable {scan : List Char → Option (Node × List Char)}

theorem skipBlanks_items (quotes : Quotes quote) {first : Json} (others : List Json)
    (readable : Readable first) (rest : List Char) :
    skipBlanks (Json.separated (Json.compactItems quote (first :: others)) ++ rest) =
      Json.separated (Json.compactItems quote (first :: others)) ++ rest := by
  obtain ⟨tail, starts⟩ := exists_separated (Json.compact quote first)
    (Json.compactItems quote others)
  rw [Json.compactItems, starts, List.append_assoc]
  exact skipBlanks_compact quotes readable _

theorem skipBlanks_members (quotes : Quotes quote) (first : String × Json)
    (others : List (String × Json)) (rest : List Char) :
    skipBlanks (Json.separated (Json.compactMembers quote (first :: others)) ++ rest) =
      Json.separated (Json.compactMembers quote (first :: others)) ++ rest := by
  obtain ⟨tail, starts⟩ := exists_separated (quote first.1 ++ ':' :: Json.compact quote first.2)
    (Json.compactMembers quote others)
  obtain ⟨body, opens, -⟩ := quotes first.1
  rw [Json.compactMembers, starts, opens]
  exact skipBlanks_of_head (by decide)

theorem scanItems_compact (quotes : Quotes quote) (rest : List Char) (items : List Json) :
    ∀ (first : Json) (fuel : Nat), (∀ item ∈ first :: items, ReadsBack quote scan item) →
      (Json.separated (Json.compactItems quote (first :: items)) ++ ']' :: rest).length ≤ fuel →
      scanItems scan fuel
        (Json.separated (Json.compactItems quote (first :: items)) ++ ']' :: rest) =
          some (ofItems (first :: items), rest) := by
  induction items with
  | nil =>
    intro first fuel reads enough
    obtain ⟨-, item⟩ := reads first List.mem_cons_self
    simp only [Json.compactItems, Json.separated, List.length_append, List.length_cons] at enough ⊢
    obtain ⟨fuel, rfl⟩ : ∃ fuel', fuel = fuel' + 1 := ⟨fuel - 1, by omega⟩
    have closed : skipBlanks (']' :: rest) = ']' :: rest := skipBlanks_of_head (by decide)
    simp only [scanItems, item _ (stops_cons rest (Or.inr (Or.inl rfl))), closed, ofItems]
  | cons second others ih =>
    intro first fuel reads enough
    obtain ⟨-, item⟩ := reads first List.mem_cons_self
    obtain ⟨readable, -⟩ := reads second (by simp)
    rw [compactItems_cons] at enough ⊢
    simp only [List.length_append, List.length_cons] at enough
    obtain ⟨fuel, rfl⟩ : ∃ fuel', fuel = fuel' + 1 := ⟨fuel - 1, by omega⟩
    have later := ih second fuel (fun item member => reads item (List.mem_cons_of_mem _ member))
      (by simp only [List.length_append, List.length_cons]; omega)
    have comma (text : List Char) : skipBlanks (',' :: text) = ',' :: text :=
      skipBlanks_of_head (by decide)
    simp only [List.append_assoc, List.cons_append, scanItems, item _ (stops_cons _ (Or.inl rfl)),
      comma, skipBlanks_items quotes others readable, later, Option.map_some, ofItems]

theorem scanMembers_compact (quotes : Quotes quote) (rest : List Char)
    (members : List (String × Json)) :
    ∀ (first : String × Json) (fuel : Nat),
      (∀ member ∈ first :: members, ReadsBack quote scan member.2) →
      (Json.separated (Json.compactMembers quote (first :: members)) ++ '\x7d' :: rest).length ≤ fuel →
      scanMembers scan fuel
        (Json.separated (Json.compactMembers quote (first :: members)) ++ '\x7d' :: rest) =
          some (ofMembers (first :: members), rest) := by
  induction members with
  | nil =>
    intro first fuel reads enough
    obtain ⟨readable, member⟩ := reads first List.mem_cons_self
    simp only [Json.compactMembers, Json.separated, List.length_append, List.length_cons] at enough ⊢
    obtain ⟨fuel, rfl⟩ : ∃ fuel', fuel = fuel' + 1 := ⟨fuel - 1, by omega⟩
    have closed : skipBlanks ('\x7d' :: rest) = '\x7d' :: rest := skipBlanks_of_head (by decide)
    simp only [List.append_assoc, List.cons_append, scanMembers, scanName_quote quotes _ readable,
      member _ (stops_cons rest (Or.inr (Or.inr rfl))), closed, ofMembers]
  | cons second others ih =>
    intro first fuel reads enough
    obtain ⟨readable, member⟩ := reads first List.mem_cons_self
    rw [compactMembers_cons] at enough ⊢
    simp only [List.length_append, List.length_cons] at enough
    obtain ⟨fuel, rfl⟩ : ∃ fuel', fuel = fuel' + 1 := ⟨fuel - 1, by omega⟩
    have later := ih second fuel (fun item member => reads item (List.mem_cons_of_mem _ member))
      (by simp only [List.length_append, List.length_cons]; omega)
    have comma (text : List Char) : skipBlanks (',' :: text) = ',' :: text :=
      skipBlanks_of_head (by decide)
    simp only [List.append_assoc, List.cons_append, scanMembers, scanName_quote quotes _ readable,
      member _ (stops_cons _ (Or.inl rfl)), comma, skipBlanks_members quotes, later,
      Option.map_some, ofMembers]

theorem readable_item {items : List Json} (readable : ReadableItems items) :
    ∀ item ∈ items, Readable item ∧ nesting item ≤ nestingItems items := by
  induction items with
  | nil => simp
  | cons first others ih =>
    intro item member
    rw [nestingItems]
    rcases List.mem_cons.mp member with rfl | later
    · exact ⟨readable.1, by omega⟩
    · obtain ⟨readable', within⟩ := ih readable.2 item later
      exact ⟨readable', by omega⟩

theorem readable_member {members : List (String × Json)} (readable : ReadableMembers members) :
    ∀ member ∈ members, Readable member.2 ∧ nesting member.2 ≤ nestingMembers members := by
  induction members with
  | nil => simp
  | cons first others ih =>
    obtain ⟨name, value⟩ := first
    intro member listed
    rw [nestingMembers]
    rcases List.mem_cons.mp listed with rfl | later
    · exact ⟨readable.1, by simp only []; omega⟩
    · obtain ⟨readable', within⟩ := ih readable.2 member later
      exact ⟨readable', by omega⟩

/-- By induction on the depth: a value's parts are nested less deeply. -/
theorem scanValue_compact (quotes : Quotes quote) {depth : Nat} :
    ∀ (json : Json) (rest : List Char), Readable json → nesting json ≤ depth → Stops rest →
      scanValue depth (Json.compact quote json ++ rest) = some (ofJson json, rest) := by
  induction depth with
  | zero =>
    intro json _ _ deep
    have positive := nesting_pos json
    omega
  | succ depth ih =>
    intro json rest readable deep stops
    cases json with
    | null => rfl
    | bool value => cases value <;> rfl
    | number value => exact scanValue_decimal depth stops readable
    | fraction literal => exact readable.elim
    | string value =>
      obtain ⟨body, opens, scanned⟩ := scanString_quote quotes value
      have opening : (Char.ofNat 0x22).toNat = 0x22 := by decide
      simp only [Json.compact, opens, List.cons_append, scanValue, opening, if_true, scanned,
        Option.map_some, ofJson]
    | array items =>
      cases items with
      | nil => rfl
      | cons first others =>
        simp only [nesting] at deep
        have reads : ∀ item ∈ first :: others, ReadsBack quote (scanValue depth) item := by
          intro item member
          obtain ⟨readable', within⟩ := readable_item readable item member
          exact ⟨readable', fun rest stops => ih item rest readable' (by omega) stops⟩
        have items := scanItems_compact quotes rest others first _ reads (Nat.le_refl _)
        obtain ⟨tail, starts⟩ := exists_separated (Json.compact quote first)
          (Json.compactItems quote others)
        obtain ⟨char, more, listed, -, unclosed⟩ := head_compact quotes first readable.1
        rw [Json.compact, List.append_assoc, List.cons_append, ofJson]
        apply scanValue_array (skipBlanks_items quotes others readable.1 _) _ items
        intro rest closed
        rw [Json.compactItems, starts, listed] at closed
        exact unclosed (List.cons.inj closed).1
    | object members =>
      cases members with
      | nil => rfl
      | cons first others =>
        simp only [nesting] at deep
        have reads : ∀ member ∈ first :: others, ReadsBack quote (scanValue depth) member.2 := by
          intro member listed
          obtain ⟨readable', within⟩ := readable_member readable member listed
          exact ⟨readable', fun rest stops => ih member.2 rest readable' (by omega) stops⟩
        have members := scanMembers_compact quotes rest others first _ reads (Nat.le_refl _)
        obtain ⟨tail, starts⟩ := exists_separated (quote first.1 ++ ':' :: Json.compact quote first.2)
          (Json.compactMembers quote others)
        obtain ⟨body, opens, -⟩ := quotes first.1
        rw [Json.compact, List.append_assoc, List.cons_append, ofJson]
        apply scanValue_object (skipBlanks_members quotes first others _) _ members
        intro rest closed
        rw [Json.compactMembers, starts, opens] at closed
        exact absurd (List.cons.inj closed).1 (by decide)

/-- A compact text is read as what was written. -/
theorem parse_compact (quotes : Quotes quote) {json : Json} (readable : Readable json) :
    parse (Json.compact quote json) = some (ofJson json) := by
  have read := scanValue_compact quotes json [] readable (Nat.le_refl _) stops_nil
  have plain := skipBlanks_compact quotes readable []
  rw [List.append_nil] at read plain
  rw [← plain] at read
  exact parse_of_scanValue read rfl

/-! ## Values of trees -/

theorem textOf_codePoints (text : String) : textOf (codePoints text) = text := by
  simp [textOf, codePoints, Function.comp_def]

mutual

/-- The value that a tree is of. -/
def valueOf : Node → Json
  | .null => .null
  | .bool value => .bool value
  | .int value => .number value
  | .float literal => .fraction (String.ofList literal)
  | .string text => .string (textOf text)
  | .array items => .array (valuesOf items)
  | .object members => .object (membersOf members)

def valuesOf : List Node → List Json
  | [] => []
  | item :: rest => valueOf item :: valuesOf rest

def membersOf : List (Text × Node) → List (String × Json)
  | [] => []
  | (name, value) :: rest => (textOf name, valueOf value) :: membersOf rest

end

mutual

theorem valueOf_ofJson : ∀ json : Json, valueOf (ofJson json) = json
  | .null | .bool _ | .number _ => rfl
  | .fraction literal => by rw [ofJson, valueOf, String.ofList_toList]
  | .string value => by rw [ofJson, valueOf, textOf_codePoints]
  | .array items => by rw [ofJson, valueOf, valuesOf_ofItems items]
  | .object members => by rw [ofJson, valueOf, membersOf_ofMembers members]

theorem valuesOf_ofItems : ∀ items : List Json, valuesOf (ofItems items) = items
  | [] => rfl
  | item :: rest => by rw [ofItems, valuesOf, valueOf_ofJson item, valuesOf_ofItems rest]

theorem membersOf_ofMembers : ∀ members : List (String × Json), membersOf (ofMembers members) = members
  | [] => rfl
  | (name, value) :: rest => by
    rw [ofMembers, membersOf, textOf_codePoints, valueOf_ofJson value, membersOf_ofMembers rest]

end

theorem readableMembers_insert {name : String} {value : Json} (readable : Readable value)
    {members : Json.Members} (before : ReadableMembers members) :
    ReadableMembers (Json.insert name value members) := by
  induction members with
  | nil => exact ⟨readable, trivial⟩
  | cons first rest ih =>
    rw [Json.insert]
    split
    · exact ⟨readable, before.2⟩
    · split
      · exact ⟨readable, before⟩
      · exact ⟨before.1, ih before.2⟩

theorem readableMembers_ofMembers {members : Json.Members} (readable : ReadableMembers members) :
    ReadableMembers (Json.ofMembers members) := by
  suffices folded : ∀ (rest built : Json.Members), ReadableMembers rest → ReadableMembers built →
      ReadableMembers (rest.foldl (fun built member => Json.insert member.1 member.2 built) built) from
    folded members [] readable trivial
  intro rest
  induction rest with
  | nil => exact fun _ _ built => built
  | cons first rest ih =>
    exact fun built more readable => ih _ more.2 (readableMembers_insert more.1 readable)

end EpicKfc.Lib.JsonText
