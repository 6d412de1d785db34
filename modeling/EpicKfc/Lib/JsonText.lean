import EpicKfc.Lib.Json

/-!
# Reading JSON texts

The syntax tree of a text, with its members in the order of the text and names
repeated as often as they are there, and the reader that finds it. Strings are
code points: an escape can name half of a surrogate pair. `NaN` and the
infinities are read too, and an integer has a limited number of digits.
-/

namespace EpicKfc.Lib.JsonText

abbrev Text := List Nat

def textOf (text : Text) : String := String.ofList (text.map Char.ofNat)

inductive Node where
  | null
  | bool (value : Bool)
  | int (value : Int)
  /-- A number that is not an integer, with its text. -/
  | float (literal : List Char)
  | string (text : Text)
  | array (items : List Node)
  | object (members : List (Text × Node))
deriving Repr

/-! ## Strings -/

def hexValue (char : Char) : Option Nat :=
  let code := char.toNat
  if 48 ≤ code ∧ code ≤ 57 then some (code - 48)
  else if 97 ≤ code ∧ code ≤ 102 then some (code - 87)
  else if 65 ≤ code ∧ code ≤ 70 then some (code - 55)
  else none

/-- The escapes of one character after the backslash. -/
def shortEscapes : List (Char × Nat) := [
  (Char.ofNat 0x22, 0x22), ('\\', 0x5c), ('/', 0x2f), ('b', 0x08), ('f', 0x0c), ('n', 0x0a),
  ('r', 0x0d), ('t', 0x09)]

inductive StringState where
  | plain
  | escaped
  /-- Digits of a four-digit escape still to come, and the value read so far. -/
  | hex (left read : Nat)

/-- A code point before those already read. -/
def push (unit : Nat) (scanned : Text × List Char) : Text × List Char :=
  (unit :: scanned.1, scanned.2)

/-- The code points up to the closing quote, and the text after it. -/
def scanUnits : StringState → List Char → Option (Text × List Char)
  | _, [] => none
  | .plain, char :: rest =>
    if char.toNat = 0x22 then some ([], rest)
    else if char.toNat = 0x5c then scanUnits .escaped rest
    else if char.toNat < 0x20 then none
    else (scanUnits .plain rest).map (push char.toNat)
  | .escaped, char :: rest =>
    if char = 'u' then scanUnits (.hex 3 0) rest
    else match shortEscapes.lookup char with
      | some unit => (scanUnits .plain rest).map (push unit)
      | none => none
  | .hex left read, char :: rest =>
    match hexValue char, left with
    | none, _ => none
    | some digit, 0 => (scanUnits .plain rest).map (push (read * 16 + digit))
    | some digit, left + 1 => scanUnits (.hex left (read * 16 + digit)) rest

def isHighSurrogate (unit : Nat) : Bool := 0xd800 ≤ unit && unit ≤ 0xdbff

def isLowSurrogate (unit : Nat) : Bool := 0xdc00 ≤ unit && unit ≤ 0xdfff

/-- Surrogates come from escapes alone; two that fit are one character. -/
def joinPairs : Text → Text
  | [] => []
  | [last] => [last]
  | high :: low :: rest =>
    if isHighSurrogate high && isLowSurrogate low then
      (0x10000 + (high - 0xd800) * 0x400 + (low - 0xdc00)) :: joinPairs rest
    else high :: joinPairs (low :: rest)

/-- The string after an opening quote. -/
def scanString (text : List Char) : Option (Text × List Char) :=
  (scanUnits .plain text).map fun scanned => (joinPairs scanned.1, scanned.2)

/-! ## Numbers -/

/-- The digits at the head of a text, and the rest. -/
def takeDigits (text : List Char) : List Char × List Char :=
  (text.takeWhile Char.isDigit, text.dropWhile Char.isDigit)

/-- A leading zero stands alone. -/
def takeInteger : List Char → List Char × List Char
  | '0' :: rest => (['0'], rest)
  | text => takeDigits text

/-- A point with digits after it, or nothing. -/
def takeFraction : List Char → List Char × List Char
  | '.' :: rest =>
    let (digits, after) := takeDigits rest
    if digits = [] then ([], '.' :: rest) else ('.' :: digits, after)
  | text => ([], text)

def takeSign : List Char → List Char × List Char
  | '+' :: rest => (['+'], rest)
  | '-' :: rest => (['-'], rest)
  | text => ([], text)

/-- An `e` with digits after it, or nothing. -/
def takeExponent : List Char → List Char × List Char
  | [] => ([], [])
  | char :: rest =>
    if char = 'e' ∨ char = 'E' then
      let (sign, unsigned) := takeSign rest
      let (digits, after) := takeDigits unsigned
      if digits = [] then ([], char :: rest) else (char :: sign ++ digits, after)
    else ([], char :: rest)

def maxIntegerDigits : Nat := 4300

def takeMinus : List Char → Bool × List Char
  | '-' :: rest => (true, rest)
  | text => (false, text)

def scanNumber (text : List Char) : Option (Node × List Char) :=
  let (negative, unsigned) := takeMinus text
  let (digits, afterDigits) := takeInteger unsigned
  let (fraction, afterFraction) := takeFraction afterDigits
  let (exponent, rest) := takeExponent afterFraction
  if digits = [] then none
  else if fraction = [] ∧ exponent = [] then
    if maxIntegerDigits < digits.length then none
    else
      let value : Int := Nat.ofDigitChars 10 digits 0
      some (.int (if negative then -value else value), rest)
  else some (.float ((if negative then ['-'] else []) ++ digits ++ fraction ++ exponent), rest)

/-! ## Values -/

def isBlank (char : Char) : Bool :=
  char.toNat = 0x20 || char.toNat = 0x09 || char.toNat = 0x0a || char.toNat = 0x0d

def skipBlanks (text : List Char) : List Char := text.dropWhile isBlank

def keywords : List (List Char × Node) := [
  (['n', 'u', 'l', 'l'], .null),
  (['t', 'r', 'u', 'e'], .bool true),
  (['f', 'a', 'l', 's', 'e'], .bool false),
  (['N', 'a', 'N'], .float ['N', 'a', 'N']),
  (['I', 'n', 'f', 'i', 'n', 'i', 't', 'y'], .float ['I', 'n', 'f', 'i', 'n', 'i', 't', 'y']),
  (['-', 'I', 'n', 'f', 'i', 'n', 'i', 't', 'y'],
    .float ['-', 'I', 'n', 'f', 'i', 'n', 'i', 't', 'y'])]

def scanKeyword (text : List Char) : Option (Node × List Char) :=
  keywords.findSome? fun keyword =>
    if keyword.1.isPrefixOf text then some (keyword.2, text.drop keyword.1.length) else none

/-- The items up to the closing bracket, each read by `scan`. -/
def scanItems (scan : List Char → Option (Node × List Char)) :
    Nat → List Char → Option (List Node × List Char)
  | 0, _ => none
  | fuel + 1, text =>
    match scan text with
    | none => none
    | some (item, after) =>
      match skipBlanks after with
      | ']' :: rest => some ([item], rest)
      | ',' :: rest =>
        (scanItems scan fuel (skipBlanks rest)).map fun scanned => (item :: scanned.1, scanned.2)
      | _ => none

/-- The name of a member, up to its value. -/
def scanName : List Char → Option (Text × List Char)
  | [] => none
  | char :: rest =>
    if char.toNat = 0x22 then
      match scanString rest with
      | none => none
      | some (name, after) =>
        match skipBlanks after with
        | ':' :: rest => some (name, skipBlanks rest)
        | _ => none
    else none

/-- The members up to the closing brace. -/
def scanMembers (scan : List Char → Option (Node × List Char)) :
    Nat → List Char → Option (List (Text × Node) × List Char)
  | 0, _ => none
  | fuel + 1, text =>
    match scanName text with
    | none => none
    | some (name, valueText) =>
      match scan valueText with
      | none => none
      | some (value, after) =>
        match skipBlanks after with
        | '\x7d' :: rest => some ([(name, value)], rest)
        | ',' :: rest =>
          (scanMembers scan fuel (skipBlanks rest)).map fun scanned =>
            ((name, value) :: scanned.1, scanned.2)
        | _ => none

def scanArray (scan : List Char → Option (Node × List Char)) (text : List Char) :
    Option (Node × List Char) :=
  match skipBlanks text with
  | ']' :: rest => some (.array [], rest)
  | items => (scanItems scan items.length items).map fun scanned => (.array scanned.1, scanned.2)

def scanObject (scan : List Char → Option (Node × List Char)) (text : List Char) :
    Option (Node × List Char) :=
  match skipBlanks text with
  | '\x7d' :: rest => some (.object [], rest)
  | members =>
    (scanMembers scan members.length members).map fun scanned => (.object scanned.1, scanned.2)

/-- One value at the head of a text, `depth` values deep at most. -/
def scanValue : Nat → List Char → Option (Node × List Char)
  | 0, _ => none
  | _ + 1, [] => none
  | depth + 1, char :: rest =>
    if char.toNat = 0x22 then
      (scanString rest).map fun scanned => (.string scanned.1, scanned.2)
    else if char = '[' then scanArray (scanValue depth) rest
    else if char = '\x7b' then scanObject (scanValue depth) rest
    else (scanKeyword (char :: rest)).or (scanNumber (char :: rest))

/-- The tree of a text that is one value between blanks. -/
def parse (text : List Char) : Option Node :=
  match scanValue text.length (skipBlanks text) with
  | some (node, rest) => if skipBlanks rest = [] then some node else none
  | none => none

/-! ## Progress

Each reader leaves less text than it was given, so the length of a text is enough
fuel and depth for it: whatever is read at some depth is what `parse` reads. -/

/-- What is read is a proper beginning. -/
def Shrinks {α : Type} (scan : List Char → Option (α × List Char)) : Prop :=
  ∀ text value rest, scan text = some (value, rest) → rest.length < text.length

theorem length_skipBlanks_le (text : List Char) : (skipBlanks text).length ≤ text.length :=
  (List.dropWhile_sublist isBlank).length_le

theorem length_scanUnits (text : List Char) (state : StringState) (units : Text) (rest : List Char)
    (scanned : scanUnits state text = some (units, rest)) : rest.length < text.length := by
  induction text generalizing state units rest with
  | nil => simp [scanUnits] at scanned
  | cons char tail ih =>
    have pushed (unit : Nat)
        (found : (scanUnits .plain tail).map (push unit) = some (units, rest)) :
        rest.length < (char :: tail).length := by
      obtain ⟨⟨units', rest'⟩, later, same⟩ := Option.map_eq_some_iff.mp found
      have shorter := ih .plain units' rest' later
      simp only [push, Prod.mk.injEq] at same
      rw [← same.2, List.length_cons]
      omega
    have stepped (state' : StringState) (found : scanUnits state' tail = some (units, rest)) :
        rest.length < (char :: tail).length := by
      have shorter := ih state' units rest found
      rw [List.length_cons]
      omega
    cases state with
    | plain =>
      rw [scanUnits] at scanned
      split_ifs at scanned
      · simp only [Option.some.injEq, Prod.mk.injEq] at scanned
        simp [← scanned.2]
      · exact stepped _ scanned
      · exact pushed _ scanned
    | escaped =>
      rw [scanUnits] at scanned
      split at scanned
      · exact stepped _ scanned
      · split at scanned
        · exact pushed _ scanned
        · cases scanned
    | hex left read =>
      unfold scanUnits at scanned
      split at scanned
      · cases scanned
      · exact pushed _ scanned
      · exact stepped _ scanned

theorem shrinks_scanString : Shrinks scanString := by
  intro text value rest scanned
  obtain ⟨⟨units, rest'⟩, found, same⟩ := Option.map_eq_some_iff.mp scanned
  simp only [Prod.mk.injEq] at same
  rw [← same.2]
  exact length_scanUnits text .plain units rest' found

theorem length_takeDigits (text : List Char) :
    (takeDigits text).1.length + (takeDigits text).2.length = text.length := by
  rw [takeDigits, ← List.length_append, List.takeWhile_append_dropWhile]

theorem length_takeInteger (text : List Char) :
    (takeInteger text).1.length + (takeInteger text).2.length = text.length := by
  unfold takeInteger
  split
  · simp [Nat.add_comm]
  · exact length_takeDigits text

theorem length_takeFraction_le (text : List Char) : (takeFraction text).2.length ≤ text.length := by
  unfold takeFraction
  split
  · next rest =>
    have digits := length_takeDigits rest
    simp only []
    split
    · simp
    · simp only [List.length_cons]
      omega
  · simp

theorem length_takeSign_le (text : List Char) : (takeSign text).2.length ≤ text.length := by
  unfold takeSign
  split <;> simp

theorem length_takeExponent_le (text : List Char) : (takeExponent text).2.length ≤ text.length := by
  cases text with
  | nil => simp [takeExponent]
  | cons char rest =>
    have sign := length_takeSign_le rest
    have digits := length_takeDigits (takeSign rest).2
    simp only [takeExponent]
    split_ifs
    · simp
    · simp only [List.length_cons]
      omega
    · simp

theorem length_takeMinus_le (text : List Char) : (takeMinus text).2.length ≤ text.length := by
  unfold takeMinus
  split <;> simp

theorem shrinks_scanNumber : Shrinks scanNumber := by
  intro text value rest scanned
  have minus := length_takeMinus_le text
  have integer := length_takeInteger (takeMinus text).2
  have fraction := length_takeFraction_le (takeInteger (takeMinus text).2).2
  have exponent :=
    length_takeExponent_le (takeFraction (takeInteger (takeMinus text).2).2).2
  simp only [scanNumber] at scanned
  split_ifs at scanned with empty
  all_goals
    have digits := List.length_pos_iff.mpr empty
    simp only [Option.some.injEq, Prod.mk.injEq] at scanned
    rw [← scanned.2]
    omega

theorem shrinks_scanKeyword : Shrinks scanKeyword := by
  intro text value rest scanned
  obtain ⟨before, keyword, after, listed, found, -⟩ := List.findSome?_eq_some_iff.mp scanned
  have member : keyword ∈ keywords := by simp [listed]
  have nonempty : ∀ keyword ∈ keywords, 0 < keyword.1.length := by
    simp [keywords]
  have positive := nonempty keyword member
  split_ifs at found with starts
  have fits := (List.isPrefixOf_iff_prefix.mp starts).length_le
  simp only [Option.some.injEq, Prod.mk.injEq] at found
  rw [← found.2, List.length_drop]
  omega

variable {scan scan' : List Char → Option (Node × List Char)}

theorem shrinks_scanName : Shrinks scanName := by
  intro text value rest scanned
  cases text with
  | nil => cases scanned
  | cons char tail =>
    simp only [scanName] at scanned
    split_ifs at scanned
    split at scanned
    · cases scanned
    · next name after named =>
      have shorter := shrinks_scanString tail name after named
      have blanks := length_skipBlanks_le after
      split at scanned
      · next colon =>
        simp only [Option.some.injEq, Prod.mk.injEq] at scanned
        have blanks' := length_skipBlanks_le
        rw [colon, List.length_cons] at blanks
        rw [← scanned.2, List.length_cons]
        have last := blanks' (List.tail (skipBlanks after))
        rw [colon, List.tail_cons] at last
        omega
      · cases scanned

/-- What a scanner reads, another reads the same way, on texts up to a length. -/
def AgreesUpTo (length : Nat) (scan scan' : List Char → Option (Node × List Char)) : Prop :=
  ∀ text, text.length ≤ length → ∀ result, scan text = some result → scan' text = some result

theorem AgreesUpTo.mono {length length' : Nat} (agrees : AgreesUpTo length scan scan')
    (le : length' ≤ length) : AgreesUpTo length' scan scan' :=
  fun text bound => agrees text (bound.trans le)

theorem scanItems_extends (shrinks : Shrinks scan) {fuel : Nat} :
    ∀ {text : List Char} {fuel' : Nat} {items : List Node} {rest : List Char},
      AgreesUpTo text.length scan scan' → text.length ≤ fuel' →
      scanItems scan fuel text = some (items, rest) →
      scanItems scan' fuel' text = some (items, rest) ∧ rest.length < text.length := by
  induction fuel with
  | zero => intro _ _ _ _ _ _ found; cases found
  | succ fuel ih =>
    intro text fuel' items rest agrees enough found
    rw [scanItems] at found
    split at found
    · cases found
    · next item after scanned =>
      have shorter := shrinks text item after scanned
      have same := agrees text (Nat.le_refl _) _ scanned
      have blanks := length_skipBlanks_le after
      obtain ⟨fuel', rfl⟩ : ∃ fuel'', fuel' = fuel'' + 1 := ⟨fuel' - 1, by omega⟩
      simp only [scanItems, same]
      split at found
      · next closed =>
        simp only [Option.some.injEq, Prod.mk.injEq] at found
        rw [closed, List.length_cons] at blanks
        rw [← found.2, ← found.1]
        exact ⟨rfl, by omega⟩
      · next later comma =>
        rw [comma, List.length_cons] at blanks
        have blanks' := length_skipBlanks_le later
        obtain ⟨⟨items', rest'⟩, inner, same'⟩ := Option.map_eq_some_iff.mp found
        simp only [Prod.mk.injEq] at same'
        obtain ⟨again, least⟩ := @ih (skipBlanks later) fuel' items' rest'
          (agrees.mono (by omega)) (by omega) inner
        simp only [again, Option.map_some, same'.1, ← same'.2, true_and]
        omega
      · cases found

theorem scanMembers_extends (shrinks : Shrinks scan) {fuel : Nat} :
    ∀ {text : List Char} {fuel' : Nat} {members : List (Text × Node)} {rest : List Char},
      AgreesUpTo text.length scan scan' → text.length ≤ fuel' →
      scanMembers scan fuel text = some (members, rest) →
      scanMembers scan' fuel' text = some (members, rest) ∧ rest.length < text.length := by
  induction fuel with
  | zero => intro _ _ _ _ _ _ found; cases found
  | succ fuel ih =>
    intro text fuel' members rest agrees enough found
    rw [scanMembers] at found
    split at found
    · cases found
    · next name valueText named =>
      have shorter := shrinks_scanName text name valueText named
      split at found
      · cases found
      · next value after scanned =>
        have shorter' := shrinks valueText value after scanned
        have same := agrees valueText (by omega) _ scanned
        have blanks := length_skipBlanks_le after
        obtain ⟨fuel', rfl⟩ : ∃ fuel'', fuel' = fuel'' + 1 := ⟨fuel' - 1, by omega⟩
        simp only [scanMembers, named, same]
        split at found
        · next closed =>
          simp only [Option.some.injEq, Prod.mk.injEq] at found
          rw [closed, List.length_cons] at blanks
          rw [← found.2, ← found.1]
          exact ⟨rfl, by omega⟩
        · next later comma =>
          rw [comma, List.length_cons] at blanks
          have blanks' := length_skipBlanks_le later
          obtain ⟨⟨members', rest'⟩, inner, same'⟩ := Option.map_eq_some_iff.mp found
          simp only [Prod.mk.injEq] at same'
          obtain ⟨again, least⟩ := @ih (skipBlanks later) fuel' members' rest'
            (agrees.mono (by omega)) (by omega) inner
          simp only [again, Option.map_some, same'.1, ← same'.2, true_and]
          omega
        · cases found

theorem scanArray_extends (shrinks : Shrinks scan) {text : List Char} {node : Node}
    {rest : List Char} (agrees : AgreesUpTo text.length scan scan')
    (found : scanArray scan text = some (node, rest)) :
    scanArray scan' text = some (node, rest) ∧ rest.length < text.length := by
  have blanks := length_skipBlanks_le text
  unfold scanArray at found ⊢
  split at found
  · next closed =>
    simp only [Option.some.injEq, Prod.mk.injEq] at found
    rw [closed, List.length_cons] at blanks
    rw [← found.2]
    exact ⟨by simp [found], by omega⟩
  · obtain ⟨⟨items, rest'⟩, inner, same⟩ := Option.map_eq_some_iff.mp found
    simp only [Prod.mk.injEq] at same
    obtain ⟨again, least⟩ :=
      scanItems_extends shrinks (agrees.mono blanks) (Nat.le_refl _) inner
    rw [again, ← same.2]
    exact ⟨by simp [same], by omega⟩

theorem scanObject_extends (shrinks : Shrinks scan) {text : List Char} {node : Node}
    {rest : List Char} (agrees : AgreesUpTo text.length scan scan')
    (found : scanObject scan text = some (node, rest)) :
    scanObject scan' text = some (node, rest) ∧ rest.length < text.length := by
  have blanks := length_skipBlanks_le text
  unfold scanObject at found ⊢
  split at found
  · next closed =>
    simp only [Option.some.injEq, Prod.mk.injEq] at found
    rw [closed, List.length_cons] at blanks
    rw [← found.2]
    exact ⟨by simp [found], by omega⟩
  · obtain ⟨⟨members, rest'⟩, inner, same⟩ := Option.map_eq_some_iff.mp found
    simp only [Prod.mk.injEq] at same
    obtain ⟨again, least⟩ :=
      scanMembers_extends shrinks (agrees.mono blanks) (Nat.le_refl _) inner
    rw [again, ← same.2]
    exact ⟨by simp [same], by omega⟩

/-- A value read at some depth is read alike at every depth that the text's length allows. -/
theorem scanValue_extends {depth : Nat} : ∀ {depth' : Nat} {text : List Char} {node : Node}
    {rest : List Char}, text.length ≤ depth' → scanValue depth text = some (node, rest) →
      scanValue depth' text = some (node, rest) ∧ rest.length < text.length := by
  induction depth with
  | zero => intro _ _ _ _ _ found; cases found
  | succ depth ih =>
    intro depth' text node rest enough found
    cases text with
    | nil => cases found
    | cons char tail =>
      rw [List.length_cons] at enough
      obtain ⟨depth', rfl⟩ : ∃ depth'', depth' = depth'' + 1 := ⟨depth' - 1, by omega⟩
      have shrinks : Shrinks (scanValue depth) :=
        fun text node rest found => (ih (Nat.le_refl text.length) found).2
      have agrees : AgreesUpTo tail.length (scanValue depth) (scanValue depth') :=
        fun text bound result found => (ih (by omega) found).1
      rw [List.length_cons]
      unfold scanValue at found ⊢
      split_ifs at found ⊢
      · obtain ⟨⟨units, rest'⟩, inner, same⟩ := Option.map_eq_some_iff.mp found
        have shorter := shrinks_scanString tail units rest' inner
        simp only [Prod.mk.injEq] at same
        rw [← same.2]
        exact ⟨by simp [inner, same], by omega⟩
      · obtain ⟨again, shorter⟩ := scanArray_extends shrinks agrees found
        exact ⟨again, by omega⟩
      · obtain ⟨again, shorter⟩ := scanObject_extends shrinks agrees found
        exact ⟨again, by omega⟩
      · refine ⟨found, ?_⟩
        rw [← List.length_cons]
        obtain keyword | ⟨-, number⟩ := Option.or_eq_some_iff.mp found
        · exact shrinks_scanKeyword _ node rest keyword
        · exact shrinks_scanNumber _ node rest number

/-- Reading at any depth is reading at the depth of `parse`. -/
theorem parse_of_scanValue {depth : Nat} {text : List Char} {node : Node} {rest : List Char}
    (found : scanValue depth (skipBlanks text) = some (node, rest)) (ends : skipBlanks rest = []) :
    parse text = some node := by
  rw [parse, (scanValue_extends (length_skipBlanks_le text) found).1]
  simp only [ends, if_true]

end EpicKfc.Lib.JsonText
