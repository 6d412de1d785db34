import EpicKfc.Lib.KeyedList
import EpicKfc.Source.Server.WirePayloads
import Mathlib.Data.Rat.Floor

/-!
# Rate limits

`InMemoryRateLimiter` of `server/backend/app/core/rate_limit.py`. A key carries its
window, which the cleanup reads back with Python's `int`. Times are rationals.
-/

namespace EpicKfc.Source.Server.RateLimits
open EpicKfc.Lib
open EpicKfc.Lib.JsonText
open EpicKfc.Source.Server.WirePayloads

structure RateLimitRule where
  limit : Int
  windowSeconds : Int
deriving DecidableEq

structure WindowState where
  count : Int
  windowStartedAt : ℚ
deriving DecidableEq

inductive CheckError where
  | limitTooSmall
  | windowTooSmall
  | exceeded (retryAfter : Int)
deriving DecidableEq

def CheckError.text : CheckError → String
  | .limitTooSmall => "Rate limit must be at least 1."
  | .windowTooSmall => "Rate-limit window must be at least 1 second."
  | .exceeded _ => "Rate limit exceeded."

/-! ## Python's `int` of a text -/

/-- The zeros of Unicode's decimal digits. -/
def decimalZeros : List Nat :=
  [0x30, 0x660, 0x6f0, 0x7c0, 0x966, 0x9e6, 0xa66, 0xae6, 0xb66, 0xbe6, 0xc66, 0xce6, 0xd66, 0xde6,
    0xe50, 0xed0, 0xf20, 0x1040, 0x1090, 0x17e0, 0x1810, 0x1946, 0x19d0, 0x1a80, 0x1a90, 0x1b50,
    0x1bb0, 0x1c40, 0x1c50, 0xa620, 0xa8d0, 0xa900, 0xa9d0, 0xa9f0, 0xaa50, 0xabf0, 0xff10, 0x104a0,
    0x10d30, 0x11066, 0x110f0, 0x11136, 0x111d0, 0x112f0, 0x11450, 0x114d0, 0x11650, 0x116c0,
    0x11730, 0x118e0, 0x11950, 0x11c50, 0x11d50, 0x11da0, 0x16a60, 0x16ac0, 0x16b50, 0x1d7ce,
    0x1d7d8, 0x1d7e2, 0x1d7ec, 0x1d7f6, 0x1e140, 0x1e2f0, 0x1e950, 0x1fbf0]

def decimalOf (point : Nat) : Option Nat :=
  (decimalZeros.find? fun first => first ≤ point ∧ point < first + 10).map fun first => point - first

/-- The blanks `int` strips: not the separators below the space. -/
def isIntBlank (point : Nat) : Bool :=
  isSpace point && !(0x1c ≤ point && point ≤ 0x1f)

/-- Digits with single underscores between them. -/
def readDigits : Text → Option (List Nat)
  | [] => none
  | point :: rest =>
    match decimalOf point, rest with
    | none, _ => none
    | some digit, [] => some [digit]
    | some digit, next :: after =>
      if next = 0x5f then (readDigits after).map (digit :: ·)
      else (readDigits (next :: after)).map (digit :: ·)

def strip (text : Text) : Text :=
  ((text.dropWhile isIntBlank).reverse.dropWhile isIntBlank).reverse

def splitSign : Text → Bool × Text
  | [] => (false, [])
  | point :: rest =>
    if point = 0x2d then (true, rest) else if point = 0x2b then (false, rest)
    else (false, point :: rest)

def pythonInt (text : Text) : Option Int :=
  let (negative, unsigned) := splitSign (strip text)
  match readDigits unsigned with
  | none => none
  | some digits =>
    if maxIntegerDigits < digits.length then none
    else
      let magnitude : Nat := digits.foldl (fun value digit => 10 * value + digit) 0
      some (if negative then -magnitude else magnitude)

/-! ### A written number is read back -/

/-- The ASCII digits. -/
def isAsciiDigit (point : Nat) : Bool := 0x30 ≤ point && point ≤ 0x39

theorem decimalOf_ascii {point : Nat} (digit : isAsciiDigit point = true) :
    decimalOf point = some (point - 0x30) := by
  simp only [isAsciiDigit, Bool.and_eq_true, decide_eq_true_eq] at digit
  have here : decide (0x30 ≤ point ∧ point < 0x30 + 10) = true := by
    rw [decide_eq_true_eq]
    omega
  have listed : decimalZeros = 0x30 :: decimalZeros.tail := rfl
  rw [decimalOf, listed]
  simp only [List.find?_cons, here, Option.map_some]

theorem readDigits_ascii {points : Text} (nonempty : points ≠ [])
    (digits : ∀ point ∈ points, isAsciiDigit point = true) :
    readDigits points = some (points.map (· - 0x30)) := by
  induction points with
  | nil => exact absurd rfl nonempty
  | cons point rest ih =>
    have read := decimalOf_ascii (digits point List.mem_cons_self)
    cases rest with
    | nil => simp [readDigits, read]
    | cons next after =>
      have later := ih (by simp) fun other member => digits other (List.mem_cons_of_mem point member)
      have digit := digits next (by simp)
      have plain : next ≠ 0x5f := by
        simp only [isAsciiDigit, Bool.and_eq_true, decide_eq_true_eq] at digit
        omega
      rw [readDigits.eq_def]
      simp only [read, if_neg plain, later]
      simp

theorem isIntBlank_of_digit {point : Nat} (digit : isAsciiDigit point = true) :
    isIntBlank point = false := by
  simp only [isAsciiDigit, Bool.and_eq_true, decide_eq_true_eq] at digit
  simp only [isIntBlank, isSpace, Bool.and_eq_false_iff, Bool.or_eq_false_iff, Bool.and_eq_false_iff,
    decide_eq_false_iff_not]
  left
  omega

theorem strip_digits {points : Text} (digits : ∀ point ∈ points, isAsciiDigit point = true) :
    strip points = points := by
  have kept (shown : Text) (each : ∀ point ∈ shown, isAsciiDigit point = true) :
      shown.dropWhile isIntBlank = shown := by
    cases shown with
    | nil => rfl
    | cons point rest =>
      rw [List.dropWhile_cons_of_neg]
      simp [isIntBlank_of_digit (each point List.mem_cons_self)]
  rw [strip, kept points digits, kept points.reverse fun point member =>
    digits point (List.mem_reverse.mp member), List.reverse_reverse]

theorem splitSign_digits {points : Text} (digits : ∀ point ∈ points, isAsciiDigit point = true) :
    splitSign points = (false, points) := by
  cases points with
  | nil => rfl
  | cons point rest =>
    have digit := digits point List.mem_cons_self
    simp only [isAsciiDigit, Bool.and_eq_true, decide_eq_true_eq] at digit
    rw [splitSign, if_neg (by omega), if_neg (by omega)]

theorem isAsciiDigit_toDigits (value : Nat) :
    ∀ point ∈ (Nat.toDigits 10 value).map Char.toNat, isAsciiDigit point = true := by
  intro point member
  obtain ⟨char, belongs, rfl⟩ := List.mem_map.mp member
  have digit := Nat.isDigit_of_mem_toDigits (by decide) (by decide) belongs
  simpa [isAsciiDigit, Char.isDigit, UInt32.le_iff_toNat_le] using digit

theorem pythonInt_toDigits (value : Nat)
    (short : (Nat.toDigits 10 value).length ≤ maxIntegerDigits) :
    pythonInt ((Nat.toDigits 10 value).map Char.toNat) = some (value : Int) := by
  have digits := isAsciiDigit_toDigits value
  have magnitude : (((Nat.toDigits 10 value).map Char.toNat).map (· - 0x30)).foldl
      (fun value digit => 10 * value + digit) 0 = value := by
    rw [List.map_map, List.foldl_map]
    exact Nat.ofDigitChars_ten_toDigits
  rw [pythonInt, strip_digits digits, splitSign_digits digits]
  simp only [readDigits_ascii (by simp [Nat.toDigits_ne_nil]) digits, List.length_map]
  rw [if_neg (by omega), magnitude]
  simp

/-! ## Keys -/

def colon : Nat := 0x3a

def buildRateLimitKey (scope callerType callerId : Text) : Text :=
  scope ++ colon :: callerType ++ colon :: callerId

/-- An integer with too many digits has no text. -/
def buildWindowedKey (scope callerType callerId : Text) (rule : RateLimitRule) : Option Text :=
  if maxIntegerDigits < (Nat.toDigits 10 rule.windowSeconds.natAbs).length then none
  else some ((Json.decimal rule.windowSeconds).map Char.toNat ++
    colon :: buildRateLimitKey scope callerType callerId)

def windowSecondsFromKey (key : Text) : Int :=
  (pythonInt (key.takeWhile (· ≠ colon))).getD 1

/-- A key names the window it was built with. -/
theorem windowSecondsFromKey_windowed {scope callerType callerId : Text} {rule : RateLimitRule}
    {key : Text} (positive : 1 ≤ rule.windowSeconds)
    (built : buildWindowedKey scope callerType callerId rule = some key) :
    windowSecondsFromKey key = rule.windowSeconds := by
  unfold buildWindowedKey at built
  split at built
  · cases built
  · next short =>
    cases built
    have digits := isAsciiDigit_toDigits rule.windowSeconds.natAbs
    have before : ∀ point ∈ (Nat.toDigits 10 rule.windowSeconds.natAbs).map Char.toNat,
        decide (point ≠ colon) = true := by
      intro point member
      have digit := digits point member
      simp only [isAsciiDigit, Bool.and_eq_true, decide_eq_true_eq] at digit
      have other : point ≠ colon := by
        unfold colon
        omega
      simpa using other
    rw [windowSecondsFromKey, Json.decimal, if_neg (by omega), List.takeWhile_append_of_pos before,
      List.takeWhile_cons_of_neg (by simp), List.append_nil, pythonInt_toDigits _ (by omega),
      Option.getD_some]
    omega

/-! ## The limiter -/

/-- The dict of window states, in insertion order. -/
structure LimiterState where
  items : List (Text × WindowState)
  distinct : (items.map Prod.fst).Nodup

namespace LimiterState

def empty : LimiterState := ⟨[], List.nodup_nil⟩

def get (state : LimiterState) (key : Text) : Option WindowState :=
  (KeyedList.find Prod.fst key state.items).map Prod.snd

def set (state : LimiterState) (key : Text) (window : WindowState) : LimiterState where
  items := KeyedList.upsert Prod.fst (key, window) state.items
  distinct := KeyedList.nodup_upsertWith (fun _ _ => rfl) state.distinct

def pop (state : LimiterState) (key : Text) : LimiterState where
  items := state.items.filter fun item => item.1 ≠ key
  distinct := state.distinct.sublist (List.filter_sublist.map Prod.fst)

theorem get_set (state : LimiterState) (key other : Text) (window : WindowState) :
    (state.set key window).get other = if other = key then some window else state.get other := by
  rw [get, get, set, KeyedList.find_upsert]
  by_cases same : other = key
  · rw [if_pos same, if_pos same.symm]
    rfl
  · rw [if_neg same, if_neg (Ne.symm same)]

theorem get_pop (state : LimiterState) (key other : Text) :
    (state.pop key).get other = if other = key then none else state.get other := by
  rw [get, get, pop, KeyedList.find_filter_ne]
  split
  · rfl
  · rfl

theorem get_foldl_pop (keys : List Text) (other : Text) : ∀ state : LimiterState,
    (keys.foldl pop state).get other = if other ∈ keys then none else state.get other := by
  induction keys with
  | nil => simp
  | cons key rest ih =>
    intro state
    rw [List.foldl_cons, ih, get_pop]
    by_cases same : other = key
    · simp [same]
    · simp [same]

/-- An item of the dict is the one found under its key. -/
theorem get_iff_mem {state : LimiterState} {key : Text} {window : WindowState} :
    state.get key = some window ↔ (key, window) ∈ state.items := by
  rw [get, Option.map_eq_some_iff]
  constructor
  · rintro ⟨item, found, rfl⟩
    obtain ⟨member, rfl⟩ := KeyedList.find_some found
    exact member
  · intro member
    exact ⟨(key, window), KeyedList.find_of_mem state.distinct member, rfl⟩

end LimiterState

def cleanupExpired (now : ℚ) (state : LimiterState) : LimiterState :=
  let expired := state.items.filter fun item =>
    item.2.windowStartedAt + windowSecondsFromKey item.1 ≤ now
  (expired.map Prod.fst).foldl LimiterState.pop state

/-- The cleanup removes the windows that are over by the length their key names. -/
theorem get_cleanupExpired (now : ℚ) (state : LimiterState) (key : Text) :
    (cleanupExpired now state).get key = (state.get key).filter fun window =>
      !decide (window.windowStartedAt + windowSecondsFromKey key ≤ now) := by
  rw [cleanupExpired, LimiterState.get_foldl_pop]
  cases stored : state.get key with
  | none => simp
  | some window =>
    have listed : key ∈ (state.items.filter fun item =>
        decide (item.2.windowStartedAt + windowSecondsFromKey item.1 ≤ now)).map Prod.fst ↔
        window.windowStartedAt + windowSecondsFromKey key ≤ now := by
      simp only [List.mem_map, List.mem_filter, decide_eq_true_eq]
      constructor
      · rintro ⟨⟨here, found⟩, ⟨member, elapsed⟩, rfl⟩
        rw [LimiterState.get_iff_mem.mpr member, Option.some.injEq] at stored
        exact stored ▸ elapsed
      · intro elapsed
        exact ⟨(key, window), ⟨LimiterState.get_iff_mem.mp stored, elapsed⟩, rfl⟩
    by_cases elapsed : window.windowStartedAt + windowSecondsFromKey key ≤ now
    · rw [if_pos (listed.mpr elapsed)]
      simp [Option.filter, elapsed]
    · rw [if_neg (elapsed ∘ listed.mp)]
      simp [Option.filter, elapsed]

def check (state : LimiterState) (key : Text) (rule : RateLimitRule) (enabled : Bool) (now : ℚ) :
    Except CheckError Unit × LimiterState :=
  if enabled = false then (.ok (), state)
  else if rule.limit < 1 then (.error .limitTooSmall, state)
  else if rule.windowSeconds < 1 then (.error .windowTooSmall, state)
  else
    let cleaned := cleanupExpired now state
    match cleaned.get key with
    | none => (.ok (), cleaned.set key ⟨1, now⟩)
    | some window =>
      let windowEndsAt := window.windowStartedAt + rule.windowSeconds
      if windowEndsAt ≤ now then (.ok (), cleaned.set key ⟨1, now⟩)
      else if rule.limit ≤ window.count then
        (.error (.exceeded (max 1 ⌈windowEndsAt - now⌉)), cleaned)
      else (.ok (), cleaned.set key { window with count := window.count + 1 })

end EpicKfc.Source.Server.RateLimits
