import EpicKfc.Lib.Digits
import Mathlib.Order.Basic
import Mathlib.Order.RelClasses

/-!
# Identifiers and timestamps of the backend

UUIDs with Python's `str`, and timezone-aware UTC datetimes with Python's
`isoformat`. Database integers of device and pre-key columns are positive and 32
bits wide.
-/

namespace EpicKfc.Source.Server
open EpicKfc.Lib

abbrev Uuid := BitVec 128

/-- Groups of 8, 4, 4, 4 and 12 hexadecimal digits. -/
def Uuid.layout (hex : List Char) : List Char :=
  hex.take 8 ++ '-' :: (hex.drop 8).take 4 ++ '-' :: (hex.drop 12).take 4 ++
    '-' :: (hex.drop 16).take 4 ++ '-' :: hex.drop 20

/-- Python's `str` of a UUID. -/
def Uuid.str (id : Uuid) : String := String.ofList (Uuid.layout (Digits.render 16 32 id.toNat))

theorem Uuid.layout_injective {first second : List Char} (sized : first.length = 32)
    (sized' : second.length = 32) (same : Uuid.layout first = Uuid.layout second) :
    first = second := by
  have pieces (hex : List Char) : hex = hex.take 8 ++ ((hex.drop 8).take 4 ++ ((hex.drop 12).take 4 ++
      ((hex.drop 16).take 4 ++ hex.drop 20))) := by
    have cut (start count : Nat) :
        hex.drop start = (hex.drop start).take count ++ hex.drop (start + count) := by
      rw [← List.drop_drop, List.take_append_drop]
    rw [← cut 16 4, ← cut 12 4, ← cut 8 4, List.take_append_drop]
  simp only [Uuid.layout, List.append_assoc, List.cons_append] at same
  obtain ⟨group₁, same⟩ := List.append_inj same (by simp [sized, sized'])
  obtain ⟨group₂, same⟩ := List.append_inj (List.cons.inj same).2 (by simp [sized, sized'])
  obtain ⟨group₃, same⟩ := List.append_inj (List.cons.inj same).2 (by simp [sized, sized'])
  obtain ⟨group₄, same⟩ := List.append_inj (List.cons.inj same).2 (by simp [sized, sized'])
  rw [pieces first, pieces second, group₁, group₂, group₃, group₄, (List.cons.inj same).2]

/-- Different UUIDs print differently. -/
theorem Uuid.str_injective : Function.Injective Uuid.str := by
  intro first second same
  apply BitVec.eq_of_toNat_eq
  have layouts : Uuid.layout (Digits.render 16 32 first.toNat) =
      Uuid.layout (Digits.render 16 32 second.toNat) := String.ofList_injective same
  have fits (id : Uuid) : id.toNat < 16 ^ 32 := by
    have bound := id.isLt
    norm_num at bound ⊢
    exact bound
  exact Digits.render_injective (by decide) (by decide) (fits first) (fits second)
    (Uuid.layout_injective (by simp) (by simp) layouts)

theorem Uuid.str_inj {first second : Uuid} : first.str = second.str ↔ first = second :=
  Uuid.str_injective.eq_iff

theorem Uuid.str_ne_empty (id : Uuid) : id.str ≠ "" := by
  intro empty
  have chars := congrArg String.toList empty
  simp [Uuid.str, Uuid.layout] at chars

theorem Uuid.length_str (id : Uuid) : id.str.toList.length = 36 := by
  simp [Uuid.str, Uuid.layout]

theorem Uuid.ascii_str (id : Uuid) : ∀ char ∈ id.str.toList, char.toNat < 128 := by
  have plain : ∀ digit < 16, (Nat.digitChar digit).toNat < 128 := by decide
  have hex : ∀ char ∈ Digits.render 16 32 id.toNat, char.toNat < 128 := by
    intro char member
    obtain ⟨digit, belongs, rfl⟩ := List.mem_map.mp member
    exact plain digit (Digits.digits_lt (by decide) _ _ digit belongs)
  intro char member
  simp only [Uuid.str, String.toList_ofList, Uuid.layout, List.mem_append, List.mem_cons] at member
  rcases member with (((group | rfl | group) | rfl | group) | rfl | group) | rfl | group
  · exact hex char (List.mem_of_mem_take group)
  · decide
  · exact hex char (List.mem_of_mem_drop (List.mem_of_mem_take group))
  · decide
  · exact hex char (List.mem_of_mem_drop (List.mem_of_mem_take group))
  · decide
  · exact hex char (List.mem_of_mem_drop (List.mem_of_mem_take group))
  · decide
  · exact hex char (List.mem_of_mem_drop group)

/-- Values of the `Integer` columns the schemas require to be positive. -/
abbrev PositiveInt := {value : Int // 0 < value ∧ value < 2 ^ 31}

def onePositive : PositiveInt := ⟨1, by decide⟩

/-- A timezone-aware UTC datetime, to the microsecond. -/
structure UtcTimestamp where
  year : Nat
  month : Nat
  day : Nat
  hour : Nat
  minute : Nat
  second : Nat
  microsecond : Nat
  year_le : year < 10000
  month_le : month < 13
  day_le : day < 32
  hour_lt : hour < 24
  minute_lt : minute < 60
  second_lt : second < 60
  microsecond_lt : microsecond < 1000000
deriving DecidableEq

namespace UtcTimestamp

/-- Midnight on the first of January of a year. -/
def newYear (year : Nat) (year_le : year < 10000) : UtcTimestamp where
  year := year
  month := 1
  day := 1
  hour := 0
  minute := 0
  second := 0
  microsecond := 0
  year_le := year_le
  month_le := by decide
  day_le := by decide
  hour_lt := by decide
  minute_lt := by decide
  second_lt := by decide
  microsecond_lt := by decide

def newYear2026 : UtcTimestamp := newYear 2026 (by decide)

/-- Position on the time line, up to gaps at the ends of short months. -/
def instant (time : UtcTimestamp) : Nat :=
  (((((time.year * 13 + time.month) * 32 + time.day) * 24 + time.hour) * 60 + time.minute) * 60 +
    time.second) * 1000000 + time.microsecond

theorem instant_injective : Function.Injective instant := by
  rintro ⟨year, month, day, hour, minute, second, micro, _, _, _, _, _, _, _⟩
    ⟨year', month', day', hour', minute', second', micro', _, _, _, _, _, _, _⟩ same
  simp only [instant] at same
  simp only [UtcTimestamp.mk.injEq]
  omega

instance : LinearOrder UtcTimestamp := LinearOrder.lift' instant instant_injective

def dateAndTime (time : UtcTimestamp) : List Char :=
  Digits.render 10 4 time.year ++ '-' :: Digits.render 10 2 time.month ++
    '-' :: Digits.render 10 2 time.day ++ 'T' :: Digits.render 10 2 time.hour ++
    ':' :: Digits.render 10 2 time.minute ++ ':' :: Digits.render 10 2 time.second

/-- `isoformat` leaves the fraction out when it is zero. -/
def fraction (time : UtcTimestamp) : List Char :=
  if time.microsecond = 0 then [] else '.' :: Digits.render 10 6 time.microsecond

/-- The ISO-8601 text up to its offset. -/
def isoBody (time : UtcTimestamp) : String := String.ofList (time.dateAndTime ++ time.fraction)

/-- Python's `isoformat` of a UTC datetime. -/
def isoformat (time : UtcTimestamp) : String := time.isoBody ++ "+00:00"

theorem length_dateAndTime (time : UtcTimestamp) : time.dateAndTime.length = 19 := by
  simp [dateAndTime]

theorem dateAndTime_inj {first second : UtcTimestamp}
    (same : first.dateAndTime = second.dateAndTime) :
    first.year = second.year ∧ first.month = second.month ∧ first.day = second.day ∧
      first.hour = second.hour ∧ first.minute = second.minute ∧ first.second = second.second := by
  have read {width value value' : Nat} (fits : value < 10 ^ width) (fits' : value' < 10 ^ width)
      (same : Digits.render 10 width value = Digits.render 10 width value') : value = value' :=
    Digits.render_injective (by decide) (by decide) fits fits' same
  have small (time : UtcTimestamp) : time.year < 10 ^ 4 ∧ time.month < 10 ^ 2 ∧
      time.day < 10 ^ 2 ∧ time.hour < 10 ^ 2 ∧ time.minute < 10 ^ 2 ∧ time.second < 10 ^ 2 := by
    have := time.year_le
    have := time.month_le
    have := time.day_le
    have := time.hour_lt
    have := time.minute_lt
    have := time.second_lt
    omega
  obtain ⟨year, month, day, hour, minute, second'⟩ := small first
  obtain ⟨year', month', day', hour', minute', second''⟩ := small second
  simp only [dateAndTime, List.append_assoc, List.cons_append] at same
  obtain ⟨years, same⟩ := List.append_inj same (by simp)
  obtain ⟨months, same⟩ := List.append_inj (List.cons.inj same).2 (by simp)
  obtain ⟨days, same⟩ := List.append_inj (List.cons.inj same).2 (by simp)
  obtain ⟨hours, same⟩ := List.append_inj (List.cons.inj same).2 (by simp)
  obtain ⟨minutes, same⟩ := List.append_inj (List.cons.inj same).2 (by simp)
  exact ⟨read year year' years, read month month' months, read day day' days,
    read hour hour' hours, read minute minute' minutes,
    read second' second'' (List.cons.inj same).2⟩

/-- A missing fraction is the one of zero microseconds. -/
theorem fraction_inj {first second : UtcTimestamp} (same : first.fraction = second.fraction) :
    first.microsecond = second.microsecond := by
  have fits (time : UtcTimestamp) : time.microsecond < 10 ^ 6 := time.microsecond_lt
  unfold fraction at same
  split at same <;> split at same
  · omega
  · cases same
  · cases same
  · exact Digits.render_injective (by decide) (by decide) (fits first) (fits second)
      (List.cons.inj same).2

/-- Different times print differently. -/
theorem isoformat_injective : Function.Injective isoformat := by
  intro first second same
  have bodies : first.isoBody = second.isoBody := by
    have chars := congrArg String.toList same
    simp only [isoformat, String.toList_append] at chars
    exact String.toList_injective (List.append_cancel_right chars)
  obtain ⟨dates, fractions⟩ := List.append_inj (String.ofList_injective bodies)
    (by rw [length_dateAndTime, length_dateAndTime])
  obtain ⟨year, month, day, hour, minute, second'⟩ := dateAndTime_inj dates
  have micro := fraction_inj fractions
  cases first
  cases second
  simp_all

end UtcTimestamp

end EpicKfc.Source.Server
