import EpicKfc.Lib.Expiry
import EpicKfc.Source.Server.RateLimits
import Mathlib.Tactic.Linarith

/-!
# The rate limiter counts fixed windows

One counter a key, and no cleanup: the limiter of the backend gives the same
answers, since a key names the window of every rule it was built with.
-/

namespace EpicKfc.Guarantees.RateLimiting
open EpicKfc.Lib
open EpicKfc.Lib.JsonText
open EpicKfc.Source.Server.RateLimits

/-- A `check` with a valid rule and the key built for it. -/
structure Call where
  scope : Text
  callerType : Text
  callerId : Text
  rule : RateLimitRule
  enabled : Bool
  now : ℚ
  key : Text
  limit_pos : 1 ≤ rule.limit
  window_pos : 1 ≤ rule.windowSeconds
  built : buildWindowedKey scope callerType callerId rule = some key

abbrev Answer := Except CheckError Unit

def checkCall (state : LimiterState) (made : Call) : Answer × LimiterState :=
  check state made.key made.rule made.enabled made.now

/-- The length of the window is a function of the key. -/
theorem Call.window_of_key (made : Call) : windowSecondsFromKey made.key = made.rule.windowSeconds :=
  windowSecondsFromKey_windowed made.window_pos made.built

/-! ## Independent fixed windows -/

/-- One request on the counter of its key. -/
def fixedWindow (rule : RateLimitRule) (now : ℚ) (counter : Option WindowState) :
    Answer × Option WindowState :=
  match counter with
  | none => (.ok (), some ⟨1, now⟩)
  | some window =>
    if window.windowStartedAt + rule.windowSeconds ≤ now then (.ok (), some ⟨1, now⟩)
    else if rule.limit ≤ window.count then
      (.error (.exceeded (max 1 ⌈window.windowStartedAt + rule.windowSeconds - now⌉)), some window)
    else (.ok (), some { window with count := window.count + 1 })

theorem fixedWindow_of_over {rule : RateLimitRule} {now : ℚ} {window : WindowState}
    (elapsed : window.windowStartedAt + rule.windowSeconds ≤ now) :
    fixedWindow rule now (some window) = fixedWindow rule now none := by
  simp only [fixedWindow, if_pos elapsed]

/-- The counters, one a key. -/
abbrev Counters := Expiry.Store Text WindowState

def limiter : Expiry.Machine Text WindowState Call Answer ℚ where
  key := Call.key
  now := Call.now
  ignored := fun made => if made.enabled then none else some (.ok ())
  expired := fun key time window => window.windowStartedAt + windowSecondsFromKey key ≤ time
  answer := fun made counter => (fixedWindow made.rule made.now counter).1
  entry := fun made counter => (fixedWindow made.rule made.now counter).2
  persists := by
    intro key time later window le elapsed
    rw [decide_eq_true_eq] at elapsed ⊢
    exact elapsed.trans le
  fresh := by
    intro made window elapsed
    rw [decide_eq_true_eq, made.window_of_key] at elapsed
    rw [fixedWindow_of_over elapsed]
    exact ⟨rfl, rfl⟩

/-- A limiter without cleanup: a call reads and writes the counter of its own key. -/
def independentCheck : Counters → Call → Answer × Counters := Expiry.call limiter

def noCounters : Counters := fun _ => none

/-! ## The limiter cleans up, and does the same -/

/-- What the dict holds. -/
def contents (state : LimiterState) : Counters := state.get

theorem contents_cleanupExpired (now : ℚ) (state : LimiterState) :
    contents (cleanupExpired now state) = Expiry.evict limiter now (contents state) := by
  funext key
  exact get_cleanupExpired now state key

theorem contents_set (state : LimiterState) (key : Text) (window : WindowState) :
    contents (state.set key window) = Function.update (contents state) key (some window) := by
  funext other
  rw [contents, LimiterState.get_set, Function.update_apply]
  rfl

/-- A valid check takes the counter its key has after the cleanup. -/
theorem check_of_valid (state : LimiterState) (key : Text) {rule : RateLimitRule} (now : ℚ)
    (limit : 1 ≤ rule.limit) (window : 1 ≤ rule.windowSeconds) :
    (check state key rule true now).1 =
        (fixedWindow rule now ((cleanupExpired now state).get key)).1 ∧
      contents (check state key rule true now).2 =
        Function.update (contents (cleanupExpired now state)) key
          (fixedWindow rule now ((cleanupExpired now state).get key)).2 := by
  unfold check
  rw [if_neg (by simp), if_neg (by omega), if_neg (by omega)]
  cases stored : (cleanupExpired now state).get key with
  | none => simp [fixedWindow, contents_set, stored]
  | some counter =>
    have unchanged : Function.update (contents (cleanupExpired now state)) key (some counter) =
        contents (cleanupExpired now state) := Function.update_eq_self_iff.mpr stored.symm
    simp only [fixedWindow, stored]
    split
    · simp [contents_set]
    · split
      · simp [unchanged]
      · simp [contents_set]

/-- A check cleans up and then takes the call. -/
theorem contents_checkCall (state : LimiterState) (made : Call) :
    ((checkCall state made).1, contents (checkCall state made).2) =
      Expiry.callEvicting limiter (contents state) made := by
  cases enabled : made.enabled with
  | false => simp [checkCall, check, Expiry.callEvicting, limiter, enabled]
  | true =>
    obtain ⟨answer, stored⟩ :=
      check_of_valid state made.key made.now made.limit_pos made.window_pos
    have swept := contents_cleanupExpired made.now state
    rw [checkCall, enabled, answer, stored, swept]
    have used : limiter.ignored made = none := by simp [limiter, enabled]
    have counter : (cleanupExpired made.now state).get made.key =
        Expiry.evict limiter made.now (contents state) made.key := congrFun swept made.key
    simp only [Expiry.callEvicting, Expiry.call, used]
    rw [counter]
    rfl

theorem agrees_empty (time : ℚ) :
    Expiry.Agrees limiter time (contents LimiterState.empty) noCounters :=
  fun _ => Or.inl rfl

/-- Every sequence of checks is answered as by independent counters. -/
theorem answers_eq {calls : List Call}
    (ordered : calls.Pairwise fun first second => first.now ≤ second.now) :
    Expiry.answers checkCall LimiterState.empty calls =
      Expiry.answers independentCheck noCounters calls := by
  rw [Expiry.answers_of_view contents contents_checkCall]
  cases calls with
  | nil => rfl
  | cons made rest =>
    refine Expiry.answers_callEvicting ordered (agrees_empty made.now) ?_
    intro later member
    rcases List.mem_cons.mp member with rfl | member
    · exact le_refl _
    · exact (List.pairwise_cons.mp ordered).1 later member

/-! ## Counting -/

/-- A window opens at a call that finds none open. -/
def opening (key : Text) (start : Option ℚ) (made : Call) : Option ℚ :=
  if made.enabled ∧ made.key = key then
    match start with
    | none => some made.now
    | some time => if time + made.rule.windowSeconds ≤ made.now then some made.now else some time
  else start

/-- When the window that is open after the calls was opened. -/
def windowStart (key : Text) (calls : List Call) : Option ℚ := calls.foldl (opening key) none

theorem windowStart_snoc (key : Text) (calls : List Call) (made : Call) :
    windowStart key (calls ++ [made]) = opening key (windowStart key calls) made := by
  simp [windowStart]

def accepted (calls : List Call) : List Call :=
  Expiry.answered checkCall Except.isOk LimiterState.empty calls

/-- A counted call for the key, in the window opened at a time. -/
def inWindow (key : Text) (start : ℚ) (made : Call) : Bool :=
  made.enabled && made.key = key && start ≤ made.now

/-- The counter of a key after calls, of which some were accepted. -/
structure Counted (key : Text) (calls taken : List Call) (counter : Option WindowState) : Prop where
  start : windowStart key calls = counter.map WindowState.windowStartedAt
  count : ∀ window, counter = some window →
    window.count = taken.countP (inWindow key window.windowStartedAt)
  opener : ∀ window, counter = some window → ∃ made ∈ calls, made.now = window.windowStartedAt
  live : ∀ made ∈ taken, made.enabled → made.key = key →
    ∃ window, counter = some window ∧ made.now < window.windowStartedAt + windowSecondsFromKey key

variable {key : Text} {calls taken : List Call} {counter : Option WindowState}

/-- A call that does not touch the counter. -/
theorem Counted.other (counted : Counted key calls taken counter) (made : Call) (more : List Call)
    (listed : more = [] ∨ more = [made]) (other : ¬(made.enabled ∧ made.key = key)) :
    Counted key (calls ++ [made]) (taken ++ more) counter where
  start := by
    rw [windowStart_snoc, counted.start]
    simp only [opening, if_neg other]
  count := by
    intro window stored
    have outside : more.countP (inWindow key window.windowStartedAt) = 0 := by
      obtain rfl | rfl := listed
      · rfl
      · simp only [List.countP_eq_zero, List.mem_singleton, forall_eq, inWindow, Bool.and_eq_true,
          decide_eq_true_eq]
        exact fun inside => other inside.1
    rw [List.countP_append, outside, Nat.add_zero]
    exact counted.count window stored
  opener := by
    intro window stored
    obtain ⟨opener, member, same⟩ := counted.opener window stored
    exact ⟨opener, List.mem_append_left _ member, same⟩
  live := by
    intro taker member enabled same
    rcases List.mem_append.mp member with earlier | last
    · exact counted.live taker earlier enabled same
    · obtain rfl | rfl := listed
      · cases last
      · rw [List.mem_singleton.mp last] at enabled same
        exact absurd ⟨enabled, same⟩ other

section Own
variable {made : Call} (counted : Counted key calls taken counter) (enabled : made.enabled = true)
  (same : made.key = key)
include counted enabled same

/-- A call after the end of the window opens the next one. -/
theorem Counted.opened (latest : ∀ earlier ∈ calls, earlier.now ≤ made.now)
    (included : ∀ taker ∈ taken, taker ∈ calls)
    (elapsed : ∀ window, counter = some window →
      window.windowStartedAt + made.rule.windowSeconds ≤ made.now) :
    Counted key (calls ++ [made]) (taken ++ [made]) (some ⟨1, made.now⟩) where
  start := by
    rw [windowStart_snoc, counted.start]
    cases counter with
    | none => simp [opening, enabled, same]
    | some window => simp [opening, enabled, same, elapsed window rfl]
  count := by
    intro window found
    cases found
    have before : taken.countP (inWindow key made.now) = 0 := by
      rw [List.countP_eq_zero]
      intro taker member inside
      simp only [inWindow, Bool.and_eq_true, decide_eq_true_eq] at inside
      obtain ⟨old, stored, soon⟩ := counted.live taker member inside.1.1 inside.1.2
      have ended := elapsed old stored
      rw [← made.window_of_key, same] at ended
      exact absurd (inside.2.trans_lt (soon.trans_le ended)) (lt_irrefl _)
    rw [List.countP_append, before]
    simp [inWindow, enabled, same]
  opener := by
    intro window found
    cases found
    exact ⟨made, by simp, rfl⟩
  live := by
    intro taker member _ _
    have length := made.window_pos
    rw [← made.window_of_key, same] at length
    have later : made.now < made.now + windowSecondsFromKey key :=
      lt_add_of_pos_right _ (by exact_mod_cast length)
    rcases List.mem_append.mp member with earlier | last
    · exact ⟨_, rfl, (latest taker (included taker earlier)).trans_lt later⟩
    · rw [List.mem_singleton.mp last]
      exact ⟨_, rfl, later⟩

theorem Counted.refused {window : WindowState} (stored : counter = some window)
    (within : ¬window.windowStartedAt + made.rule.windowSeconds ≤ made.now) :
    Counted key (calls ++ [made]) taken counter where
  start := by
    rw [windowStart_snoc, counted.start, stored]
    simp [opening, enabled, same, within]
  count := counted.count
  opener := by
    intro window stored
    obtain ⟨opener, member, time⟩ := counted.opener window stored
    exact ⟨opener, List.mem_append_left _ member, time⟩
  live := counted.live

theorem Counted.counts {window : WindowState} (stored : counter = some window)
    (latest : ∀ earlier ∈ calls, earlier.now ≤ made.now)
    (within : ¬window.windowStartedAt + made.rule.windowSeconds ≤ made.now) :
    Counted key (calls ++ [made]) (taken ++ [made])
      (some { window with count := window.count + 1 }) where
  start := by
    rw [windowStart_snoc, counted.start, stored]
    simp [opening, enabled, same, within]
  count := by
    intro more found
    cases found
    obtain ⟨opener, member, time⟩ := counted.opener window stored
    have inside : inWindow key window.windowStartedAt made = true := by
      simp [inWindow, enabled, same, ← time, latest opener member]
    rw [List.countP_append, List.countP_singleton, if_pos inside, counted.count window stored]
    simp
  opener := by
    intro more found
    cases found
    obtain ⟨opener, member, time⟩ := counted.opener window stored
    exact ⟨opener, List.mem_append_left _ member, time⟩
  live := by
    intro taker member on own
    rcases List.mem_append.mp member with earlier | last
    · obtain ⟨old, found, soon⟩ := counted.live taker earlier on own
      rw [stored, Option.some.injEq] at found
      exact ⟨_, rfl, found ▸ soon⟩
    · rw [List.mem_singleton.mp last, ← same, made.window_of_key]
      exact ⟨_, rfl, lt_of_not_ge within⟩

/-- A call for the key, counted or refused. -/
theorem Counted.own (latest : ∀ earlier ∈ calls, earlier.now ≤ made.now)
    (included : ∀ taker ∈ taken, taker ∈ calls) :
    Counted key (calls ++ [made])
      (taken ++ if (fixedWindow made.rule made.now counter).1.isOk then [made] else [])
      (fixedWindow made.rule made.now counter).2 := by
  cases stored : counter with
  | none =>
    subst stored
    exact counted.opened enabled same latest included (by simp)
  | some window =>
    simp only [fixedWindow]
    split
    · next elapsed =>
      exact counted.opened enabled same latest included fun old found => by
        rw [stored, Option.some.injEq] at found
        exact found ▸ elapsed
    · next within =>
      split
      · simpa [Except.isOk, Except.toBool, stored] using counted.refused enabled same stored within
      · exact counted.counts enabled same stored latest within

end Own

/-! ## Runs -/

abbrev stateAfter (calls : List Call) : LimiterState :=
  Expiry.after checkCall LimiterState.empty calls

abbrev countersAfter (calls : List Call) : Counters :=
  Expiry.after independentCheck noCounters calls

theorem independentCheck_enabled {made : Call} (enabled : made.enabled = true) (store : Counters) :
    independentCheck store made = ((fixedWindow made.rule made.now (store made.key)).1,
      Function.update store made.key (fixedWindow made.rule made.now (store made.key)).2) := by
  simp [independentCheck, Expiry.call, limiter, enabled]

theorem ignored_of_disabled {made : Call} (disabled : made.enabled = false) :
    limiter.ignored made ≠ none := by
  simp [limiter, disabled]

variable {made : Call}

/-- The next call is answered alike. -/
theorem answer_eq
    (ordered : (calls ++ [made]).Pairwise fun first second => first.now ≤ second.now) :
    (checkCall (stateAfter calls) made).1 = (independentCheck (countersAfter calls) made).1 := by
  have run := answers_eq ordered
  rw [Expiry.answers_append, Expiry.answers_append,
    answers_eq (List.pairwise_append.mp ordered).1] at run
  exact (List.cons.inj (List.append_cancel_left run)).1

/-- The counters count the accepted calls of the window that is open. -/
theorem counted_run (key : Text) (calls : List Call)
    (ordered : calls.Pairwise fun first second => first.now ≤ second.now) :
    Counted key calls (accepted calls) (countersAfter calls key) := by
  induction calls using List.reverseRecOn with
  | nil =>
    exact ⟨rfl, fun window found => (by cases found), fun window found => (by cases found),
      fun made member => (by cases member)⟩
  | append_singleton calls made ih =>
    obtain ⟨before, -, latest⟩ := List.pairwise_append.mp ordered
    have counted := ih before
    have grows : accepted (calls ++ [made]) = accepted calls ++
        if (independentCheck (countersAfter calls) made).1.isOk then [made] else [] := by
      rw [accepted, Expiry.answered_snoc, ← answer_eq ordered]
      rfl
    rw [countersAfter, Expiry.after_snoc, grows]
    by_cases own : made.enabled = true ∧ made.key = key
    · obtain ⟨enabled, rfl⟩ := own
      rw [independentCheck_enabled enabled]
      simp only [Function.update_self]
      exact counted.own enabled rfl
        (fun earlier member => latest earlier member made (List.mem_singleton_self made))
        fun taker member => Expiry.mem_of_mem_answered calls member
    · have kept : (independentCheck (countersAfter calls) made).2 key = countersAfter calls key := by
        apply Expiry.call_other
        by_cases same : made.key = key
        · have disabled : made.enabled = false := by simpa [same] using own
          exact Or.inr (ignored_of_disabled disabled)
        · exact Or.inl (Ne.symm same)
      rw [kept]
      apply counted.other made _ _ own
      split
      · exact Or.inr rfl
      · exact Or.inl rfl

/-! ## One window, and after it -/

theorem isOk_of_eq {answer : Answer} (ok : answer = .ok ()) : answer.isOk = true := by
  rw [ok]
  rfl

theorem count_le_limit {rule : RateLimitRule} {now : ℚ} {counter : Option WindowState}
    {window : WindowState} (limit : 1 ≤ rule.limit)
    (ok : (fixedWindow rule now counter).1 = .ok ())
    (stored : (fixedWindow rule now counter).2 = some window) : window.count ≤ rule.limit := by
  cases counter with
  | none =>
    cases stored
    exact limit
  | some old =>
    simp only [fixedWindow] at ok stored
    split at stored
    · cases stored
      exact limit
    · next within =>
      rw [if_neg within] at ok
      split at stored
      · next full =>
        rw [if_pos full] at ok
        cases ok
      · cases stored
        simp only
        omega

/-- An accepted call is within the limit of its window. -/
theorem within_limit
    (ordered : (calls ++ [made]).Pairwise fun first second => first.now ≤ second.now)
    (enabled : made.enabled = true) (ok : (checkCall (stateAfter calls) made).1 = .ok ()) :
    ∃ start, windowStart made.key (calls ++ [made]) = some start ∧ start ≤ made.now ∧
      made.now < start + made.rule.windowSeconds ∧
      ((accepted (calls ++ [made])).countP (inWindow made.key start) : Int) ≤ made.rule.limit := by
  have counted := counted_run made.key (calls ++ [made]) ordered
  have member : made ∈ accepted (calls ++ [made]) := by
    rw [accepted, Expiry.answered_snoc, if_pos (isOk_of_eq ok)]
    exact List.mem_append_right _ (List.mem_singleton_self made)
  obtain ⟨window, stored, soon⟩ := counted.live made member enabled rfl
  rw [made.window_of_key] at soon
  obtain ⟨opener, listed, time⟩ := counted.opener window stored
  have least : opener.now ≤ made.now := by
    rcases List.mem_append.mp listed with earlier | last
    · exact (List.pairwise_append.mp ordered).2.2 opener earlier made (List.mem_singleton_self made)
    · rw [List.mem_singleton.mp last]
  have bound : window.count ≤ made.rule.limit := by
    rw [answer_eq ordered, independentCheck_enabled enabled] at ok
    rw [countersAfter, Expiry.after_snoc, independentCheck_enabled enabled] at stored
    exact count_le_limit made.limit_pos ok (by simpa using stored)
  refine ⟨window.windowStartedAt, ?_, time ▸ least, soon, ?_⟩
  · rw [counted.start, stored]
    rfl
  · rw [← counted.count window stored]
    exact bound

/-- A call leaves the open windows of other keys alone. -/
theorem other_window (state : LimiterState) (made other : Call) (distinct : other.key ≠ made.key)
    {window : WindowState} (stored : state.get other.key = some window)
    (open_ : made.now < window.windowStartedAt + other.rule.windowSeconds) :
    (checkCall state made).2.get other.key = some window := by
  have same := congrArg Prod.snd (contents_checkCall state made)
  have live : limiter.expired other.key (limiter.now made) window = false := by
    simp only [limiter, decide_eq_false_iff_not, not_le, other.window_of_key]
    exact open_
  exact (congrFun same other.key).trans (Expiry.callEvicting_other limiter distinct stored live)

/-- A refused call names the end of its window. -/
theorem refused_until {rule : RateLimitRule} {now : ℚ} {counter : Option WindowState}
    {retryAfter : Int}
    (refused : (fixedWindow rule now counter).1 = .error (.exceeded retryAfter)) :
    ∃ window, counter = some window ∧ (fixedWindow rule now counter).2 = some window ∧
      window.windowStartedAt + rule.windowSeconds ≤ now + retryAfter := by
  unfold fixedWindow at refused ⊢
  cases counter with
  | none => cases refused
  | some window =>
    simp only at refused ⊢
    split at refused
    · cases refused
    · next within =>
      rw [if_neg within]
      split at refused
      · next full =>
        have least : ⌈window.windowStartedAt + rule.windowSeconds - now⌉ ≤ retryAfter := by
          cases refused
          exact le_max_right _ _
        have wait := Int.ceil_le.mp least
        rw [if_pos full]
        refine ⟨window, rfl, rfl, ?_⟩
        linarith
      · cases refused

/-- Once its window is over a refused caller is accepted. -/
theorem accepted_after_wait {earlier between : List Call} {rejected : Call} {retryAfter : Int}
    (ordered : ((earlier ++ rejected :: between) ++ [made]).Pairwise fun first second =>
      first.now ≤ second.now)
    (refused : (checkCall (stateAfter earlier) rejected).1 = .error (.exceeded retryAfter))
    (same : made.key = rejected.key)
    (alone : ∀ other ∈ between, other.enabled = true → other.key ≠ made.key)
    (waited : rejected.now + retryAfter ≤ made.now) :
    (checkCall (stateAfter (earlier ++ rejected :: between)) made).1 = .ok () := by
  cases disabled : made.enabled with
  | false => simp [checkCall, check, disabled]
  | true =>
    have enabled : rejected.enabled = true := by
      cases on : rejected.enabled with
      | false => simp [checkCall, check, on] at refused
      | true => rfl
    have first : ((earlier ++ [rejected]).Pairwise fun first second => first.now ≤ second.now) := by
      refine ordered.sublist ?_
      simp
    rw [answer_eq first, independentCheck_enabled enabled] at refused
    obtain ⟨window, -, left, ended⟩ := refused_until refused
    have kept : countersAfter (earlier ++ rejected :: between) made.key = some window := by
      have untouched : ∀ other ∈ between,
          made.key ≠ limiter.key other ∨ limiter.ignored other ≠ none := by
        intro other member
        cases used : other.enabled with
        | false => exact Or.inr (ignored_of_disabled used)
        | true => exact Or.inl (Ne.symm (alone other member used))
      have split : countersAfter (earlier ++ rejected :: between) =
          Expiry.after independentCheck
            (independentCheck (countersAfter earlier) rejected).2 between := by
        simp [countersAfter, Expiry.after]
      rw [split, independentCheck, Expiry.after_other limiter untouched, ← independentCheck,
        independentCheck_enabled enabled, same]
      simpa using left
    have elapsed : window.windowStartedAt + made.rule.windowSeconds ≤ made.now := by
      rw [← made.window_of_key, same, rejected.window_of_key]
      exact ended.trans waited
    rw [answer_eq ordered, independentCheck_enabled disabled, kept, fixedWindow_of_over elapsed]
    rfl

/-- The limiter of the backend is an independent fixed window for each key. -/
theorem check_refines_fixed_windows {calls : List Call} {made : Call}
    (ordered : (calls ++ [made]).Pairwise fun first second => first.now ≤ second.now) :
    Expiry.answers checkCall LimiterState.empty (calls ++ [made]) =
        Expiry.answers independentCheck noCounters (calls ++ [made]) ∧
      (made.enabled = true → (checkCall (stateAfter calls) made).1 = .ok () →
        ∃ start, windowStart made.key (calls ++ [made]) = some start ∧ start ≤ made.now ∧
          made.now < start + made.rule.windowSeconds ∧
          ((accepted (calls ++ [made])).countP (inWindow made.key start) : Int) ≤
            made.rule.limit) ∧
      (∀ other : Call, other.key ≠ made.key → ∀ window,
        (stateAfter calls).get other.key = some window →
        made.now < window.windowStartedAt + other.rule.windowSeconds →
        (stateAfter (calls ++ [made])).get other.key = some window) ∧
      ∀ earlier rejected between retryAfter, calls = earlier ++ rejected :: between →
        (checkCall (stateAfter earlier) rejected).1 = .error (.exceeded retryAfter) →
        made.key = rejected.key →
        (∀ other ∈ between, other.enabled = true → other.key ≠ made.key) →
        rejected.now + retryAfter ≤ made.now → (checkCall (stateAfter calls) made).1 = .ok () := by
  refine ⟨answers_eq ordered, within_limit ordered, ?_, ?_⟩
  · intro other distinct window stored opened
    rw [stateAfter, Expiry.after_snoc]
    exact other_window _ made other distinct stored opened
  · rintro earlier rejected between retryAfter rfl refused same alone waited
    exact accepted_after_wait ordered refused same alone waited

/-- A limit of one in a minute for each address. -/
def loginFrom (address key : Text) (built : buildWindowedKey (codePoints "login")
    (codePoints "ip") address ⟨1, 60⟩ = some key) (now : ℚ) : Call where
  scope := codePoints "login"
  callerType := codePoints "ip"
  callerId := address
  rule := ⟨1, 60⟩
  enabled := true
  now := now
  key := key
  limit_pos := by decide
  window_pos := by decide
  built := built

def loginAt : ℚ → Call := loginFrom (codePoints "::1") (codePoints "60:login:ip:::1") (by decide)

def otherLoginAt : ℚ → Call :=
  loginFrom (codePoints "::2") (codePoints "60:login:ip:::2") (by decide)

/-- Both addresses are accepted once and refused once. -/
def firstMinute : List Call := [loginAt 1, otherLoginAt 2, loginAt 3, otherLoginAt 4]

theorem check_refines_fixed_windows_logins :
    Expiry.answers checkCall LimiterState.empty (firstMinute ++ [loginAt 61]) =
        [.ok (), .ok (), .error (.exceeded 58), .error (.exceeded 58), .ok ()] ∧
      (∃ start, windowStart (loginAt 61).key (firstMinute ++ [loginAt 61]) = some start ∧
        ((accepted (firstMinute ++ [loginAt 61])).countP (inWindow (loginAt 61).key start) : Int) ≤ 1) ∧
      (stateAfter (firstMinute ++ [loginAt 61])).get (otherLoginAt 61).key = some ⟨1, 2⟩ ∧
      (checkCall (stateAfter firstMinute) (loginAt 61)).1 = .ok () := by
  have ordered : (firstMinute ++ [loginAt 61]).Pairwise fun first second =>
      first.now ≤ second.now := by
    norm_num [firstMinute, otherLoginAt, loginAt, loginFrom]
  obtain ⟨same, counted, kept, retried⟩ := check_refines_fixed_windows ordered
  have refused : (checkCall (stateAfter [loginAt 1, otherLoginAt 2]) (loginAt 3)).1 =
      .error (.exceeded 58) := by
    decide +kernel
  have stored : (stateAfter firstMinute).get (otherLoginAt 61).key = some ⟨1, 2⟩ := by
    decide +kernel
  have again : (checkCall (stateAfter firstMinute) (loginAt 61)).1 = .ok () := by
    refine retried [loginAt 1, otherLoginAt 2] (loginAt 3) [otherLoginAt 4] 58 rfl refused rfl ?_ ?_
    · decide
    · norm_num [loginAt, loginFrom]
  obtain ⟨start, opened, -, -, within⟩ := counted rfl again
  refine ⟨same.trans ?_, ⟨start, opened, within⟩, kept (otherLoginAt 61) (by decide) _ stored ?_, again⟩
  · decide +kernel
  · norm_num [otherLoginAt, loginAt, loginFrom]

end EpicKfc.Guarantees.RateLimiting
