import EpicKfc.Source.Client.StartupConfig
import Mathlib.Data.List.Basic

/-!
# What the command line decides

The parser reads its arguments from left to right and later ones undo parts of
earlier ones. Whatever their order, a client that starts in real mode has an HTTPS
address, one that is started for debugging has none, and of each value the last one
given counts.
-/

namespace EpicKfc.Guarantees.StartupArguments
open EpicKfc.Source.Client
open EpicKfc.Source.Client.StartupConfigParser

/-- The value that was given last for a flag. -/
def lastValue (flag : String) (seen : List (String × String)) : Option String :=
  ((seen.filter fun option => option.1 = flag).getLast?).map Prod.snd

theorem lastValue_snoc (flag argument value : String) (seen : List (String × String)) :
    lastValue flag (seen ++ [(argument, value)]) =
      if argument = flag then some value else lastValue flag seen := by
  unfold lastValue
  rw [List.filter_append]
  by_cases same : argument = flag
  · simp [same]
  · simp [same]

variable (qt : StartupQt)

/-- The mode by the last `--mode`, without `--debug`. -/
def modeOf : Option String → ClientMode
  | some value => if qt.toLower value = mockMode then .mock else .real
  | none => .real

/-- The variables of the loop after these options. -/
structure Follows (seen : List (String × String)) (state : ParseState) : Prop where
  debugMode : state.debugMode = (lastValue debugFlag seen).isSome
  apiUrlProvided : state.apiUrlProvided = (lastValue apiUrlFlag seen).isSome
  statePath : state.config.statePath = (lastValue statePathFlag seen).getD qt.defaultStatePath
  statePathExplicit : state.config.statePathExplicit = (lastValue statePathFlag seen).isSome
  showRawErrors : state.config.showRawErrors =
    ((lastValue debugFlag seen).isSome || (lastValue debugErrorsFlag seen).isSome)
  deviceId : state.config.deviceId =
    ((lastValue deviceIdFlag seen).bind qt.toInt).getD defaultDeviceId
  positive : 0 < state.config.deviceId
  mode : state.config.mode =
    if state.debugMode then .mock else modeOf qt (lastValue modeFlag seen)
  debugged : state.debugMode = true → state.realModeProvided = false ∧ state.config.apiUrl = ""
  mocked : state.realModeProvided = false → ∀ value, (modeFlag, value) ∈ seen →
    qt.toLower value = mockMode
  defaultUrl : state.apiUrlProvided = false → state.config.mode = .real →
    state.config.apiUrl = defaultApiUrl
  givenUrl : state.apiUrlProvided = true → state.config.apiUrl = "" ∨
    lastValue apiUrlFlag seen = some state.config.apiUrl

variable {qt}

theorem follows_start : Follows qt [] (.start qt) := by
  constructor <;> simp [ParseState.start, lastValue, modeOf, defaultDeviceId]

theorem follows_step {seen : List (String × String)} {state state' : ParseState}
    {argument value : String} (before : Follows qt seen state)
    (applied : Applies qt state argument value state') :
    Follows qt (seen ++ [(argument, value)]) state' := by
  obtain ⟨debugMode, apiUrlProvided, statePath, statePathExplicit, showRawErrors, deviceId, positive,
    mode, debugged, mocked, defaultUrl, givenUrl⟩ := before
  cases applied with
  | debug value free =>
    constructor <;> simp_all +decide [lastValue_snoc, ParseState.debug]
  | debugErrors value =>
    constructor <;> simp_all +decide [lastValue_snoc, ParseState.debugErrors]
  | mock value lower =>
    have now : modeOf qt (some value) = .mock := if_pos lower
    constructor <;> simp_all +decide [lastValue_snoc, ParseState.mock]
    intro free other given
    obtain earlier | rfl := given
    · exact mocked free other earlier
    · exact lower
  | real value lower free =>
    have now : modeOf qt (some value) = .real := by simp +decide [modeOf, lower]
    constructor <;> simp_all +decide [lastValue_snoc, ParseState.real]
  | apiUrl value free =>
    constructor <;> simp_all +decide [lastValue_snoc, ParseState.withApiUrl]
  | deviceId value parsed read above =>
    constructor <;> simp_all +decide [lastValue_snoc, ParseState.withDeviceId]
  | statePath value =>
    constructor <;> simp_all +decide [lastValue_snoc, ParseState.withStatePath]

/-- The variables follow the options that the loop has read. -/
theorem follows_run {later : List (String × String)} : ∀ {seen : List (String × String)}
    {state final : ParseState}, Follows qt seen state → applyOptions qt state later = .ok final →
      Follows qt (seen ++ later) final := by
  induction later with
  | nil =>
    intro seen state final before ends
    cases ends
    rwa [List.append_nil]
  | cons option rest ih =>
    intro seen state final before ends
    obtain ⟨argument, value⟩ := option
    simp only [applyOptions] at ends
    split at ends
    · cases ends
    · next middle applied =>
      have now := follows_step before (applies_of_ok qt applied)
      have final := ih now ends
      rwa [List.append_assoc] at final

/-- What the checks after the loop let through. -/
theorem finish_ok {state : ParseState} {config : StartupConfig} (ends : finish qt state = .ok config) :
    config = state.config ∧ (state.debugMode = true → state.apiUrlProvided = false) ∧
      (config.mode = .real → config.apiUrl ≠ "" ∧ qt.scheme config.apiUrl = httpsScheme) := by
  unfold finish at ends
  split at ends
  · cases ends
  · next apart =>
    have apart : state.debugMode = true → state.apiUrlProvided = false := by simpa using apart
    split at ends
    · split at ends
      · cases ends
      · next filled =>
        split at ends
        · cases ends
        · next secured =>
          cases ends
          exact ⟨rfl, apart, fun _ => ⟨by simpa using filled, not_not.mp secured⟩⟩
    · next mocked =>
      cases ends
      exact ⟨rfl, apart, fun real => absurd real mocked⟩

theorem lastValue_none {flag value : String} {seen : List (String × String)}
    (absent : lastValue flag seen = none) : (flag, value) ∉ seen := by
  intro given
  have kept : (flag, value) ∈ seen.filter fun option => option.1 = flag :=
    List.mem_filter.mpr ⟨given, by simp⟩
  rw [lastValue, Option.map_eq_none_iff, List.getLast?_eq_none_iff] at absent
  rw [absent] at kept
  cases kept

/-- A client that starts runs under what was given last. In real mode the address is the last one
given, or the built-in one, and it is HTTPS; with `--debug`, wherever it stands, the client has no
address, and neither an address nor real mode was asked for. -/
theorem startup_follows_arguments {arguments : List String} {config : StartupConfig}
    (parsed : parse qt arguments = .ok config) :
    let given := options (arguments.drop 1)
    (config.statePath = (lastValue statePathFlag given).getD qt.defaultStatePath ∧
      config.statePathExplicit = (lastValue statePathFlag given).isSome ∧
      config.showRawErrors =
        ((lastValue debugFlag given).isSome || (lastValue debugErrorsFlag given).isSome)) ∧
    (config.deviceId = ((lastValue deviceIdFlag given).bind qt.toInt).getD defaultDeviceId ∧
      0 < config.deviceId) ∧
    (config.mode = .real → config.apiUrl = (lastValue apiUrlFlag given).getD defaultApiUrl ∧
      qt.scheme config.apiUrl = httpsScheme) ∧
    (lastValue debugFlag given = none → config.mode = modeOf qt (lastValue modeFlag given)) ∧
    (lastValue debugFlag given ≠ none → config.mode = .mock ∧ config.apiUrl = "" ∧
      ∀ value, (apiUrlFlag, value) ∉ given ∧
        ((modeFlag, value) ∈ given → qt.toLower value = mockMode)) := by
  intro given
  unfold parse at parsed
  split at parsed
  · cases parsed
  · next state ends =>
    have follows : Follows qt given state := follows_run follows_start ends
    obtain ⟨rfl, apart, secured⟩ := finish_ok parsed
    refine ⟨⟨follows.statePath, follows.statePathExplicit, follows.showRawErrors⟩,
      ⟨follows.deviceId, follows.positive⟩, ?_, ?_, ?_⟩
    · intro real
      obtain ⟨filled, https⟩ := secured real
      refine ⟨?_, https⟩
      cases provided : state.apiUrlProvided with
      | false =>
        have none : lastValue apiUrlFlag given = none := by
          simpa [provided] using follows.apiUrlProvided.symm
        rw [none, follows.defaultUrl provided real]
        rfl
      | true =>
        have last := (follows.givenUrl provided).resolve_left filled
        rw [last]
        rfl
    · intro none
      have plain : state.debugMode = false := by rw [follows.debugMode, none]; rfl
      rw [follows.mode, plain]
      rfl
    · intro some
      have debugging : state.debugMode = true := by
        rw [follows.debugMode, Option.isSome_iff_ne_none]
        exact some
      obtain ⟨unreal, cleared⟩ := follows.debugged debugging
      have noUrl : lastValue apiUrlFlag given = none := by
        simpa [apart debugging] using follows.apiUrlProvided.symm
      refine ⟨by rw [follows.mode, if_pos debugging], cleared, fun value => ?_⟩
      exact ⟨lastValue_none noUrl, follows.mocked unreal value⟩

/-! ## Two command lines -/

/-- Letters are lower case already, the only numeral is `2`, and the scheme ends at a colon. -/
def plainQt : StartupQt where
  toLower text := text
  toInt text := if text = "2" then some 2 else none
  scheme text := String.ofList (text.toList.takeWhile (· ≠ ':'))
  defaultStatePath := "client-state.json"

/-- An address given twice. -/
def secondAddress : List String :=
  ["client", "--api-url", "http://first", "--device-id", "2", "--api-url", "https://second"]

theorem startup_follows_arguments_sample : ∃ config, parse plainQt secondAddress = .ok config ∧
    config.mode = .real ∧ config.apiUrl = "https://second" ∧ config.deviceId = 2 := by
  have starts : (parse plainQt secondAddress).isOk = true := by decide
  cases parsed : parse plainQt secondAddress with
  | error error =>
    rw [parsed] at starts
    cases starts
  | ok config =>
    obtain ⟨-, ⟨deviceId, -⟩, secured, plain, -⟩ := startup_follows_arguments parsed
    have real : config.mode = .real := plain (by decide)
    exact ⟨config, rfl, real, (secured real).1, deviceId⟩

end EpicKfc.Guarantees.StartupArguments
