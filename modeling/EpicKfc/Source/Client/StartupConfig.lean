import EpicKfc.Source.Client.Models

/-!
# The command line

`client/src/app/StartupConfig.cpp`. The loop walks an index over the arguments and
skips the value of a flag that has one; here the arguments are first paired with
these values. Qt's `toLower`, `toInt` and `QUrl::scheme` are parameters.
-/

namespace EpicKfc.Source.Client.StartupConfigParser

inductive ClientMode where
  | mock
  | real
deriving DecidableEq

structure StartupConfig where
  mode : ClientMode
  apiUrl : String
  deviceId : Int := defaultDeviceId
  statePath : String
  statePathExplicit : Bool := false
  showRawErrors : Bool := false

/-- What the parser takes from Qt; `toInt` fails where its flag says so. -/
structure StartupQt where
  toLower : String → String
  toInt : String → Option Int
  scheme : String → String
  defaultStatePath : String

def defaultApiUrl : String := "https://kfc.theburkenator.com/api/v1"
def mockMode : String := "mock"
def realMode : String := "real"
def modeFlag : String := "--mode"
def debugFlag : String := "--debug"
def debugErrorsFlag : String := "--debug-errors"
def apiUrlFlag : String := "--api-url"
def deviceIdFlag : String := "--device-id"
def statePathFlag : String := "--state-path"
def helpFlag : String := "--help"
def httpsScheme : String := "https"

def startupUsage : String :=
  "Usage: client [--debug] [--debug-errors] [--mode mock|real] [--api-url https://host/api/v1] " ++
    "[--device-id 1] [--state-path path]"

def invalidConfiguration (message : String) : ClientError := ⟨.invalidConfiguration, message⟩

def debugRealModeConflict : ClientError :=
  invalidConfiguration "--debug starts mock mode and cannot be combined with --mode real."

def debugApiUrlConflict : ClientError :=
  invalidConfiguration "--debug starts mock mode and cannot be combined with --api-url."

def invalidMode : ClientError := invalidConfiguration "Mode must be mock or real."

def invalidDeviceId : ClientError := invalidConfiguration "Device id must be a positive integer."

def missingRealApiUrl : ClientError :=
  invalidConfiguration "Real mode requires --api-url <https://host/api/v1>."

def tlsRequired : ClientError :=
  invalidConfiguration "Real mode requires HTTPS with certificate validation."

def unknownArgument (argument : String) : ClientError :=
  invalidConfiguration ("Unknown command /" ++ argument ++ ". " ++ startupUsage)

/-! ## The loop -/

/-- The branch of this argument reads `nextValue` and skips it. -/
def takesValue (argument : String) : Bool :=
  argument = modeFlag || argument = apiUrlFlag || argument = deviceIdFlag || argument = statePathFlag

/-- Each argument with its value, which is empty when there is none. -/
def options : List String → List (String × String)
  | [] => []
  | [argument] => [(argument, "")]
  | argument :: value :: rest =>
    if takesValue argument then (argument, value) :: options rest
    else (argument, "") :: options (value :: rest)

/-- The local variables of `parse`. -/
structure ParseState where
  config : StartupConfig
  debugMode : Bool := false
  realModeProvided : Bool := false
  apiUrlProvided : Bool := false

variable (qt : StartupQt)

def ParseState.start : ParseState where
  config := { mode := .real, apiUrl := defaultApiUrl, statePath := qt.defaultStatePath }

def ParseState.debug (state : ParseState) : ParseState :=
  { state with
    debugMode := true
    config := { state.config with mode := .mock, showRawErrors := true, apiUrl := "" } }

def ParseState.debugErrors (state : ParseState) : ParseState :=
  { state with config := { state.config with showRawErrors := true } }

def ParseState.mock (state : ParseState) : ParseState :=
  { state with config := { state.config with mode := .mock, apiUrl := "" } }

def ParseState.real (state : ParseState) : ParseState :=
  { state with
    realModeProvided := true
    config := { state.config with
      mode := .real
      apiUrl := if state.apiUrlProvided then state.config.apiUrl else defaultApiUrl } }

def ParseState.withApiUrl (state : ParseState) (value : String) : ParseState :=
  { state with apiUrlProvided := true, config := { state.config with apiUrl := value } }

def ParseState.withDeviceId (state : ParseState) (deviceId : Int) : ParseState :=
  { state with config := { state.config with deviceId := deviceId } }

def ParseState.withStatePath (state : ParseState) (value : String) : ParseState :=
  { state with config := { state.config with statePath := value, statePathExplicit := true } }

/-- The body of the loop. -/
def applyOption (state : ParseState) (argument value : String) : Result ParseState :=
  if argument = helpFlag then .error (invalidConfiguration startupUsage)
  else if argument = debugFlag then
    if state.realModeProvided then .error debugRealModeConflict else .ok state.debug
  else if argument = debugErrorsFlag then .ok state.debugErrors
  else if argument = modeFlag then
    if qt.toLower value = mockMode then .ok state.mock
    else if qt.toLower value = realMode then
      if state.debugMode then .error debugRealModeConflict else .ok state.real
    else .error invalidMode
  else if argument = apiUrlFlag then
    if state.debugMode then .error debugApiUrlConflict else .ok (state.withApiUrl value)
  else if argument = deviceIdFlag then
    match qt.toInt value with
    | none => .error invalidDeviceId
    | some deviceId => if deviceId ≤ 0 then .error invalidDeviceId else .ok (state.withDeviceId deviceId)
  else if argument = statePathFlag then .ok (state.withStatePath value)
  else .error (unknownArgument argument)

def applyOptions (state : ParseState) : List (String × String) → Result ParseState
  | [] => .ok state
  | (argument, value) :: rest =>
    match applyOption qt state argument value with
    | .error error => .error error
    | .ok state => applyOptions state rest

/-- What follows the loop. -/
def finish (state : ParseState) : Result StartupConfig :=
  if state.debugMode && state.apiUrlProvided then .error debugApiUrlConflict
  else if state.config.mode = .real then
    if state.config.apiUrl.isEmpty then .error missingRealApiUrl
    else if qt.scheme state.config.apiUrl ≠ httpsScheme then .error tlsRequired
    else .ok state.config
  else .ok state.config

/-- `parse`; the first argument is the program. -/
def parse (arguments : List String) : Result StartupConfig :=
  match applyOptions qt (.start qt) (options (arguments.drop 1)) with
  | .error error => .error error
  | .ok state => finish qt state

/-! ## What one option does -/

/-- The ways in which the loop goes on. -/
inductive Applies (state : ParseState) : String → String → ParseState → Prop where
  | debug (value : String) : state.realModeProvided = false →
      Applies state debugFlag value state.debug
  | debugErrors (value : String) : Applies state debugErrorsFlag value state.debugErrors
  | mock (value : String) : qt.toLower value = mockMode → Applies state modeFlag value state.mock
  | real (value : String) : qt.toLower value = realMode → state.debugMode = false →
      Applies state modeFlag value state.real
  | apiUrl (value : String) : state.debugMode = false →
      Applies state apiUrlFlag value (state.withApiUrl value)
  | deviceId (value : String) (deviceId : Int) : qt.toInt value = some deviceId → 0 < deviceId →
      Applies state deviceIdFlag value (state.withDeviceId deviceId)
  | statePath (value : String) : Applies state statePathFlag value (state.withStatePath value)

theorem applies_of_ok {state state' : ParseState} {argument value : String}
    (applied : applyOption qt state argument value = .ok state') :
    Applies qt state argument value state' := by
  unfold applyOption at applied
  split at applied
  · cases applied
  · split at applied
    · next here =>
      split at applied
      · cases applied
      · next free =>
        cases applied
        exact here ▸ .debug value (by simpa using free)
    · split at applied
      · next here =>
        cases applied
        exact here ▸ .debugErrors value
      · split at applied
        · next here =>
          split at applied
          · next mock =>
            cases applied
            exact here ▸ .mock value mock
          · split at applied
            · next real =>
              split at applied
              · cases applied
              · next free =>
                cases applied
                exact here ▸ .real value real (by simpa using free)
            · cases applied
        · split at applied
          · next here =>
            split at applied
            · cases applied
            · next free =>
              cases applied
              exact here ▸ .apiUrl value (by simpa using free)
          · split at applied
            · next here =>
              split at applied
              · cases applied
              · next deviceId read =>
                split at applied
                · cases applied
                · next positive =>
                  cases applied
                  exact here ▸ .deviceId value deviceId read (by omega)
            · split at applied
              · next here =>
                cases applied
                exact here ▸ .statePath value
              · cases applied

end EpicKfc.Source.Client.StartupConfigParser
