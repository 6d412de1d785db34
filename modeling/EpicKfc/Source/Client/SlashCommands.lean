import EpicKfc.Lib.Trimming
import EpicKfc.Source.Client.Models

/-!
# Slash commands

`client/src/app/SlashCommandParser.cpp`, with `commandTypeFromName` of
`client/src/domain/Models.cpp`. Qt's text functions are a parameter.
-/

namespace EpicKfc.Source.Client
open EpicKfc.Lib

/-- Qt's text functions; `toInt` is `QString::toInt(&ok)`. -/
structure TextLibrary where
  trimmed : String → String
  toLower : String → String
  isSpace : Char → Bool
  contains : String → String → Bool
  containsIgnoringCase : String → String → Bool
  equalsIgnoringCase : String → String → Bool
  toInt : String → Option Int

/-- What Qt documents of the functions that the parser and the router call. -/
structure QtText (text : TextLibrary) : Prop where
  trimmed : ∀ value, text.trimmed value = String.ofList
    ((value.toList.dropWhile text.isSpace).reverse.dropWhile text.isSpace).reverse
  isSpace : ∀ char, char.toNat < 128 → text.isSpace char =
    (char == ' ' || (0x09 ≤ char.toNat && char.toNat ≤ 0x0d))
  toLower : ∀ value, (∀ char ∈ value.toList, 'a' ≤ char ∧ char ≤ 'z') → text.toLower value = value

section Text
variable {text : TextLibrary}

/-- A text without blanks at its ends is trimmed already. -/
theorem QtText.trimmed_eq (qt : QtText text) {value : String}
    (starts : ∀ char ∈ value.toList.head?, text.isSpace char = false)
    (ends : ∀ char ∈ value.toList.getLast?, text.isSpace char = false) :
    text.trimmed value = value := by
  have same := Trimming.trim_eq ⟨starts, ends⟩
  rw [Trimming.trim, List.rdropWhile] at same
  rw [qt.trimmed, same, String.ofList_toList]

/-- A printable ASCII character other than the space. -/
theorem QtText.isSpace_printable (qt : QtText text) {char : Char}
    (printable : 0x20 < char.toNat ∧ char.toNat < 128) :
    text.isSpace char = false ∧ char ≠ ' ' := by
  have other : char ≠ ' ' := by
    rintro rfl
    exact absurd printable.1 (by decide)
  refine ⟨?_, other⟩
  rw [qt.isSpace char printable.2, Bool.or_eq_false_iff, Bool.and_eq_false_iff]
  refine ⟨by simpa using other, Or.inr ?_⟩
  simp only [decide_eq_false_iff_not]
  omega

end Text

inductive CommandType where
  | help
  | register
  | login
  | logout
  | whoami
  | status
  | conversations
  | inbox
  | sent
  | msg
  | send
  | read
  | forward
  | revoke
  | deleteMessage
  | download
  | trust
  | verify
  | sync
  | cancel
  | back
  | exit
deriving DecidableEq

structure SlashCommand where
  type : CommandType
  name : String
  arguments : List String
  originalLine : String

def commandLookup : List (String × CommandType) := [
  ("help", .help),
  ("register", .register),
  ("login", .login),
  ("logout", .logout),
  ("whoami", .whoami),
  ("status", .status),
  ("conversations", .conversations),
  ("inbox", .inbox),
  ("sent", .sent),
  ("msg", .msg),
  ("send", .send),
  ("read", .read),
  ("forward", .forward),
  ("revoke", .revoke),
  ("delete", .deleteMessage),
  ("download", .download),
  ("trust", .trust),
  ("verify", .verify),
  ("sync", .sync),
  ("cancel", .cancel),
  ("back", .back),
  ("exit", .exit)]

namespace SlashCommandParser

variable (text : TextLibrary)

def commandTypeFromName (name : String) : Option CommandType :=
  (commandLookup.find? fun entry => entry.1 = text.toLower (text.trimmed name)).map Prod.snd

def helpPrompt : String := "Type /help to see available commands."

def invalidCommand (message : String) : ClientError := ⟨.invalidCommand, message⟩

/-- What the loop of `tokenizeArguments` carries. -/
structure Tokens where
  arguments : List String := []
  current : List Char := []
  inQuote : Bool := false
  escaping : Bool := false

/-- `arguments.push_back(current)` where it is not empty. -/
def Tokens.finished (tokens : Tokens) : List String :=
  if tokens.current.isEmpty then tokens.arguments
  else tokens.arguments ++ [String.ofList tokens.current]

def Tokens.next (tokens : Tokens) (character : Char) : Tokens :=
  if tokens.escaping then
    { tokens with current := tokens.current ++ [character], escaping := false }
  else if tokens.inQuote && character == '\\' then { tokens with escaping := true }
  else if character == '"' then { tokens with inQuote := !tokens.inQuote }
  else if text.isSpace character && !tokens.inQuote then
    { tokens with arguments := tokens.finished, current := [] }
  else { tokens with current := tokens.current ++ [character] }

def tokenizeArguments (characters : List Char) : Result (List String) :=
  let tokens := characters.foldl (Tokens.next text) {}
  if tokens.inQuote then .error (invalidCommand "Quoted argument is missing its closing quote.")
  else
    let current := if tokens.escaping then tokens.current ++ ['\\'] else tokens.current
    .ok { tokens with current := current }.finished

def parse (input : String) : Result SlashCommand :=
  let trimmed := (text.trimmed input).toList
  if trimmed.isEmpty then .error (invalidCommand ("Empty input is ignored. " ++ helpPrompt))
  else if trimmed.head? ≠ some '/' then
    .error (invalidCommand ("Commands must start with /. " ++ helpPrompt))
  else
    let hasArguments := trimmed.contains ' '
    let firstSpace := trimmed.idxOf ' '
    let name := if hasArguments then (trimmed.drop 1).take (firstSpace - 1) else trimmed.drop 1
    let commandName := text.toLower (String.ofList name)
    if commandName.isEmpty then
      .error (invalidCommand ("Command name is missing after /. " ++ helpPrompt))
    else
      match commandTypeFromName text commandName with
      | none =>
        .error (invalidCommand ("Unknown command /" ++ commandName ++ ". " ++ helpPrompt))
      | some commandType =>
        let arguments :=
          if hasArguments then tokenizeArguments text (trimmed.drop (firstSpace + 1)) else .ok []
        arguments.map fun arguments => ⟨commandType, commandName, arguments, input⟩

end SlashCommandParser

end EpicKfc.Source.Client
