import EpicKfc.Lib.Runs
import EpicKfc.Source.Client.ServiceFlows

/-!
# Command router

`client/src/app/ClientController.cpp` and `client/src/app/CommandRouter.cpp`, and
the Qt loop around them: a line of the console, the reply to a gateway call, or
refreshed tokens, one at a time and in any order.
-/

namespace EpicKfc.Source.Client
open EpicKfc.Lib ServiceFlow

namespace ClientController

variable (configuration : Configuration) (text : TextLibrary)

def invalidCommand (message : String) : ClientError := ⟨.invalidCommand, message⟩

def registerUser (username email password : String) : ServiceFlow Unit := do
  emit (.operationStarted .registeringUser)
  ServiceFlow.registerUser username email password

def login (usernameOrEmail password : String) : ServiceFlow Unit := do
  emit (.operationStarted .loggingIn)
  ServiceFlow.login usernameOrEmail password

def openConversation (username : String) (page : Int) : ServiceFlow Unit := do
  emit (.conversationTargetChanged username)
  emit (.operationStarted .loadingConversation)
  readConversation username page

def sendMessage (recipientUsername body : String) : ServiceFlow Unit :=
  if (text.trimmed body).isEmpty then
    emit (.commandFailed (invalidCommand "Cannot send an empty message."))
  else do
    emit (.conversationTargetChanged recipientUsername)
    emit (.operationStarted .sendingMessage)
    send recipientUsername body

def beginMessageComposition (recipientUsername : String) : ServiceFlow Unit := do
  emit (.conversationTargetChanged recipientUsername)
  emit (.messagePrepared recipientUsername configuration.deviceId "")

def submitComposedMessage (recipientUsername body : String) : ServiceFlow Unit :=
  sendMessage text recipientUsername body

def cancelComposition : ServiceFlow Unit := emit .messageCompositionCancelled

/-- The commands that take one argument and start an operation with it. -/
def withArgument (command : SlashCommand) (message : Operation)
    (operation : String → ServiceFlow Unit) : ServiceFlow Unit :=
  match command.arguments with
  | [argument] => do
    emit (.operationStarted message)
    operation argument
  | _ => pure ()

def read (command : SlashCommand) : ServiceFlow Unit :=
  let opened (username : String) (page : Option Int) : ServiceFlow Unit :=
    match page with
    | some page =>
      if page ≤ 0 then
        emit (.commandFailed (invalidCommand
          ("/" ++ command.name ++ " expects page to be a positive integer.")))
      else openConversation username page
    | none =>
      emit (.commandFailed (invalidCommand
        ("/" ++ command.name ++ " expects page to be a positive integer.")))
  match command.arguments with
  | [username] => opened username (some 1)
  | [username, page] => opened username (text.toInt page)
  | _ => pure ()

def whoami : ServiceFlow Unit := do
  let session : Option AuthSession ← ask .currentSession
  match session with
  | some session => emit (.statusMessage (.loggedInAs session.user.username session.user.id))
  | none => emit (.statusMessage .notLoggedIn)

def handleCommand (command : SlashCommand) : ServiceFlow Unit :=
  match command.type with
  | .help => emit (.statusMessage .help)
  | .logout => do
    emit (.conversationTargetChanged "")
    emit (.operationStarted .loggingOut)
    logout
  | .whoami => whoami
  | .status => emit (.statusMessage (.clientStatus configuration.deviceId))
  | .conversations => do
    emit (.operationStarted .loadingConversations)
    listConversations
  | .inbox => do
    emit (.operationStarted .loadingUnreadInbox)
    listUnreadSenders
  | .sync => do
    emit (.operationStarted .syncingMessages)
    listReceived
  | .sent => do
    emit (.operationStarted .loadingSentMessages)
    listSent
  | .read => read text command
  | .forward =>
    match command.arguments with
    | [messageId, recipientUsername] => do
      emit (.operationStarted .forwardingMessage)
      forward messageId recipientUsername
    | _ => pure ()
  | .revoke => withArgument command .revokingMessage revoke
  | .deleteMessage => withArgument command .deletingMessage deleteMessage
  | .download => withArgument command .exportingMessage download
  | .trust => withArgument command .checkingTrust trustUsername
  | .verify => withArgument command .verifyingMessage verify
  | .cancel => emit (.statusMessage .noComposition)
  | .back => do
    emit (.conversationTargetChanged "")
    emit (.statusMessage .returnedToMainMenu)
  | .exit => emit .exitRequested
  | .register | .login | .msg | .send => pure ()

end ClientController

inductive InputMode where
  | command
  | registerPassword
  | loginPassword
  | messageComposition
deriving DecidableEq

structure CommandRouter where
  inputMode : InputMode := .command
  operationInProgress : Bool := false
  pendingUsername : String := ""
  pendingEmail : String := ""
  pendingLoginIdentifier : String := ""
  activeConversationUsername : String := ""
  compositionRecipientUsername : String := ""
  compositionLines : List String := []

namespace CommandRouter

variable (configuration : Configuration) (text : TextLibrary)

/-- The connections that the constructor makes. -/
def connected (router : CommandRouter) : Signal → CommandRouter
  | .operationStarted _ => { router with operationInProgress := true }
  | .conversationTargetChanged username => { router with activeConversationUsername := username }
  | .sessionEnded => { router with activeConversationUsername := "", operationInProgress := false }
  | .statusMessage _ | .commandFailed _ | .sessionStarted _
  | .trustPinCreated _ | .trustPinMatched _ _ | .trustPinMismatch _ _
  | .conversationListUpdated _ | .unreadInboxUpdated _ | .conversationLogOpened _ _ _
  | .messageListUpdated _ | .messageSent _ | .messageForwarded _ | .messageRevoked _
  | .messageDeleted _ | .messageDownloaded _ _ | .fidelityStatusUpdated _ _
  | .backendUnavailable _ | .cryptoOperationFailed _ => { router with operationInProgress := false }
  | .slashCommandReceived _ | .deviceKeysReady _ | .messagePrepared _ _ _
  | .messageCompositionCancelled | .exitRequested => router

/-- A separator only follows a text that is not empty. -/
def joined (separator : String) (parts : List String) : String :=
  parts.foldl (fun result part => (if result.isEmpty then result else result ++ separator) ++ part) ""

def joinedLines (lines : List String) : String := joined "\n" lines

def joinedArguments (arguments : List String) (firstIndex : Nat) : String :=
  joined " " (arguments.drop firstIndex)

/-- `line.mid(prompt.size())` where the line starts with the prompt. -/
def afterPrefix (start line : String) : Option String :=
  if start.toList.isPrefixOf line.toList then
    some (String.ofList (line.toList.drop start.toList.length))
  else none

def withoutConversationPromptEcho (line username : String) : String :=
  if username.isEmpty then line
  else
    match afterPrefix ("[" ++ username ++ "] > ") line with
    | some rest => text.trimmed rest
    | none =>
      match afterPrefix ("[" ++ username ++ "] >") line with
      | some rest =>
        let stripped := text.trimmed rest
        text.trimmed ((afterPrefix "→" stripped).getD stripped)
      | none => line

def isClientOutputEcho (line : String) : Bool := text.trimmed line == "Sending message..."

def zeroArgumentCommands : List CommandType :=
  [.help, .logout, .whoami, .status, .conversations, .inbox, .sent, .sync, .cancel, .back, .exit]

def oneArgumentCommands : List CommandType := [.revoke, .deleteMessage, .verify, .trust]

/-- What `commandHasArgumentCount` emits; only an exact count is named as one. -/
def argumentCountError (command : SlashCommand) (minimum : Nat) (maximum : Option Nat) :
    ClientError :=
  let expected := if maximum = some minimum then toString minimum ++ " argument(s)"
    else "at least " ++ toString minimum ++ " argument(s)"
  ClientController.invalidCommand ("/" ++ command.name ++ " expects " ++ expected ++ ".")

/-- The router after a line, and what the line made it do. -/
abbrev Handled := CommandRouter × ServiceFlow Unit

/-- `if (commandHasArgumentCount(command, minimum, maximum)) { … }` -/
def withArgumentCount (router : CommandRouter) (command : SlashCommand) (minimum : Nat)
    (maximum : Option Nat) (accepted : Handled) : Handled :=
  if minimum ≤ command.arguments.length ∧ maximum.all (command.arguments.length ≤ ·) then accepted
  else (router, emit (.commandFailed (argumentCountError command minimum maximum)))

/-- The recipient is also the conversation that the controller makes the active one. -/
def composing (router : CommandRouter) (recipientUsername : String) : Handled :=
  ({ router with
      compositionRecipientUsername := recipientUsername
      compositionLines := []
      inputMode := .messageComposition },
    ClientController.beginMessageComposition configuration recipientUsername)

def handleMsgCommand (router : CommandRouter) (command : SlashCommand) : Handled :=
  withArgumentCount router command 1 none
    (let username := command.arguments.headD ""
    let body := joinedArguments command.arguments 1
    (router, if body.isEmpty then ClientController.openConversation username 1
      else ClientController.sendMessage text username body))

def handleSendCommand (router : CommandRouter) (command : SlashCommand) : Handled :=
  if !router.activeConversationUsername.isEmpty then
    if command.arguments.isEmpty then
      composing configuration router router.activeConversationUsername
    else
      (router, ClientController.sendMessage text router.activeConversationUsername
        (joinedArguments command.arguments 0))
  else
    withArgumentCount router command 1 none
      (if command.arguments.length > 1 then
        (router, ClientController.sendMessage text (command.arguments.headD "")
          (joinedArguments command.arguments 1))
      else composing configuration router (command.arguments.headD ""))

/-- The switches over `command.type`. -/
def dispatch (router : CommandRouter) (command : SlashCommand) : Handled :=
  let controlled : Handled :=
    (router, ClientController.handleCommand configuration text command)
  match command.type with
  | .register =>
    withArgumentCount router command 2 (some 2)
      ({ router with
          pendingUsername := command.arguments.getD 0 ""
          pendingEmail := command.arguments.getD 1 ""
          inputMode := .registerPassword },
        emit (.statusMessage .enterRegistrationPassword))
  | .login =>
    withArgumentCount router command 1 (some 1)
      ({ router with
          pendingLoginIdentifier := command.arguments.headD ""
          inputMode := .loginPassword },
        emit (.statusMessage .enterLoginPassword))
  | .msg => handleMsgCommand text router command
  | .send => handleSendCommand configuration text router command
  | .read => withArgumentCount router command 1 (some 2) controlled
  | .forward => withArgumentCount router command 2 (some 2) controlled
  | .download => withArgumentCount router command 1 (some 1) controlled
  | type =>
    if type ∈ zeroArgumentCommands then withArgumentCount router command 0 (some 0) controlled
    else if type ∈ oneArgumentCommands then withArgumentCount router command 1 (some 1) controlled
    else controlled

def handleCommandMode (router : CommandRouter) (line : String) : Handled :=
  let trimmed := text.trimmed line
  if trimmed.isEmpty then (router, pure ())
  else if !router.activeConversationUsername.isEmpty && trimmed.toList.head? != some '/' then
    let body := withoutConversationPromptEcho text line router.activeConversationUsername
    if !(text.trimmed body).isEmpty && !isClientOutputEcho text body then
      (router, ClientController.sendMessage text router.activeConversationUsername body)
    else (router, pure ())
  else
    match SlashCommandParser.parse text line with
    | .error error => (router, emit (.commandFailed error))
    | .ok command =>
      let (router, flow) := dispatch configuration text router command
      (router, do emit (.slashCommandReceived command); flow)

def handleRegisterPassword (router : CommandRouter) (line : String) : Handled :=
  ({ router with inputMode := .command, pendingUsername := "", pendingEmail := "" },
    ClientController.registerUser router.pendingUsername router.pendingEmail line)

def handleLoginPassword (router : CommandRouter) (line : String) : Handled :=
  ({ router with inputMode := .command, pendingLoginIdentifier := "" },
    ClientController.login router.pendingLoginIdentifier line)

def handleMessageComposition (router : CommandRouter) (line : String) : Handled :=
  let trimmed := text.trimmed line
  let closed : CommandRouter := { router with inputMode := .command, compositionLines := [] }
  if text.equalsIgnoringCase trimmed "/send" then
    (closed, ClientController.submitComposedMessage text router.compositionRecipientUsername
      (joinedLines router.compositionLines))
  else if text.equalsIgnoringCase trimmed "/cancel" then (closed, ClientController.cancelComposition)
  else if text.equalsIgnoringCase trimmed "/back" then
    (closed, ClientController.handleCommand configuration text ⟨.back, "back", [], line⟩)
  else
    let bodyLine := withoutConversationPromptEcho text line router.compositionRecipientUsername
    if (text.trimmed bodyLine).isEmpty || isClientOutputEcho text bodyLine then (router, pure ())
    else
      let lines := router.compositionLines ++ [bodyLine]
      ({ router with compositionLines := lines },
        -- `DefaultDeviceId`, not the configured device.
        emit (.messagePrepared router.compositionRecipientUsername 1 (joinedLines lines)))

/-- Commands are refused while an operation is in progress; other input is not. -/
def commandInputWhileBusy (router : CommandRouter) : Bool :=
  router.inputMode == .command && router.operationInProgress

def handleLine (router : CommandRouter) (line : String) : Handled :=
  if router.commandInputWhileBusy then
    (router, if (text.trimmed line).isEmpty then pure ()
      else emit (.operationStarted .operationInProgress))
  else
    match router.inputMode with
    | .command => handleCommandMode configuration text router line
    | .registerPassword => handleRegisterPassword router line
    | .loginPassword => handleLoginPassword router line
    | .messageComposition => handleMessageComposition configuration text router line

end CommandRouter

/-! ## The console -/

/-- The router and the gateway calls whose replies are outstanding. -/
structure Console where
  router : CommandRouter := {}
  waiting : List GatewayCall := []

inductive ConsoleEvent where
  | line (line : String)
  | reply (index : Nat) (result : (call : GatewayCall) → call.Reply)
  | tokensUpdated (tokens : TokenSet)

/-- Answers to what the services ask in one turn of the loop. -/
abbrev ServiceAnswers := Flow.Answers serviceInterface

namespace Console

variable (configuration : Configuration) (text : TextLibrary)

/-- Signals change other fields than `handleLine` does, so they may follow it. -/
def performed (console : Console) (flow : ServiceFlow Unit) (answers : ServiceAnswers) : Console :=
  let outcome := flow.perform answers 0
  { router := outcome.1.foldl CommandRouter.connected console.router
    waiting := console.waiting ++ outcome.2 }

/-- What the loop runs for an event, and the console it runs on. -/
def turn (console : Console) : ConsoleEvent → Option (Console × ServiceFlow Unit)
  | .line line =>
    let (router, flow) := console.router.handleLine configuration text line
    some ({ console with router := router }, flow)
  | .reply index result =>
    console.waiting[index]?.map fun call =>
      ({ console with waiting := console.waiting.eraseIdx index },
        replied configuration text call (result call))
  | .tokensUpdated tokens => some (console, updateTokens tokens)

/-- A gateway that answers at once is one whose reply comes next. -/
def step (console : Console) (event : ConsoleEvent × ServiceAnswers) : Option Console :=
  (console.turn configuration text event.1).map fun (console, flow) =>
    console.performed flow event.2

theorem step_line (console : Console) (line : String) (answers : ServiceAnswers) :
    console.step configuration text (.line line, answers) = some (performed
      { console with router := (console.router.handleLine configuration text line).1 }
      (console.router.handleLine configuration text line).2 answers) :=
  rfl

end Console

/-! ## A small console -/

/-- Qt's text functions on lower-case ASCII text with no blanks around it. -/
def sampleText : TextLibrary where
  trimmed := id
  toLower := id
  isSpace := (· == ' ')
  contains := fun _ _ => false
  containsIgnoringCase := fun _ _ => false
  equalsIgnoringCase := (· == ·)
  toInt := fun _ => none

/-- `QChar::isSpace`. -/
def isSpaceChar (char : Char) : Bool :=
  char == ' ' || (0x09 ≤ char.toNat && char.toNat ≤ 0x0d) || char.toNat == 0x85 ||
    char.toNat == 0xa0 || char.toNat == 0x1680 || (0x2000 ≤ char.toNat && char.toNat ≤ 0x200a) ||
    char.toNat == 0x2028 || char.toNat == 0x2029 || char.toNat == 0x202f || char.toNat == 0x205f ||
    char.toNat == 0x3000

/-- Qt's functions, `toLower` as on ASCII text. -/
def asciiText : TextLibrary :=
  { sampleText with
    trimmed := fun value => String.ofList
      ((value.toList.dropWhile isSpaceChar).reverse.dropWhile isSpaceChar).reverse
    toLower := fun value => String.ofList (value.toList.map Char.toLower)
    isSpace := isSpaceChar }

theorem toLower_letter {char : Char} (letter : 'a' ≤ char ∧ char ≤ 'z') : char.toLower = char := by
  have low : 'a'.val ≤ char.val := letter.1
  have above : ¬ char.val ≤ 'Z'.val := by
    intro high
    exact absurd (UInt32.le_trans low high) (by decide)
  exact dif_neg fun upper => above upper.2

theorem qtText_asciiText : QtText asciiText where
  trimmed := fun _ => rfl
  isSpace := by
    intro char ascii
    simp only [asciiText, isSpaceChar, Bool.or_assoc]
    congr 2
    -- the other spaces are not ASCII
    rw [Bool.or_eq_left_iff_imp]
    simp only [Bool.or_eq_true, Bool.and_eq_true, beq_iff_eq, decide_eq_true_eq]
    omega
  toLower := by
    intro value letters
    have same : value.toList.map Char.toLower = value.toList :=
      (List.map_congr_left fun char member => toLower_letter (letters char member)).trans (List.map_id _)
    exact (congrArg String.ofList same).trans (String.ofList_toList)

def offline : ClientError := ⟨.networkError, "offline"⟩

def sampleMaterial : DeviceKeyMaterial := ⟨1, 1, "", "", "", "", 1, "", "", ""⟩

/-- A client that is logged in and whose store accepts everything. -/
def sampleAnswers : ServiceAnswers := fun _ question =>
  match question with
  | .currentSession => some {}
  | .loadDeviceKeys => .ok (some sampleMaterial)
  | .loadOrCreateDevice _ => .ok sampleMaterial
  | .loadOneTimePreKeys | .createOneTimePreKeys => .ok []
  | .cachedBundle _ _ => none
  | .trustPin _ _ => .ok none
  | .currentDateTimeUtc => none
  | .encrypt _ _ _ => .ok ⟨"", none⟩
  | .createLocalSenderCopy _ _ | .decryptForCurrentUser _ _ => .ok ""
  | .draftFor address wirePayloadJson =>
    ⟨"", "", 1, address.userId, address.deviceId, wirePayloadJson, none, none, "", "", "", "", "", "",
      .sent, "", {}⟩
  | .conversationsFor | .unreadConversationsFor | .messagesWithPeer _ => .ok []
  | .conversationLog _ _ _ => ⟨[], 1, 1⟩
  | .findMessage _ => .ok none
  | .openFile _ => true
  | .useAccountScopedPath _ | .reload | .saveSession _ | .clearSession | .saveDeviceKeys _
  | .saveOneTimePreKeys _ | .saveKnownUser _ | .verifySignedPreKey _ | .saveTrustPin _
  | .saveMessage _ | .reconcileVisibleMessages _ _ | .markConversationRead _
  | .markMessageDeletedFor _ => .ok ()

def refusing : (call : GatewayCall) → call.Reply
  | .registerUser _ _ _ | .login _ _ | .logout | .upsertDeviceKeys _ | .uploadOneTimePreKeys _
  | .resolveUsername _ _ | .fetchTrustBundle _ | .fetchTrustedBundle _ _ _ | .listReceived _
  | .listSent _ | .deliver _ _ _ _ | .revokeMessage _ | .deleteMessage _ | .fetchMessageAnchor _
  | .verifyAnchor _ _ => .error offline

/-- A backend that lets the user log in. -/
def admitting : (call : GatewayCall) → call.Reply
  | .login _ _ => .ok {}
  | call => refusing call

end EpicKfc.Source.Client
