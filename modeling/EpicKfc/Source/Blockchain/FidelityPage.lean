import EpicKfc.Lib.Digits
import EpicKfc.Lib.Trimming
import EpicKfc.Source.Blockchain.ConversationCalls
import Mathlib.Data.Nat.Find

/-!
# The fidelity page

`blockchain/fidelity-ui/app.js` over the conversation tree of `merkle-browser.js`.
`JSON.parse` of the messages and the contract behind a URL and an address come from
outside; a provider without such a contract raises.
-/

namespace EpicKfc.Source.Blockchain.FidelityPage
open EpicKfc.Lib
open EpicKfc.Lib.Keccak (Byte)
open EpicKfc.Source.Blockchain.Merkle
open EpicKfc.Source.Blockchain.MessageFidelity
open EpicKfc.Source.Blockchain.Conversation

/-! ## The tree of the browser -/

inductive PageError where
  | merkle (error : Browser.MerkleError)
  | notInTree
  | unreachable
  | absentSibling
  | reverted (error : FidelityError)
  | invalidTime

/-- The texts of the page's own errors. -/
def PageError.message : PageError → Option String
  | .merkle error => some error.message
  | .notInTree => some "Message not in tree"
  | .unreachable | .absentSibling | .reverted _ | .invalidTime => none

structure BrowserConversation where
  ordered : List AnchoredMessage
  tree : Browser.MerkleTree

def buildConversationMerkleTree (keccak256 : List Byte → Bytes32) (sort : ArraySort)
    (localeCompare : String → String → Ordering) (messages : List AnchoredMessage) :
    Except PageError BrowserConversation :=
  let ordered := sort (compareMessages localeCompare) messages
  let leaves := ordered.map fun message =>
    Browser.hashMessageLeaf keccak256 message.messageId message.plaintext
  match Browser.buildMerkleTree keccak256 leaves with
  | .error error => .error (.merkle error)
  | .ok tree => .ok ⟨ordered, tree⟩

/-- A sibling read outside its layer is `undefined`. -/
def BrowserConversation.getProofForMessage (conversation : BrowserConversation)
    (messageId : String) : Except PageError (List (Option Hex32)) :=
  match conversation.ordered.findIdx? fun message => message.messageId = messageId with
  | none => .error .notInTree
  | some index => .ok (conversation.tree.getProof index)

/-! ## Dates -/

/-- The last second that a `Date` has. -/
def maxTime : Nat := 8640000000000

def isLeapYear (year : Nat) : Bool := 4 ∣ year ∧ (¬ 100 ∣ year ∨ 400 ∣ year)

/-- Days from 1970 to the first of January of a year from 1970 on. -/
def dayFromYear (year : Nat) : Nat :=
  365 * (year - 1970) + (year - 1969) / 4 - (year - 1901) / 100 + (year - 1601) / 400

/-- The last year that starts no later than the day. -/
def yearFromDay (day : Nat) : Nat :=
  1970 + Nat.findGreatest (fun years => dayFromYear (1970 + years) ≤ day) (day / 365)

def monthLengths (year : Nat) : List Nat :=
  [31, if isLeapYear year then 29 else 28, 31, 30, 31, 30, 31, 31, 30, 31, 30, 31]

/-- Month and day of the month, from the months that are left and the day within them. -/
def monthAndDay (month : Nat) : List Nat → Nat → Nat × Nat
  | [], day => (month, day + 1)
  | length :: rest, day =>
    if day < length then (month, day + 1) else monthAndDay (month + 1) rest (day - length)

/-- Years after 9999 have a sign and six digits. -/
def isoYear (year : Nat) : List Char :=
  if year < 10000 then Digits.render 10 4 year else '+' :: Digits.render 10 6 year

/-- `new Date(Number(seconds) * 1000).toISOString()`, which raises for a time that is not a date's.
Up to `maxTime` the numbers are exact, and beyond it rounding leads to no smaller one. -/
def toISOString (seconds : Nat) : Option String :=
  if maxTime < seconds then none
  else
    let day := seconds / 86400
    let time := seconds % 86400
    let year := yearFromDay day
    let (month, date) := monthAndDay 1 (monthLengths year) (day - dayFromYear year)
    some (String.ofList (isoYear year ++ '-' :: Digits.render 10 2 month ++
      '-' :: Digits.render 10 2 date ++ 'T' :: Digits.render 10 2 (time / 3600) ++
      ':' :: Digits.render 10 2 (time / 60 % 60) ++ ':' :: Digits.render 10 2 (time % 60) ++
      ".000Z".toList))

theorem toISOString_eq_some_iff {seconds : Nat} :
    (∃ text, toISOString seconds = some text) ↔ seconds ≤ maxTime := by
  unfold toISOString
  split
  · next late => simp [late]
  · next early => simpa using early

example : toISOString 1709251199 = some "2024-02-29T23:59:59.000Z" := by decide

example : toISOString maxTime = some "+275760-09-13T00:00:00.000Z" := by decide +kernel

/-! ## Verification -/

/-- White space and line terminators of the language. -/
def isWhiteSpace (char : Char) : Bool :=
  let point := char.toNat
  (0x09 ≤ point && point ≤ 0x0d) || point = 0x20 || point = 0xa0 || point = 0x1680 ||
    (0x2000 ≤ point && point ≤ 0x200a) || point = 0x2028 || point = 0x2029 || point = 0x202f ||
    point = 0x205f || point = 0x3000 || point = 0xfeff

/-- `String.prototype.trim`. -/
def trim (text : String) : String := String.ofList (Trimming.trim isWhiteSpace text.toList)

structure PageFields where
  rpcUrl : String
  contractAddress : String
  userA : String
  userB : String
  verifyMessageId : String
  segmentKey : String
  messagesJson : String

/-- What the page shows of a verification. -/
structure Debug where
  recordId : Hex32
  localMerkleRoot : Hex32
  onChainRoot : Hex32
  anchoredAt : Uint256
  anchoredAtISO : String
  verifiedMessageId : String
  leaf : Hex32
  proof : List (Option Hex32)
  contractVerified : Bool
  rootMatches : Bool

inductive PageResult where
  | invalidMessages
  | missingFields
  | notInList (messageId : String)
  | verified (debug : Debug)
  | verificationError (error : PageError)

def PageResult.pass : PageResult → Bool
  | .verified debug => debug.contractVerified && debug.rootMatches
  | _ => false

def PageResult.title : PageResult → String
  | .invalidMessages => "Invalid messages JSON"
  | .missingFields => "Missing fields"
  | .notInList _ => "Message not in JSON list"
  | .verified debug =>
    if debug.contractVerified && debug.rootMatches then "Message proven in anchored Merkle history"
    else "Proof or root mismatch (possible tampering)"
  | .verificationError _ => "Verification error"

/-- The text of `setResult`. -/
def PageResult.text (result : PageResult) : String :=
  (if result.pass then "Pass: " else "Fail: ") ++ result.title

/-- An empty segment key is the number of messages. -/
def segmentKeyField (segmentKey : String) : Option String :=
  if trim segmentKey = "" then none else some (trim segmentKey)

/-- The `try` block, for the message found in the list; `ethers` refuses a proof with an
`undefined` word. -/
def verifyOnPage (keccak256 : List Byte → Bytes32) (sort : ArraySort)
    (localeCompare : String → String → Ordering) (contractAt : Option Contract)
    (userA userB : String) (messages : List AnchoredMessage) (target : AnchoredMessage)
    (segmentKey : Option String) : Except PageError Debug := do
  let conversation ← buildConversationMerkleTree keccak256 sort localeCompare messages
  let recordId := deriveConversationSegmentRecordId keccak256 userA userB
    (segmentKeyOf segmentKey messages)
  let leaf := Browser.hashMessageLeaf keccak256 target.messageId target.plaintext
  let proof ← conversation.getProofForMessage target.messageId
  match contractAt with
  | none => throw .unreachable
  | some contract =>
    let (root, anchoredAt) ← (getHash recordId.value contract).mapError .reverted
    let onChainRoot := Hex32.hexlify root
    match proof.mapM id with
    | none => throw .absentSibling
    | some words =>
      let contractOk ← (verifyMessageInHistory keccak256 recordId.value leaf.value
        (words.map Hex32.value) contract).mapError .reverted
      let localRootMatch := decide (conversation.tree.root.toLowerCase = onChainRoot.toLowerCase)
      match toISOString anchoredAt.toNat with
      | none => throw .invalidTime
      | some anchoredAtISO =>
        return ⟨recordId, conversation.tree.root, onChainRoot, anchoredAt, anchoredAtISO,
          target.messageId, leaf, proof, contractOk, localRootMatch⟩

/-- The fields a verification needs are not blank. -/
def PageFields.Filled (fields : PageFields) : Prop :=
  trim fields.rpcUrl ≠ "" ∧ trim fields.contractAddress ≠ "" ∧ trim fields.userA ≠ "" ∧
    trim fields.userB ≠ "" ∧ trim fields.verifyMessageId ≠ ""

instance (fields : PageFields) : Decidable fields.Filled :=
  inferInstanceAs (Decidable (_ ∧ _))

/-- `verifyMerkleFidelity`; `parseMessages` is `JSON.parse` with the check that it gives an array. -/
def verifyMerkleFidelity (keccak256 : List Byte → Bytes32) (sort : ArraySort)
    (localeCompare : String → String → Ordering)
    (parseMessages : String → Option (List AnchoredMessage))
    (provider : String → String → Option Contract) (fields : PageFields) : PageResult :=
  match parseMessages fields.messagesJson with
  | none => .invalidMessages
  | some messages =>
    if messages = [] then .invalidMessages
    else if ¬ fields.Filled then .missingFields
    else
      let verifyMessageId := trim fields.verifyMessageId
      match messages.find? fun message => message.messageId = verifyMessageId with
      | none => .notInList verifyMessageId
      | some target =>
        match verifyOnPage keccak256 sort localeCompare
            (provider (trim fields.rpcUrl) (trim fields.contractAddress)) (trim fields.userA)
            (trim fields.userB) messages target (segmentKeyField fields.segmentKey) with
        | .error error => .verificationError error
        | .ok debug => .verified debug

/-! ## The library's trees -/

variable {keccak256 : List Byte → Bytes32} {sort : ArraySort}
  {localeCompare : String → String → Ordering} {messages : List AnchoredMessage}

/-- Both build the tree of the same messages, or none. -/
theorem buildConversation_ok_iff {conversation : BrowserConversation} (nonempty : messages ≠ []) :
    buildConversationMerkleTree keccak256 sort localeCompare messages = .ok conversation ↔
      ∃ built, Conversation.buildConversationMerkleTree keccak256 sort localeCompare messages =
          .ok built ∧ built.orderedMessages = conversation.ordered ∧
        built.tree.layers = conversation.tree.layers ∧ built.root = conversation.tree.root := by
  rw [buildConversationMerkleTree, Conversation.buildConversationMerkleTree, if_neg nonempty]
  cases sort (compareMessages localeCompare) messages with
  | nil => simp [Browser.buildMerkleTree, buildMerkleTree]
  | cons first rest =>
    obtain ⟨ordered, tree⟩ := conversation
    simp only [Browser.buildMerkleTree, buildMerkleTree, List.map_cons, Except.ok.injEq,
      BrowserConversation.mk.injEq]
    constructor
    · rintro ⟨rfl, rfl⟩
      exact ⟨_, rfl, rfl, rfl, rfl⟩
    · rintro ⟨built, rfl, rfl, layers, root⟩
      refine ⟨rfl, ?_⟩
      cases tree
      cases layers
      cases root
      rfl

theorem exists_browser {built : ConversationTree} (nonempty : messages ≠ [])
    (build : Conversation.buildConversationMerkleTree keccak256 sort localeCompare messages =
      .ok built) :
    ∃ conversation, buildConversationMerkleTree keccak256 sort localeCompare messages =
        .ok conversation ∧ built.orderedMessages = conversation.ordered ∧
      built.tree.layers = conversation.tree.layers ∧ built.root = conversation.tree.root :=
  ⟨⟨built.orderedMessages, built.tree.layers, built.tree.root, built.tree.top⟩,
    (buildConversation_ok_iff nonempty).mpr ⟨built, build, rfl, rfl, rfl⟩, rfl, rfl, rfl⟩

/-- The browser's proof of a message is the library's. -/
theorem getProofForMessage_ok_iff {conversation : BrowserConversation} {built : ConversationTree}
    (tree : buildMerkleTree keccak256 (built.orderedMessages.map (messageLeaf keccak256)) =
      .ok built.tree)
    (ordered : built.orderedMessages = conversation.ordered)
    (layers : built.tree.layers = conversation.tree.layers) {messageId : String}
    {proof : List (Option Hex32)} :
    conversation.getProofForMessage messageId = .ok proof ↔
      ∃ words, built.getProofForMessage messageId = .ok words ∧ words.map some = proof := by
  rw [ConversationTree.getProofForMessage, BrowserConversation.getProofForMessage, ← ordered]
  cases found : built.orderedMessages.findIdx? (fun message => message.messageId = messageId) with
  | none => simp
  | some index =>
    obtain ⟨inside, -⟩ := List.findIdx?_eq_some_iff_getElem.mp found
    have here : (built.orderedMessages.map (messageLeaf keccak256))[index]? =
        some (messageLeaf keccak256 built.orderedMessages[index]) := by
      rw [List.getElem?_map, List.getElem?_eq_getElem inside, Option.map_some]
    obtain ⟨words, given, whole, -⟩ := proof_of_built tree here
    simp [given, Except.mapError, Browser.MerkleTree.getProof, ← layers, whole]

end EpicKfc.Source.Blockchain.FidelityPage
