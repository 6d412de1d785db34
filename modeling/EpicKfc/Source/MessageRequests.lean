import EpicKfc.Source.KeyRequests

/-!
# Messages between client and backend

The body of `sendBodyFor` as the schema of the message routes reads it.
-/

namespace EpicKfc.Source.MessageRequests
open EpicKfc.Lib
open EpicKfc.Lib.StrictModels
open EpicKfc.Source.Client.RequestBodies
open EpicKfc.Source.KeyRequests
open EpicKfc.Source.Server
open EpicKfc.Source.Server.RequestModels
open EpicKfc.Source.Server.WirePayloads

/-- The route's request when this body is posted. -/
def PostsBody (pydantic : Pydantic) (body : Json.Members) (request : Messages.MessageCreateRequest) :
    Prop :=
  ∃ message, messageCreateRequest pydantic (.object body) = .ok message ∧
    message.columns = some request

/-- The route's request when the client posts this draft. -/
def Posts (pydantic : Pydantic) (draft : Client.LocalMessage) (consumedPreKeyId : Option Int)
    (request : Messages.MessageCreateRequest) : Prop :=
  PostsBody pydantic (sendBodyFor draft consumedPreKeyId) request

variable {pydantic : Pydantic}

/-- The members of a body, as both clients of the backend write them. -/
structure BodyOf (senderDeviceId : Int) (recipientUserId : String) (recipientDeviceId : Int)
    (wirePayloadJson : String) (consumedPreKeyId : Option Int) (body : Json.Members) : Prop where
  senderDeviceId : Json.lookup body "sender_device_id" = some (.number senderDeviceId)
  recipientUserId : Json.lookup body "recipient_user_id" = some (.string recipientUserId)
  recipientDeviceId : Json.lookup body "recipient_device_id" = some (.number recipientDeviceId)
  payload : Json.lookup body "wire_payload_json" = some (.string wirePayloadJson)
  consumed : Json.lookup body "consumed_one_time_prekey_id" = consumedPreKeyId.map Json.number
  names : ∀ member ∈ body, member.1 ∈ ["sender_device_id", "recipient_user_id",
    "recipient_device_id", "wire_payload_json", "consumed_one_time_prekey_id"]

/-- The schema takes a body whose payload passes its validator, and changes nothing. -/
theorem postsBody_iff {senderDeviceId recipientDeviceId : Int} {recipientUserId payload : String}
    {consumedPreKeyId : Option Int} {body : Json.Members} {request : Messages.MessageCreateRequest}
    (members : BodyOf senderDeviceId recipientUserId recipientDeviceId payload consumedPreKeyId body) :
    PostsBody pydantic body request ↔
      request.senderDeviceId.val = senderDeviceId ∧
      pydantic.uuidOfText recipientUserId = .ok request.recipientUserId ∧
      request.recipientDeviceId.val = recipientDeviceId ∧
      request.wirePayloadJson.val = payload ∧
      validateWirePayloadJson payload = .ok payload ∧
      request.consumedOneTimePrekeyId.map Subtype.val = consumedPreKeyId := by
  have optional (value : Option Positive) :
      defaulted "consumed_one_time_prekey_id" none (orNull (readPositive pydantic)) body = .ok value ↔
        value.map Subtype.val = consumedPreKeyId := by
    rw [defaulted_eq_ok, members.consumed]
    cases consumedPreKeyId with
    | none => cases value <;> simp
    | some preKeyId => cases value <;> simp [orNull, map_eq_ok]
  unfold PostsBody
  simp only [messageCreateRequest_eq_ok, MessageCreate.columns_eq_some,
    required_of_lookup members.senderDeviceId, required_of_lookup members.recipientUserId,
    required_of_lookup members.recipientDeviceId, required_of_lookup members.payload, optional,
    readPositive_eq_ok, readWirePayload_eq_ok, readUuid_string, and_iff_left members.names]
  constructor
  · rintro ⟨message, ⟨sender, recipient, device, ⟨text, valid⟩, taken⟩, senderColumn, recipientColumn,
      deviceColumn, payloadColumn, takenColumn⟩
    exact ⟨senderColumn.symm.trans sender, recipientColumn ▸ recipient, deviceColumn.symm.trans device,
      payloadColumn ▸ text, valid, takenColumn.symm.trans taken⟩
  · rintro ⟨sender, recipient, device, text, valid, taken⟩
    have positive : ∀ number : PositiveInt, 0 < number.val := fun number => number.property.1
    refine ⟨⟨⟨_, positive request.senderDeviceId⟩, _, ⟨_, positive request.recipientDeviceId⟩, _,
      request.consumedOneTimePrekeyId.map fun number => ⟨number.val, positive number⟩⟩,
      ⟨sender, recipient, device, ⟨text, valid⟩, ?_⟩, rfl, rfl, rfl, rfl, ?_⟩
    · rw [← taken, Option.map_map]
      rfl
    · rw [Option.map_map]
      rfl

theorem lookup_sendBodyFor (draft : Client.LocalMessage) (consumedPreKeyId : Option Int) :
    let body := sendBodyFor draft consumedPreKeyId
    Json.lookup body "sender_device_id" = some (.number draft.senderDeviceId) ∧
    Json.lookup body "recipient_user_id" = some (.string draft.recipientUserId) ∧
    Json.lookup body "recipient_device_id" = some (.number draft.recipientDeviceId) ∧
    Json.lookup body "wire_payload_json" = some (.string draft.wirePayloadJson) ∧
    Json.lookup body "consumed_one_time_prekey_id" = consumedPreKeyId.map Json.number := by
  cases consumedPreKeyId with
  | none =>
    simp only [sendBodyFor]
    refine ⟨?_, ?_, ?_, ?_, ?_⟩
    all_goals
      rw [Json.lookup_ofMembers _ (by simp)]
      simp [Json.lookup_cons]
  | some preKeyId =>
    simp only [sendBodyFor]
    refine ⟨?_, ?_, ?_, ?_, ?_⟩
    all_goals
      rw [Json.lookup_insert, Json.lookup_ofMembers _ (by simp)]
      simp [Json.lookup_cons]

theorem names_sendBodyFor (draft : Client.LocalMessage) (consumedPreKeyId : Option Int) :
    ∀ member ∈ sendBodyFor draft consumedPreKeyId, member.1 ∈ ["sender_device_id",
      "recipient_user_id", "recipient_device_id", "wire_payload_json",
      "consumed_one_time_prekey_id"] := by
  have named {member : String × Json} (listed : member ∈ sendBodyFor draft none) :
      member.1 ∈ ["sender_device_id", "recipient_user_id", "recipient_device_id",
        "wire_payload_json"] := Json.name_mem_of_ofMembers listed
  intro member listed
  cases consumedPreKeyId with
  | none => exact List.mem_append_left ["consumed_one_time_prekey_id"] (named listed)
  | some preKeyId =>
    obtain here | listed := Json.name_mem_of_insert listed
    · simp [here]
    · obtain ⟨earlier, built, same⟩ := List.mem_map.mp listed
      exact List.mem_append_left ["consumed_one_time_prekey_id"] (same ▸ named built)

/-- The schema takes a draft whose payload passes its validator, and changes nothing. -/
theorem posts_iff {draft : Client.LocalMessage} {consumedPreKeyId : Option Int}
    {request : Messages.MessageCreateRequest} : Posts pydantic draft consumedPreKeyId request ↔
      request.senderDeviceId.val = draft.senderDeviceId ∧
      pydantic.uuidOfText draft.recipientUserId = .ok request.recipientUserId ∧
      request.recipientDeviceId.val = draft.recipientDeviceId ∧
      request.wirePayloadJson.val = draft.wirePayloadJson ∧
      validateWirePayloadJson draft.wirePayloadJson = .ok draft.wirePayloadJson ∧
      request.consumedOneTimePrekeyId.map Subtype.val = consumedPreKeyId := by
  obtain ⟨senderDeviceId, recipientUserId, recipientDeviceId, payload, consumed⟩ :=
    lookup_sendBodyFor draft consumedPreKeyId
  exact postsBody_iff ⟨senderDeviceId, recipientUserId, recipientDeviceId, payload, consumed,
    names_sendBodyFor draft consumedPreKeyId⟩

end EpicKfc.Source.MessageRequests
