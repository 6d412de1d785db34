import EpicKfc.Source.PagedFetch

/-!
# Fetching a listing that does not change

The pages of a listing, asked for one after the other, are the listing. The offset
is an `int`: from 2147483700 messages on it overflows before the last page.
-/

namespace EpicKfc.Guarantees.StaticPaging
open EpicKfc.Lib
open EpicKfc.Source
open EpicKfc.Source.Client
open EpicKfc.Source.Client.MessageGateway
open EpicKfc.Source.Client.Keccak256 (intMax)
open EpicKfc.Source.Server
open EpicKfc.Source.Server.Messages
open EpicKfc.Source.Server.MessageApi
open EpicKfc.Source.PagedFetch (direction)

variable (parser : DateParser) (serializer : DateTimeSerializer) (listing : Listing)
  (userId : Uuid) (rows : MessageTable)

/-- The answer to the request at an offset, which may fail. -/
def pageReply (failure : Nat → Option ClientError) (offset : Nat) : Result (List Json) :=
  match failure offset with
  | some error => .error error
  | none => .ok ((listPage listing userId messagePageLimit offset rows).map fun message =>
      .object (messageResponse serializer message))

def fetched (failure : Nat → Option ClientError) : Option (Result MessageList) :=
  fetchMessages parser (pageReply serializer listing userId rows failure) (direction listing)
    initialMessageOffset []

/-- The whole listing, as the client decodes it. -/
def delivered : MessageList :=
  (listingRows listing userId rows).map fun message =>
    decoded parser serializer message (direction listing)

/-- The pages up to the first one that is not full. -/
def Requested (offset : Nat) : Prop :=
  ∃ index, offset = index * messagePageLimit ∧ offset ≤ (listingRows listing userId rows).length

/-- The fetch ends with the listing, or with the error of a page that failed. -/
structure Exact : Prop where
  whole : ∀ failure, (∀ offset, Requested listing userId rows offset → failure offset = none) →
    fetched parser serializer listing userId rows failure =
      some (.ok (delivered parser serializer listing userId rows))
  failed : ∀ failure, (∃ offset, Requested listing userId rows offset ∧ failure offset ≠ none) →
    ∃ offset error, Requested listing userId rows offset ∧ failure offset = some error ∧
      fetched parser serializer listing userId rows failure = some (.error error)

/-- The shortest listing whose last offset is no `int`. -/
def uncountedLength : Nat := 2147483700

/-! ## One page -/

section Pages
variable {parser serializer listing userId rows}
variable {failure : Nat → Option ClientError} {offset : Nat}

/-- The records of a page are a page of the records. -/
theorem decoded_page (offset : Nat) :
    messageListFromJson parser ((listPage listing userId messagePageLimit offset rows).map
        fun message => .object (messageResponse serializer message)) (direction listing) =
      OffsetPaging.page messagePageLimit offset (delivered parser serializer listing userId rows) := by
  rw [messageListFromJson, List.map_map, OffsetPaging.page, delivered, ← List.map_drop,
    ← List.map_take]
  rfl

theorem fetch_failed {error : ClientError} (fails : failure offset = some error)
    (collected : MessageList) :
    fetchMessages parser (pageReply serializer listing userId rows failure) (direction listing)
      offset collected = some (.error error) := by
  rw [fetchMessages, pageReply, fails]

/-- A page that is not full is the last one. -/
theorem fetch_last (answered : failure offset = none)
    (short : (listingRows listing userId rows).length < offset + messagePageLimit)
    (collected : MessageList) :
    fetchMessages parser (pageReply serializer listing userId rows failure) (direction listing)
      offset collected =
        some (.ok (collected ++ (delivered parser serializer listing userId rows).drop offset)) := by
  have last : (delivered parser serializer listing userId rows).drop (offset + messagePageLimit) =
      [] := by
    rw [List.drop_eq_nil_iff, delivered, List.length_map]
    omega
  have rest := OffsetPaging.page_append_drop messagePageLimit offset
    (delivered parser serializer listing userId rows)
  rw [last, List.append_nil] at rest
  rw [fetchMessages, pageReply, answered]
  simp only [decoded_page, rest]
  rw [if_pos]
  rw [List.length_drop, delivered, List.length_map]
  have limit : messagePageLimit = 100 := rfl
  omega

/-- After a full page the fetch goes on, as long as the offset is an `int`. -/
theorem fetch_full (answered : failure offset = none)
    (full : offset + messagePageLimit ≤ (listingRows listing userId rows).length)
    (collected : MessageList) :
    fetchMessages parser (pageReply serializer listing userId rows failure) (direction listing)
      offset collected =
        if offset + messagePageLimit ≤ intMax then
          fetchMessages parser (pageReply serializer listing userId rows failure)
            (direction listing) (offset + messagePageLimit) (collected ++
              OffsetPaging.page messagePageLimit offset
                (delivered parser serializer listing userId rows))
        else none := by
  rw [fetchMessages, pageReply, answered]
  simp only [decoded_page]
  rw [if_neg]
  rw [OffsetPaging.page, List.length_take, List.length_drop, delivered, List.length_map]
  omega

/-! ## All pages -/

/-- The result of a fetch whose first failed page has an error. -/
def resultOf (listed : MessageList) : Option ClientError → Result MessageList
  | some error => .error error
  | none => .ok listed

/-- The error of the first page that fails, of a number of pages. -/
def firstFailure (failure : Nat → Option ClientError) (index count : Nat) : Option ClientError :=
  (List.range' index count).findSome? fun page => failure (page * messagePageLimit)

theorem fetch_pages (count : Nat) : ∀ (index : Nat) (collected : MessageList),
    index + count = (listingRows listing userId rows).length / messagePageLimit →
    (listingRows listing userId rows).length < uncountedLength →
    fetchMessages parser (pageReply serializer listing userId rows failure) (direction listing)
      (index * messagePageLimit) collected =
        some (resultOf (collected ++ (delivered parser serializer listing userId rows).drop
          (index * messagePageLimit)) (firstFailure failure index (count + 1))) := by
  have limit : messagePageLimit = 100 := rfl
  induction count with
  | zero =>
    intro index collected last counted
    rw [firstFailure, List.range'_succ, List.findSome?_cons]
    cases answered : failure (index * messagePageLimit) with
    | some error => exact fetch_failed answered collected
    | none =>
      refine fetch_last answered ?_ collected
      rw [limit] at last ⊢
      omega
  | succ count ih =>
    intro index collected last counted
    rw [firstFailure, List.range'_succ, List.findSome?_cons]
    cases answered : failure (index * messagePageLimit) with
    | some error => exact fetch_failed answered collected
    | none =>
      have full : index * messagePageLimit + messagePageLimit ≤
          (listingRows listing userId rows).length := by
        rw [limit] at last ⊢
        omega
      have fits : index * messagePageLimit + messagePageLimit ≤ intMax := by
        simp only [intMax, uncountedLength] at counted ⊢
        rw [limit] at last ⊢
        omega
      rw [fetch_full answered full, if_pos fits, ← Nat.succ_mul,
        ih (index + 1) _ (by omega) counted, List.append_assoc, Nat.succ_mul,
        OffsetPaging.page_append_drop]
      rfl

/-- A listing that is too long loses the offset of a page. -/
theorem fetch_overflows (count : Nat) : ∀ (index : Nat) (collected : MessageList),
    index + count = intMax / messagePageLimit →
    uncountedLength ≤ (listingRows listing userId rows).length →
    fetchMessages parser (pageReply serializer listing userId rows fun _ => none)
      (direction listing) (index * messagePageLimit) collected = none := by
  have limit : messagePageLimit = 100 := rfl
  induction count with
  | zero =>
    intro index collected last long
    have place : index * messagePageLimit = index * 100 := rfl
    simp only [intMax, uncountedLength, limit] at last long
    rw [fetch_full rfl (by omega), if_neg]
    simp only [intMax]
    omega
  | succ count ih =>
    intro index collected last long
    have place : index * messagePageLimit = index * 100 := rfl
    have next : index + 1 + count = intMax / messagePageLimit := by omega
    simp only [intMax, uncountedLength, limit] at last long
    rw [fetch_full rfl (by omega), if_pos (by simp only [intMax]; omega), ← Nat.succ_mul]
    exact ih (index + 1) _ next long

/-- How many pages are asked for. -/
def requests (listing : Listing) (userId : Uuid) (rows : MessageTable) : Nat :=
  (listingRows listing userId rows).length / messagePageLimit + 1

theorem requested_iff (offset : Nat) : Requested listing userId rows offset ↔
    ∃ page ∈ List.range' 0 (requests listing userId rows), offset = page * messagePageLimit := by
  unfold requests
  constructor
  · rintro ⟨page, rfl, reached⟩
    have within := (Nat.le_div_iff_mul_le (by decide : 0 < messagePageLimit)).mpr reached
    refine ⟨page, ?_, rfl⟩
    simp only [List.mem_range'_1]
    omega
  · rintro ⟨page, listed, rfl⟩
    simp only [List.mem_range'_1] at listed
    exact ⟨page, rfl, (Nat.le_div_iff_mul_le (by decide)).mp (by omega)⟩

/-- The fetch of a listing whose pages can be counted. -/
theorem fetched_eq (counted : (listingRows listing userId rows).length < uncountedLength) :
    fetched parser serializer listing userId rows failure = some (resultOf
      (delivered parser serializer listing userId rows)
      (firstFailure failure 0 (requests listing userId rows))) := by
  have pages := @fetch_pages parser serializer listing userId rows failure
    ((listingRows listing userId rows).length / messagePageLimit) 0 [] (Nat.zero_add _) counted
  rw [Nat.zero_mul] at pages
  exact pages

/-- One that is too long has no result, though every page is answered. -/
theorem fetched_uncounted (long : uncountedLength ≤ (listingRows listing userId rows).length) :
    fetched parser serializer listing userId rows (fun _ => none) = none := by
  have overflows := @fetch_overflows parser serializer listing userId rows
    (intMax / messagePageLimit) 0 [] (Nat.zero_add _) long
  rwa [Nat.zero_mul] at overflows

theorem firstFailure_eq_none :
    firstFailure failure 0 (requests listing userId rows) = none ↔
      ∀ offset, Requested listing userId rows offset → failure offset = none := by
  rw [firstFailure, List.findSome?_eq_none_iff]
  constructor
  · intro answered offset requested
    obtain ⟨page, listed, rfl⟩ := (requested_iff offset).mp requested
    exact answered page listed
  · exact fun answered page listed => answered _ ((requested_iff _).mpr ⟨page, listed, rfl⟩)

/-- The first failure is that of a page that was asked for. -/
theorem exists_of_firstFailure {error : ClientError}
    (found : firstFailure failure 0 (requests listing userId rows) = some error) :
    ∃ offset, Requested listing userId rows offset ∧ failure offset = some error := by
  obtain ⟨page, listed, failed⟩ := List.exists_of_findSome?_eq_some found
  exact ⟨page * messagePageLimit, (requested_iff _).mpr ⟨page, listed, rfl⟩, failed⟩

end Pages

/-- A fetch is exact if and only if the offset of every page is an `int`. -/
theorem fetch_exact_iff : Exact parser serializer listing userId rows ↔
    (listingRows listing userId rows).length < uncountedLength := by
  constructor
  · intro exact
    by_contra long
    have whole := exact.whole (fun _ => none) fun _ _ => rfl
    rw [fetched_uncounted (Nat.le_of_not_lt long)] at whole
    cases whole
  · intro counted
    constructor
    · intro failure answered
      rw [fetched_eq counted, firstFailure_eq_none.mpr answered, resultOf]
    · rintro failure ⟨offset, requested, fails⟩
      cases found : firstFailure failure 0 (requests listing userId rows) with
      | none => exact absurd (firstFailure_eq_none.mp found offset requested) fails
      | some error =>
        obtain ⟨failed, asked, same⟩ := exists_of_firstFailure found
        exact ⟨failed, error, asked, same, by rw [fetched_eq counted, found, resultOf]⟩

/-! ## A listing that is too long -/

/-- A number of messages for one recipient. -/
def mailbox (count : Nat) : MessageTable :=
  (List.range count).map fun index =>
    createMessage 2 (plainRequest 1) none (BitVec.ofNat 128 index) .newYear2026

theorem length_listingRows_mailbox (count : Nat) :
    (listingRows .received 1 (mailbox count)).length = count := by
  have all : (mailbox count).filter (fun message => listed .received 1 message) = mailbox count := by
    rw [List.filter_eq_self, mailbox]
    intro message member
    obtain ⟨index, -, rfl⟩ := List.mem_map.mp member
    rfl
  rw [listingRows, List.length_insertionSort, all, mailbox, List.length_map, List.length_range]

theorem uniqueIds_mailbox {count : Nat} (fits : count ≤ 2 ^ 128) : UniqueIds (mailbox count) := by
  rw [UniqueIds, mailbox, List.map_map, List.nodup_map_iff_inj_on List.nodup_range]
  intro first listed second listed' same
  rw [List.mem_range] at listed listed'
  have values := congrArg BitVec.toNat same
  simp only [Function.comp_apply, createMessage, BitVec.toNat_ofNat] at values
  rwa [Nat.mod_eq_of_lt (by omega), Nat.mod_eq_of_lt (by omega)] at values

/-- The received messages of a user who has 2147483700 of them are not delivered. -/
theorem full_mailbox_is_not_delivered :
    UniqueIds (mailbox 2147483700) ∧
      ¬ Exact (fun _ => some 0) zuluSerializer .received 1 (mailbox 2147483700) := by
  refine ⟨@uniqueIds_mailbox 2147483700 (by decide), fun exact => ?_⟩
  have short := (fetch_exact_iff _ _ _ _ _).mp exact
  rw [length_listingRows_mailbox] at short
  exact Nat.lt_irrefl 2147483700 short

end EpicKfc.Guarantees.StaticPaging
