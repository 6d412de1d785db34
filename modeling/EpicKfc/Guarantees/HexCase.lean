import EpicKfc.Source.Server.AnchorVerification

/-!
# The letter case of verify requests

The hashes of a request may be written in either case, and the look-up compares
texts. The answer is that of the bytes exactly where anchors that have the bytes
of the request are stored in every case; over a store in lower case, where they
are not stored or have no letter.
-/

namespace EpicKfc.Guarantees.HexCase
open EpicKfc.Lib
open EpicKfc.Source.Blockchain
open EpicKfc.Source.Server
open EpicKfc.Source.Server.BlockchainAnchors

/-- The same request up to the case of the digits: every hash has the same bytes. -/
structure CaseVariant (request variant : BlockchainVerifyRequest) : Prop where
  digest : variant.digest.value = request.digest.value
  recordId : variant.recordId.map Hex32.value = request.recordId.map Hex32.value
  merkleRoot : variant.merkleRoot.map Hex32.value = request.merkleRoot.map Hex32.value
  transactionHash :
    variant.transactionHash.map Hex32.value = request.transactionHash.map Hex32.value
  chain : variant.chain = request.chain

/-- Whether a match is reported does not depend on the case of the digits. -/
def Insensitive (rows : AnchorTable) (request : BlockchainVerifyRequest) : Prop :=
  ∀ variant, CaseVariant request variant → ∀ verifiedAt,
    (verifyAnchorMetadata rows variant verifiedAt).valid =
      (verifyAnchorMetadata rows request verifiedAt).valid

/-- A stored text that writes the bytes of a hash. -/
def Denotes (stored : String) (hash : Hex32) : Prop :=
  ∃ written, hashText written = stored ∧ written.value = hash.value

/-- A column writes the bytes of a value that is given. -/
def ColumnDenotes (stored : Option String) (given : Option Hex32) : Prop :=
  ∀ hash, given = some hash → ∃ text, stored = some text ∧ Denotes text hash

/-- A confirmed anchor of the chain has the bytes of the request. -/
structure HasBytes (request : BlockchainVerifyRequest) (anchor : BlockchainAnchor) : Prop where
  digest : Denotes anchor.digest request.digest
  recordId : ColumnDenotes anchor.recordId request.recordId
  merkleRoot : ColumnDenotes anchor.merkleRoot request.merkleRoot
  transactionHash : ColumnDenotes anchor.transactionHash request.transactionHash
  chain : anchor.chain = request.chain
  confirmed : anchor.status = .confirmed

theorem CaseVariant.refl (request : BlockchainVerifyRequest) : CaseVariant request request :=
  ⟨rfl, rfl, rfl, rfl, rfl⟩

/-! ## Columns -/

/-- A column that writes the bytes of a value matches some writing of it. -/
theorem exists_writing {stored : Option String} {given : Option Hex32}
    (denotes : ColumnDenotes stored given) :
    ∃ written : Option Hex32, written.map Hex32.value = given.map Hex32.value ∧
      columnMatches (written.map hashText) stored := by
  cases given with
  | none => exact ⟨none, rfl, Or.inl rfl⟩
  | some hash =>
    obtain ⟨text, rfl, written, writes, bytes⟩ := denotes hash rfl
    refine ⟨some written, ?_, Or.inr ?_⟩
    · rw [Option.map_some, Option.map_some, bytes]
    · rw [Option.map_some, writes]

theorem columnDenotes_of_matches {stored : Option String} {given written : Option Hex32}
    (bytes : written.map Hex32.value = given.map Hex32.value)
    (meets : columnMatches (written.map hashText) stored) : ColumnDenotes stored given := by
  rintro hash rfl
  cases written with
  | none => cases bytes
  | some text =>
    simp only [Option.map_some, Option.some.injEq] at bytes
    obtain absent | same := meets
    · cases absent
    · exact ⟨hashText text, same, text, rfl, bytes⟩

/-- An anchor has the bytes of a request if and only if it matches a variant of it. -/
theorem hasBytes_iff {request : BlockchainVerifyRequest} {anchor : BlockchainAnchor} :
    HasBytes request anchor ↔ ∃ variant, CaseVariant request variant ∧ Matches variant anchor := by
  constructor
  · intro bytes
    obtain ⟨digest, writes, digestBytes⟩ := bytes.digest
    obtain ⟨recordId, recordBytes, recordMeets⟩ := exists_writing bytes.recordId
    obtain ⟨merkleRoot, rootBytes, rootMeets⟩ := exists_writing bytes.merkleRoot
    obtain ⟨transactionHash, hashBytes, hashMeets⟩ := exists_writing bytes.transactionHash
    refine ⟨⟨digest, recordId, merkleRoot, transactionHash, request.chain⟩,
      ⟨digestBytes, recordBytes, rootBytes, hashBytes, rfl⟩, ?_⟩
    exact ⟨writes.symm, bytes.chain, bytes.confirmed, recordMeets, rootMeets, hashMeets⟩
  · rintro ⟨variant, same, digest, chain, confirmed, recordId, merkleRoot, transactionHash⟩
    exact ⟨⟨variant.digest, digest.symm, same.digest⟩,
      columnDenotes_of_matches same.recordId recordId,
      columnDenotes_of_matches same.merkleRoot merkleRoot,
      columnDenotes_of_matches same.transactionHash transactionHash,
      chain.trans same.chain, confirmed⟩

/-! ## The law -/

theorem valid_eq_iff {rows : AnchorTable} {request variant : BlockchainVerifyRequest}
    {verifiedAt : UtcTimestamp} :
    (verifyAnchorMetadata rows variant verifiedAt).valid =
        (verifyAnchorMetadata rows request verifiedAt).valid ↔
      ((∃ anchor ∈ rows, Matches variant anchor) ↔ ∃ anchor ∈ rows, Matches request anchor) := by
  rw [← verifyAnchorMetadata_valid_iff, ← verifyAnchorMetadata_valid_iff, Bool.eq_iff_iff]

/-- The case does not matter if and only if bytes that are stored once are stored in every
case. -/
theorem insensitive_iff (rows : AnchorTable) (request : BlockchainVerifyRequest) :
    Insensitive rows request ↔ ∀ anchor ∈ rows, HasBytes request anchor →
      ∀ variant, CaseVariant request variant → ∃ other ∈ rows, Matches variant other := by
  constructor
  · intro insensitive anchor stored bytes variant same
    obtain ⟨written, writing, meets⟩ := hasBytes_iff.mp bytes
    have found : ∃ anchor ∈ rows, Matches request anchor :=
      (valid_eq_iff.mp (insensitive written writing .newYear2026)).mp ⟨anchor, stored, meets⟩
    exact (valid_eq_iff.mp (insensitive variant same .newYear2026)).mpr found
  · intro everyCase variant same verifiedAt
    rw [valid_eq_iff]
    constructor
    · rintro ⟨anchor, stored, meets⟩
      have bytes : HasBytes request anchor := hasBytes_iff.mpr ⟨variant, same, meets⟩
      exact everyCase anchor stored bytes request (.refl request)
    · rintro ⟨anchor, stored, meets⟩
      have bytes : HasBytes request anchor := hasBytes_iff.mpr ⟨request, .refl request, meets⟩
      exact everyCase anchor stored bytes variant same

/-! ## Stores written in lower case -/

theorem eq_digitChar_of_toLower {char : Char} {value : Nat} (decimal : value < 10)
    (lower : char.toLower = Nat.digitChar value) : char = Nat.digitChar value := by
  unfold Char.toLower at lower
  split at lower
  · next letter =>
    -- no decimal digit is a letter in lower case
    have small : ∀ value < 10, (Nat.digitChar value).val.toNat ≤ 57 := by decide
    have code : char.val + 32 = (Nat.digitChar value).val := congrArg Char.val lower
    have shifted : (char.val + 32).toNat = char.val.toNat + 32 := by
      have high : char.val.toNat ≤ 90 := letter.2
      rw [UInt32.toNat_add]
      exact Nat.mod_eq_of_lt (Nat.lt_of_le_of_lt (Nat.add_le_add_right high 32) (by decide))
    have least : 65 ≤ char.val.toNat := letter.1
    have most := small value decimal
    rw [← code, shifted] at most
    omega
  · exact lower

theorem hexValue_toUpper : ∀ value < 16,
    hexValue (Nat.digitChar value).toUpper = some value := by decide

/-- The same bytes with every letter in upper case. -/
def upperCase (hash : Hex32) : Hex32 where
  digits := hash.digitValues.map fun value => (Nat.digitChar value).toUpper
  length_eq := (List.length_map _).trans hash.length_digitValues
  hex := by
    intro digit member
    obtain ⟨value, belongs, rfl⟩ := List.mem_map.mp member
    exact ⟨value, hexValue_toUpper value (hash.digitValues_lt value belongs)⟩

theorem digitValues_upperCase (hash : Hex32) : (upperCase hash).digitValues = hash.digitValues := by
  rw [Hex32.digitValues, upperCase, List.map_map]
  refine (List.map_congr_left fun value member => ?_).trans (List.map_id _)
  rw [Function.comp_apply, hexValue_toUpper value (hash.digitValues_lt value member)]
  rfl

theorem value_upperCase (hash : Hex32) : (upperCase hash).value = hash.value := by
  rw [Hex32.value, digitValues_upperCase, Hex32.value]

/-- Decimal digits only. -/
def Letterless (hash : Hex32) : Prop := ∀ value ∈ hash.digitValues, value < 10

theorem digits_of_letterless {hash : Hex32} (plain : Letterless hash) :
    hash.digits = hash.digitValues.map Nat.digitChar := by
  rw [Hex32.digitValues, List.map_map]
  refine (List.map_id _).symm.trans (List.map_congr_left fun digit member => ?_)
  obtain ⟨value, read⟩ := hash.hex digit member
  have decimal := plain _ (List.mem_map_of_mem member)
  rw [read, Option.getD_some] at decimal
  rw [Function.comp_apply, read, Option.getD_some]
  exact eq_digitChar_of_toLower decimal (hexValue_some read).2

theorem digitValues_of_value {hash other : Hex32} (same : other.value = hash.value) :
    other.digitValues = hash.digitValues := by
  have read := congrArg (Digits.digits 16 64 ∘ BitVec.toNat) same
  have digits (text : Hex32) : Digits.digits 16 64 text.value.toNat = text.digitValues := by
    rw [Hex32.toNat_value, ← text.length_digitValues]
    exact Digits.digits_ofDigits text.digitValues_lt
  rwa [Function.comp_apply, Function.comp_apply, digits, digits] at read

/-- Bytes without letters are written in one way. -/
theorem eq_of_letterless {hash other : Hex32} (plain : Letterless hash)
    (same : other.value = hash.value) : other = hash := by
  have values := digitValues_of_value same
  have plain' : Letterless other := fun value member => plain value (values ▸ member)
  exact Hex32.ext (by rw [digits_of_letterless plain', digits_of_letterless plain, values])

theorem letterless_of_upperCase {hash : Hex32}
    (lower : (upperCase hash).toLowerCase = upperCase hash) : Letterless hash := by
  have decimal : ∀ value < 16, (Nat.digitChar value).toUpper.toLower = (Nat.digitChar value).toUpper →
      value < 10 := by
    decide
  have digits := congrArg Hex32.digits lower
  rw [Hex32.digits_toLowerCase, upperCase, List.map_map] at digits
  exact fun value member =>
    decimal value (hash.digitValues_lt value member) (List.map_inj_left.mp digits value member)

/-- A column whose hash is written in lower case. -/
def LowerColumn (stored : Option String) : Prop :=
  ∀ hash, stored = some (hashText hash) → hash.toLowerCase = hash

structure LowerCase (anchor : BlockchainAnchor) : Prop where
  digest : LowerColumn (some anchor.digest)
  recordId : LowerColumn anchor.recordId
  merkleRoot : LowerColumn anchor.merkleRoot
  transactionHash : LowerColumn anchor.transactionHash

/-- No hash of the request has a letter. -/
structure WithoutLetters (request : BlockchainVerifyRequest) : Prop where
  digest : Letterless request.digest
  recordId : ∀ hash ∈ request.recordId, Letterless hash
  merkleRoot : ∀ hash ∈ request.merkleRoot, Letterless hash
  transactionHash : ∀ hash ∈ request.transactionHash, Letterless hash

theorem letterless_of_matches {given : Option Hex32} {stored : Option String}
    (lower : LowerColumn stored) (meets : columnMatches ((given.map upperCase).map hashText) stored) :
    ∀ hash ∈ given, Letterless hash := by
  rintro hash rfl
  obtain absent | same := meets
  · cases absent
  · exact letterless_of_upperCase (lower _ same)

theorem variant_upperCase (request : BlockchainVerifyRequest) : CaseVariant request
    ⟨upperCase request.digest, request.recordId.map upperCase, request.merkleRoot.map upperCase,
      request.transactionHash.map upperCase, request.chain⟩ := by
  have column (given : Option Hex32) :
      (given.map upperCase).map Hex32.value = given.map Hex32.value := by
    rw [Option.map_map]
    exact Option.map_congr fun hash _ => value_upperCase hash
  exact ⟨value_upperCase _, column _, column _, column _, rfl⟩

theorem eq_of_column {given written : Option Hex32} (plain : ∀ hash ∈ given, Letterless hash)
    (same : written.map Hex32.value = given.map Hex32.value) : written = given := by
  cases given with
  | none => exact Option.map_eq_none_iff.mp same
  | some hash =>
    obtain ⟨other, rfl, bytes⟩ := Option.map_eq_some_iff.mp same
    rw [eq_of_letterless (plain hash rfl) bytes]

theorem eq_of_withoutLetters {request variant : BlockchainVerifyRequest}
    (plain : WithoutLetters request) (same : CaseVariant request variant) : variant = request := by
  obtain ⟨digest, recordId, merkleRoot, transactionHash, chain⟩ := variant
  obtain rfl : digest = request.digest := eq_of_letterless plain.digest same.digest
  obtain rfl : recordId = request.recordId := eq_of_column plain.recordId same.recordId
  obtain rfl : merkleRoot = request.merkleRoot := eq_of_column plain.merkleRoot same.merkleRoot
  obtain rfl : transactionHash = request.transactionHash :=
    eq_of_column plain.transactionHash same.transactionHash
  obtain rfl : chain = request.chain := same.chain
  rfl

/-- Over a store in lower case, the case matters exactly where the bytes of the request are
stored and have a letter. -/
theorem insensitive_iff_of_lowerCase {rows : AnchorTable}
    (lower : ∀ anchor ∈ rows, LowerCase anchor) (request : BlockchainVerifyRequest) :
    Insensitive rows request ↔
      ((∃ anchor ∈ rows, HasBytes request anchor) → WithoutLetters request) := by
  rw [insensitive_iff]
  constructor
  · rintro everyCase ⟨anchor, stored, bytes⟩
    obtain ⟨other, listed, digest, -, -, recordId, merkleRoot, transactionHash⟩ :=
      everyCase anchor stored bytes _ (variant_upperCase request)
    obtain ⟨lowerDigest, lowerId, lowerRoot, lowerHash⟩ := lower other listed
    exact ⟨letterless_of_upperCase (lowerDigest _ (congrArg some digest)),
      letterless_of_matches lowerId recordId, letterless_of_matches lowerRoot merkleRoot,
      letterless_of_matches lowerHash transactionHash⟩
  · intro plain anchor stored bytes variant same
    obtain ⟨written, writing, meets⟩ := hasBytes_iff.mp bytes
    have without := plain ⟨anchor, stored, bytes⟩
    rw [eq_of_withoutLetters without same, ← eq_of_withoutLetters without writing]
    exact ⟨anchor, stored, meets⟩

/-! ## An upper-case request -/

def lettered (digit : Char) (read : ∃ value, hexValue digit = some value) : Hex32 where
  digits := List.replicate 64 digit
  length_eq := List.length_replicate
  hex := by
    intro other member
    rw [List.eq_of_mem_replicate member]
    exact read

def lowerDigest : Hex32 := lettered 'a' ⟨10, by decide⟩

def upperDigest : Hex32 := lettered 'A' ⟨10, by decide⟩

/-- A request that gives a digest alone. -/
def digestRequest (digest : Hex32) : BlockchainVerifyRequest := ⟨digest, none, none, none, .sepolia⟩

/-- A confirmed anchor, its digest in lower case as the backend writes it. -/
def lowerAnchor : BlockchainAnchor where
  id := 1
  messageId := some 2
  batchId := none
  recordId := none
  digest := hashText lowerDigest
  merkleRoot := none
  transactionHash := none
  contractAddress := none
  chain := .sepolia
  status := .confirmed
  createdAt := .newYear2026
  anchoredAt := some .newYear2026
  linked := Or.inl (Option.some_ne_none _)

theorem upper_case_is_not_found :
    CaseVariant (digestRequest lowerDigest) (digestRequest upperDigest) ∧
      (verifyAnchorMetadata [lowerAnchor] (digestRequest lowerDigest) .newYear2026).valid = true ∧
      (verifyAnchorMetadata [lowerAnchor] (digestRequest upperDigest) .newYear2026).valid = false := by
  have lower : upperDigest.toLowerCase = lowerDigest :=
    Hex32.ext (by rw [Hex32.digits_toLowerCase, upperDigest, lettered, List.map_replicate]; rfl)
  have bytes : upperDigest.value = lowerDigest.value := by
    rw [← Hex32.value_toLowerCase upperDigest, lower]
  have differ : hashText lowerDigest ≠ hashText upperDigest := by
    intro same
    have chars := String.ofList_injective same
    cases (List.cons.inj (List.cons.inj (List.cons.inj chars).2).2).1
  refine ⟨⟨bytes, rfl, rfl, rfl, rfl⟩, ?_, ?_⟩
  · rw [verifyAnchorMetadata_valid_iff]
    exact ⟨lowerAnchor, List.mem_singleton_self _, rfl, rfl, rfl, Or.inl rfl, Or.inl rfl, Or.inl rfl⟩
  · rw [← Bool.not_eq_true, verifyAnchorMetadata_valid_iff]
    rintro ⟨anchor, stored, digest, -⟩
    rw [List.mem_singleton.mp stored] at digest
    exact differ digest

end EpicKfc.Guarantees.HexCase
