import TsnProtocol.Gpru.MemoFormat
import TsnProtocol.Node.TransactionRecord
import TsnProtocol.Sdk.TransactionRecord

/-!
Agreement on settlement memos: what the Node writes, the program on chain accepts with the
same values, and the owner's SDK reads back.
-/

namespace TsnProtocol.Gpru.MemoAgreement

open Bn254.Field
open Bn254.Scalar
open Circomlib.BabyJub
open Gpru.MemoFormat
open Gpru.Verifier (memoPrefix asciiBytes isBase64UrlByte isCanonicalBn254Scalar
  hexNibble)
open Lib.ByteReader
open Lib.Checked
open Lib.TextFormat
open Node.TransactionRecord
open Sdk.DeltaCipher
open Sdk.TransactionRecord (GpruMemoBindingV1 GpruBalanceActionRecordV1 Owner
  parseGpruMemoBindingV1 matchMemoBinding matchPrefix matchGroup matchGroups foldsTo
  validateGpruBalanceActionRecordV1 decryptGpruLedgerMemoV1 deriveGpruTransactionRecordKeyV1)
open Solana.Address

section Digits

variable {text : Text} {digit : Char}

theorem hexNibble_of_isLowerHexDigit (hdigit : isLowerHexDigit digit = true) :
    hexNibble (BitVec.ofNat 8 digit.toNat) = lowerHexValue digit := by
  rcases lowerHexDigit_range hdigit with ⟨hlow, hhigh, hvalue⟩ | ⟨hlow, hhigh, hvalue⟩
  · rw [hvalue, hexNibble, toNat_ofNat_toNat (by omega), if_pos ⟨hlow, hhigh⟩]
  · rw [hvalue, hexNibble, toNat_ofNat_toNat (by omega), if_neg (by omega),
      if_pos ⟨hlow, hhigh⟩]
    congr 1
    omega

theorem hexNumber_encodeAscii (number : Nat) (htext : text.all isLowerHexDigit = true) :
    hexNumber number (encodeAscii text) =
      text.foldl (fun number digit => 16 * number + (lowerHexValue digit).getD 0) number := by
  induction text generalizing number with
  | nil => rfl
  | cons digit rest ih =>
      rw [List.all_cons, Bool.and_eq_true] at htext
      rw [encodeAscii, List.map_cons, ← encodeAscii, hexNumber, List.foldl_cons, ← hexNumber,
        hexNibble_of_isLowerHexDigit htext.1, ih _ htext.2, List.foldl_cons]

/-- The word that a hexadecimal text writes. -/
def textWord (text : Text) : Bytes32 :=
  BitVec.ofNat 256 (hexTextValue text)

theorem hexWord_encodeAscii (htext : text.all isLowerHexDigit = true) :
    hexWord (encodeAscii text) = textWord text :=
  congrArg (BitVec.ofNat 256) (hexNumber_encodeAscii 0 htext)

theorem isHexDigit_encodeAscii (htext : text.all isLowerHexDigit = true) :
    ∀ byte ∈ encodeAscii text, IsHexDigit byte := by
  intro byte hbyte
  obtain ⟨digit, hdigit, rfl⟩ := List.mem_map.mp hbyte
  have hlower := List.all_eq_true.mp htext digit hdigit
  rw [IsHexDigit, hexNibble_of_isLowerHexDigit hlower]
  exact hlower

theorem isCanonicalBn254Scalar_textWord (htext : isCanonicalHex text = true) :
    isCanonicalBn254Scalar (textWord text) = true := by
  have hvalue : hexTextValue text < bn254ScalarOrder := of_decide_eq_true htext
  have hword : (textWord text).toNat = hexTextValue text := by
    rw [textWord, BitVec.toNat_ofNat, Nat.mod_eq_of_lt (lt_trans hvalue (by decide))]
  exact decide_eq_true (hword ▸ hvalue)

theorem isBase64UrlByte_of_char (hdigit : isBase64UrlChar digit = true) :
    isBase64UrlByte (BitVec.ofNat 8 digit.toNat) = true := by
  simp only [isBase64UrlChar, Char.isUpper, Char.isLower, Char.isDigit, Bool.or_eq_true,
    Bool.and_eq_true, decide_eq_true_eq] at hdigit
  have hrange : (65 ≤ digit.toNat ∧ digit.toNat ≤ 90) ∨ (97 ≤ digit.toNat ∧ digit.toNat ≤ 122) ∨
      (48 ≤ digit.toNat ∧ digit.toNat ≤ 57) ∨ digit.toNat = 95 ∨ digit.toNat = 45 := by
    rcases hdigit with (((hupper | hlower) | hnumber) | rfl) | rfl
    · exact .inl hupper
    · exact .inr (.inl hlower)
    · exact .inr (.inr (.inl hnumber))
    · exact .inr (.inr (.inr (.inl rfl)))
    · exact .inr (.inr (.inr (.inr rfl)))
  have hvalue : (BitVec.ofNat 8 digit.toNat).toNat = digit.toNat :=
    toNat_ofNat_toNat (by omega)
  rw [isBase64UrlByte, hvalue]
  exact decide_eq_true hrange

end Digits

section Writer

variable {node : Node.TransactionRecord.Platform} {args : EncryptArgs} {nonce : List Byte}
  {action : BalanceAction} {fields : MemoFields} {output : EncryptedRecord}

/-- A field of a memo: 64 lowercase hexadecimal digits that write a field element. -/
def IsMemoField (text : Text) : Prop :=
  isHex32 text = true ∧ isCanonicalHex text = true

theorem isMemoField_of_bindingText {binding : List (String × PyValue)} {name : String}
    {text : Text} (htext : bindingText node binding name = .ok text) : IsMemoField text := by
  simp only [bindingText, bind_eq_ok, okOr_eq_ok, require_eq_ok, pure_eq_ok] at htext
  obtain ⟨_, _, _, hhex, _, hcanonical, rfl⟩ := htext
  exact ⟨hhex, hcanonical⟩

theorem isMemoField_of_deltaText {value : PyValue} {text : Text}
    (htext : deltaText value = .ok text) : IsMemoField text := by
  cases value with
  | str content =>
      simp only [deltaText, bind_eq_ok, require_eq_ok, pure_eq_ok] at htext
      obtain ⟨_, hhex, _, hcanonical, rfl⟩ := htext
      exact ⟨hhex, hcanonical⟩
  | _ => cases htext

/-- The payload that carries the envelope of a record. -/
def ledgerPayload (document : Envelope) : Text :=
  stripPadding (urlsafeB64encode (encodeAscii (dumps document.object)))

/-- What an encrypted record is made of. -/
structure Written (node : Node.TransactionRecord.Platform) (args : EncryptArgs)
    (nonce : List Byte) (action : BalanceAction) (fields : MemoFields)
    (output : EncryptedRecord) : Prop where
  validated : validateBalanceActionRecordV1 node args.record = .ok action
  ephemeral : args.recordEphemeralPublicKey.length = 32
  dna : args.dna.length = 32
  isMemoField : ∀ field ∈ fields.toList, IsMemoField field
  actionCommitment : action.actionCommitment = fields.actionCommitment
  document : output.memoDocument = sealRecord node args action nonce
  memo : output.memoPayload = memoText fields (ledgerPayload output.memoDocument)
  commitment : output.memoCommitment = node.sha256 (encodeAscii output.memoPayload)
  commitmentField : output.memoCommitmentField = sha256ToBn254ScalarHex output.memoCommitment

theorem all_isBase64UrlChar_ledgerPayload (document : Envelope) :
    (ledgerPayload document).all isBase64UrlChar = true ∧ ledgerPayload document ≠ [] := by
  obtain ⟨hall, hne⟩ := stripPadding_urlsafeB64encode (encodeAscii (dumps document.object))
  exact ⟨hall, hne (by simp [encodeAscii, dumps])⟩

theorem not_mem_ledgerPayload (document : Envelope) : '=' ∉ ledgerPayload document := by
  intro hmem
  exact absurd (List.all_eq_true.mp (all_isBase64UrlChar_ledgerPayload document).1 _ hmem)
    (by decide)

theorem ledgerMemoPayloadV1_eq (document : Envelope) :
    ledgerMemoPayloadV1 (encodeAscii (dumps document.object)) =
      (slots 32 (ledgerPayload document), ledgerPayload document) := by
  rw [ledgerMemoPayloadV1, ← ledgerPayload]
  exact congrArg (Prod.mk _)
    (flatten_stripPadding_slots (by decide) (not_mem_ledgerPayload document))

theorem length_of_isNonzero32 {bytes : List Byte} (hbytes : isNonzero32 bytes = true) :
    bytes.length = 32 := by
  rw [isNonzero32, Bool.and_eq_true] at hbytes
  exact of_decide_eq_true hbytes.1

theorem written_of_encrypt
    (hencrypt : encryptTransactionRecordV1 node args nonce = .ok (action, fields, output)) :
    Written node args nonce action fields output := by
  simp only [encryptTransactionRecordV1, bind_eq_ok, require_eq_ok, pure_eq_ok, Prod.mk.injEq]
    at hencrypt
  obtain ⟨_, _, _, hephemeral, _, hdna, validated, hvalidated, _, _, _, _, root, hroot, x,
    hx, y, hy, commitment, hcommitment, _, _, _, _, _, hsame, _, _, _, _, delta, hdelta, deltaX,
    hdeltaX, deltaY, hdeltaY, _, _, rfl, rfl, rfl⟩ := hencrypt
  have hpayload := ledgerMemoPayloadV1_eq (sealRecord node args validated nonce)
  refine
    { validated := hvalidated
      ephemeral := length_of_isNonzero32 hephemeral
      dna := length_of_isNonzero32 hdna
      isMemoField := ?_
      actionCommitment := hsame
      document := rfl
      memo := by rw [hpayload]
      commitment := rfl
      commitmentField := rfl }
  simp only [MemoFields.toList, List.forall_mem_cons, List.not_mem_nil, false_implies,
    implies_true, and_true]
  exact ⟨isMemoField_of_bindingText hroot, isMemoField_of_bindingText hx,
    isMemoField_of_bindingText hy, isMemoField_of_bindingText hcommitment,
    isMemoField_of_deltaText hdelta, isMemoField_of_deltaText hdeltaX,
    isMemoField_of_deltaText hdeltaY⟩

end Writer

section OnChain

variable {fields : MemoFields}

/-- The prefix and the separators of a memo as the readers see them. -/
theorem memoText_eq (fields : MemoFields) (payload : Text) :
    memoText fields payload = "TSN_GPRU_HEAD_V1:".toList ++
      ((fields.toList.flatMap fun field => field ++ [':']) ++ payload) := by
  have hmove : ∀ texts : List Text, (texts.flatMap fun field => ':' :: field) ++ ':' :: payload =
      ':' :: ((texts.flatMap fun field => field ++ [':']) ++ payload) := by
    intro texts
    induction texts with
    | nil => rfl
    | cons text rest ih => simp [ih]
  have hprefix : "TSN_GPRU_HEAD_V1:".toList = "TSN_GPRU_HEAD_V1".toList ++ [':'] := by
    decide +kernel
  have hsplit : ∀ head : Text,
      head ++ (fields.toList.flatMap fun field => ':' :: field) ++ ':' :: payload =
        (head ++ [':']) ++ ((fields.toList.flatMap fun field => field ++ [':']) ++ payload) := by
    intro head
    rw [List.append_assoc, hmove, List.append_assoc, List.singleton_append]
  exact (hsplit _).trans (congrArg (· ++ _) hprefix.symm)

theorem encodeAscii_append (first second : Text) :
    encodeAscii (first ++ second) = encodeAscii first ++ encodeAscii second :=
  List.map_append

theorem encodeAscii_memoText (fields : MemoFields) (payload : Text) :
    encodeAscii (memoText fields payload) =
      memoPrefix ++ (joinFields (fields.toList.map encodeAscii) ++ encodeAscii payload) := by
  have hjoin : ∀ texts : List Text, encodeAscii (texts.flatMap fun field => field ++ [':']) =
      joinFields (texts.map encodeAscii) := by
    intro texts
    induction texts with
    | nil => rfl
    | cons text rest ih =>
        rw [List.flatMap_cons, encodeAscii_append, encodeAscii_append, ih]
        rfl
  rw [memoText_eq, encodeAscii_append, encodeAscii_append, hjoin]
  rfl

theorem length_of_isHex32 {text : Text} (htext : isHex32 text = true) :
    text.length = 64 ∧ text.all isLowerHexDigit = true := by
  rw [isHex32, Bool.and_eq_true] at htext
  exact ⟨of_decide_eq_true htext.1, htext.2⟩

/-- A memo the Node writes has the format that the program reads. -/
theorem wellFormedMemo_memoText (hfields : ∀ field ∈ fields.toList, IsMemoField field)
    (document : Envelope) :
    WellFormedMemo (encodeAscii (memoText fields (ledgerPayload document)))
      (fields.toList.map encodeAscii) (encodeAscii (ledgerPayload document)) := by
  obtain ⟨hall, hne⟩ := all_isBase64UrlChar_ledgerPayload document
  refine ⟨encodeAscii_memoText fields _, by simp [MemoFields.toList], ?_, ?_, ?_, ?_⟩
  · rw [List.forall_mem_map]
    intro field hfield
    obtain ⟨hlength, hdigits⟩ := length_of_isHex32 (hfields field hfield).1
    exact ⟨(List.length_map ..).trans hlength, isHexDigit_encodeAscii hdigits⟩
  · rw [List.forall_mem_map]
    intro field hfield
    rw [hexWord_encodeAscii (length_of_isHex32 (hfields field hfield).1).2]
    exact isCanonicalBn254Scalar_textWord (hfields field hfield).2
  · exact fun hnil => hne (List.map_eq_nil_iff.mp hnil)
  · rw [encodeAscii, List.all_map, List.all_eq_true]
    exact fun digit hdigit => isBase64UrlByte_of_char (List.all_eq_true.mp hall digit hdigit)

theorem parseMemo_memoText (hfields : ∀ field ∈ fields.toList, IsMemoField field)
    (document : Envelope) :
    parseMemo (encodeAscii (memoText fields (ledgerPayload document))) =
      .ok (fields.toList.map textWord) := by
  refine parseMemo_iff_wellFormedMemo.mpr ⟨_, _, wellFormedMemo_memoText hfields document, ?_⟩
  rw [List.map_map]
  exact List.map_congr_left fun field hfield =>
    (hexWord_encodeAscii (length_of_isHex32 (hfields field hfield).1).2).symm

end OnChain

section OwnerReads

variable {fields : MemoFields} {text rest : Text}

theorem matchPrefix_append (pattern text : Text) :
    matchPrefix pattern (pattern ++ text) = some text := by
  induction pattern with
  | nil => rfl
  | cons expected pattern ih =>
      have hfold : foldsTo expected expected = true := by simp [foldsTo]
      rw [List.cons_append, matchPrefix, if_pos hfold, ih]

theorem matchGroup_field (htext : isHex32 text = true) :
    matchGroup (text ++ ([':'] ++ rest)) = some (text, rest) := by
  obtain ⟨hlength, hdigits⟩ := length_of_isHex32 htext
  have hrest : (text ++ ([':'] ++ rest)).drop 65 = rest := by
    rw [← List.append_assoc, List.drop_left' (by simp [hlength])]
  simp only [matchGroup, List.take_left' hlength, List.drop_left' hlength, hrest,
    map_toLower_of_lowerHex hdigits]
  simp [hlength, hdigits]

theorem matchGroups_fields {texts : List Text} (htexts : ∀ text ∈ texts, isHex32 text = true)
    (payload : Text) :
    matchGroups texts.length ((texts.flatMap fun text => text ++ [':']) ++ payload) =
      some (texts, payload) := by
  induction texts with
  | nil => rfl
  | cons text others ih =>
      obtain ⟨htext, hothers⟩ := List.forall_mem_cons.mp htexts
      rw [List.flatMap_cons, List.append_assoc, List.append_assoc, List.length_cons, matchGroups,
        matchGroup_field htext]
      simp [ih hothers]

theorem matchMemoBinding_memoText (hfields : ∀ field ∈ fields.toList, IsMemoField field)
    (payload : Text) :
    matchMemoBinding (memoText fields payload) = some (fields.toList, payload) := by
  have hgroups := matchGroups_fields (fun field hfield => (hfields field hfield).1) payload
  rw [memoText_eq, matchMemoBinding, matchPrefix_append]
  exact hgroups

/-- The bindings as the SDK returns them. -/
def bindingOf (fields : MemoFields) : GpruMemoBindingV1 :=
  ⟨fields.successorPortfolioRoot, fields.successorBalanceX, fields.successorBalanceY,
    fields.actionCommitment, fields.encryptedBlindingDelta, fields.deltaEphemeralPublicX,
    fields.deltaEphemeralPublicY⟩

theorem parseGpruMemoBindingV1_memoText
    (hfields : ∀ field ∈ fields.toList, IsMemoField field) (payload : Text) :
    parseGpruMemoBindingV1 (memoText fields payload) = .ok (bindingOf fields) := by
  have hlower : ∀ field ∈ fields.toList, field.map Char.toLower = field :=
    fun field hfield =>
      map_toLower_of_lowerHex (length_of_isHex32 (hfields field hfield).1).2
  simp only [MemoFields.toList, List.forall_mem_cons] at hlower
  obtain ⟨hroot, hx, hy, haction, hdelta, hdeltaX, hdeltaY, _⟩ := hlower
  rw [parseGpruMemoBindingV1, matchMemoBinding_memoText hfields]
  simp only [MemoFields.toList, hroot, hx, hy, haction, hdelta, hdeltaX, hdeltaY, bindingOf]

/-- What validation makes sure of. -/
structure ValidAction (action : BalanceAction) : Prop where
  sequence : 0 < action.sequence ∧ action.sequence ≤ 0xFFFFFFFFFFFFFFFF
  tokenId : 0 < action.tokenId ∧ action.tokenId ≤ 0xFFFFFFFF
  actionKind : action.actionKind = 1 ∨ action.actionKind = 2 ∨ action.actionKind = 3
  amount : 0 < action.amountBaseUnits ∧ action.amountBaseUnits ≤ 0xFFFFFFFFFFFFFFFF
  hex : ∀ text ∈ [action.previousMemoCommitment, action.actionCommitment,
    action.authorizationCommitment, action.nullifier], IsMemoField text
  nonzero : hexTextValue action.actionCommitment ≠ 0 ∧
    hexTextValue action.authorizationCommitment ≠ 0 ∧ hexTextValue action.nullifier ≠ 0
  predecessor : action.sequence = 1 ↔ action.previousMemoCommitment = zeroCommitment

theorem validAction_of_validate {node : Node.TransactionRecord.Platform} {value : PyObject}
    {action : BalanceAction} (hvalidate : validateBalanceActionRecordV1 node value = .ok action) :
    ValidAction action := by
  unfold validateBalanceActionRecordV1 at hvalidate
  rcases bind_eq_ok.mp hvalidate with ⟨_, -, hvalidate⟩
  rcases bind_eq_ok.mp hvalidate with ⟨_, -, hvalidate⟩
  rcases bind_eq_ok.mp hvalidate with ⟨_, -, hvalidate⟩
  rcases bind_eq_ok.mp hvalidate with ⟨_, -, hvalidate⟩
  rcases bind_eq_ok.mp hvalidate with ⟨sequence, -, hvalidate⟩
  rcases bind_eq_ok.mp hvalidate with ⟨tokenId, -, hvalidate⟩
  rcases bind_eq_ok.mp hvalidate with ⟨actionKind, -, hvalidate⟩
  rcases bind_eq_ok.mp hvalidate with ⟨amount, -, hvalidate⟩
  rcases bind_eq_ok.mp hvalidate with ⟨previous, -, hvalidate⟩
  rcases bind_eq_ok.mp hvalidate with ⟨commitment, -, hvalidate⟩
  rcases bind_eq_ok.mp hvalidate with ⟨authorization, -, hvalidate⟩
  rcases bind_eq_ok.mp hvalidate with ⟨nullifier, -, hvalidate⟩
  simp only [bind_eq_ok, require_eq_ok, pure_eq_ok, List.all_cons, List.all_nil, Bool.and_true,
    Bool.and_eq_true] at hvalidate
  rcases hvalidate with ⟨_, hsequence, _, htoken, _, hkind, _, hamount, _, hprevious, _,
    ⟨hcommitment, hauthorization, hnullifier⟩, _,
    ⟨hprevious', hcommitment', hauthorization', hnullifier'⟩, _, hnonzero, _,
    ⟨hnonzero', hnonzero''⟩, _, hpredecessor, rfl⟩
  refine
    { sequence := by dsimp only; omega
      tokenId := by dsimp only; omega
      actionKind := by dsimp only; omega
      amount := by dsimp only; omega
      hex := ?_
      nonzero := ⟨hnonzero, hnonzero', hnonzero''⟩
      predecessor := ?_ }
  · simp only [List.forall_mem_cons, List.not_mem_nil, false_implies, implies_true, and_true]
    exact ⟨⟨hprevious, hprevious'⟩, ⟨hcommitment, hcommitment'⟩, ⟨hauthorization, hauthorization'⟩,
      ⟨hnullifier, hnullifier'⟩⟩
  · rw [← hpredecessor]
    dsimp only
    omega

/-- The action of a record with the delta its owner recovered. -/
def recordOf (action : BalanceAction) (delta : Nat) : GpruBalanceActionRecordV1 :=
  ⟨decimal action.sequence, action.previousMemoCommitment, action.actionCommitment,
    action.authorizationCommitment, action.nullifier, action.actionKind, action.tokenId,
    decimal action.amountBaseUnits, delta⟩

theorem sortedKeys_object (action : BalanceAction) :
    Sdk.TransactionRecord.sortedKeys (action.object.map Prod.fst) =
      Sdk.TransactionRecord.sortedKeys Sdk.TransactionRecord.expectedKeys := by
  simp only [BalanceAction.object, List.map_cons, List.map_nil]
  decide +kernel

/-- The SDK accepts an action that the Node validated, and returns it. -/
theorem validateGpruBalanceActionRecordV1_object {sdk : Sdk.TransactionRecord.Platform}
    {action : BalanceAction} (haction : ValidAction action) {delta : Nat} (hdelta : 0 < delta)
    (hsuborder : delta < babyJubSuborder) :
    validateGpruBalanceActionRecordV1 sdk action.object delta = .ok (recordOf action delta) := by
  have hhex := haction.hex
  simp only [List.forall_mem_cons, List.not_mem_nil, false_implies, implies_true, and_true]
    at hhex
  obtain ⟨hprevious, hcommitment, hauthorization, hnullifier⟩ := hhex
  have hlower : ∀ text, IsMemoField text → text.map Char.toLower = text :=
    fun text htext => map_toLower_of_lowerHex (length_of_isHex32 htext.1).2
  have hsequence := isPositiveDecimal_decimal haction.sequence.1
  have hamount := isPositiveDecimal_decimal haction.amount.1
  have hfields : action.object.lookup "sequence" = some (.str (decimal action.sequence)) ∧
      action.object.lookup "previousMemoCommitment" =
        some (.str action.previousMemoCommitment) ∧
      action.object.lookup "actionCommitment" = some (.str action.actionCommitment) ∧
      action.object.lookup "authorizationCommitment" =
        some (.str action.authorizationCommitment) ∧
      action.object.lookup "nullifier" = some (.str action.nullifier) ∧
      action.object.lookup "actionKind" = some (.num action.actionKind) ∧
      action.object.lookup "tokenId" = some (.num action.tokenId) ∧
      action.object.lookup "amountBaseUnits" =
        some (.str (decimal action.amountBaseUnits)) :=
    ⟨rfl, rfl, rfl, rfl, rfl, rfl, rfl, rfl⟩
  obtain ⟨hgetSequence, hgetPrevious, hgetCommitment, hgetAuthorization, hgetNullifier, hgetKind,
    hgetToken, hgetAmount⟩ := hfields
  unfold validateGpruBalanceActionRecordV1
  refine bind_eq_ok.mpr ⟨(), require_eq_ok.mpr rfl, ?_⟩
  refine bind_eq_ok.mpr ⟨(), require_eq_ok.mpr (sortedKeys_object action), ?_⟩
  refine bind_eq_ok.mpr ⟨(), require_eq_ok.mpr ⟨rfl, rfl⟩, ?_⟩
  simp only [bind_eq_ok, require_eq_ok, pure_eq_ok, okOr_eq_ok, hgetSequence, hgetPrevious,
    hgetCommitment, hgetAuthorization, hgetNullifier, hgetKind, hgetToken, hgetAmount,
    Sdk.TransactionRecord.stringOf_str, Sdk.TransactionRecord.numberOf_num,
    Sdk.TransactionRecord.integerOf_num, decimalValue_decimal, hlower _ hprevious,
    hlower _ hcommitment, hlower _ hauthorization, hlower _ hnullifier, List.all_cons,
    List.all_nil, Bool.and_true, Bool.and_eq_true]
  exact ⟨(), hsequence, (),
    ⟨hprevious.1, hcommitment.1, hauthorization.1, hnullifier.1⟩, (),
    ⟨hprevious.2, hcommitment.2, hauthorization.2, hnullifier.2⟩, (), haction.nonzero, _, rfl, (),
    haction.actionKind, _, rfl, (), haction.tokenId, (), hamount, (),
    ⟨haction.sequence.2, haction.amount.2⟩, (), ⟨hdelta.ne', hsuborder⟩, (),
    haction.predecessor, rfl⟩

/-- The owner's packages undo what the Node's do: slots decode to the document, and
ciphertexts open to the JSON object that was packed. -/
structure Inverts (node : Node.TransactionRecord.Platform)
    (sdk : Sdk.TransactionRecord.Platform) : Prop where
  sha256 : sdk.sha256 = node.sha256
  slots : ∀ document, sdk.decodeLedgerSlots
    (slots 32 (stripPadding (urlsafeB64encode document))) = some document
  plain : ∀ key nonce members, IsPlainObject members → members ≠ [] →
    sdk.decrypt (b64encode (node.secretBox key nonce (typedPlaintext members)))
      (b64encode nonce) none key = some members
  deflated : ∀ key nonce members, IsPlainObject members → members ≠ [] →
    sdk.decrypt (b64encode (node.secretBox key nonce (node.compress (typedPlaintext members))))
      (b64encode nonce) (some "deflate".toList) key = some members

/-- The owner's seed derives the registered keys and the point the record was made with, and
the delta in the memo opens to a nonzero scalar. -/
structure OwnerOpens (sdk : Sdk.TransactionRecord.Platform) (args : EncryptArgs)
    (fields : MemoFields) (owner : Owner) (delta : Nat) : Prop where
  masterSeed : 32 ≤ owner.masterSeed.length
  routeKey : owner.gpruElgamalPublicKey.length = 32
  sharedPoint : sdk.recordSharedPoint owner.masterSeed owner.gpruElgamalPublicKey
    args.recordEphemeralPublicKey = some args.sharedPoint
  scanKey : ∃ scanKey, deriveGpruBalanceScanKeyV1 sdk.sha256 owner.masterSeed = .ok scanKey ∧
    Sdk.TransactionRecord.coordinateOfBytes owner.gpruBalanceScanPublicKeyX =
      some scanKey.publicKey.1.val ∧
    Sdk.TransactionRecord.coordinateOfBytes owner.gpruBalanceScanPublicKeyY =
      some scanKey.publicKey.2.val ∧
    decryptBalanceBlindingDeltaV1 (hexTextValue fields.encryptedBlindingDelta)
      (hexTextValue fields.deltaEphemeralPublicX) (hexTextValue fields.deltaEphemeralPublicY)
      scanKey.secret = .ok delta
  nonzero : 0 < delta

theorem isPlainObject_envelope (envelope : Envelope) : IsPlainObject envelope.object := by
  have hdata := all_isPlain_b64encode envelope.ciphertext
  have hnonce := all_isPlain_b64encode envelope.nonce
  have hoptional : ∀ member ∈ (if envelope.compressed then
      [("compression", JsonValue.str "deflate".toList)] else []),
      member.1.toList.all isPlain = true ∧
        ∀ text, member.2 = .str text → text.all isPlain = true := by
    intro member hmember
    split at hmember
    · rw [List.mem_singleton.mp hmember]
      exact isPlain_str (by decide +kernel) (by decide +kernel)
    · cases hmember
  rw [IsPlainObject, Envelope.object, List.forall_mem_append, List.forall_mem_append]
  refine ⟨⟨?_, hoptional⟩, ?_⟩
  · rw [List.forall_mem_singleton]
    exact isPlain_str (by decide +kernel) (by decide +kernel)
  · simp only [List.forall_mem_cons, List.not_mem_nil, false_implies, implies_true, and_true]
    exact ⟨isPlain_str (by decide +kernel) hdata, isPlain_str (by decide +kernel) (all_isPlain_hexText _),
      isPlain_str (by decide +kernel) hnonce, isPlain_str (by decide +kernel) (all_isPlain_hexText _),
      by decide +kernel, nofun⟩

theorem isPlainObject_action {action : BalanceAction} (haction : ValidAction action) :
    IsPlainObject action.object := by
  have hhex : ∀ text ∈ [action.previousMemoCommitment, action.actionCommitment,
      action.authorizationCommitment, action.nullifier], text.all isPlain = true :=
    fun text htext => all_isPlain_of_lowerHex (length_of_isHex32 (haction.hex text htext).1).2
  simp only [List.forall_mem_cons, List.not_mem_nil, false_implies, implies_true, and_true]
    at hhex
  obtain ⟨hprevious, hcommitment, hauthorization, hnullifier⟩ := hhex
  simp only [IsPlainObject, BalanceAction.object, List.forall_mem_cons, List.not_mem_nil,
    false_implies, implies_true, and_true]
  exact ⟨isPlain_str (by decide +kernel) hcommitment, ⟨by decide +kernel, nofun⟩,
    isPlain_str (by decide +kernel) (all_isPlain_decimal _),
    isPlain_str (by decide +kernel) hauthorization, isPlain_str (by decide +kernel) hnullifier,
    isPlain_str (by decide +kernel) hprevious, isPlain_str (by decide +kernel) (by decide +kernel),
    isPlain_str (by decide +kernel) (all_isPlain_decimal _), ⟨by decide +kernel, nofun⟩,
    by decide +kernel, nofun⟩

variable {node : Node.TransactionRecord.Platform} {sdk : Sdk.TransactionRecord.Platform}
  {args : EncryptArgs} {nonce : List Byte} {action : BalanceAction} {output : EncryptedRecord}
  {owner : Owner} {delta : Nat}

theorem lookup_envelope (envelope : Envelope) :
    envelope.object.lookup "version" = some (.num 1) ∧
      envelope.object.lookup "algorithm" = some (.str "dbrix-core-secretbox-v1".toList) ∧
      envelope.object.lookup "dna" = some (.str (hexText envelope.dna)) ∧
      envelope.object.lookup "recordEphemeralPublicKey" =
        some (.str (hexText envelope.recordEphemeralPublicKey)) ∧
      envelope.object.lookup "data" = some (.str (b64encode envelope.ciphertext)) ∧
      envelope.object.lookup "nonce" = some (.str (b64encode envelope.nonce)) ∧
      Sdk.TransactionRecord.compressionField envelope.object =
        if envelope.compressed then some "deflate".toList else none := by
  obtain ⟨dna, ephemeral, ciphertext, nonce, compressed⟩ := envelope
  cases compressed with
  | false => exact ⟨rfl, rfl, rfl, rfl, rfl, rfl, rfl⟩
  | true => exact ⟨rfl, rfl, rfl, rfl, rfl, rfl, rfl⟩

theorem hexField_hexText {members : JsonObject} {key : String} {bytes : List Byte}
    (hmember : members.lookup key = some (.str (hexText bytes))) :
    Sdk.TransactionRecord.hexField members key = .ok bytes := by
  have hlower : (hexText bytes).all isLowerHexDigit = true :=
    List.all_eq_true.mpr fun _ => mem_hexText
  rw [Sdk.TransactionRecord.hexField, hmember]
  simp only [map_toLower_of_lowerHex hlower, bytesOfHex_hexText]
  rfl

/-- The owner's packages open what the Node sealed. -/
theorem decrypt_sealRecord (hinverts : Inverts node sdk) (haction : ValidAction action) :
    sdk.decrypt (b64encode (sealRecord node args action nonce).ciphertext) (b64encode nonce)
      (if (sealRecord node args action nonce).compressed then some "deflate".toList else none)
      (recordKey node.sha256 args.sharedPoint args.dna args.recordEphemeralPublicKey) =
        some action.object := by
  have hplain := isPlainObject_action haction
  have hne : action.object ≠ [] := List.cons_ne_nil _ _
  simp only [sealRecord]
  by_cases hshorter : (node.compress (typedPlaintext action.object)).length <
      (typedPlaintext action.object).length
  · simp only [hshorter, decide_true, if_true]
    exact hinverts.deflated _ _ _ hplain hne
  · simp only [hshorter, decide_false, Bool.false_eq_true, if_false]
    exact hinverts.plain _ _ _ hplain hne

theorem decryptGpruLedgerMemoV1_of_written (hinverts : Inverts node sdk)
    (hwritten : Written node args nonce action fields output)
    (howner : OwnerOpens sdk args fields owner delta) :
    decryptGpruLedgerMemoV1 sdk owner output.memoPayload = .ok (recordOf action delta) := by
  obtain ⟨hversion, halgorithm, hdna, hephemeral, hdata, hnonce, hcompression⟩ :=
    lookup_envelope output.memoDocument
  obtain ⟨hall, hne⟩ := all_isBase64UrlChar_ledgerPayload output.memoDocument
  have hplain := isPlainObject_envelope output.memoDocument
  have hobject : output.memoDocument.object ≠ [] := by
    intro hnil
    rw [hnil] at hversion
    cases hversion
  have haction := validAction_of_validate hwritten.validated
  obtain ⟨scanKey, hscan, hscanX, hscanY, hdelta⟩ := howner.scanKey
  have hkey : deriveGpruTransactionRecordKeyV1 sdk owner args.dna
      args.recordEphemeralPublicKey = .ok (recordKey node.sha256 args.sharedPoint args.dna
        args.recordEphemeralPublicKey) := by
    simp only [deriveGpruTransactionRecordKeyV1, bind_eq_ok, require_eq_ok, okOr_eq_ok,
      pure_eq_ok, hinverts.sha256]
    exact ⟨(), howner.routeKey, (), hwritten.dna, (), hwritten.ephemeral, (), howner.masterSeed, _,
      howner.sharedPoint, rfl⟩
  have hdecrypt := @decrypt_sealRecord node sdk args nonce action hinverts haction
  rw [← hwritten.document] at hdecrypt
  rw [hwritten.memo]
  unfold decryptGpruLedgerMemoV1
  refine bind_eq_ok.mpr ⟨_, parseGpruMemoBindingV1_memoText hwritten.isMemoField _, ?_⟩
  refine bind_eq_ok.mpr ⟨_, okOr_eq_ok.mpr
    (matchMemoBinding_memoText hwritten.isMemoField _), ?_⟩
  refine bind_eq_ok.mpr ⟨(), require_eq_ok.mpr ⟨hne, hall⟩, ?_⟩
  refine bind_eq_ok.mpr ⟨_, okOr_eq_ok.mpr (hinverts.slots _), ?_⟩
  refine bind_eq_ok.mpr ⟨_, okOr_eq_ok.mpr (decodeAscii_encodeAscii (isAscii_dumps hplain)), ?_⟩
  refine bind_eq_ok.mpr ⟨_, okOr_eq_ok.mpr (parseObject_dumps hplain hobject), ?_⟩
  refine bind_eq_ok.mpr ⟨(), require_eq_ok.mpr ⟨hversion, halgorithm⟩, ?_⟩
  refine bind_eq_ok.mpr ⟨_, hexField_hexText hdna, ?_⟩
  refine bind_eq_ok.mpr ⟨_, hexField_hexText hephemeral, ?_⟩
  rw [hcompression, hwritten.document]
  refine bind_eq_ok.mpr ⟨_, hkey, ?_⟩
  rw [← hwritten.document]
  refine bind_eq_ok.mpr ⟨b64encode output.memoDocument.ciphertext, ?_, ?_⟩
  · rw [Sdk.TransactionRecord.stringField, hdata]
  refine bind_eq_ok.mpr ⟨b64encode nonce, ?_, ?_⟩
  · rw [Sdk.TransactionRecord.stringField, hnonce, hwritten.document]
    rfl
  refine bind_eq_ok.mpr ⟨action.object, okOr_eq_ok.mpr hdecrypt, ?_⟩
  refine bind_eq_ok.mpr ⟨scanKey, by rw [hscan]; rfl, ?_⟩
  refine bind_eq_ok.mpr ⟨(), require_eq_ok.mpr ⟨hscanX, hscanY⟩, ?_⟩
  refine bind_eq_ok.mpr ⟨delta, ?_, ?_⟩
  · simp only [bindingOf, hdelta]
    rfl
  refine bind_eq_ok.mpr ⟨_, validateGpruBalanceActionRecordV1_object haction howner.nonzero
    (lt_suborder_of_decrypt hdelta), ?_⟩
  exact bind_eq_ok.mpr ⟨(), require_eq_ok.mpr hwritten.actionCommitment, rfl⟩

end OwnerReads

section Agreement

open Gpru.Verifier (Runtime validateMemoInstruction instructionsSysvar memoProgram)

variable {node : Node.TransactionRecord.Platform} {sdk : Sdk.TransactionRecord.Platform}
  {runtime : Runtime}

/-- The program on chain and the owner read from a memo what the Node put in it. -/
structure MemoAgrees (runtime : Runtime) (sdk : Sdk.TransactionRecord.Platform)
    (args : EncryptArgs) (action : BalanceAction) (fields : MemoFields)
    (output : EncryptedRecord) : Prop where
  onChain : validateMemoInstruction runtime
    ⟨instructionsSysvar, tsnProgram, some (memoProgram, encodeAscii output.memoPayload)⟩ =
      .ok (output.memoCommitment, fields.toList.map textWord)
  scalar : sha256ToBn254Scalar output.memoCommitment = output.memoCommitmentField
  binding : parseGpruMemoBindingV1 output.memoPayload = .ok (bindingOf fields)
  record : ∀ owner delta, OwnerOpens sdk args fields owner delta →
    decryptGpruLedgerMemoV1 sdk owner output.memoPayload = .ok (recordOf action delta)

theorem sha256ToBn254Scalar_eq (digest : Bytes32) :
    sha256ToBn254Scalar digest = sha256ToBn254ScalarHex digest := by
  apply BitVec.eq_of_toNat_eq
  have hlt : digest.toNat % bn254ScalarOrder < 2 ^ 256 :=
    lt_of_le_of_lt (Nat.mod_le _ _) digest.isLt
  rw [toNat_sha256ToBn254Scalar, sha256ToBn254ScalarHex, BitVec.toNat_ofNat,
    Nat.mod_eq_of_lt hlt]

theorem memoAgrees_of_written (hinverts : Inverts node sdk)
    (hsha256 : runtime.sha256 = node.sha256) {args : EncryptArgs} {nonce : List Byte}
    {action : BalanceAction} {fields : MemoFields} {output : EncryptedRecord}
    (hwritten : Written node args nonce action fields output) :
    MemoAgrees runtime sdk args action fields output := by
  have hparse := parseMemo_memoText hwritten.isMemoField output.memoDocument
  rw [parseMemo_eq_ok, ← hwritten.memo] at hparse
  refine
    { onChain := ?_
      scalar := by rw [sha256ToBn254Scalar_eq, hwritten.commitmentField]
      binding := by
        rw [hwritten.memo]
        exact parseGpruMemoBindingV1_memoText hwritten.isMemoField _
      record := fun _ _ => decryptGpruLedgerMemoV1_of_written hinverts hwritten }
  simp only [validateMemoInstruction, bind_eq_ok, require_eq_ok, okOr_eq_ok, pure_eq_ok]
  exact ⟨(), trivial, (), trivial, _, rfl, (), rfl, _, hparse, by rw [hsha256, hwritten.commitment]⟩

/-- A memo of the Node means the same to the chain and to its owner. The program's parser
stays within the bytes of any memo, and accepts the prefix, seven canonical fields of
hexadecimal digits in either case, and a payload in the base64url alphabet. -/
theorem memoAgreement (hinverts : Inverts node sdk) (hsha256 : runtime.sha256 = node.sha256) :
    (∀ args nonce action fields output,
      encryptTransactionRecordV1 node args nonce = .ok (action, fields, output) →
        validateBalanceActionRecordV1 node args.record = .ok action ∧
          MemoAgrees runtime sdk args action fields output) ∧
    (∀ data, Avoids .outOfRange (parseMemo data)) ∧
    (∀ data bindings, Verifier.memoBindings data = some bindings ↔
      parseMemo data = .ok bindings) ∧
    ∀ data bindings, parseMemo data = .ok bindings ↔
      ∃ fields tail, WellFormedMemo data fields tail ∧ bindings = fields.map hexWord := by
  refine ⟨?_, avoids_parseMemo, fun _ _ => parseMemo_eq_ok.symm,
    fun _ _ => parseMemo_iff_wellFormedMemo⟩
  intro args nonce action fields output hencrypt
  have hwritten := written_of_encrypt hencrypt
  exact ⟨hwritten.validated, memoAgrees_of_written hinverts hsha256 hwritten⟩

/-- Seven fields that end in a capital digit. -/
def uppercaseMemo : List Byte :=
  memoPrefix ++ (joinFields (List.replicate 7 (List.replicate 63 48 ++ [65])) ++ [65])

/-- The program reads capital digits. -/
theorem exists_uppercase_memo :
    ∃ data bindings, parseMemo data = .ok bindings ∧
      ∃ byte ∈ (data.drop memoPrefix.length).take 64, 65 ≤ byte.toNat ∧ byte.toNat ≤ 70 := by
  refine ⟨uppercaseMemo, List.replicate 7 10, ?_, 65, ?_, by decide, by decide⟩
  · decide +kernel
  · decide +kernel

end Agreement

section Sample

/-- A digest of the length of a message. -/
def sampleSha256 (message : List Byte) : Bytes32 :=
  BitVec.ofNat 256 (message.length * 2 ^ 248)

def sampleNode : Node.TransactionRecord.Platform where
  int
    | .int value => some value
    | .str text => some (decimalValue text)
    | _ => none
  str
    | .str text => text
    | _ => []
  lower := List.map Char.toLower
  sha256 := sampleSha256
  compress bytes := 0 :: bytes
  secretBox _ _ plaintext := List.replicate 16 0 ++ plaintext

def sampleSdk : Sdk.TransactionRecord.Platform where
  number _ := none
  sha256 := sampleSha256
  decodeLedgerSlots ledgerSlots :=
    some (decodeBase64 (base64Value '-') (ledgerSlots.map stripPadding).flatten)
  decrypt data _ compression _ :=
    let opened := (decodeBase64 (base64Value '+') (stripPadding data)).drop 16
    let plaintext := if compression.isSome then opened.drop 1 else opened
    (decodeAscii (plaintext.drop 1)).bind parseObject
  recordSharedPoint _ _ _ := some (List.replicate 32 1)

theorem inverts_sample : Inverts sampleNode sampleSdk := by
  have hstandard : ∀ bytes, decodeBase64 (base64Value '+') (stripPadding (b64encode bytes)) =
      bytes :=
    decodeBase64_base64 (by decide) (by decide)
  have hurl : ∀ bytes,
      decodeBase64 (base64Value '-') (stripPadding (urlsafeB64encode bytes)) = bytes :=
    decodeBase64_base64 (by decide) (by decide)
  have hread : ∀ members, IsPlainObject members → members ≠ [] →
      (decodeAscii (encodeAscii (dumps members))).bind parseObject = some members := by
    intro members hplain hne
    rw [decodeAscii_encodeAscii (isAscii_dumps hplain)]
    exact parseObject_dumps hplain hne
  refine ⟨rfl, ?_, ?_, ?_⟩
  · intro document
    have hpadding : '=' ∉ stripPadding (urlsafeB64encode document) := by
      intro hmem
      have hall := (stripPadding_urlsafeB64encode document).1
      exact absurd (List.all_eq_true.mp hall _ hmem) (by decide)
    simp only [sampleSdk]
    rw [flatten_stripPadding_slots (by decide) hpadding, hurl]
  · intro key nonce members hplain hne
    simp only [sampleSdk, sampleNode, hstandard, typedPlaintext]
    exact hread members hplain hne
  · intro key nonce members hplain hne
    simp only [sampleSdk, sampleNode, hstandard, typedPlaintext]
    exact hread members hplain hne

def hexDigitText (digit : Char) : Text :=
  List.replicate 63 '0' ++ [digit]

def sampleArgs : EncryptArgs where
  record := .dict [("version", .int 1), ("recordType", .str recordType), ("sequence", .int 1),
    ("previousMemoCommitment", .str zeroCommitment),
    ("actionCommitment", .str (hexDigitText '7')),
    ("authorizationCommitment", .str (hexDigitText '8')), ("nullifier", .str (hexDigitText '9')),
    ("actionKind", .int 1), ("tokenId", .int 1), ("amountBaseUnits", .str ['1', '0', '0'])]
  sharedPoint := List.replicate 32 1
  recordEphemeralPublicKey := List.replicate 32 2
  dna := List.replicate 32 3
  encryptedBlindingDelta := .str (hexDigitText '1')
  deltaEphemeralPublicX := .str (hexText (wordBytes (BitVec.ofNat 256 balanceG.x.val)))
  deltaEphemeralPublicY := .str (hexText (wordBytes (BitVec.ofNat 256 balanceG.y.val)))
  memoBinding := .dict [("successorPortfolioRoot", .str (hexDigitText 'A')),
    ("successorBalanceX", .str (hexDigitText '5')),
    ("successorBalanceY", .str (hexDigitText '6')),
    ("actionCommitment", .str (hexDigitText '7')),
    ("authorizationCommitment", .str (hexDigitText '8')), ("nullifier", .str (hexDigitText '9'))]

/-- An owner whose scan secret is 1. -/
def sampleOwner : Owner where
  masterSeed := List.replicate 228 0
  gpruElgamalPublicKey := List.replicate 32 5
  gpruBalanceScanPublicKeyX := wordBytes (BitVec.ofNat 256 balanceG.x.val)
  gpruBalanceScanPublicKeyY := wordBytes (BitVec.ofNat 256 balanceG.y.val)

theorem length_sampleSeed : 32 ≤ sampleOwner.masterSeed.length := by
  have hlength : sampleOwner.masterSeed.length = 228 := List.length_replicate
  omega

example : sampleOwner.gpruElgamalPublicKey.length = 32 := by
  decide +kernel

theorem deriveScanKey_sample :
    deriveGpruBalanceScanKeyV1 sampleSha256 sampleOwner.masterSeed =
      .ok ⟨1, coordinates balanceG⟩ := by
  have hsecret : leValue (wordBytes (sampleSha256
      (asciiBytes "TSN_GPRU_BALANCE_SCAN_KEY_V1\x00" ++ sampleOwner.masterSeed))) %
        babyJubSuborder = 1 := by
    decide +kernel
  unfold deriveGpruBalanceScanKeyV1
  refine bind_eq_ok.mpr ⟨(), require_eq_ok.mpr length_sampleSeed, pure_eq_ok.mpr ?_⟩
  rw [hsecret, if_neg one_ne_zero, multiply_coordinates, one_nsmul]

theorem decryptDelta_sample (encrypted : Nat) (hencrypted : encrypted < babyJubSuborder) :
    decryptBalanceBlindingDeltaV1 encrypted balanceG.x.val balanceG.y.val 1 =
      .ok (((encrypted : Int) - balanceG.x.val) % babyJubSuborder).toNat := by
  have hpoint : isCanonicalPoint balanceG.x.val balanceG.y.val = true := by decide +kernel
  have hshared : multiply ((balanceG.x.val : Fr), (balanceG.y.val : Fr)) 1 =
      coordinates balanceG := by
    rw [ZMod.natCast_zmod_val, ZMod.natCast_zmod_val]
    exact (multiply_coordinates balanceG 1).trans (by rw [one_nsmul])
  simp only [decryptBalanceBlindingDeltaV1, bind_eq_ok, require_eq_ok, pure_eq_ok]
  exact ⟨(), ⟨hencrypted, by decide, by decide⟩, (), hpoint, by rw [hshared]; rfl⟩

def sampleDelta : Nat :=
  (((1 : Nat) : Int) - balanceG.x.val) % babyJubSuborder |>.toNat

def sampleRuntime : Verifier.Runtime where
  bump _ := 255
  sha256 := sampleSha256
  poseidon _ := none
  circuitCommitmentV1 := 0
  groth16 _ _ := false

/-- A memo of the Node, accepted on chain and read by its owner. -/
theorem memoAgreement_sample :
    ∃ action fields output,
      encryptTransactionRecordV1 sampleNode sampleArgs (List.replicate 24 4) =
        .ok (action, fields, output) ∧
      MemoAgrees sampleRuntime sampleSdk sampleArgs action fields output ∧
      decryptGpruLedgerMemoV1 sampleSdk sampleOwner output.memoPayload =
        .ok (recordOf action sampleDelta) := by
  have hencrypts : (match encryptTransactionRecordV1 sampleNode sampleArgs
      (List.replicate 24 4) with
      | .ok (_, fields, _) =>
          decide (hexTextValue fields.encryptedBlindingDelta = 1 ∧
            hexTextValue fields.deltaEphemeralPublicX = balanceG.x.val ∧
            hexTextValue fields.deltaEphemeralPublicY = balanceG.y.val)
      | .error _ => false) = true := by
    decide +kernel
  obtain ⟨hagree, -⟩ := @memoAgreement sampleNode sampleSdk sampleRuntime inverts_sample rfl
  cases hencrypt : encryptTransactionRecordV1 sampleNode sampleArgs (List.replicate 24 4) with
  | error problem =>
      rw [hencrypt] at hencrypts
      cases hencrypts
  | ok written =>
      obtain ⟨action, fields, output⟩ := written
      rw [hencrypt] at hencrypts
      obtain ⟨hdelta, hx, hy⟩ := of_decide_eq_true hencrypts
      obtain ⟨-, hagrees⟩ := hagree _ _ _ _ _ hencrypt
      refine ⟨action, fields, output, rfl, hagrees, hagrees.record sampleOwner sampleDelta ?_⟩
      refine ⟨length_sampleSeed, by decide, rfl, ⟨_, deriveScanKey_sample, ?_, ?_, ?_⟩, ?_⟩
      · decide +kernel
      · decide +kernel
      · rw [hdelta, hx, hy]
        exact decryptDelta_sample 1 (by decide)
      · decide +kernel

end Sample

end TsnProtocol.Gpru.MemoAgreement
