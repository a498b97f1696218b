import TsnProtocol.Tcap.ConfigLayout
import TsnProtocol.Tcap.TipFinality
import TsnProtocol.Tcap.TipSeal

/-!
The bytes of one-time tips: the layout before seals, the present one, and the one that
left policy and nullifier a field too early, with the two instructions that move tips
between them.
-/

namespace TsnProtocol.Tcap.TipSealLayout

open Lib.ByteReader
open Lib.Checked
open Lib.Transition
open Solana.Address
open Tcap.State
open Tcap.Execution
open Tcap.ConfigLayout
open Tcap.TipSeal (sealedOfBytes)

/-- `TcapOneTimeTip::DISCRIMINATOR`. -/
def tipDiscriminator : List Byte := [253, 251, 234, 254, 236, 243, 46, 121]

/-- `TcapOneTimeTip::SPACE`. -/
def tipSpace : Nat := 8 + 32 + 8 + 48 + 32 + 32 + 32 + 4 + 1 + 1

section Readers

def takeSealed : Reader DecodeError Sealed :=
  sealedOfBytes <$> take 48 .unexpectedLength

def takeTip : Reader DecodeError TcapOneTimeTip := do
  let commitment ← takeWord .unexpectedLength
  let sequence ← takeNat 8 .unexpectedLength
  let sealed ← takeSealed
  let sealCommitment ← takeWord .unexpectedLength
  let policyCommitment ← takeWord .unexpectedLength
  let transitionNullifier ← takeWord .unexpectedLength
  let tokenId ← takeNat 4 .unexpectedLength
  let consumed ← takeBool .invalidValue
  let bump ← takeNat 1 .unexpectedLength
  return ⟨commitment, sequence, sealed, sealCommitment, policyCommitment,
    transitionNullifier, tokenId, consumed, bump⟩

def takeLegacyTip : Reader DecodeError LegacyTip := do
  let commitment ← takeWord .unexpectedLength
  let sequence ← takeNat 8 .unexpectedLength
  let policyCommitment ← takeWord .unexpectedLength
  let transitionNullifier ← takeWord .unexpectedLength
  let tokenId ← takeNat 4 .unexpectedLength
  let consumed ← takeBool .invalidValue
  let bump ← takeNat 1 .unexpectedLength
  return ⟨commitment, sequence, policyCommitment, transitionNullifier, tokenId, consumed,
    bump⟩

def decodeTip : List Byte → Except DecodeError TcapOneTimeTip :=
  decodeAccount tipDiscriminator takeTip

def decodeLegacyTip : List Byte → Except DecodeError LegacyTip :=
  decodeAccount tipDiscriminator takeLegacyTip

end Readers

section Instructions

/-- The signers of a call, and the configuration it comes with. -/
structure GovernedCall where
  signers : List Bytes32
  (governance config : Bytes32)
  configAccount : RawAccount

local instance lawfulBEq_bytes32 : LawfulBEq Bytes32 := inferInstance

/-- The constraints on `governance` and `config`. -/
def loadGoverned (derived : Derived) (call : GovernedCall) : Except MigrationError Unit := do
  require (call.governance ∈ call.signers) .accountNotSigner
  require (call.configAccount.owner = tcapProgramId) .accountOwnedByWrongProgram
  let config ← (decodeConfig call.configAccount.data).mapError .decode
  require (call.config = derived.config ∧ config.bump = derived.configBump.toNat)
    .constraintSeeds
  require (config.governanceAuthority = call.governance) (.tcap .invalidAuthority)

/-- Insert the seal head into an older tip. -/
def migrateTipSealV1 (derived : Derived) (call : GovernedCall) (tip : RawAccount) :
    Except MigrationError RawAccount := do
  loadGoverned derived call
  require (tip.owner = tcapProgramId) (.tcap .invalidPda)
  let old := tip.data
  require (118 ≤ old.length) (.tcap .invalidPda)
  require (old.length < tipSpace) (.tcap .tipSealAlreadyMigrated)
  require (between old 8 40 ≠ List.replicate 32 0) (.tcap .emptyCommitment)
  -- the account is resized and then zeroed as a whole
  let data := List.replicate tipSpace 0
  let data := writeAt data 0 (between old 0 8)
  let data := writeAt data 8 (between old 8 40)
  let data := writeAt data 40 (between old 40 48)
  let data := writeAt data 128 (between old 48 80)
  let data := writeAt data 160 (between old 80 112)
  let data := writeAt data 192 (between old 112 116)
  let data := writeAt data 196 (between old 116 117)
  let data := writeAt data 197 (between old 117 118)
  return { tip with data := data }

/-- Undo a migration that left policy and nullifier one field too early. -/
def repairTipSealV1 (derived : Derived) (call : GovernedCall) (tip : RawAccount) :
    Except MigrationError RawAccount := do
  loadGoverned derived call
  require (tip.owner = tcapProgramId) (.tcap .invalidPda)
  let old := tip.data
  require (old.length = tipSpace) (.tcap .invalidPda)
  require ((between old 48 96).all (· = 0) = true) (.tcap .tipSealAlreadyMigrated)
  require ((between old 96 128).any (· ≠ 0) = true) (.tcap .invalidPda)
  let data := writeAt old 48 (List.replicate 80 0)
  let data := writeAt data 128 (between old 96 128)
  let data := writeAt data 160 (between old 128 160)
  let data := writeAt data 192 (between old 160 164)
  let data := writeAt data 196 (between old 164 165)
  let data := writeAt data 197 (between old 165 166)
  return { tip with data := data }

end Instructions

/-- A tip of the older layout under the present one, with an empty seal. -/
def withEmptySeal (tip : LegacyTip) : TcapOneTimeTip where
  commitment := tip.commitment
  sequence := tip.sequence
  sealed := 0
  sealCommitment := 0
  policyCommitment := tip.policyCommitment
  transitionNullifier := tip.transitionNullifier
  tokenId := tip.tokenId
  consumed := tip.consumed
  bump := tip.bump

section Layouts

/-- The fields of a tip, as the bytes they take. -/
structure TipFields where
  (commitment sequence policy transition token : List Byte)
  flag : Bool
  bump : List Byte

/-- Every field has its length. -/
structure TipFields.Sized (fields : TipFields) : Prop where
  commitment : fields.commitment.length = 32
  sequence : fields.sequence.length = 8
  policy : fields.policy.length = 32
  transition : fields.transition.length = 32
  token : fields.token.length = 4
  bump : fields.bump.length = 1

variable {fields : TipFields}

/-- The values behind the fields. -/
def TipFields.tip (fields : TipFields) : LegacyTip where
  commitment := wordOfBytes fields.commitment
  sequence := leValue fields.sequence
  policyCommitment := wordOfBytes fields.policy
  transitionNullifier := wordOfBytes fields.transition
  tokenId := leValue fields.token
  consumed := fields.flag
  bump := leValue fields.bump

/-- The layout before seals, behind the discriminator. -/
def TipFields.legacy (fields : TipFields) : List Byte :=
  fields.commitment ++ (fields.sequence ++ (fields.policy ++ (fields.transition ++
    (fields.token ++ ([boolByte fields.flag] ++ fields.bump)))))

/-- The present layout with an empty seal. -/
def TipFields.sealed (fields : TipFields) : List Byte :=
  fields.commitment ++ (fields.sequence ++ (List.replicate 48 0 ++ (List.replicate 32 0 ++
    (fields.policy ++ (fields.transition ++ (fields.token ++
      ([boolByte fields.flag] ++ fields.bump)))))))

/-- The layout that left out the seal commitment: everything from the policy on stands 32
bytes too early. -/
def TipFields.misplaced (fields : TipFields) (tail : List Byte) : List Byte :=
  fields.commitment ++ (fields.sequence ++ (List.replicate 48 0 ++ (fields.policy ++
    (fields.transition ++ (fields.token ++ ([boolByte fields.flag] ++
      (fields.bump ++ tail)))))))

theorem decodeLegacyTip_legacy (hsized : fields.Sized) (rest : List Byte) :
    decodeLegacyTip (tipDiscriminator ++ (fields.legacy ++ rest)) = .ok fields.tip := by
  have hread : Reads takeLegacyTip fields.legacy fields.tip :=
    reads_bind (reads_takeWord_bytes hsized.commitment) <|
    reads_bind (reads_takeNat_bytes hsized.sequence) <|
    reads_bind (reads_takeWord_bytes hsized.policy) <|
    reads_bind (reads_takeWord_bytes hsized.transition) <|
    reads_bind (reads_takeNat_bytes hsized.token) <|
    reads_bind reads_takeBool <|
    reads_bind_pure (reads_takeNat_bytes hsized.bump)
  exact decodeAccount_eq_ok.mpr ⟨rfl, rest, hread rest⟩

theorem sealedOfBytes_zero : sealedOfBytes (List.replicate 48 0) = 0 := by
  decide +kernel

theorem wordOfBytes_zero : wordOfBytes (List.replicate 32 0) = 0 := by
  decide +kernel

example : sealedOfBytes (List.replicate 48 1) ≠ 0 := by
  decide +kernel

theorem decodeTip_sealed (hsized : fields.Sized) (rest : List Byte) :
    decodeTip (tipDiscriminator ++ (fields.sealed ++ rest)) =
      .ok (withEmptySeal fields.tip) := by
  have hseal : Reads takeSealed (List.replicate 48 0) 0 := by
    rw [← sealedOfBytes_zero]
    exact reads_map (reads_take (List.length_replicate ..))
  have hcommitment : Reads (takeWord DecodeError.unexpectedLength) (List.replicate 32 0) 0 := by
    rw [← wordOfBytes_zero]
    exact reads_takeWord_bytes (List.length_replicate ..)
  have hread : Reads takeTip fields.sealed (withEmptySeal fields.tip) :=
    reads_bind (reads_takeWord_bytes hsized.commitment) <|
    reads_bind (reads_takeNat_bytes hsized.sequence) <|
    reads_bind hseal <|
    reads_bind hcommitment <|
    reads_bind (reads_takeWord_bytes hsized.policy) <|
    reads_bind (reads_takeWord_bytes hsized.transition) <|
    reads_bind (reads_takeNat_bytes hsized.token) <|
    reads_bind reads_takeBool <|
    reads_bind_pure (reads_takeNat_bytes hsized.bump)
  exact decodeAccount_eq_ok.mpr ⟨rfl, rest, hread rest⟩

/-- The writes of both instructions, from the sequence on. -/
theorem writes_eq {left rest policy transition token flag bump : List Byte}
    (hleft : left.length = 128) (hrest : rest.length = 70) (hpolicy : policy.length = 32)
    (htransition : transition.length = 32) (htoken : token.length = 4)
    (hflag : flag.length = 1) (hbump : bump.length = 1) :
    writeAt (writeAt (writeAt (writeAt (writeAt (left ++ rest) 128 policy) 160 transition) 192
      token) 196 flag) 197 bump =
        left ++ (policy ++ (transition ++ (token ++ (flag ++ bump)))) := by
  rw [writeAt_next hleft hpolicy, writeAt_next (by simp [hleft, hpolicy]) htransition,
    writeAt_next (by simp [hleft, hpolicy, htransition]) htoken,
    writeAt_next (by simp [hleft, hpolicy, htransition, htoken]) hflag,
    writeAt_next (by simp [hleft, hpolicy, htransition, htoken, hflag]) hbump]
  have hend : List.drop 1 (List.drop 1 (List.drop 4 (List.drop 32 (List.drop 32 rest)))) =
      [] := by
    simp only [List.drop_drop]
    exact List.drop_eq_nil_of_le (by omega)
  rw [hend]
  simp only [List.append_assoc, List.append_nil]

/-- What a migration leaves in the account. -/
def migratedData (old : List Byte) : List Byte :=
  between old 0 8 ++ (between old 8 40 ++ (between old 40 48 ++ (List.replicate 80 0 ++
    (between old 48 80 ++ (between old 80 112 ++ (between old 112 116 ++
      (between old 116 117 ++ between old 117 118)))))))

theorem migrate_eq_ok {derived : Derived} {call : GovernedCall} {tip next : RawAccount}
    (hrun : migrateTipSealV1 derived call tip = .ok next) :
    118 ≤ tip.data.length ∧ next.data = migratedData tip.data := by
  simp only [migrateTipSealV1, bind_eq_ok, require_eq_ok, pure_eq_ok] at hrun
  rcases hrun with ⟨_, -, _, -, _, hsize, _, -, _, -, rfl⟩
  refine ⟨hsize, ?_⟩
  have hlength : ∀ {start stop}, stop ≤ 118 →
      (between tip.data start stop).length = stop - start :=
    fun hstop => length_between (le_trans hstop hsize)
  have hhead : writeAt (writeAt (writeAt (List.replicate tipSpace 0) 0 (between tip.data 0 8)) 8
      (between tip.data 8 40)) 40 (between tip.data 40 48) =
        (between tip.data 0 8 ++ (between tip.data 8 40 ++ (between tip.data 40 48 ++
          List.replicate 80 0))) ++ List.replicate 70 0 := by
    rw [← List.nil_append (List.replicate tipSpace 0),
      writeAt_next (List.length_nil) (hlength (by omega)), List.nil_append,
      writeAt_next (hlength (by omega)) (hlength (by omega)),
      writeAt_next (by simp [hlength]) (hlength (by omega))]
    simp only [List.append_assoc]
    rfl
  simp only [hhead]
  rw [writes_eq (by simp [hlength]) (List.length_replicate ..) (hlength (by omega))
    (hlength (by omega)) (hlength (by omega)) (hlength (by omega)) (hlength (by omega))]
  simp only [migratedData, List.append_assoc]

/-- The fields of an account in the older layout. -/
def fieldsAt (old : List Byte) (flag : Bool) : TipFields where
  commitment := between old 8 40
  sequence := between old 40 48
  policy := between old 48 80
  transition := between old 80 112
  token := between old 112 116
  flag := flag
  bump := between old 117 118

theorem sized_fieldsAt {old : List Byte} {flag : Bool} (hsize : 118 ≤ old.length) :
    (fieldsAt old flag).Sized := by
  have hlength : ∀ {start stop}, stop ≤ 118 →
      (between old start stop).length = stop - start :=
    fun hstop => length_between (le_trans hstop hsize)
  exact ⟨hlength (by omega), hlength (by omega), hlength (by omega), hlength (by omega),
    hlength (by omega), hlength (by omega)⟩

theorem legacy_fieldsAt {old : List Byte} {flag : Bool}
    (hflag : between old 116 117 = [boolByte flag]) :
    (fieldsAt old flag).legacy ++ old.drop 118 = old.drop 8 := by
  simp only [TipFields.legacy, fieldsAt, ← hflag, List.append_assoc,
    between_append_drop (show 117 ≤ 118 by omega),
    between_append_drop (show 116 ≤ 117 by omega),
    between_append_drop (show 112 ≤ 116 by omega),
    between_append_drop (show 80 ≤ 112 by omega),
    between_append_drop (show 48 ≤ 80 by omega),
    between_append_drop (show 40 ≤ 48 by omega),
    between_append_drop (show 8 ≤ 40 by omega)]

/-- The account is a tip in the older layout, and decodes to the same tip with an empty
seal afterwards. -/
def MigratesTip (old new : List Byte) : Prop :=
  ∃ tip, decodeLegacyTip old = .ok tip ∧ decodeTip new = .ok (withEmptySeal tip)

/-- The account carries the discriminator of tips, and a flag where they keep theirs. -/
def CarriesTip (old : List Byte) : Prop :=
  old.take 8 = tipDiscriminator ∧ ∃ flag, between old 116 117 = [boolByte flag]

theorem carriesTip_of_decode {old : List Byte} {tip : LegacyTip}
    (hdecode : decodeLegacyTip old = .ok tip) : CarriesTip old := by
  rcases decodeAccount_eq_ok.mp hdecode with ⟨hdiscriminator, _, hfields⟩
  refine ⟨hdiscriminator, tip.consumed, ?_⟩
  simp only [takeLegacyTip, reader_bind_eq_ok, reader_pure_eq_ok] at hfields
  rcases hfields with ⟨_, _, hcommitment, _, _, hsequence, _, _, hpolicy, _, _, htransition,
    _, _, htoken, flag, _, hflag, _, _, hbump, rfl, -⟩
  rcases takeWord_drop_eq_ok.mp hcommitment with ⟨-, -, rfl⟩
  rcases (takeNat_drop_eq_ok (by decide)).mp hsequence with ⟨-, -, rfl⟩
  rcases takeWord_drop_eq_ok.mp hpolicy with ⟨-, -, rfl⟩
  rcases takeWord_drop_eq_ok.mp htransition with ⟨-, -, rfl⟩
  rcases (takeNat_drop_eq_ok (by decide)).mp htoken with ⟨-, -, rfl⟩
  have hbyte := takeBool_eq_ok hflag
  exact (@between_of_drop _ [boolByte flag] _ _ 1 hbyte rfl).1

theorem migratesTip_iff {old : List Byte} (hsize : 118 ≤ old.length) :
    MigratesTip old (migratedData old) ↔ CarriesTip old := by
  constructor
  · rintro ⟨tip, hdecode, -⟩
    exact carriesTip_of_decode hdecode
  · rintro ⟨hdiscriminator, flag, hflag⟩
    have hsized := @sized_fieldsAt old flag hsize
    refine ⟨(fieldsAt old flag).tip, ?_, ?_⟩
    · have hold : tipDiscriminator ++ ((fieldsAt old flag).legacy ++ old.drop 118) = old := by
        rw [legacy_fieldsAt hflag, ← hdiscriminator, List.take_append_drop]
      have hdecode := decodeLegacyTip_legacy hsized (old.drop 118)
      rwa [hold] at hdecode
    · have hnew : migratedData old =
          tipDiscriminator ++ ((fieldsAt old flag).sealed ++ []) := by
        have hdisc : between old 0 8 = tipDiscriminator := hdiscriminator
        have hseal : List.replicate 80 (0 : Byte) =
            List.replicate 48 0 ++ List.replicate 32 0 := rfl
        simp only [migratedData, hdisc, hflag, hseal, TipFields.sealed, fieldsAt,
          List.append_assoc, List.append_nil]
      rw [hnew]
      exact decodeTip_sealed hsized []

theorem repair_eq_ok {derived : Derived} {call : GovernedCall} {tip next : RawAccount} :
    repairTipSealV1 derived call tip = .ok next →
      (between tip.data 48 96).all (· = 0) = true ∧
        (between tip.data 96 128).any (· ≠ 0) = true ∧ tip.data.length = tipSpace := by
  intro hrun
  simp only [repairTipSealV1, bind_eq_ok, require_eq_ok, pure_eq_ok] at hrun
  rcases hrun with ⟨_, -, _, -, _, hsize, _, hseal, _, hcommitment, -⟩
  exact ⟨hseal, hcommitment, hsize⟩

theorem seal_of_decode {data : List Byte} {tip : TcapOneTimeTip}
    (hdecode : decodeTip data = .ok tip) :
    tip.sealed = sealedOfBytes (between data 48 96) ∧
      tip.sealCommitment = wordOfBytes (between data 96 128) ∧ 128 ≤ data.length := by
  rcases decodeAccount_eq_ok.mp hdecode with ⟨-, _, hfields⟩
  simp only [takeTip, reader_bind_eq_ok, reader_pure_eq_ok] at hfields
  rcases hfields with ⟨_, _, hcommitment, _, _, hsequence, sealed, _, hsealed, commitment, _,
    hseal, hfields⟩
  rcases hfields with ⟨_, _, -, _, _, -, _, _, -, _, _, -, _, _, -, rfl, -⟩
  rcases takeWord_drop_eq_ok.mp hcommitment with ⟨-, -, rfl⟩
  rcases (takeNat_drop_eq_ok (by decide)).mp hsequence with ⟨-, -, rfl⟩
  rcases (map_take_drop_eq_ok (by decide)).mp hsealed with ⟨-, rfl, rfl⟩
  rcases takeWord_drop_eq_ok.mp hseal with ⟨hsize, rfl, -⟩
  exact ⟨rfl, rfl, hsize⟩

theorem eq_replicate_of_all {bytes : List Byte} {size : Nat} (hsize : bytes.length = size)
    (hall : bytes.all (· = 0) = true) : bytes = List.replicate size 0 := by
  rw [List.eq_replicate_iff]
  refine ⟨hsize, ?_⟩
  intro byte hbyte
  exact of_decide_eq_true (List.all_eq_true.mp hall byte hbyte)

/-- A tip whose seal and seal commitment are empty together is not repaired. -/
theorem repair_ne_ok {derived : Derived} {call : GovernedCall} {account next : RawAccount}
    {tip : TcapOneTimeTip} (hdecode : decodeTip account.data = .ok tip)
    (hpaired : tip.sealed = 0 → tip.sealCommitment = 0) :
    repairTipSealV1 derived call account ≠ .ok next := by
  intro hrun
  rcases repair_eq_ok hrun with ⟨hall, hany, hsize⟩
  rcases seal_of_decode hdecode with ⟨hsealed, hcommitment, hlong⟩
  have hzero : tip.sealed = 0 := by
    rw [hsealed, eq_replicate_of_all (length_between (by omega)) hall, sealedOfBytes_zero]
  have hempty : between account.data 96 128 = List.replicate 32 0 := by
    have hbytes := wordBytes_wordOfBytes (@length_between _ 96 _ hlong)
    rw [← hcommitment, hpaired hzero] at hbytes
    rw [← hbytes]
    decide +kernel
  rw [hempty] at hany
  exact absurd hany (by decide)

/-- Where the misplaced layout keeps what a repair moves. -/
theorem between_misplaced {data tail : List Byte} (hsized : fields.Sized)
    (hdata : data = tipDiscriminator ++ fields.misplaced tail) :
    between data 48 96 = List.replicate 48 0 ∧ between data 96 128 = fields.policy ∧
      between data 128 160 = fields.transition ∧ between data 160 164 = fields.token ∧
      between data 164 165 = [boolByte fields.flag] ∧ between data 165 166 = fields.bump := by
  have hstart : data.drop 0 = tipDiscriminator ++ fields.misplaced tail := hdata
  have hhead := (between_of_drop hstart rfl).2
  have hcommitment := (between_of_drop hhead hsized.commitment).2
  have hsequence := (between_of_drop hcommitment hsized.sequence).2
  have hseal := between_of_drop hsequence (List.length_replicate ..)
  have hpolicy := between_of_drop hseal.2 hsized.policy
  have htransition := between_of_drop hpolicy.2 hsized.transition
  have htoken := between_of_drop htransition.2 hsized.token
  have hflag := @between_of_drop _ [boolByte fields.flag] _ _ _ htoken.2 rfl
  have hbump := between_of_drop hflag.2 hsized.bump
  exact ⟨hseal.1, hpolicy.1, htransition.1, htoken.1, hflag.1, hbump.1⟩

theorem wordOfBytes_eq_zero {bytes : List Byte} (hsize : bytes.length = 32) :
    wordOfBytes bytes = 0 ↔ bytes.any (· ≠ 0) = false := by
  constructor
  · intro hzero
    have hbytes := wordBytes_wordOfBytes hsize
    rw [hzero] at hbytes
    rw [← hbytes]
    decide +kernel
  · intro hany
    have hall : bytes.all (· = 0) = true := by
      rw [List.all_eq_true]
      intro byte hbyte
      have hnot := List.any_eq_false.mp hany byte hbyte
      simpa using hnot
    rw [eq_replicate_of_all hsize hall, wordOfBytes_zero]

/-- What a repair does to a tip in the misplaced layout. -/
theorem repair_misplaced {derived : Derived} {call : GovernedCall} {account : RawAccount}
    {tail : List Byte} (hgoverned : loadGoverned derived call = .ok ())
    (howner : account.owner = tcapProgramId) (hsized : fields.Sized) (htail : tail.length = 32)
    (hdata : account.data = tipDiscriminator ++ fields.misplaced tail) :
    repairTipSealV1 derived call account =
      if fields.tip.policyCommitment = 0 then .error (.tcap .invalidPda)
      else .ok { account with data := tipDiscriminator ++ fields.sealed } := by
  rcases between_misplaced hsized hdata with ⟨hseal, hpolicy, htransition, htoken, hflag, hbump⟩
  have hsize : account.data.length = tipSpace := by
    rw [hdata]
    simp [TipFields.misplaced, hsized.commitment, hsized.sequence, hsized.policy,
      hsized.transition, hsized.token, hsized.bump, htail, tipSpace, tipDiscriminator]
  have hwritten : writeAt (writeAt (writeAt (writeAt (writeAt (writeAt account.data 48
      (List.replicate 80 0)) 128 fields.policy) 160 fields.transition) 192 fields.token) 196
      [boolByte fields.flag]) 197 fields.bump = tipDiscriminator ++ fields.sealed := by
    have hsplit : account.data = (tipDiscriminator ++ (fields.commitment ++ fields.sequence)) ++
        account.data.drop 48 := by
      conv_lhs => rw [hdata]
      have hstart : account.data.drop 0 = tipDiscriminator ++ fields.misplaced tail := hdata
      have hhead := (between_of_drop hstart rfl).2
      have hcommitment := (between_of_drop hhead hsized.commitment).2
      have hsequence := (between_of_drop hcommitment hsized.sequence).2
      have hdrop : account.data.drop 48 = _ := hsequence
      rw [hdrop, TipFields.misplaced]
      simp only [List.append_assoc]
    have hlength : (tipDiscriminator ++ (fields.commitment ++ fields.sequence)).length = 48 := by
      simp [hsized.commitment, hsized.sequence, tipDiscriminator]
    rw [hsplit, writeAt_next hlength (List.length_replicate ..),
      writes_eq (by rw [List.length_append, hlength, List.length_replicate])
        (by simp [hsize, tipSpace]) hsized.policy
        hsized.transition hsized.token rfl hsized.bump]
    have hzeros : List.replicate 80 (0 : Byte) =
        List.replicate 48 0 ++ List.replicate 32 0 := rfl
    simp only [TipFields.sealed, hzeros, List.append_assoc]
  have hany : (fields.policy.any (· ≠ 0) = true) ↔ fields.tip.policyCommitment ≠ 0 := by
    rw [TipFields.tip, ne_eq, wordOfBytes_eq_zero hsized.policy, Bool.not_eq_false]
  have hzero : (List.replicate 48 (0 : Byte)).all (· = 0) = true := by decide
  simp only [repairTipSealV1, hgoverned, hseal, hpolicy, htransition, htoken, hflag, hbump,
    hwritten, require, if_pos howner, if_pos hsize, if_pos hzero]
  by_cases hpolicyZero : fields.tip.policyCommitment = 0
  · rw [if_pos hpolicyZero, if_neg fun htrue => hany.mp htrue hpolicyZero]
    rfl
  · rw [if_neg hpolicyZero, if_pos (hany.mpr hpolicyZero)]
    rfl

end Layouts

section Runs

open Tcap.TipFinality
open Tcap.TipWrites

variable {runtime : Runtime} {start world : World}

/-- A tip has a seal exactly if it has a seal commitment. -/
def Paired (sealed : Sealed) (commitment : Bytes32) : Prop :=
  sealed = 0 ↔ commitment = 0

theorem ofSeals_paired : OfSeals Paired where
  empty := ⟨fun _ => rfl, fun _ => rfl⟩
  full := by
    rintro sealed commitment ⟨hsealed, hcommitment⟩
    exact ⟨fun hzero => absurd hzero hsealed, fun hzero => absurd hzero hcommitment⟩
  aligned := fun _ _ hpaired => hpaired.mp

/-- From a state without tips in the present layout, every run pairs seals with their
commitments. -/
theorem paired_of_run {history : List (World × Program.Step)}
    (hstart : ∀ key, tips start key = none)
    (hrun : Run (Program.step runtime) start history world) : SealsHold Paired world := by
  refine @Run.induct_on _ _ _ (Program.step runtime) start
    (fun _ world => SealsHold Paired world) history world hrun ?_ ?_
  · intro key tip htip
    rw [hstart key] at htip
    cases htip
  · intro history world input next _ hall hstep
    exact sealsHold_step ofSeals_paired hall hstep

/-- The two instructions on layouts. A migration keeps the fields of a tip exactly if it is
handed one; no reachable tip is repaired; and a repair restores a misplaced tip exactly if
it has a policy. -/
theorem sealLayouts (derived : Derived) (call : GovernedCall) (account : RawAccount) :
    (∀ next, migrateTipSealV1 derived call account = .ok next →
      (MigratesTip account.data next.data ↔ CarriesTip account.data)) ∧
    (∀ runtime start history world, (∀ key, tips start key = none) →
      Run (Program.step runtime) start history world →
        ∀ key tip, tips world key = some tip → (tip.sealed = 0 ↔ tip.sealCommitment = 0) ∧
          ∀ next, decodeTip account.data = .ok tip →
            repairTipSealV1 derived call account ≠ .ok next) ∧
    (∀ fields tail, loadGoverned derived call = .ok () →
      account.owner = tcapProgramId → TipFields.Sized fields → tail.length = 32 →
      account.data = tipDiscriminator ++ fields.misplaced tail →
        ((∃ next, repairTipSealV1 derived call account = .ok next ∧
            decodeTip next.data = .ok (withEmptySeal fields.tip)) ↔
          fields.tip.policyCommitment ≠ 0)) := by
  refine ⟨?_, ?_, ?_⟩
  · intro next hrun
    rcases migrate_eq_ok hrun with ⟨hsize, hdata⟩
    rw [hdata]
    exact migratesTip_iff hsize
  · intro runtime start history world hstart hrun key tip htip
    have hpaired : Paired tip.sealed tip.sealCommitment :=
      paired_of_run hstart hrun key tip htip
    exact ⟨hpaired, fun _ hdecode => repair_ne_ok hdecode hpaired.mp⟩
  · intro fields tail hgoverned howner hsized htail hdata
    rw [repair_misplaced hgoverned howner hsized htail hdata]
    split_ifs with hpolicy
    · constructor
      · rintro ⟨next, hnext, -⟩
        cases hnext
      · exact fun hne => absurd hpolicy hne
    · have hdecode := decodeTip_sealed hsized []
      rw [List.append_nil] at hdecode
      exact ⟨fun _ => hpolicy, fun _ => ⟨_, rfl, hdecode⟩⟩

end Runs

section Sample

/-- The call of the governance that the sample configuration names. -/
def governedCall : GovernedCall :=
  ⟨[governor], governor, 11, sampleAccount (encodeConfig (sampleConfig false))⟩

/-- The account of the commitment root: 124 bytes. -/
def rootAccount : RawAccount :=
  ⟨tcapProgramId, 1000, [114, 108, 164, 25, 122, 193, 125, 232] ++ leBytes 2 1 ++ leBytes 2 1 ++
    wordBytes 7 ++ wordBytes 7 ++ leBytes 4 1 ++ leBytes 8 0 ++ [0] ++ wordBytes 0 ++
      [0, 0, 255]⟩

def sampleFields : TipFields where
  commitment := wordBytes 5
  sequence := leBytes 8 3
  policy := wordBytes 8
  transition := wordBytes 9
  token := leBytes 4 1
  flag := false
  bump := [255]

/-- The commitment root of the protocol passes for a tip and is overwritten. -/
theorem not_migratesTip_root :
    ¬ ∀ derived call account next, migrateTipSealV1 derived call account = .ok next →
      MigratesTip account.data next.data := by
  intro hclaim
  have hok : (migrateTipSealV1 sampleDerived governedCall rootAccount).isOk = true := by
    decide +kernel
  cases hrun : migrateTipSealV1 sampleDerived governedCall rootAccount with
  | error problem =>
      rw [hrun] at hok
      cases hok
  | ok next =>
      rcases hclaim _ _ _ _ hrun with ⟨tip, hdecode, -⟩
      exact absurd (carriesTip_of_decode hdecode).1 (by decide)

def legacyAccount : RawAccount :=
  ⟨tcapProgramId, 1000, tipDiscriminator ++ sampleFields.legacy⟩

def misplacedAccount : RawAccount :=
  ⟨tcapProgramId, 1000, tipDiscriminator ++ sampleFields.misplaced (List.replicate 32 0)⟩

theorem loadGoverned_sample : loadGoverned sampleDerived governedCall = .ok () := by
  have hdecode := decode_sample false
  simp only [loadGoverned, governedCall, hdecode, bind_eq_ok]
  exact ⟨(), by decide, (), rfl, _, rfl, (), by decide, rfl⟩

open Tcap.Program TsnProtocol.Tcap.Persistence TsnProtocol.Tcap.TipWrites in
open Tcap.Solvency (depositor usdMint usdWallet usdWorld preLaunch_usdWorld) in
/-- A legacy tip is migrated, a tip that was opened and credited is not repaired, and a
misplaced tip is. -/
theorem sealLayouts_sample :
    (∃ next, migrateTipSealV1 sampleDerived governedCall legacyAccount = .ok next ∧
      MigratesTip legacyAccount.data next.data) ∧
    (∃ history world tip, Run (step localRuntime) usdWorld history world ∧
      tips world TipSeal.sampleTip = some tip ∧ tip.sealed ≠ 0 ∧
      (tip.sealed = 0 ↔ tip.sealCommitment = 0)) ∧
    ∃ next, repairTipSealV1 sampleDerived governedCall misplacedAccount = .ok next ∧
      decodeTip next.data = .ok (withEmptySeal sampleFields.tip) := by
  have hsized : sampleFields.Sized := by
    constructor <;> simp [sampleFields]
  refine ⟨?_, ?_, ?_⟩
  · have hok : (migrateTipSealV1 sampleDerived governedCall legacyAccount).isOk = true := by
      decide +kernel
    rcases exists_ok_of_isOk hok with ⟨next, hrun⟩
    refine ⟨next, hrun, ((sealLayouts _ _ _).1 _ hrun).mpr ⟨rfl, false, ?_⟩⟩
    decide +kernel
  · have hreaches : reaches (step localRuntime) usdWorld
        (creditStep usdMint depositor 5 1 100 :: (openTipSteps usdMint depositor 5 1 ++
          depositStep usdMint depositor usdWallet 100 ::
          (listingSteps Solvency.governor usdMint ++ launchSteps Solvency.governor)))
        (fun _ world => (tips world TipSeal.sampleTip).any fun tip => tip.sealed ≠ 0) =
          true := by
      decide +kernel
    rcases exists_run_of_reaches hreaches with ⟨history, world, hrun, hholds⟩
    rcases (Option.any_eq_true _ _).mp hholds with ⟨tip, htip, hsealed⟩
    have hstart : ∀ key, tips usdWorld key = none := by
      intro key
      refine Option.eq_none_iff_forall_not_mem.mpr fun tip htip => ?_
      exact (preLaunch_usdWorld key _ (records_eq_some.mp htip)).elim
    exact ⟨history, world, tip, hrun, htip, of_decide_eq_true hsealed,
      ((sealLayouts sampleDerived governedCall misplacedAccount).2.1 _ _ _ _ hstart hrun _ _
        htip).1⟩
  · refine ((sealLayouts _ _ _).2.2 _ _ loadGoverned_sample rfl hsized
      (List.length_replicate ..) rfl).mpr ?_
    decide +kernel

end Sample

end TsnProtocol.Tcap.TipSealLayout
