import TsnProtocol.Gpru.Verifier
import TsnProtocol.Lib.ByteReader
import TsnProtocol.Tcap.Frames
import TsnProtocol.Tcap.Solvency

/-!
Sealed balances of one-time tips. An owner encrypts the balance under a nonce derived from
the commitment the tip stores at that moment; the instructions that store the seal decide
whether the commitment changes.
-/

namespace TsnProtocol.Tcap.TipSeal

open Gpru.Verifier (asciiBytes)
open Lib.ByteReader
open Lib.Checked
open Lib.FiniteStore
open Lib.Transition
open Solana.Address
open Tcap.State
open Tcap.Execution
open Tcap.Tips
open Tcap.Program
open Tcap.Effects
open Tcap.Frames

section Sdk

/-- What the SDK takes from its platform: SHA-256, AES-GCM, and addresses as bytes. -/
structure Crypto where
  sha256 : List Byte → Bytes32
  addressBytes : Pubkey → Bytes32
  encrypt : (key nonce plaintext : List Byte) → List Byte
  decrypt : (key nonce ciphertext : List Byte) → Option (List Byte)

/-- Decryption undoes encryption, which adds a tag of sixteen bytes. -/
structure Crypto.Authenticated (crypto : Crypto) : Prop where
  decrypt_encrypt : ∀ key nonce plaintext,
    crypto.decrypt key nonce (crypto.encrypt key nonce plaintext) = some plaintext
  length_encrypt : ∀ key nonce plaintext,
    (crypto.encrypt key nonce plaintext).length = plaintext.length + 16

inductive SealError where
  | availableOutOfRange | tokenIdOutOfRange | unexpectedOutputLength
  | invalidPlaintextLength | operationFailed
  deriving DecidableEq

/-- A seal as the bytes the account stores. -/
def sealedBytes (sealed : Sealed) : List Byte :=
  (leBytes 48 sealed.toNat).reverse

def sealedOfBytes (bytes : List Byte) : Sealed :=
  BitVec.ofNat 384 (leValue bytes.reverse)

variable (crypto : Crypto)

def deriveTipViewKey (masterSeed : List Byte) : List Byte :=
  wordBytes (crypto.sha256 (asciiBytes "TCAP_VIEW_V1" ++ masterSeed))

def deriveTipSealNonce (tipPda : Pubkey) (previousCommitment : Bytes32) : List Byte :=
  (wordBytes (crypto.sha256 (asciiBytes "TCAP_SEAL_V1" ++
    wordBytes (crypto.addressBytes tipPda) ++ wordBytes previousCommitment))).take 12

def encodeTipPlaintext (available tokenId : Nat) : Except SealError (List Byte) := do
  require (available < 2 ^ 64) .availableOutOfRange
  require (tokenId < 2 ^ 32) .tokenIdOutOfRange
  return leBytes 8 available ++ leBytes 4 tokenId ++ List.replicate 20 0

def decodeTipPlaintext (plain : List Byte) : Except SealError (Nat × Nat) := do
  require (plain.length = 32) .invalidPlaintextLength
  return (leValue (plain.take 8), leValue ((plain.drop 8).take 4))

/-- What an owner seals: the balance of a tip, under the owner's master seed. -/
structure OwnerSeal where
  masterSeed : List Byte
  (available tokenId : Nat)
  deriving DecidableEq

def OwnerSeal.balance (contents : OwnerSeal) : Nat × Nat :=
  (contents.available, contents.tokenId)

def sealTipBalance (tipPda : Pubkey) (previousCommitment : Bytes32) (contents : OwnerSeal) :
    Except SealError Sealed := do
  let plaintext ← encodeTipPlaintext contents.available contents.tokenId
  let nonce := deriveTipSealNonce crypto tipPda previousCommitment
  let encrypted := crypto.encrypt (deriveTipViewKey crypto contents.masterSeed) nonce plaintext
  require (encrypted.length = 48) .unexpectedOutputLength
  return sealedOfBytes encrypted

def openTipBalance (masterSeed : List Byte) (tipPda : Pubkey)
    (previousCommitment : Bytes32) (sealed : Sealed) : Except SealError (Nat × Nat) := do
  let nonce := deriveTipSealNonce crypto tipPda previousCommitment
  let plain ← okOr (crypto.decrypt (deriveTipViewKey crypto masterSeed) nonce
    (sealedBytes sealed)) .operationFailed
  decodeTipPlaintext plain

theorem sealedBytes_sealedOfBytes {bytes : List Byte} (hlength : bytes.length = 48) :
    sealedBytes (sealedOfBytes bytes) = bytes := by
  have hlt := leValue_lt bytes.reverse
  rw [List.length_reverse, hlength] at hlt
  have hpow : (256 : Nat) ^ 48 = 2 ^ 384 := (pow_mul 2 8 48).symm
  have hvalue : (sealedOfBytes bytes).toNat = leValue bytes.reverse := by
    rw [sealedOfBytes, BitVec.toNat_ofNat, ← hpow, Nat.mod_eq_of_lt hlt]
  have hbytes := leBytes_leValue bytes.reverse
  rw [List.length_reverse, hlength] at hbytes
  rw [sealedBytes, hvalue, hbytes, List.reverse_reverse]

theorem decodeTipPlaintext_encodeTipPlaintext {available tokenId : Nat} {plain : List Byte}
    (hencode : encodeTipPlaintext available tokenId = .ok plain) :
    decodeTipPlaintext plain = .ok (available, tokenId) := by
  simp only [encodeTipPlaintext, bind_eq_ok, require_eq_ok, pure_eq_ok] at hencode
  obtain ⟨_, havailable, _, htoken, rfl⟩ := hencode
  have hplain : (leBytes 8 available ++ leBytes 4 tokenId ++
      List.replicate 20 (0 : Byte)).length = 32 := by
    simp
  have htake : (leBytes 8 available ++ leBytes 4 tokenId ++
      List.replicate 20 (0 : Byte)).take 8 = leBytes 8 available := by
    rw [List.append_assoc, List.take_left' (length_leBytes 8 available)]
  have hdrop : ((leBytes 8 available ++ leBytes 4 tokenId ++
      List.replicate 20 (0 : Byte)).drop 8).take 4 = leBytes 4 tokenId := by
    rw [List.append_assoc, List.drop_left' (length_leBytes 8 available),
      List.take_left' (length_leBytes 4 tokenId)]
  simp only [decodeTipPlaintext, bind_eq_ok, require_eq_ok, pure_eq_ok]
  refine ⟨(), hplain, ?_⟩
  rw [htake, hdrop, leValue_leBytes, leValue_leBytes,
    Nat.mod_eq_of_lt (lt_of_lt_of_eq havailable (by norm_num)),
    Nat.mod_eq_of_lt (lt_of_lt_of_eq htoken (by norm_num))]

/-- What was sealed is what the seal opens to. -/
theorem openTipBalance_sealTipBalance {crypto : Crypto} (hcrypto : crypto.Authenticated)
    {tipPda : Pubkey} {previousCommitment : Bytes32} {contents : OwnerSeal} {sealed : Sealed}
    (hseal : sealTipBalance crypto tipPda previousCommitment contents = .ok sealed) :
    openTipBalance crypto contents.masterSeed tipPda previousCommitment sealed =
      .ok contents.balance := by
  simp only [sealTipBalance, bind_eq_ok, require_eq_ok, pure_eq_ok] at hseal
  obtain ⟨plain, hplain, _, hlength, rfl⟩ := hseal
  simp only [openTipBalance, bind_eq_ok, okOr_eq_ok, sealedBytes_sealedOfBytes hlength]
  exact ⟨plain, hcrypto.decrypt_encrypt _ _ _, decodeTipPlaintext_encodeTipPlaintext hplain⟩

end Sdk

section Runs

/-- What a step does to the seal of a tip: the seal it stores, and the commitment it stores
with it where it stores one. -/
def sealing (tip : Pubkey) : Step → Option (Sealed × Option Bytes32)
  | .tcap _ (.creditOneTimeTip accounts args)
  | .tcap _ (.creditOneTimeTipTransfer accounts args) =>
      if accounts.currentTip = tip then some (args.sealed, some args.newCommitment) else none
  | .tcap _ (.debitTcapExitV1 accounts args) =>
      if accounts.currentTip = tip then some (args.sealed, none) else none
  | _ => none

/-- The three instructions that store seals, on any tip, and steps that write no one-time
tip. -/
def KeepsToSeals : Step → Prop
  | .tcap _ (.creditOneTimeTip _ _) | .tcap _ (.creditOneTimeTipTransfer _ _)
  | .tcap _ (.debitTcapExitV1 _ _) => True
  | .tcap _ instruction => .oneTimeTip ∉ writes instruction
  | .external _ _ => True

/-- A step of the chain with what the owner seals in it, should it store a seal. -/
abbrev SealStep := Step × OwnerSeal

def sealStep (runtime : Runtime) (world : World) (input : SealStep) : Result World :=
  step runtime world input.1

variable {runtime : Runtime} {call : Call} {world next : World} {tip key : Pubkey}

theorem tip_ne_of_lookup {other : Pubkey} {stored : TcapOneTimeTip} {account : Account}
    (htip : world.lookup tip = some (.oneTimeTip stored))
    (hother : world.lookup other = some account) (hkind : kind account ≠ .oneTimeTip) :
    tip ≠ other := by
  rintro rfl
  rw [htip] at hother
  obtain rfl := Option.some.inj hother
  exact hkind rfl

/-- A tip is stored with a commitment and a seal. -/
def Stores (tip : Pubkey) (commitment : Bytes32) (sealed : Sealed) (world : World) : Prop :=
  ∃ stored, world.lookup tip = some (.oneTimeTip stored) ∧
    stored.commitment = commitment ∧ stored.sealed = sealed

theorem stores_creditOneTimeTip {accounts : CreditOneTimeTip} {args : CreditOneTimeTipArgs}
    (hstep : creditOneTimeTip runtime call accounts args world = .ok next) :
    Stores accounts.currentTip args.newCommitment args.sealed next := by
  obtain ⟨_, _, _, _, _, _, _, htip, _, hreserve, hliability, _⟩ := creditOneTimeTip_eq_ok hstep
  have hneReserve := tip_ne_of_lookup htip hreserve nofun
  have hneLiability := tip_ne_of_lookup htip hliability nofun
  revert hstep
  suffices Ensures (Stores accounts.currentTip args.newCommitment args.sealed)
      (creditOneTimeTip runtime call accounts args world) from this next
  unfold creditOneTimeTip
  repeat' refine ensures_bind fun _ _ => ?_
  apply ensures_pure
  refine ⟨?stored, ?lookup, ?fields⟩
  case lookup =>
    rw [lookup_insert_eq, if_neg hneLiability, lookup_insert_eq, if_neg hneReserve,
      lookup_insert_eq, if_pos rfl]
  case fields => exact ⟨rfl, rfl⟩

theorem stores_creditOneTimeTipTransfer {accounts : CreditOneTimeTip}
    {args : CreditOneTimeTipArgs}
    (hstep : creditOneTimeTipTransfer runtime call accounts args world = .ok next) :
    Stores accounts.currentTip args.newCommitment args.sealed next := by
  revert hstep
  suffices Ensures (Stores accounts.currentTip args.newCommitment args.sealed)
      (creditOneTimeTipTransfer runtime call accounts args world) from this next
  unfold creditOneTimeTipTransfer
  repeat' refine ensures_bind fun _ _ => ?_
  apply ensures_pure
  refine ⟨?stored, ?lookup, ?fields⟩
  case lookup => rw [lookup_insert_eq, if_pos rfl]
  case fields => exact ⟨rfl, rfl⟩

/-- A debit stores its seal under the commitment that is already there. -/
theorem stores_debitTcapExitV1 {accounts : DebitTcapExitV1} {args : DebitTcapExitArgsV1}
    {before : TcapOneTimeTip}
    (hbefore : world.lookup accounts.currentTip = some (.oneTimeTip before))
    (hstep : debitTcapExitV1 runtime call accounts args world = .ok next) :
    Stores accounts.currentTip before.commitment args.sealed next := by
  obtain ⟨_, _, _, _, _, htip, hreserve, hliability, _⟩ := debitTcapExitV1_eq_ok hstep
  have hneReserve := tip_ne_of_lookup htip hreserve nofun
  have hneLiability := tip_ne_of_lookup htip hliability nofun
  revert hstep
  suffices Ensures (Stores accounts.currentTip before.commitment args.sealed)
      (debitTcapExitV1 runtime call accounts args world) from this next
  unfold debitTcapExitV1
  refine ensures_bind fun _ _ => ensures_bind fun _ _ => ensures_bind fun found hfound => ?_
  have hfound : before = found := by
    simpa [load_eq_ok, hbefore] using hfound
  subst hfound
  repeat' refine ensures_bind fun _ _ => ?_
  apply ensures_pure
  refine ⟨?stored, ?lookup, ?fields⟩
  case lookup =>
    rw [lookup_insert_eq, if_neg hneReserve, lookup_insert_eq, if_neg hneLiability,
      lookup_insert_eq, if_pos rfl]
  case fields => exact ⟨rfl, rfl⟩

/-- The commitment a tip has after a step, given the one it had before. -/
def commitmentAfter (tip : Pubkey) (commitment : Bytes32) (step : Step) : Bytes32 :=
  match sealing tip step with
  | some (_, some newCommitment) => newCommitment
  | _ => commitment

/-- A step that stores a seal finds the tip and leaves it with that seal. -/
theorem stores_of_sealing {step : Step} {sealed : Sealed} {change : Option Bytes32}
    (hsealing : sealing tip step = some (sealed, change))
    (hstep : Program.step runtime world step = .ok next) :
    ∃ before, world.lookup tip = some (.oneTimeTip before) ∧
      Stores tip (commitmentAfter tip before.commitment step) sealed next := by
  simp only [commitmentAfter, hsealing]
  cases step with
  | external call action => cases hsealing
  | tcap call instruction =>
      obtain ⟨_, hexecute⟩ := step_tcap_eq_ok.mp hstep
      cases instruction with
      | creditOneTimeTip accounts args =>
          simp only [sealing] at hsealing
          split_ifs at hsealing with htip
          cases hsealing
          subst htip
          obtain ⟨_, before, _, _, _, _, _, hbefore, _⟩ := creditOneTimeTip_eq_ok hexecute
          exact ⟨before, hbefore, stores_creditOneTimeTip hexecute⟩
      | creditOneTimeTipTransfer accounts args =>
          simp only [sealing] at hsealing
          split_ifs at hsealing with htip
          cases hsealing
          subst htip
          obtain ⟨_, before, _, _, _, _, _, hbefore, _⟩ :=
            creditOneTimeTipTransfer_eq_ok hexecute
          exact ⟨before, hbefore, stores_creditOneTimeTipTransfer hexecute⟩
      | debitTcapExitV1 accounts args =>
          simp only [sealing] at hsealing
          split_ifs at hsealing with htip
          cases hsealing
          subst htip
          obtain ⟨before, _, _, _, _, hbefore, _⟩ := debitTcapExitV1_eq_ok hexecute
          exact ⟨before, hbefore, stores_debitTcapExitV1 hbefore hexecute⟩
      | _ => cases hsealing

/-- A step that stores no seal in a tip does not write it. -/
theorem lookup_of_sealing_eq_none {step : Step} (hkeeps : KeepsToSeals step)
    (hsealing : sealing tip step = none) (hstep : Program.step runtime world step = .ok next)
    {stored : TcapOneTimeTip} (hstored : next.lookup tip = some (.oneTimeTip stored)) :
    world.lookup tip = some (.oneTimeTip stored) := by
  cases step with
  | external call action =>
      obtain ⟨_, hexecute⟩ := step_external_eq_ok.mp hstep
      exact ((writesOnly_executeExternal call action world next hexecute).stored tip _
        hstored).resolve_right (by simp [kind])
  | tcap call instruction =>
      obtain ⟨_, hexecute⟩ := step_tcap_eq_ok.mp hstep
      cases instruction with
      | creditOneTimeTip accounts args =>
          obtain ⟨_, _, _, _, _, _, _, _, _, _, _, _, _, _, _, rfl⟩ :=
            creditOneTimeTip_eq_ok hexecute
          have hother : tip ≠ accounts.currentTip := by
            rintro rfl
            simp [sealing] at hsealing
          simp only [lookup_insert_eq, if_neg hother] at hstored
          split_ifs at hstored <;> first | exact hstored | cases hstored
      | creditOneTimeTipTransfer accounts args =>
          obtain ⟨_, _, _, _, _, _, _, _, _, _, _, _, _, _, _, rfl⟩ :=
            creditOneTimeTipTransfer_eq_ok hexecute
          have hother : tip ≠ accounts.currentTip := by
            rintro rfl
            simp [sealing] at hsealing
          simp only [lookup_insert_eq, if_neg hother] at hstored
          split_ifs at hstored <;> first | exact hstored | cases hstored
      | debitTcapExitV1 accounts args =>
          obtain ⟨_, _, _, _, _, _, _, _, _, _, _, _, _, _, _, _, rfl⟩ :=
            debitTcapExitV1_eq_ok hexecute
          have hother : tip ≠ accounts.currentTip := by
            rintro rfl
            simp [sealing] at hsealing
          simp only [lookup_insert_eq, if_neg hother] at hstored
          split_ifs at hstored <;> first | exact hstored | cases hstored
      | _ =>
          exact ((writesOnly_execute runtime call _ world next hexecute).stored tip _
            hstored).resolve_right hkeeps

/-- A tip that is stored after a step was stored before it, and has the commitment the step
leaves it with. -/
theorem commitment_step {step : Step} (hkeeps : KeepsToSeals step)
    (hstep : Program.step runtime world step = .ok next) {stored : TcapOneTimeTip}
    (hstored : next.lookup tip = some (.oneTimeTip stored)) :
    ∃ before, world.lookup tip = some (.oneTimeTip before) ∧
      stored.commitment = commitmentAfter tip before.commitment step := by
  cases hsealing : sealing tip step with
  | none =>
      refine ⟨stored, lookup_of_sealing_eq_none hkeeps hsealing hstep hstored, ?_⟩
      simp only [commitmentAfter, hsealing]
  | some change =>
      obtain ⟨before, hbefore, after, hafter, hcommitment, _⟩ :=
        stores_of_sealing hsealing hstep
      rw [hafter] at hstored
      cases hstored
      exact ⟨before, hbefore, hcommitment⟩

end Runs

section Log

/-- One seal of a tip: the commitment the tip stored when it was made, what the owner put in
it, and its bytes. -/
structure SealRecord where
  previousCommitment : Bytes32
  contents : OwnerSeal
  sealed : Sealed
  deriving DecidableEq

/-- The seals a run stored in a tip, latest first. -/
def seals (tip : Pubkey) : List (World × SealStep) → List SealRecord
  | [] => []
  | (world, input) :: earlier =>
      match world.lookup tip, sealing tip input.1 with
      | some (.oneTimeTip stored), some (sealed, _) =>
          ⟨stored.commitment, input.2, sealed⟩ :: seals tip earlier
      | _, _ => seals tip earlier

/-- The commitment in force after a list of steps: the one the last credit brought, or the
first one. -/
def inForce (tip : Pubkey) (first : Bytes32) : List SealStep → Bytes32
  | [] => first
  | input :: earlier => commitmentAfter tip (inForce tip first earlier) input.1

/-- What a list of steps seals, each with the commitment in force before it. -/
def plannedSeals (tip : Pubkey) (first : Bytes32) : List SealStep → List (Bytes32 × OwnerSeal)
  | [] => []
  | input :: earlier =>
      if (sealing tip input.1).isSome then
        (inForce tip first earlier, input.2) :: plannedSeals tip first earlier
      else plannedSeals tip first earlier

variable (crypto : Crypto) (tip : Pubkey)

/-- The owner made every seal under the commitment stored at that moment. -/
def OwnerProduced (history : List (World × SealStep)) : Prop :=
  ∀ made ∈ seals tip history,
    sealTipBalance crypto tip made.previousCommitment made.contents = .ok made.sealed

/-- The nonce separates the commitments under which the run sealed. -/
def SeparatesCommitments (history : List (World × SealStep)) : Prop :=
  ∀ made ∈ seals tip history, ∀ other ∈ seals tip history,
    deriveTipSealNonce crypto tip made.previousCommitment =
      deriveTipSealNonce crypto tip other.previousCommitment →
    made.previousCommitment = other.previousCommitment

/-- No nonce is used for two balances under one view key. -/
def NonceUnique (history : List (World × SealStep)) : Prop :=
  ∀ made ∈ seals tip history, ∀ other ∈ seals tip history,
    deriveTipViewKey crypto made.contents.masterSeed =
      deriveTipViewKey crypto other.contents.masterSeed →
    made.contents.balance ≠ other.contents.balance →
    deriveTipSealNonce crypto tip made.previousCommitment ≠
      deriveTipSealNonce crypto tip other.previousCommitment

/-- Every seal made opens to what was put in it, and the stored seal is the latest one. -/
structure SealsOpen (history : List (World × SealStep)) (world : World) : Prop where
  made : ∀ made ∈ seals tip history,
    openTipBalance crypto made.contents.masterSeed tip made.previousCommitment made.sealed =
      .ok made.contents.balance
  stored : ∀ latest ∈ (seals tip history).head?, ∀ stored,
    world.lookup tip = some (.oneTimeTip stored) →
    openTipBalance crypto latest.contents.masterSeed tip latest.previousCommitment
      stored.sealed = .ok latest.contents.balance

/-- Steps that seal different balances under one view key find different commitments in
force. -/
def FreshlyCommitted (first : Bytes32) (inputs : List SealStep) : Prop :=
  ∀ made ∈ plannedSeals tip first inputs, ∀ other ∈ plannedSeals tip first inputs,
    deriveTipViewKey crypto made.2.masterSeed = deriveTipViewKey crypto other.2.masterSeed →
    made.2.balance ≠ other.2.balance → made.1 ≠ other.1

variable {crypto tip} {runtime : Runtime} {start world next : World} {first : Bytes32}
  {history : List (World × SealStep)} {input : SealStep}

/-- What the instructions' arguments say about the seals of a tip is what the accounts
held. -/
structure SealBooks (tip : Pubkey) (first : Bytes32) (history : List (World × SealStep))
    (world : World) : Prop where
  commitment : ∀ stored, world.lookup tip = some (.oneTimeTip stored) →
    stored.commitment = inForce tip first (history.map Prod.snd)
  planned : (seals tip history).map (fun made => (made.previousCommitment, made.contents)) =
    plannedSeals tip first (history.map Prod.snd)
  latest : ∀ latest ∈ (seals tip history).head?, ∀ stored,
    world.lookup tip = some (.oneTimeTip stored) → stored.sealed = latest.sealed

theorem sealBooks_step (hkeeps : KeepsToSeals input.1) (hbooks : SealBooks tip first history world)
    (hstep : sealStep runtime world input = .ok next) :
    SealBooks tip first ((world, input) :: history) next := by
  have hcommitment : ∀ stored, next.lookup tip = some (.oneTimeTip stored) →
      stored.commitment = inForce tip first (((world, input) :: history).map Prod.snd) := by
    intro stored hstored
    obtain ⟨before, hbefore, hafter⟩ := commitment_step hkeeps hstep hstored
    rw [hafter, hbooks.commitment before hbefore]
    rfl
  cases hsealing : sealing tip input.1 with
  | none =>
      have hseals : seals tip ((world, input) :: history) = seals tip history := by
        rw [seals, hsealing]
        cases world.lookup tip with
        | none => rfl
        | some account => cases account <;> rfl
      refine ⟨hcommitment, ?_, ?_⟩
      · rw [hseals, hbooks.planned]
        simp [plannedSeals, hsealing]
      · intro latest hlatest stored hstored
        rw [hseals] at hlatest
        exact hbooks.latest latest hlatest stored
          (lookup_of_sealing_eq_none hkeeps hsealing hstep hstored)
  | some change =>
      obtain ⟨before, hbefore, after, hafter, _, hsealed⟩ := stores_of_sealing hsealing hstep
      have hseals : seals tip ((world, input) :: history) =
          ⟨before.commitment, input.2, change.1⟩ :: seals tip history := by
        simp only [seals, hbefore, hsealing]
      refine ⟨hcommitment, ?_, ?_⟩
      · rw [hseals, List.map_cons, hbooks.planned, hbooks.commitment before hbefore]
        simp [plannedSeals, hsealing]
      · intro latest hlatest stored hstored
        rw [hseals] at hlatest
        cases hlatest
        rw [hafter] at hstored
        cases hstored
        exact hsealed

theorem sealBooks_of_run (hrun : Run (sealStep runtime) start history world)
    (hkeeps : ∀ entry ∈ history, KeepsToSeals entry.2.1) {opened : TcapOneTimeTip}
    (hopened : start.lookup tip = some (.oneTimeTip opened)) :
    SealBooks tip opened.commitment history world := by
  refine @Run.induct_of_forall _ _ _ (sealStep runtime) start
    (fun _ input => KeepsToSeals input.1) (SealBooks tip opened.commitment) history world hrun
    hkeeps ?_ ?_
  · refine ⟨?_, rfl, nofun⟩
    intro stored hstored
    rw [hopened] at hstored
    cases hstored
    rfl
  · intro history world input next hkeep hbooks hstep
    exact sealBooks_step hkeep hbooks hstep

theorem mem_plannedSeals (hbooks : SealBooks tip first history world)
    {planned : Bytes32 × OwnerSeal} :
    planned ∈ plannedSeals tip first (history.map Prod.snd) ↔
      ∃ made ∈ seals tip history, (made.previousCommitment, made.contents) = planned := by
  rw [← hbooks.planned, List.mem_map]

theorem nonceUnique_iff_freshlyCommitted (hbooks : SealBooks tip first history world)
    (hnonce : SeparatesCommitments crypto tip history) :
    NonceUnique crypto tip history ↔
      FreshlyCommitted crypto tip first (history.map Prod.snd) := by
  constructor
  · intro hunique planned hplanned other hother hkey hbalance hsame
    obtain ⟨made, hmade, rfl⟩ := (mem_plannedSeals hbooks).mp hplanned
    obtain ⟨made', hmade', rfl⟩ := (mem_plannedSeals hbooks).mp hother
    exact hunique made hmade made' hmade' hkey hbalance
      (congrArg (deriveTipSealNonce crypto tip) hsame)
  · intro hfresh made hmade other hother hkey hbalance hsame
    exact hfresh _ ((mem_plannedSeals hbooks).mpr ⟨made, hmade, rfl⟩) _
      ((mem_plannedSeals hbooks).mpr ⟨other, hother, rfl⟩) hkey hbalance
      (hnonce made hmade other hother hsame)

theorem sealsOpen_of_ownerProduced (hcrypto : crypto.Authenticated)
    (hbooks : SealBooks tip first history world)
    (howner : OwnerProduced crypto tip history) : SealsOpen crypto tip history world := by
  have hmade : ∀ made ∈ seals tip history,
      openTipBalance crypto made.contents.masterSeed tip made.previousCommitment made.sealed =
        .ok made.contents.balance :=
    fun made hmade => openTipBalance_sealTipBalance hcrypto (howner made hmade)
  refine ⟨hmade, ?_⟩
  intro latest hlatest stored hstored
  rw [hbooks.latest latest hlatest stored hstored]
  exact hmade latest (List.mem_of_mem_head? hlatest)

/-- A debit leaves the commitment as it was, so the next seal finds the one the debit was
sealed under. -/
theorem not_freshlyCommitted_of_debit {debit later : SealStep} {inputs : List SealStep}
    {sealed sealed' : Sealed} {change : Option Bytes32}
    (hdebit : sealing tip debit.1 = some (sealed, none))
    (hlater : sealing tip later.1 = some (sealed', change))
    (hkey : deriveTipViewKey crypto debit.2.masterSeed =
      deriveTipViewKey crypto later.2.masterSeed)
    (hbalance : debit.2.balance ≠ later.2.balance) :
    ¬ FreshlyCommitted crypto tip first (later :: debit :: inputs) := by
  intro hfresh
  have hforce : inForce tip first (debit :: inputs) = inForce tip first inputs := by
    simp [inForce, commitmentAfter, hdebit]
  refine hfresh (inForce tip first inputs, debit.2) ?_ (inForce tip first inputs, later.2) ?_
    hkey hbalance rfl
  · simp [plannedSeals, hdebit, hlater]
  · simp [plannedSeals, hlater, hforce]

/-- The seals of a run open to the balances sealed, under nonces that are not used again,
exactly when steps that seal different balances find different commitments in force. -/
theorem sealedBalances_iff {opened : TcapOneTimeTip} (hcrypto : crypto.Authenticated)
    (hrun : Run (sealStep runtime) start history world)
    (hkeeps : ∀ entry ∈ history, KeepsToSeals entry.2.1)
    (hopened : start.lookup tip = some (.oneTimeTip opened))
    (howner : OwnerProduced crypto tip history)
    (hnonce : SeparatesCommitments crypto tip history) :
    NonceUnique crypto tip history ∧ SealsOpen crypto tip history world ↔
      FreshlyCommitted crypto tip opened.commitment (history.map Prod.snd) := by
  have hbooks := sealBooks_of_run hrun hkeeps hopened
  rw [nonceUnique_iff_freshlyCommitted hbooks hnonce]
  exact and_iff_left (sealsOpen_of_ownerProduced hcrypto hbooks howner)

end Log

section Sample

open Tcap.Solvency (governor depositor usdMint usdWallet usdWorld)

/-- A hash that mixes every byte into all positions of the digest. -/
def sampleDigest (bytes : List Byte) : Bytes32 :=
  BitVec.ofNat 256 (bytes.foldl (fun digest byte =>
    (digest + byte.toNat + 1) * 0x9e3779b97f4a7c15f39cc0605cedc8341082276bf3a27251f86c6a11d0c18e95)
    1)

/-- A cipher that appends a tag of sixteen bytes computed from key and nonce. -/
def sampleCrypto : Crypto where
  sha256 := sampleDigest
  addressBytes key := BitVec.ofNat 256 (Pubkey.code key)
  encrypt key nonce plaintext :=
    plaintext ++ (wordBytes (sampleDigest (key ++ nonce))).take 16
  decrypt key nonce ciphertext :=
    let plaintext := ciphertext.take (ciphertext.length - 16)
    if ciphertext = plaintext ++ (wordBytes (sampleDigest (key ++ nonce))).take 16 then
      some plaintext
    else none

theorem authenticated_sampleCrypto : sampleCrypto.Authenticated := by
  have htag : ∀ word : Bytes32, ((wordBytes word).take 16).length = 16 := by
    intro word
    simp
  constructor
  · intro key nonce plaintext
    have htake : (plaintext ++ (wordBytes (sampleDigest (key ++ nonce))).take 16).take
        ((plaintext ++ (wordBytes (sampleDigest (key ++ nonce))).take 16).length - 16) =
          plaintext := by
      rw [List.length_append, htag, Nat.add_sub_cancel, List.take_left]
    simp only [sampleCrypto, htake, if_true]
  · intro key nonce plaintext
    simp only [sampleCrypto, List.length_append, htag]

def sampleTip : Pubkey := oneTimeTipAddress 5

def holding (available : Nat) : OwnerSeal := ⟨[1, 2, 3], available, 1⟩

/-- The seal the owner makes of a balance under a commitment. -/
def ownerSeal (commitment : Bytes32) (available : Nat) : Sealed :=
  match sealTipBalance sampleCrypto sampleTip commitment (holding available) with
  | .ok sealed => sealed
  | .error _ => 0

/-- A tip has been opened with the commitment 5, and 100 have been deposited. -/
def openedWorld : World :=
  match replay (step localRuntime) usdWorld (openTipSteps usdMint depositor 5 1 ++
      depositStep usdMint depositor usdWallet 100 ::
      (listingSteps governor usdMint ++ launchSteps governor)) with
  | .ok (_, world) => world
  | .error _ => ∅

/-- The credit of 100, sealed under the commitment 5 and bringing the commitment 2. -/
def sealedCredit : SealStep :=
  match creditStep usdMint depositor 5 1 100 with
  | .tcap call (.creditOneTimeTip accounts args) =>
      (.tcap call (.creditOneTimeTip accounts { args with sealed := ownerSeal 5 100 }),
        holding 100)
  | other => (other, holding 100)

/-- A debit sealed under the commitment 2. -/
def sealedDebit (permitNonce : Bytes32) (sequence amount remaining : Nat) : SealStep :=
  let entry := splEntryAddress usdMint
  (.tcap ⟨[depositor], 6⟩ (.debitTcapExitV1
    ⟨depositor, globalConfigAddress, sampleTip, deriveReserveState entry,
      deriveTcapTipLiabilityV2 sampleTip entry, exitPermitAddress permitNonce⟩
    ⟨permitNonce, 0, usdMint, amount, sequence, ownerSeal 2 remaining, 1, 0⟩),
    holding remaining)

instance : (input : Step) → Decidable (KeepsToSeals input)
  | .external _ _ => isTrue trivial
  | .tcap call instruction => by
      apply Instruction.casesOn (motive := fun kind => Decidable (KeepsToSeals (.tcap call kind)))
        instruction <;> intros <;> first
        | change Decidable (_ ∉ writes _)
          infer_instance
        | change Decidable True
          infer_instance

instance (history : List (World × SealStep)) :
    Decidable (OwnerProduced sampleCrypto sampleTip history) := by
  unfold OwnerProduced
  infer_instance

instance (history : List (World × SealStep)) :
    Decidable (SeparatesCommitments sampleCrypto sampleTip history) := by
  unfold SeparatesCommitments
  infer_instance

instance (first : Bytes32) (inputs : List SealStep) :
    Decidable (FreshlyCommitted sampleCrypto sampleTip first inputs) := by
  unfold FreshlyCommitted
  infer_instance

/-- The tip as it was opened. -/
def openedTip : TcapOneTimeTip := ⟨5, 0, 0, 0, 1, 0, 1, false, 255⟩

theorem lookup_openedWorld : openedWorld.lookup sampleTip = some (.oneTimeTip openedTip) := by
  decide +kernel

/-- A credit of 100 and debits of 30 and of 20: both debits are sealed under the commitment
of the credit. -/
theorem not_forall_nonceUnique :
    ¬ ∀ crypto runtime start history world tip opened, crypto.Authenticated →
      Run (sealStep runtime) start history world →
      (∀ entry ∈ history, KeepsToSeals entry.2.1) →
      start.lookup tip = some (.oneTimeTip opened) → OwnerProduced crypto tip history →
      SeparatesCommitments crypto tip history →
      NonceUnique crypto tip history ∧ SealsOpen crypto tip history world := by
  intro hclaim
  have hreaches : reaches (sealStep localRuntime) openedWorld
      [sealedDebit 8 3 20 50, sealedDebit 7 2 30 70, sealedCredit]
      (fun history _ => (∀ entry ∈ history, KeepsToSeals entry.2.1) ∧
        OwnerProduced sampleCrypto sampleTip history ∧
        SeparatesCommitments sampleCrypto sampleTip history) = true := by
    decide +kernel
  obtain ⟨history, world, hrun, hinputs, hholds⟩ := exists_run_of_reaches_inputs hreaches
  obtain ⟨hkeeps, howner, hnonce⟩ := of_decide_eq_true hholds
  have hunique := (hclaim sampleCrypto localRuntime openedWorld history world sampleTip
    openedTip authenticated_sampleCrypto hrun hkeeps lookup_openedWorld howner hnonce).1
  rw [nonceUnique_iff_freshlyCommitted (sealBooks_of_run hrun hkeeps lookup_openedWorld) hnonce,
    hinputs] at hunique
  have hsealing : ∀ permitNonce sequence amount remaining,
      sealing sampleTip (sealedDebit permitNonce sequence amount remaining).1 =
        some (ownerSeal 2 remaining, none) := by
    intro permitNonce sequence amount remaining
    simp [sealing, sealedDebit]
  have hseed : (sealedDebit 7 2 30 70).2.masterSeed = (sealedDebit 8 3 20 50).2.masterSeed := by
    simp [sealedDebit, holding]
  have hbalance : (sealedDebit 7 2 30 70).2.balance ≠ (sealedDebit 8 3 20 50).2.balance := by
    simp [sealedDebit, holding, OwnerSeal.balance]
  exact not_freshlyCommitted_of_debit (hsealing 7 2 30 70) (hsealing 8 3 20 50)
    (congrArg (deriveTipViewKey sampleCrypto) hseed) hbalance hunique

/-- The same run without its last debit. -/
theorem sealedBalances_after_debit :
    ∃ history world, Run (sealStep localRuntime) openedWorld history world ∧
      (seals sampleTip history).length = 2 ∧
      NonceUnique sampleCrypto sampleTip history ∧
      SealsOpen sampleCrypto sampleTip history world := by
  have hreaches : reaches (sealStep localRuntime) openedWorld
      [sealedDebit 7 2 30 70, sealedCredit]
      (fun history _ => (∀ entry ∈ history, KeepsToSeals entry.2.1) ∧
        OwnerProduced sampleCrypto sampleTip history ∧
        SeparatesCommitments sampleCrypto sampleTip history ∧
        FreshlyCommitted sampleCrypto sampleTip openedTip.commitment
          (history.map Prod.snd) ∧
        (seals sampleTip history).length = 2) = true := by
    decide +kernel
  obtain ⟨history, world, hrun, hholds⟩ := exists_run_of_reaches hreaches
  obtain ⟨hkeeps, howner, hnonce, hfresh, hlength⟩ := of_decide_eq_true hholds
  exact ⟨history, world, hrun, hlength, (sealedBalances_iff authenticated_sampleCrypto hrun
    hkeeps lookup_openedWorld howner hnonce).mpr hfresh⟩

end Sample

end TsnProtocol.Tcap.TipSeal
