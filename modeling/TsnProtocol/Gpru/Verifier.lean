import TsnProtocol.Bn254.Field
import TsnProtocol.Tcap.Execution

/-!
The GPRU program's check of a private head update: public inputs against the shared
roots, the action and the memo of the transaction, then the Groth16 proof.
-/

namespace TsnProtocol.Gpru.Verifier

open Bn254.Scalar
open Lib.Checked
open Solana.Address
open Tcap.Execution
open Tcap.State

abbrev Byte := BitVec 8

inductive HiddenHeadError where
  | verifierUnavailable | invalidVerifyingKey | invalidCircuit | invalidPublicInputs
  | invalidTipRouteRoot | invalidTcapRoot | invalidProof | invalidAuthority
  deriving DecidableEq

def tipProgram : Pubkey :=
  .raw 0x06d85aab4ca085e2a0d46fa7e03f2cca6403dd5f1c7de49ed0a14c37186b6316

def memoProgram : Pubkey :=
  .raw 0x054a535a992921064d24e87160da387c7c35b5ddbc92bb81e41fa8404105448d

def instructionsSysvar : Pubkey :=
  .raw 0x06a7d517187bd16635dad40455fdc2c0c124c68f215675a5dbbacb5f08000000

def actionKindCreditV1 : Nat := 1

def actionKindDebitV1 : Nat := 2

def actionKindExitV1 : Nat := 3

def verifierVersion : Nat := 1

structure GpruHiddenHeadVerifierV1 where
  version : Nat
  circuitCommitment : Bytes32
  enabled : Bool
  bump : Nat
  alphaG1 : BitVec 512
  (betaG2 gammaG2 deltaG2 : BitVec 1024)
  ic : Fin 13 → BitVec 512

/-- The TIP program's route root account as the verifier reads it. -/
structure TipRouteRootAccount where
  (address owner : Pubkey)
  (version bump : Nat)
  root : Bytes32
  count : Nat

/-- The TCAP program's commitment root account as the verifier reads it. -/
structure TcapRootAccount where
  (address owner : Pubkey)
  data : TcapCommitmentRootStateV1

/-- The instructions sysvar: the program called at top level and the instruction after
it. -/
structure Instructions where
  (address caller : Pubkey)
  following : Option (Pubkey × List Byte)

structure VerifyHiddenHeadTransitionV1 where
  tipRouteRoot : TipRouteRootAccount
  tcapCommitmentRoot : TcapRootAccount
  verifierAddress : Pubkey
  verifier : GpruHiddenHeadVerifierV1
  instructions : Instructions

/-- What the chain provides: canonical bumps, the hash functions, the commitment to the
circuit the program was built with, and the Groth16 check. -/
structure Runtime where
  bump : Pubkey → Nat
  sha256 : List Byte → Bytes32
  poseidon : List Bytes32 → Option Bytes32
  circuitCommitmentV1 : Bytes32
  groth16 : GpruHiddenHeadVerifierV1 → HiddenHeadProofArgsV1 → Bool

def isCanonicalBn254Scalar (value : Bytes32) : Bool :=
  value.toNat < bn254ScalarOrder

def scalarBytesFromU64 (value : Nat) : Bytes32 :=
  BitVec.ofNat 256 (value % 2 ^ 64)

section Memo

def hexNibble (value : Byte) : Option Nat :=
  if 48 ≤ value.toNat ∧ value.toNat ≤ 57 then some (value.toNat - 48)
  else if 97 ≤ value.toNat ∧ value.toNat ≤ 102 then some (value.toNat - 97 + 10)
  else if 65 ≤ value.toNat ∧ value.toNat ≤ 70 then some (value.toNat - 65 + 10)
  else none

/-- Digits of a hexadecimal number, the highest first. -/
def decodeHex (value : List Byte) : Option Nat :=
  value.foldlM (fun number digit => do
    let nibble ← hexNibble digit
    return 16 * number + nibble) 0

def decodeHex32 (value : List Byte) : Option Bytes32 := do
  guard (value.length = 64)
  let number ← decodeHex value
  return BitVec.ofNat 256 number

def asciiBytes (text : String) : List Byte :=
  text.toList.map fun character => BitVec.ofNat 8 character.toNat

def memoPrefix : List Byte :=
  asciiBytes "TSN_GPRU_HEAD_V1:"

/-- Fields of 64 bytes, each followed by a colon, and what comes after them. -/
def splitFields : Nat → List Byte → Option (List (List Byte) × List Byte)
  | 0, data => some ([], data)
  | count + 1, data =>
      match data.drop 64 with
      | [] => none
      | separator :: rest => do
          guard (separator = BitVec.ofNat 8 ':'.toNat)
          let (fields, remainder) ← splitFields count rest
          return (data.take 64 :: fields, remainder)

def isBase64UrlByte (byte : Byte) : Bool :=
  (65 ≤ byte.toNat ∧ byte.toNat ≤ 90) ∨ (97 ≤ byte.toNat ∧ byte.toNat ≤ 122) ∨
    (48 ≤ byte.toNat ∧ byte.toNat ≤ 57) ∨ byte.toNat = 95 ∨ byte.toNat = 45

/-- The seven bindings in the prefix of a memo. -/
def memoBindings (data : List Byte) : Option (List Bytes32) := do
  guard (memoPrefix.length + 64 * 7 + 7 ≤ data.length)
  guard (data.take memoPrefix.length = memoPrefix)
  let (fields, payload) ← splitFields 7 (data.drop memoPrefix.length)
  guard (payload ≠ [] ∧ payload.all isBase64UrlByte = true)
  let bindings ← fields.mapM decodeHex32
  guard (bindings.all isCanonicalBn254Scalar = true)
  return bindings

def validateMemoInstruction (runtime : Runtime) (instructions : Instructions) :
    Except HiddenHeadError (Bytes32 × List Bytes32) := do
  require (instructions.address = instructionsSysvar) .invalidPublicInputs
  require (instructions.caller = tsnProgram) .invalidPublicInputs
  let (program, data) ← okOr instructions.following .invalidPublicInputs
  require (program = memoProgram) .invalidPublicInputs
  let bindings ← okOr (memoBindings data) .invalidPublicInputs
  return (runtime.sha256 data, bindings)

end Memo

def validateTcapRoot (account : TcapRootAccount) : Except HiddenHeadError Bytes32 := do
  require (account.address = commitmentRootAddress) .invalidTcapRoot
  require (account.owner = tcapProgram) .invalidTcapRoot
  require (account.data.version = 1 ∧ account.data.paused = false) .invalidTcapRoot
  return account.data.currentRoot

def tipRouteRootAddress : Pubkey :=
  findProgramAddress tipProgram "tip:route-merkle-root:v1" []

def validateTipRouteRoot (runtime : Runtime) (account : TipRouteRootAccount) :
    Except HiddenHeadError Bytes32 := do
  require (account.address = tipRouteRootAddress) .invalidTipRouteRoot
  require (account.owner = tipProgram) .invalidTipRouteRoot
  require (account.version = 1 ∧ account.bump = runtime.bump tipRouteRootAddress)
    .invalidTipRouteRoot
  require (account.root ≠ 0 ∧ 0 < account.count) .invalidTipRouteRoot
  require (isCanonicalBn254Scalar account.root = true) .invalidTipRouteRoot
  return account.root

def hiddenHeadVerifierAddress : Pubkey :=
  findProgramAddress gpruProgram "gpru:hidden-head-verifier:v1" []

def verifyTransition (runtime : Runtime) (accounts : VerifyHiddenHeadTransitionV1)
    (args : HiddenHeadProofArgsV1) : Except HiddenHeadError Unit := do
  require (accounts.verifierAddress = hiddenHeadVerifierAddress ∧
    accounts.verifier.bump = runtime.bump hiddenHeadVerifierAddress) .verifierUnavailable
  require (accounts.verifier.version = verifierVersion ∧ accounts.verifier.enabled = true ∧
    accounts.verifier.circuitCommitment = runtime.circuitCommitmentV1) .verifierUnavailable
  require (∀ index : Fin 6, args.publicInputs (index.castLE (by decide)) ≠ 0)
    .invalidPublicInputs
  require (∀ index, isCanonicalBn254Scalar (args.publicInputs index) = true)
    .invalidPublicInputs
  require (args.actionKind = actionKindCreditV1 ∨ args.actionKind = actionKindDebitV1 ∨
    args.actionKind = actionKindExitV1) .invalidPublicInputs
  require (0 < args.tokenId ∧ 0 < args.amount ∧ args.authorizationCommitment ≠ 0)
    .invalidPublicInputs
  require (isCanonicalBn254Scalar args.authorizationCommitment = true) .invalidPublicInputs
  let expectedActionCommitment ← okOr (runtime.poseidon
    [scalarBytesFromU64 args.actionKind, scalarBytesFromU64 args.tokenId,
      scalarBytesFromU64 args.amount, args.authorizationCommitment, args.publicInputs 4])
    .invalidPublicInputs
  require (args.publicInputs 3 = expectedActionCommitment) .invalidPublicInputs
  let (memoCommitment, bindings) ←
    validateMemoInstruction runtime accounts.instructions
  require (args.publicInputs 2 = sha256ToBn254Scalar memoCommitment) .invalidPublicInputs
  require (bindings = [args.publicInputs 6, args.publicInputs 7, args.publicInputs 8,
    args.publicInputs 3, args.publicInputs 9, args.publicInputs 10, args.publicInputs 11])
    .invalidPublicInputs
  let currentTcapRoot ← validateTcapRoot accounts.tcapCommitmentRoot
  let tipRouteRoot ← validateTipRouteRoot runtime accounts.tipRouteRoot
  require (args.publicInputs 0 = currentTcapRoot) .invalidPublicInputs
  require (args.publicInputs 5 = tipRouteRoot) .invalidPublicInputs
  require (isCanonicalBn254Scalar (args.publicInputs 0) = true) .invalidPublicInputs
  require (isCanonicalBn254Scalar (args.publicInputs 1) = true) .invalidPublicInputs
  require (args.publicInputs 1 ≠ currentTcapRoot) .invalidPublicInputs
  require (args.publicInputs 2 ≠ 0 ∧ args.publicInputs 3 ≠ 0 ∧ args.publicInputs 4 ≠ 0)
    .invalidPublicInputs
  require (runtime.groth16 accounts.verifier args = true) .invalidProof

end TsnProtocol.Gpru.Verifier
