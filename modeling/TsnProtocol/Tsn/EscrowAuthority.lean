import Mathlib
import TsnProtocol.Lib.Transition

/-!
The mother escrow of the TSN program: the account that stores the authority behind
every gated instruction. The account is kept as bytes, since one of the two
instructions that write it takes accounts of any length.
-/

namespace TsnProtocol.Tsn.EscrowAuthority

open Lib.Checked
open Lib.Transition

abbrev Byte := BitVec 8

/-- A 32-byte key or seed. -/
abbrev Key := Vector Byte 32

inductive TsnError where
  | accountNotSigner | accountInUse | accountNotInitialized
  | accountDiscriminatorMismatch | accountDidNotDeserialize | insufficientLamports
  | invalidMotherEscrowAccount | invalidFeeSplit | unauthorized
  deriving DecidableEq

abbrev Result := Except TsnError

/-- Little-endian bytes of an integer. -/
def toLeBytes (size value : Nat) : List Byte :=
  (List.range size).map fun index => BitVec.ofNat 8 (value / 256 ^ index)

@[simp] theorem length_toLeBytes (size value : Nat) :
    (toLeBytes size value).length = size := by
  simp [toLeBytes]

def bpsDenominator : Nat := 10000
def tsnSplitBpsCranker : BitVec 16 := 800
def tsnSplitBpsLp : BitVec 16 := 8500
def tsnSplitBpsTreasury : BitVec 16 := 700
def tsnTinFeeSplitBpsVerifyCranker : BitVec 16 := 3000
def tsnTinFeeSplitBpsSubmitCranker : BitVec 16 := 4000
def tsnTinFeeSplitBpsTeam : BitVec 16 := 2000
def tsnTinFeeSplitBpsReservePool : BitVec 16 := 1000

def isValidSplit (crankerBps lpBps treasuryBps : BitVec 16) : Bool :=
  crankerBps.toNat + lpBps.toNat + treasuryBps.toNat = bpsDenominator ∧
    (8200 ≤ lpBps.toNat ∧ lpBps.toNat ≤ 8800) ∧
    (500 ≤ treasuryBps.toNat ∧ treasuryBps.toNat ≤ 800) ∧
    (200 ≤ crankerBps.toNat ∧ crankerBps.toNat ≤ 1000)

def isValidTinFeeSplit
    (verifyCrankerBps submitCrankerBps teamBps reservePoolBps : BitVec 16) : Bool :=
  verifyCrankerBps.toNat + submitCrankerBps.toNat + teamBps.toNat +
      reservePoolBps.toNat = bpsDenominator ∧
    verifyCrankerBps = tsnTinFeeSplitBpsVerifyCranker ∧
    submitCrankerBps = tsnTinFeeSplitBpsSubmitCranker ∧
    teamBps = tsnTinFeeSplitBpsTeam ∧ reservePoolBps = tsnTinFeeSplitBpsReservePool

structure MotherEscrow where
  (authority tinsProgramId protocolSeed : Key)
  (epochSeconds leaseSeconds : BitVec 64)
  (feeSplitCrankerBps feeSplitLpBps feeSplitTreasuryBps tinFeeSplitVerifyCrankerBps
    tinFeeSplitSubmitCrankerBps tinFeeSplitTeamBps tinFeeSplitReservePoolBps : BitVec 16)
  (epochId lastEpochSettledTs : BitVec 64)
  bump : Byte
  deriving DecidableEq

/-- Account discriminator: the first eight bytes of the hash of `account:MotherEscrow`. -/
def discriminator : List Byte :=
  [255, 250, 63, 231, 72, 239, 150, 64]

def space : Nat :=
  8 + 32 + 32 + 32 + 8 + 8 + (2 + 2 + 2) + (2 + 2 + 2 + 2) + 8 + 8 + 1

/-- The parts of the account in the order they are laid out. -/
def MotherEscrow.fields (escrow : MotherEscrow) : List (List Byte) :=
  [discriminator, escrow.authority.toList, escrow.tinsProgramId.toList,
    escrow.protocolSeed.toList, toLeBytes 8 escrow.epochSeconds.toNat,
    toLeBytes 8 escrow.leaseSeconds.toNat, toLeBytes 2 escrow.feeSplitCrankerBps.toNat,
    toLeBytes 2 escrow.feeSplitLpBps.toNat, toLeBytes 2 escrow.feeSplitTreasuryBps.toNat,
    toLeBytes 2 escrow.tinFeeSplitVerifyCrankerBps.toNat,
    toLeBytes 2 escrow.tinFeeSplitSubmitCrankerBps.toNat,
    toLeBytes 2 escrow.tinFeeSplitTeamBps.toNat,
    toLeBytes 2 escrow.tinFeeSplitReservePoolBps.toNat,
    toLeBytes 8 escrow.epochId.toNat, toLeBytes 8 escrow.lastEpochSettledTs.toNat,
    [escrow.bump]]

/-- The authority in the bytes of an account, where there are enough of them. -/
def storedAuthority (data : List Byte) : Option (List Byte) :=
  if 40 ≤ data.length then some ((data.drop 8).take 32) else none

/-- The account at the mother escrow address, with its data once the program owns it,
and the lamports of everybody else. -/
structure EscrowState where
  data : Option (List Byte)
  lamports : Nat
  wallet : Key → Nat

/-- What the chain provides: rent, and the canonical bump of the escrow address. -/
structure Runtime where
  minimumBalance : Nat → Nat
  bump : Byte

structure Call where
  signers : List Key
  unixTimestamp : BitVec 64
  deriving DecidableEq

/-- Arguments common to both instructions that write the escrow. -/
structure EscrowArgs where
  (tinsProgramId protocolSeed : Key)
  (epochSeconds leaseSeconds : BitVec 64)
  (feeSplitCrankerBps feeSplitLpBps feeSplitTreasuryBps : Option (BitVec 16))
  deriving DecidableEq

variable (runtime : Runtime) (call : Call)

def signer (key : Key) : Result Unit :=
  require (key ∈ call.signers) .accountNotSigner

/-- The escrow both instructions write, with the splits they check. -/
def newEscrow (authority : Key) (args : EscrowArgs) : Result MotherEscrow := do
  let crankerBps := args.feeSplitCrankerBps.getD tsnSplitBpsCranker
  let lpBps := args.feeSplitLpBps.getD tsnSplitBpsLp
  let treasuryBps := args.feeSplitTreasuryBps.getD tsnSplitBpsTreasury
  require (isValidSplit crankerBps lpBps treasuryBps = true) .invalidFeeSplit
  require (isValidTinFeeSplit tsnTinFeeSplitBpsVerifyCranker
    tsnTinFeeSplitBpsSubmitCranker tsnTinFeeSplitBpsTeam
    tsnTinFeeSplitBpsReservePool = true) .invalidFeeSplit
  return {
    authority := authority
    tinsProgramId := args.tinsProgramId
    protocolSeed := args.protocolSeed
    epochSeconds := args.epochSeconds
    leaseSeconds := args.leaseSeconds
    feeSplitCrankerBps := crankerBps
    feeSplitLpBps := lpBps
    feeSplitTreasuryBps := treasuryBps
    tinFeeSplitVerifyCrankerBps := tsnTinFeeSplitBpsVerifyCranker
    tinFeeSplitSubmitCrankerBps := tsnTinFeeSplitBpsSubmitCranker
    tinFeeSplitTeamBps := tsnTinFeeSplitBpsTeam
    tinFeeSplitReservePoolBps := tsnTinFeeSplitBpsReservePool
    epochId := 0
    lastEpochSettledTs := call.unixTimestamp
    bump := runtime.bump }

/-- Bring the escrow to its rent-exempt balance out of a wallet. -/
def fundRent (authority : Key) (state : EscrowState) : Result EscrowState :=
  let minimumBalance := runtime.minimumBalance space
  if state.lamports < minimumBalance then do
    let missing := minimumBalance - state.lamports
    require (missing ≤ state.wallet authority) .insufficientLamports
    return { state with
      lamports := minimumBalance
      wallet := Function.update state.wallet authority (state.wallet authority - missing) }
  else
    return state

/-- `initialize_mother_escrow`: the account framework creates the account before the
handler runs and serialises the escrow after it. -/
def initializeMotherEscrow (authority : Key) (args : EscrowArgs) (state : EscrowState) :
    Result EscrowState := do
  signer call authority
  require (state.data = none) .accountInUse
  let state ← fundRent runtime authority state
  let escrow ← newEscrow runtime call authority args
  return { state with data := some escrow.fields.flatten }

/-- `realloc(SPACE, true)`: shorter data is zero-extended, longer data is cut. -/
def realloc (size : Nat) (data : List Byte) : List Byte :=
  data.take size ++ List.replicate (size - data.length) 0

/-- `data[offset..offset + len].copy_from_slice(bytes)`. -/
def copyFromSlice (data : List Byte) (offset : Nat) (bytes : List Byte) : List Byte :=
  data.take offset ++ bytes ++ data.drop (offset + bytes.length)

/-- Write parts one after the other, each where the last one ended. -/
def writeFields (data : List Byte) (offset : Nat) : List (List Byte) → List Byte
  | [] => data
  | field :: fields =>
      writeFields (copyFromSlice data offset field) (offset + field.length) fields

/-- `migrate_mother_escrow`. The old data is not read: nothing compares the signer
with the authority it holds. -/
def migrateMotherEscrow (authority : Key) (args : EscrowArgs) (state : EscrowState) :
    Result EscrowState := do
  signer call authority
  let data ← okOr state.data .invalidMotherEscrowAccount
  let escrow ← newEscrow runtime call authority args
  let state ← fundRent runtime authority state
  return { state with data := some (writeFields (realloc space data) 0 escrow.fields) }

/-- The other instructions of the program. All of them take the escrow as an account
they do not write. -/
inductive Reader where
  | acceptIntent | registerCranker | setCrankerFundingPolicy | initializeCrankerVault
  | fundCranker | fundEpochTreasury | withdrawCrankerFunds | configurePrivateSettlement
  | createSettlementDna | executePrivatePayout | refundEpochClaim | closeEpochTreasury
  | withdrawVerifierLamports | tinActionFeeCommitment
  | registerTcapCreditAuthorizationV2 | registerTcapDebitAuthorizationV2
  | registerTcapExitDebitV1 | registerTcapExitPayoutV1
  | registerTcapOneTimeTipAuthorization | registerTcapOneTimeCredit
  | registerTcapOneTimeTransferCredit
  deriving DecidableEq

/-- Instructions whose signer has to be the stored authority. -/
def Reader.gated : Reader → Bool
  | .acceptIntent | .configurePrivateSettlement | .createSettlementDna
  | .closeEpochTreasury | .withdrawVerifierLamports
  | .registerTcapCreditAuthorizationV2 | .registerTcapDebitAuthorizationV2
  | .registerTcapExitDebitV1 | .registerTcapExitPayoutV1
  | .registerTcapOneTimeTipAuthorization | .registerTcapOneTimeCredit
  | .registerTcapOneTimeTransferCredit => true
  | _ => false

/-- What a reading instruction asks of the escrow. What it does to other accounts is
not part of the state. -/
def readMotherEscrow (reader : Reader) (key : Key) (state : EscrowState) :
    Result EscrowState := do
  signer call key
  let data ← okOr state.data .accountNotInitialized
  require (data.take 8 = discriminator) .accountDiscriminatorMismatch
  require (space ≤ data.length) .accountDidNotDeserialize
  require (reader.gated = true → storedAuthority data = some key.toList) .unauthorized
  return state

inductive Instruction where
  | initializeMotherEscrow (authority : Key) (args : EscrowArgs)
  | migrateMotherEscrow (authority : Key) (args : EscrowArgs)
  | readMotherEscrow (reader : Reader) (key : Key)
  deriving DecidableEq

def step (state : EscrowState) : Call × Instruction → Result EscrowState
  | (call, .initializeMotherEscrow authority args) =>
      initializeMotherEscrow runtime call authority args state
  | (call, .migrateMotherEscrow authority args) =>
      migrateMotherEscrow runtime call authority args state
  | (call, .readMotherEscrow reader key) => readMotherEscrow call reader key state

/-- The authority stored in the escrow of a state. -/
def EscrowState.authority (state : EscrowState) : Option (List Byte) :=
  state.data.bind storedAuthority

theorem writeFields_eq (fields : List (List Byte)) (data : List Byte) (offset : Nat)
    (hoffset : offset ≤ data.length) :
    writeFields data offset fields =
      data.take offset ++ fields.flatten ++ data.drop (offset + fields.flatten.length) := by
  induction fields generalizing data offset with
  | nil => simp [writeFields]
  | cons field fields ih =>
      have htake : (data.take offset).length = offset := by simp [hoffset]
      have hprefix : (copyFromSlice data offset field).take (offset + field.length) =
          data.take offset ++ field := by
        rw [copyFromSlice, List.take_left' (by simp [htake])]
      have hsuffix : ∀ size, (copyFromSlice data offset field).drop
          (offset + field.length + size) = data.drop (offset + field.length + size) := by
        intro size
        rw [copyFromSlice, ← List.drop_drop, List.drop_left' (by simp [htake]),
          List.drop_drop]
      rw [writeFields, ih _ _ (by simp [copyFromSlice, htake]), hprefix, hsuffix]
      simp [Nat.add_assoc]

theorem length_fields (escrow : MotherEscrow) :
    escrow.fields.flatten.length = space := by
  simp [MotherEscrow.fields, space, discriminator]

theorem storedAuthority_fields (escrow : MotherEscrow) :
    storedAuthority escrow.fields.flatten = some escrow.authority.toList := by
  rw [storedAuthority, if_pos (by rw [length_fields]; decide)]
  simp [MotherEscrow.fields, discriminator]

/-- A migration leaves nothing of the old data. -/
theorem writeFields_realloc (data : List Byte) (escrow : MotherEscrow) :
    writeFields (realloc space data) 0 escrow.fields = escrow.fields.flatten := by
  have hlength : (realloc space data).length = space := by
    simp [realloc]
    omega
  rw [writeFields_eq _ _ _ (Nat.zero_le _), Nat.zero_add, length_fields,
    List.drop_eq_nil_of_le (Nat.le_of_eq hlength)]
  simp

section Steps

variable {runtime : Runtime} {call : Call} {state next : EscrowState} {authority key : Key}
    {args : EscrowArgs}

theorem newEscrow_eq_ok {escrow : MotherEscrow}
    (hnew : newEscrow runtime call authority args = .ok escrow) :
    escrow.authority = authority := by
  simp only [newEscrow, bind_eq_ok, pure_eq_ok] at hnew
  obtain ⟨_, -, _, -, rfl⟩ := hnew
  rfl

/-- An initialization needs an escrow without data and stores its signer. -/
theorem initializeMotherEscrow_eq_ok
    (hstep : initializeMotherEscrow runtime call authority args state = .ok next) :
    state.authority = none ∧ next.authority = some authority.toList := by
  simp only [initializeMotherEscrow, bind_eq_ok, require_eq_ok, pure_eq_ok] at hstep
  obtain ⟨_, -, _, hfresh, _, -, escrow, hescrow, rfl⟩ := hstep
  simp [EscrowState.authority, hfresh, storedAuthority_fields, newEscrow_eq_ok hescrow]

/-- A migration stores its signer, whoever was stored before. -/
theorem migrateMotherEscrow_eq_ok
    (hstep : migrateMotherEscrow runtime call authority args state = .ok next) :
    authority ∈ call.signers ∧ next.authority = some authority.toList := by
  simp only [migrateMotherEscrow, signer, bind_eq_ok, require_eq_ok, okOr_eq_ok,
    pure_eq_ok] at hstep
  obtain ⟨_, hsigned, data, hdata, escrow, hescrow, _, -, rfl⟩ := hstep
  refine ⟨hsigned, ?_⟩
  simp [EscrowState.authority, writeFields_realloc, storedAuthority_fields,
    newEscrow_eq_ok hescrow]

theorem readMotherEscrow_eq_ok {reader : Reader}
    (hstep : readMotherEscrow call reader key state = .ok next) : next = state := by
  simp only [readMotherEscrow, bind_eq_ok, pure_eq_ok] at hstep
  obtain ⟨_, -, _, -, _, -, _, -, _, -, rfl⟩ := hstep
  rfl

end Steps

/-- The stored authority changes only in a transition it signed, and no migration
replaces it by another signer. -/
def KeepsAuthority (state : EscrowState) (input : Call × Instruction)
    (next : EscrowState) : Prop :=
  ∀ stored, state.authority = some stored →
    (next.authority ≠ some stored → ∃ key ∈ input.1.signers, key.toList = stored) ∧
      ∀ authority args, input.2 = .migrateMotherEscrow authority args →
        next.authority = some stored

/-- The signer a migration installs is the one already stored, if there is one. -/
def MigratesAsAuthority (state : EscrowState) : Call × Instruction → Prop
  | (_, .migrateMotherEscrow authority _) =>
      ∀ stored, state.authority = some stored → authority.toList = stored
  | _ => True

theorem keepsAuthority_iff {runtime : Runtime} {state next : EscrowState}
    {input : Call × Instruction} (hstep : step runtime state input = .ok next) :
    KeepsAuthority state input next ↔ MigratesAsAuthority state input := by
  obtain ⟨call, instruction⟩ := input
  cases instruction with
  | initializeMotherEscrow authority args =>
      obtain ⟨hnone, -⟩ := initializeMotherEscrow_eq_ok hstep
      simp [KeepsAuthority, MigratesAsAuthority, hnone]
  | migrateMotherEscrow authority args =>
      obtain ⟨hsigned, hnext⟩ := migrateMotherEscrow_eq_ok hstep
      constructor
      · intro hkeeps stored hstored
        have hsame := (hkeeps stored hstored).2 authority args rfl
        rw [hnext] at hsame
        exact Option.some.inj hsame
      · intro hmigrates stored hstored
        obtain rfl := hmigrates stored hstored
        exact ⟨fun hchanged => absurd hnext hchanged, fun _ _ _ => hnext⟩
  | readMotherEscrow reader key =>
      obtain rfl := readMotherEscrow_eq_ok hstep
      refine ⟨fun _ => trivial, fun _ stored hstored => ⟨fun hchanged => ?_, ?_⟩⟩
      · exact absurd hstored hchanged
      · exact fun _ _ _ => hstored

/-- Along every run, the authority is kept exactly if every migration is signed, as its
authority, by the key stored at that moment. -/
theorem keepsAuthority_of_run_iff {runtime : Runtime} {start state : EscrowState}
    {history : List (EscrowState × (Call × Instruction))}
    (hrun : Run (step runtime) start history state) :
    (∀ before input after, (before, input) ∈ history →
      step runtime before input = .ok after → KeepsAuthority before input after) ↔
    ∀ before input, (before, input) ∈ history → MigratesAsAuthority before input := by
  constructor
  · intro hkeeps before input hentry
    obtain ⟨after, hstep⟩ := hrun.exists_next hentry
    exact (keepsAuthority_iff hstep).mp (hkeeps before input after hentry hstep)
  · intro hmigrates before input after hentry hstep
    exact (keepsAuthority_iff hstep).mpr (hmigrates before input hentry)

section Runs

def localRuntime : Runtime where
  minimumBalance size := (128 + size) * 6960
  bump := 255

/-- No escrow yet, and a billion lamports in every wallet. -/
def freshState : EscrowState :=
  ⟨none, 0, fun _ => 1000000000⟩

def founder : Key := Vector.replicate 32 1
def intruder : Key := Vector.replicate 32 2

def defaultArgs : EscrowArgs :=
  ⟨Vector.replicate 32 3, Vector.replicate 32 4, 25200, 30, none, none, none⟩

def initialization : Call × Instruction :=
  (⟨[founder], 1⟩, .initializeMotherEscrow founder defaultArgs)

def migration (authority : Key) : Call × Instruction :=
  (⟨[authority], 2⟩, .migrateMotherEscrow authority defaultArgs)

/-- Anybody takes over the escrow by migrating it. -/
theorem not_keepsAuthority_of_migration :
    ¬ ∀ runtime start history state, Run (step runtime) start history state →
      ∀ before input after, (before, input) ∈ history →
        step runtime before input = .ok after → KeepsAuthority before input after := by
  intro hclaim
  have hreaches : reaches (step localRuntime) freshState
      [migration intruder, initialization] (fun history _ =>
        ∃ entry ∈ history, entry.1.authority = some founder.toList ∧
          entry.2 = migration intruder) = true := by
    decide +kernel
  obtain ⟨history, state, hrun, hholds⟩ := exists_run_of_reaches hreaches
  obtain ⟨⟨before, input⟩, hentry, hstored, rfl⟩ := of_decide_eq_true hholds
  obtain ⟨after, hstep⟩ := hrun.exists_next hentry
  have hmigrates := (keepsAuthority_iff hstep).mp
    (hclaim localRuntime freshState history state hrun before _ after hentry hstep)
  have hsame : intruder.toList = founder.toList := hmigrates _ hstored
  revert hsame
  decide

/-- The founder migrates the escrow: the authority stays. -/
theorem keepsAuthority_of_founder_migration :
    ∃ history state, Run (step localRuntime) freshState history state ∧
      (∃ before, (before, migration founder) ∈ history ∧
        before.authority = some founder.toList) ∧
      ∀ before input after, (before, input) ∈ history →
        step localRuntime before input = .ok after → KeepsAuthority before input after := by
  have hreaches : reaches (step localRuntime) freshState
      [migration founder, initialization] (fun history _ =>
        (∃ entry ∈ history, entry.1.authority = some founder.toList ∧
          entry.2 = migration founder) ∧
        ∀ entry ∈ history, entry.2 = initialization ∨
          entry.2 = migration founder ∧ entry.1.authority = some founder.toList) = true := by
    decide +kernel
  obtain ⟨history, state, hrun, hholds⟩ := exists_run_of_reaches hreaches
  obtain ⟨⟨⟨before, input⟩, hentry, hstored, rfl⟩, hall⟩ := of_decide_eq_true hholds
  refine ⟨history, state, hrun, ⟨before, hentry, hstored⟩,
    (keepsAuthority_of_run_iff hrun).mpr ?_⟩
  intro before input hentry
  rcases hall _ hentry with hinput | ⟨hinput, hauthority⟩
  · obtain rfl : input = initialization := hinput
    trivial
  · obtain rfl : input = migration founder := hinput
    exact fun stored hstored => Option.some.inj (hauthority.symm.trans hstored)

end Runs

end TsnProtocol.Tsn.EscrowAuthority
