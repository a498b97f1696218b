import TsnProtocol.Lib.JsonData
import TsnProtocol.Lib.PythonValues
import TsnProtocol.Node.DepositTransaction
import TsnProtocol.Tcap.AccountImages
import TsnProtocol.Tcap.DepositGate
import TsnProtocol.Tcap.EntryAddresses
import TsnProtocol.Tcap.Solvency

/-!
Readers of TCAP accounts outside the program, at fixed offsets: the client before a deposit,
the Node and the cranker before a settlement.
-/

namespace TsnProtocol.Tcap.AccountReaders

open Lib.ByteReader
open Lib.Checked
open Lib.JsonData (isSpace)
open Lib.MessageFields
open Lib.PythonText (isDigit_range trimmed_eq_self)
open Lib.PythonValues (hexValue hexValue_hexDigit)
open Lib.TextFormat
open Lib.Transition
open Node.DepositTransaction (b64decode b64decode_b64encode)
open Solana.Address
open Tcap.AccountImages
open Tcap.AssetGovernance
open Tcap.DepositGate (EntryOpen)
open Tcap.EntryAddresses
open Tcap.Execution
open Tcap.Funding
open Tcap.Program
open Tcap.State

abbrev Result := Except String

/-- An account as the RPC reports it, its owner in bytes. -/
structure AccountInfo where
  owner : Bytes32
  data : List Byte
  deriving DecidableEq

section Client

/-- Arguments of `resolveTcapGpruDepositAccounts`. -/
structure DepositFields where
  (depositor mint tokenProgram tcapProgramId : Pubkey)
  deriving DecidableEq

structure TcapGpruDepositAccounts where
  (depositor tcapProgramId config registry assetEntry : Pubkey)
  assetEntryAccount : AccountInfo
  (reserveState reserveAuthority : Bytes32)
  source : Pubkey
  vault : Bytes32
  (mint tokenProgram : Pubkey)
  (tokenId decimals : Nat)
  deriving DecidableEq

variable (address : Pubkey → Bytes32)
  (getAssociatedTokenAddress : Pubkey → Pubkey → Pubkey → Result Pubkey)
  (getAccountInfo : Pubkey → Option AccountInfo)

def DepositFields.registry (fields : DepositFields) : Pubkey :=
  findProgramAddress fields.tcapProgramId "tcap:asset-registry:v1" []

def DepositFields.assetEntry (fields : DepositFields) : Pubkey :=
  findProgramAddress fields.tcapProgramId "tcap:asset-entry:v1"
    [fields.registry, fields.tokenProgram, fields.mint]

def checkEntryLayout (data : List Byte) : Result Unit :=
  require (287 ≤ data.length ∧ data.take 8 = assetEntryDiscriminator)
    "TCAP_ASSET_ENTRY_LAYOUT_INVALID"

def checkEntryBinding (fields : DepositFields) (data : List Byte) : Result Unit :=
  require (between data 12 44 = keyBytes address fields.registry ∧
      between data 48 80 = keyBytes address fields.tokenProgram ∧
      between data 80 112 = keyBytes address fields.mint)
    "TCAP_ASSET_ENTRY_BINDING_MISMATCH"

def checkEntryActive (data : List Byte) : Result Unit :=
  require (leValue (between data 44 48) ≠ 0 ∧ (data.getD 244 0).toNat ≤ 18 ∧
      data.getD 245 0 = 1 ∧ data.getD 247 0 = 0 ∧ data.getD 283 0 = 1 ∧
      data.getD 284 0 = 1 ∧ data.getD 285 0 = 0)
    "TCAP_ASSET_NOT_ACTIVE_FOR_DEPOSITS"

def resolveTcapGpruDepositAccounts (fields : DepositFields) :
    Result TcapGpruDepositAccounts := do
  let entryAccount ← okOr (getAccountInfo fields.assetEntry) "MINT_NOT_REGISTERED_IN_TCAP"
  require (entryAccount.owner = address fields.tcapProgramId)
    "TCAP_ASSET_ENTRY_OWNER_MISMATCH"
  let data := entryAccount.data
  checkEntryLayout data
  checkEntryBinding address fields data
  checkEntryActive data
  let reserveState := wordOfBytes (between data 148 180)
  let vault := wordOfBytes (between data 180 212)
  let reserveAuthority := wordOfBytes (between data 212 244)
  require (reserveState ≠ 0 ∧ vault ≠ 0 ∧ reserveAuthority ≠ 0)
    "TCAP_ASSET_ENTRY_RESERVE_NOT_CONFIGURED"
  let source ← getAssociatedTokenAddress fields.mint fields.depositor fields.tokenProgram
  return {
    depositor := fields.depositor
    tcapProgramId := fields.tcapProgramId
    config := findProgramAddress fields.tcapProgramId "tcap:global-config:v1" []
    registry := fields.registry
    assetEntry := fields.assetEntry
    assetEntryAccount := entryAccount
    reserveState := reserveState
    reserveAuthority := reserveAuthority
    source := source
    vault := vault
    mint := fields.mint
    tokenProgram := fields.tokenProgram
    tokenId := leValue (between data 44 48)
    decimals := (data.getD 244 0).toNat }

end Client

section Node

/-- The `value` of an account query, with its data in base64 where there is any. -/
structure RpcAccount where
  owner : Text
  data : Option Text

variable (addressText : Pubkey → Text) (getAccountInfo : Text → Option RpcAccount)

def checkRootLayout (data : List Byte) : Result Unit :=
  require (data.length = 124 ∧ data.take 8 = commitmentRootDiscriminator ∧
      leValue (between data 8 10) = 1)
    "TCAP shared replay root account layout or version is unsupported"

def readTcapSharedReplayRoot : Result (Text × List Byte × Nat) := do
  let root := addressText commitmentRootAddress
  let value ← okOr ((getAccountInfo root).filter fun value =>
      value.owner = addressText tcapProgram)
    "TCAP shared replay root is missing or has the wrong owner"
  let data ← okOr (value.data.bind b64decode) "TCAP shared replay root data is invalid"
  checkRootLayout data
  require (data.getD 122 0 = 0) "TCAP shared replay root is paused"
  return (root, between data 12 44, leValue (between data 80 88))

end Node

section Cranker

/-- `Buffer.from(text, "hex")`: stops at the first pair that is not two digits. -/
def bufferFromHex : Text → List Byte
  | high :: low :: rest =>
      match hexValue high, hexValue low with
      | some highValue, some lowValue =>
          BitVec.ofNat 8 (16 * highValue + lowValue) :: bufferFromHex rest
      | _, _ => []
  | _ => []

def hex32 (value : Text) (field : String) : Result (List Byte) := do
  let bytes := bufferFromHex value
  require (bytes.length = 32) (field ++ " must be 32 bytes")
  return bytes

def radixValue (radix : Nat) (digits : Text) : Option Nat :=
  if digits = [] then none
  else digits.foldlM (fun value digit => do
    let digitValue ← hexValue digit
    if digitValue < radix then return radix * value + digitValue else none) 0

/-- `BigInt(text)`. -/
def bigInt (text : Text) : Result Int :=
  let digits := (text.dropWhile isSpace).rdropWhile isSpace
  let value : Option Int :=
    match digits with
    | [] => some 0
    | '0' :: 'x' :: digits | '0' :: 'X' :: digits => (radixValue 16 digits).map Int.ofNat
    | '0' :: 'o' :: digits | '0' :: 'O' :: digits => (radixValue 8 digits).map Int.ofNat
    | '0' :: 'b' :: digits | '0' :: 'B' :: digits => (radixValue 2 digits).map Int.ofNat
    | '+' :: digits => (radixValue 10 digits).map Int.ofNat
    | '-' :: digits => (radixValue 10 digits).map fun value => -Int.ofNat value
    | digits => (radixValue 10 digits).map Int.ofNat
  okOr value ("Cannot convert " ++ String.ofList text ++ " to a BigInt")

/-- What a settlement is announced with, as texts. -/
structure Transition where
  (previousTcapRoot tcapRootSequence : Text)

variable (address : Pubkey → Bytes32)

/-- An account of TCAP with the data of a commitment root. -/
def commitmentRootData (account : Option AccountInfo) (problem : String) :
    Result (List Byte) := do
  let account ← okOr account problem
  require (account.owner = address tcapProgram) problem
  require (account.data.length = 124) problem
  require (account.data.take 8 = commitmentRootDiscriminator) problem
  return account.data

def checkRootBefore (rootBefore : Option AccountInfo) (transition : Transition) :
    Result Unit := do
  let problem := "TCAP_SHARED_REPLAY_ROOT_CHANGED_BEFORE_SETTLEMENT"
  let data ← commitmentRootData address rootBefore problem
  let previousRoot ← hex32 transition.previousTcapRoot "previousTcapRoot"
  require (between data 12 44 = previousRoot) problem
  let sequence ← bigInt transition.tcapRootSequence
  require ((leValue (between data 80 88) : Int) + 1 = sequence) problem

def checkRootAfter (rootAfter : Option AccountInfo) (transition : Transition)
    (expectedNextRoot : List Byte) : Result Unit := do
  let problem := "Confirmed settlement did not advance TCAP's shared replay root atomically"
  let data ← commitmentRootData address rootAfter problem
  let previousRoot ← hex32 transition.previousTcapRoot "previousTcapRoot"
  require (between data 44 76 = previousRoot) problem
  require (between data 12 44 = expectedNextRoot) problem
  let sequence ← bigInt transition.tcapRootSequence
  require ((leValue (between data 80 88) : Int) = sequence) problem

end Cranker

section ReadClient

variable {address : Pubkey → Bytes32}
  {getAssociatedTokenAddress : Pubkey → Pubkey → Pubkey → Result Pubkey}
  {getAccountInfo : Pubkey → Option AccountInfo}

/-- What the client demands of a stored entry. -/
structure Accepts (address : Pubkey → Bytes32) (fields : DepositFields)
    (stored : StoredAssetEntry) : Prop where
  registry : address stored.registry = address fields.registry
  tokenProgram : address stored.tokenProgram = address fields.tokenProgram
  mint : address stored.mint = address fields.mint
  tokenId : stored.tokenId ≠ 0
  decimals : stored.decimals.toNat ≤ 18
  opened : EntryOpen stored.entry
  reserveState : address stored.reserveState ≠ 0
  futureVault : address stored.futureVault ≠ 0
  reserveAuthority : address stored.reserveAuthority ≠ 0

/-- The answer of the client, out of the fields of the stored entry. -/
def answerOf (address : Pubkey → Bytes32) (fields : DepositFields) (stored : StoredAssetEntry)
    (source : Pubkey) : TcapGpruDepositAccounts where
  depositor := fields.depositor
  tcapProgramId := fields.tcapProgramId
  config := findProgramAddress fields.tcapProgramId "tcap:global-config:v1" []
  registry := fields.registry
  assetEntry := fields.assetEntry
  assetEntryAccount := ⟨address fields.tcapProgramId, stored.image address⟩
  reserveState := address stored.reserveState
  reserveAuthority := address stored.reserveAuthority
  source := source
  vault := address stored.futureVault
  mint := fields.mint
  tokenProgram := fields.tokenProgram
  tokenId := stored.tokenId.toNat
  decimals := stored.decimals.toNat

theorem checkEntryLayout_image (stored : StoredAssetEntry) :
    checkEntryLayout (stored.image address) = .ok () := by
  simp [checkEntryLayout, length_assetEntry, assetEntry_discriminator]

theorem checkEntryBinding_image {fields : DepositFields} {stored : StoredAssetEntry}
    {result : Unit} :
    checkEntryBinding address fields (stored.image address) = .ok result ↔
      address stored.registry = address fields.registry ∧
        address stored.tokenProgram = address fields.tokenProgram ∧
          address stored.mint = address fields.mint := by
  simp [checkEntryBinding, assetEntry_registry, assetEntry_tokenProgram, assetEntry_mint]

theorem tokenId_image (stored : StoredAssetEntry) :
    leValue (between (stored.image address) 44 48) = stored.tokenId.toNat := by
  rw [assetEntry_tokenId, leValue_numberBytes (by decide)]

theorem checkEntryActive_image {stored : StoredAssetEntry} {result : Unit} :
    checkEntryActive (stored.image address) = .ok result ↔
      stored.tokenId ≠ 0 ∧ stored.decimals.toNat ≤ 18 ∧ EntryOpen stored.entry := by
  have htokenId : stored.tokenId.toNat ≠ 0 ↔ stored.tokenId ≠ 0 := by
    rw [Ne, Ne, ← BitVec.toNat_inj]
    rfl
  simp only [checkEntryActive, require_eq_ok, tokenId_image, htokenId, assetEntry_decimals,
    assetEntry_depositsEnabled, assetEntry_paused, assetEntry_status, assetEntry_riskState,
    assetEntry_deprecated, boolByte_eq_one, boolByte_eq_zero, statusByte_eq_one,
    riskByte_eq_one]
  constructor
  · rintro ⟨htoken, hdecimals, henabled, hunpaused, hactive, happroved, hundeprecated⟩
    exact ⟨htoken, hdecimals, henabled, hunpaused, hundeprecated, hactive, happroved⟩
  · rintro ⟨htoken, hdecimals, henabled, hunpaused, hundeprecated, hactive, happroved⟩
    exact ⟨htoken, hdecimals, henabled, hunpaused, hactive, happroved, hundeprecated⟩

theorem resolveTcapGpruDepositAccounts_eq_ok {fields : DepositFields}
    {stored : StoredAssetEntry} {owner : Bytes32} {accounts : TcapGpruDepositAccounts}
    (hread : getAccountInfo fields.assetEntry = some ⟨owner, stored.image address⟩) :
    resolveTcapGpruDepositAccounts address getAssociatedTokenAddress getAccountInfo fields =
        .ok accounts ↔
      owner = address fields.tcapProgramId ∧ Accepts address fields stored ∧
        ∃ source, getAssociatedTokenAddress fields.mint fields.depositor fields.tokenProgram =
            .ok source ∧ accounts = answerOf address fields stored source := by
  simp only [resolveTcapGpruDepositAccounts, hread, bind_eq_ok, okOr_eq_ok, Option.some.injEq,
    exists_eq_left', require_eq_ok, exists_const, checkEntryLayout_image,
    checkEntryBinding_image, checkEntryActive_image, assetEntry_reserveState,
    assetEntry_futureVault, assetEntry_reserveAuthority, keyBytes, wordOfBytes_wordBytes,
    tokenId_image, assetEntry_decimals, pure_eq_ok]
  constructor
  · rintro ⟨howner, -, ⟨hregistry, hprogram, hmint⟩, ⟨htoken, hdecimals, hopened⟩,
      ⟨hreserve, hvault, hauthority⟩, source, hsource, rfl⟩
    exact ⟨howner, ⟨hregistry, hprogram, hmint, htoken, hdecimals, hopened, hreserve, hvault,
      hauthority⟩, source, hsource, by rw [answerOf, howner]⟩
  · rintro ⟨rfl, ⟨hregistry, hprogram, hmint, htoken, hdecimals, hopened, hreserve, hvault,
      hauthority⟩, source, hsource, rfl⟩
    exact ⟨rfl, ⟨⟩, ⟨hregistry, hprogram, hmint⟩, ⟨htoken, hdecimals, hopened⟩,
      ⟨hreserve, hvault, hauthority⟩, source, hsource, rfl⟩

end ReadClient

section ReadRoot

variable {address : Pubkey → Bytes32} {addressText : Pubkey → Text}
  {getAccountInfo : Text → Option RpcAccount}

/-- The account of the commitment root, as the RPC reports it to the Node. -/
def rpcAccount (address : Pubkey → Bytes32) (addressText : Pubkey → Text)
    (stored : StoredCommitmentRoot) : RpcAccount :=
  ⟨addressText tcapProgram, some (b64encode (stored.image address))⟩

theorem sequence_image (stored : StoredCommitmentRoot) :
    leValue (between (stored.image address) 80 88) = stored.sequence.toNat := by
  rw [commitmentRoot_sequence, leValue_numberBytes (by decide)]

theorem checkRootLayout_image {stored : StoredCommitmentRoot} {result : Unit} :
    checkRootLayout (stored.image address) = .ok result ↔ stored.version = 1 := by
  have hversion : stored.version.toNat = 1 ↔ stored.version = 1 := by
    rw [← BitVec.toNat_inj]
    rfl
  simp [checkRootLayout, length_commitmentRoot, commitmentRoot_discriminator,
    commitmentRoot_version, leValue_numberBytes, hversion]

theorem readTcapSharedReplayRoot_eq_ok {stored : StoredCommitmentRoot}
    {answer : Text × List Byte × Nat}
    (hread : getAccountInfo (addressText commitmentRootAddress) =
      some (rpcAccount address addressText stored)) :
    readTcapSharedReplayRoot addressText getAccountInfo = .ok answer ↔
      stored.version = 1 ∧ stored.paused = false ∧
        (addressText commitmentRootAddress, wordBytes stored.currentRoot,
          stored.sequence.toNat) = answer := by
  have hpaused := @commitmentRoot_paused address stored
  simp only [readTcapSharedReplayRoot, hread, rpcAccount, Option.filter_some, decide_true,
    if_true, bind_eq_ok, okOr_eq_ok, Option.some.injEq, exists_eq_left', Option.bind_some,
    b64decode_b64encode, checkRootLayout_image, require_eq_ok, exists_const, hpaused,
    boolByte_eq_zero, commitmentRoot_currentRoot, sequence_image, pure_eq_ok]

theorem commitmentRootData_image {stored : StoredCommitmentRoot} {owner : Bytes32}
    {problem : String} {data : List Byte} :
    commitmentRootData address (some ⟨owner, stored.image address⟩) problem = .ok data ↔
      owner = address tcapProgram ∧ stored.image address = data := by
  simp [commitmentRootData, okOr, length_commitmentRoot, commitmentRoot_discriminator]

theorem checkRootBefore_eq_ok {stored : StoredCommitmentRoot} {owner : Bytes32}
    {transition : Transition} :
    checkRootBefore address (some ⟨owner, stored.image address⟩) transition = .ok () ↔
      owner = address tcapProgram ∧
        hex32 transition.previousTcapRoot "previousTcapRoot" =
          .ok (wordBytes stored.currentRoot) ∧
        bigInt transition.tcapRootSequence = .ok ((stored.sequence.toNat : Int) + 1) := by
  simp only [checkRootBefore, bind_eq_ok, commitmentRootData_image, and_assoc, exists_and_left,
    exists_eq_left', require_eq_ok, exists_const, commitmentRoot_currentRoot, sequence_image,
    exists_eq_right']
  constructor
  · rintro ⟨howner, _, hprevious, rfl, hsequence⟩
    exact ⟨howner, hprevious, hsequence⟩
  · rintro ⟨howner, hprevious, hsequence⟩
    exact ⟨howner, _, hprevious, rfl, hsequence⟩

theorem checkRootAfter_eq_ok {stored : StoredCommitmentRoot} {owner : Bytes32}
    {transition : Transition} {expectedNextRoot : List Byte} :
    checkRootAfter address (some ⟨owner, stored.image address⟩) transition
        expectedNextRoot = .ok () ↔
      owner = address tcapProgram ∧
        hex32 transition.previousTcapRoot "previousTcapRoot" =
          .ok (wordBytes stored.previousRoot) ∧
        wordBytes stored.currentRoot = expectedNextRoot ∧
        bigInt transition.tcapRootSequence = .ok (stored.sequence.toNat : Int) := by
  simp only [checkRootAfter, bind_eq_ok, commitmentRootData_image, and_assoc, exists_and_left,
    exists_eq_left', require_eq_ok, exists_const, commitmentRoot_currentRoot,
    commitmentRoot_previousRoot, sequence_image, exists_eq_right']
  constructor
  · rintro ⟨howner, _, hprevious, rfl, hnext, hsequence⟩
    exact ⟨howner, hprevious, hnext, hsequence⟩
  · rintro ⟨howner, hprevious, hnext, hsequence⟩
    exact ⟨howner, _, hprevious, rfl, hnext, hsequence⟩

end ReadRoot

section Agreement

/-- The constraints of `DepositAssetV2` that the entry alone decides. -/
structure EntryAdmits (runtime : Runtime) (world : World) (accounts : DepositAssetV2)
    (entry : TcapAssetEntryV1) : Prop where
  loads : loadEntry runtime world accounts.assetEntry = .ok entry
  tokenProgram : entry.asset.tokenProgram = accounts.tokenProgram
  mint : entry.asset.mint = accounts.mint
  reserveState : accounts.reserveState = entry.reserveState
  vault : accounts.vault = entry.futureVault
  opened : EntryOpen entry

variable {runtime : Runtime} {address : Pubkey → Bytes32}
  {getAssociatedTokenAddress : Pubkey → Pubkey → Pubkey → Result Pubkey}
  {getAccountInfo : Pubkey → Option AccountInfo}

/-- The accounts that a client passes on from the entry it has read. -/
structure Passes (fields : DepositFields) (stored : StoredAssetEntry)
    (accounts : DepositAssetV2) : Prop where
  assetEntry : accounts.assetEntry = fields.assetEntry
  tokenProgram : accounts.tokenProgram = fields.tokenProgram
  mint : accounts.mint = fields.mint
  reserveState : accounts.reserveState = stored.reserveState
  vault : accounts.vault = stored.futureVault

theorem entryAdmits_of_resolve {start world : World} {history : List (World × Step)}
    {fields : DepositFields} {stored : StoredAssetEntry} {answer : TcapGpruDepositAccounts}
    {accounts : DepositAssetV2} (hrun : ChainRun runtime start history world)
    (hprogram : fields.tcapProgramId = tcapProgram)
    (hlookup : world.lookup fields.assetEntry = some (.entry stored.entry))
    (hread : getAccountInfo fields.assetEntry =
      some ⟨address tcapProgram, stored.image address⟩)
    (haccepts : resolveTcapGpruDepositAccounts address getAssociatedTokenAddress
      getAccountInfo fields = .ok answer)
    (hpasses : Passes fields stored accounts) :
    EntryAdmits runtime world accounts stored.entry := by
  obtain ⟨-, haccepted, -⟩ := (resolveTcapGpruDepositAccounts_eq_ok hread).mp haccepts
  have hkey : fields.assetEntry =
      assetEntryAddress assetRegistryAddress fields.tokenProgram fields.mint := by
    rw [DepositFields.assetEntry, DepositFields.registry, hprogram]
    rfl
  obtain ⟨htokenProgram, hmint⟩ := binding_of_run hrun (hkey ▸ hlookup)
  exact ⟨hpasses.assetEntry ▸ loadEntry_of_run hrun hlookup,
    htokenProgram.trans hpasses.tokenProgram.symm, hmint.trans hpasses.mint.symm,
    hpasses.reserveState, hpasses.vault, haccepted.opened⟩

/-- The readers return the fields that are stored and refuse on the conditions they state,
and the client accepts an entry that the chain reached only where a deposit would pass the
constraints that its entry decides. -/
theorem account_readers_agree (address : Pubkey → Bytes32) (addressText : Pubkey → Text)
    (getAssociatedTokenAddress : Pubkey → Pubkey → Pubkey → Result Pubkey) :
    (∀ (getAccountInfo : Pubkey → Option AccountInfo) fields owner (stored : StoredAssetEntry)
        answer,
      getAccountInfo fields.assetEntry = some ⟨owner, stored.image address⟩ →
        (resolveTcapGpruDepositAccounts address getAssociatedTokenAddress getAccountInfo
            fields = .ok answer ↔
          owner = address fields.tcapProgramId ∧ Accepts address fields stored ∧
            ∃ source, getAssociatedTokenAddress fields.mint fields.depositor
                fields.tokenProgram = .ok source ∧
              answer = answerOf address fields stored source)) ∧
    (∀ runtime start history world (getAccountInfo : Pubkey → Option AccountInfo) fields
        (stored : StoredAssetEntry) answer accounts,
      ChainRun runtime start history world → fields.tcapProgramId = tcapProgram →
      world.lookup fields.assetEntry = some (.entry stored.entry) →
      getAccountInfo fields.assetEntry = some ⟨address tcapProgram, stored.image address⟩ →
      resolveTcapGpruDepositAccounts address getAssociatedTokenAddress getAccountInfo fields =
        .ok answer →
      Passes fields stored accounts → EntryAdmits runtime world accounts stored.entry) ∧
    (∀ (getAccountInfo : Text → Option RpcAccount) (stored : StoredCommitmentRoot) answer,
      getAccountInfo (addressText commitmentRootAddress) =
          some (rpcAccount address addressText stored) →
        (readTcapSharedReplayRoot addressText getAccountInfo = .ok answer ↔
          stored.version = 1 ∧ stored.paused = false ∧
            (addressText commitmentRootAddress, wordBytes stored.currentRoot,
              stored.sequence.toNat) = answer)) ∧
    (∀ (stored : StoredCommitmentRoot) owner transition,
      checkRootBefore address (some ⟨owner, stored.image address⟩) transition = .ok () ↔
        owner = address tcapProgram ∧
          hex32 transition.previousTcapRoot "previousTcapRoot" =
            .ok (wordBytes stored.currentRoot) ∧
          bigInt transition.tcapRootSequence = .ok ((stored.sequence.toNat : Int) + 1)) ∧
    ∀ (stored : StoredCommitmentRoot) owner transition expectedNextRoot,
      checkRootAfter address (some ⟨owner, stored.image address⟩) transition
          expectedNextRoot = .ok () ↔
        owner = address tcapProgram ∧
          hex32 transition.previousTcapRoot "previousTcapRoot" =
            .ok (wordBytes stored.previousRoot) ∧
          wordBytes stored.currentRoot = expectedNextRoot ∧
          bigInt transition.tcapRootSequence = .ok (stored.sequence.toNat : Int) := by
  refine ⟨?_, ?_, ?_, ?_, ?_⟩
  · intro getAccountInfo fields owner stored answer hread
    exact resolveTcapGpruDepositAccounts_eq_ok hread
  · intro runtime start history world getAccountInfo fields stored answer accounts hrun
      hprogram hlookup hread haccepts hpasses
    exact entryAdmits_of_resolve hrun hprogram hlookup hread haccepts hpasses
  · intro getAccountInfo stored answer hread
    exact readTcapSharedReplayRoot_eq_ok hread
  · intro stored owner transition
    exact checkRootBefore_eq_ok
  · intro stored owner transition expectedNextRoot
    exact checkRootAfter_eq_ok

end Agreement

section Sample

open Tcap.Solvency (governor depositor usdMint usdWallet usdWorld
  preLaunch_usdWorld)

/-- The entry of the mint that `listingSteps` registers and opens. -/
def sampleEntry : StoredAssetEntry where
  version := 1
  protocolVersion := 1
  registry := assetRegistryAddress
  tokenId := 1
  tokenProgram := splTokenProgram
  mint := usdMint
  registryVersion := 1
  assetCommitment := 1
  reserveState := deriveReserveState (splEntryAddress usdMint)
  futureVault := deriveFutureVault (splEntryAddress usdMint)
  reserveAuthority := deriveReserveAuthority (splEntryAddress usdMint)
  decimals := 6
  depositsEnabled := true
  withdrawalsEnabled := false
  paused := false
  transferFeePolicy := 0
  freezeAuthorityPolicy := 0
  issuerControlPolicy := 0
  governanceApproval := 1
  status := .active
  riskState := .approved
  deprecated := false
  bump := 255

def sampleRoot : StoredCommitmentRoot :=
  ⟨1, 1, 0x2f0a, 0x2f09, 1, 41, 0, Pubkey.default, true, false, 255⟩

def sampleAddress (key : Pubkey) : Bytes32 :=
  BitVec.ofNat 256 (Pubkey.code key)

def sampleFields : DepositFields :=
  ⟨depositor, usdMint, splTokenProgram, tcapProgram⟩

def sampleAccounts : DepositAssetV2 :=
  ⟨depositor, globalConfigAddress, splEntryAddress usdMint,
    deriveReserveState (splEntryAddress usdMint), usdWallet,
    deriveFutureVault (splEntryAddress usdMint), usdMint, splTokenProgram⟩

theorem account_readers_agree_sample :
    ∃ history world, ChainRun localRuntime usdWorld history world ∧
      resolveTcapGpruDepositAccounts sampleAddress (fun _ _ _ => .ok usdWallet)
        (fun _ => some ⟨sampleAddress tcapProgram, sampleEntry.image sampleAddress⟩)
        sampleFields = .ok (answerOf sampleAddress sampleFields sampleEntry usdWallet) ∧
      EntryAdmits localRuntime world sampleAccounts sampleEntry.entry ∧
      readTcapSharedReplayRoot (fun key => decimal (Pubkey.code key))
        (fun _ => some (rpcAccount sampleAddress (fun key => decimal (Pubkey.code key))
          sampleRoot)) =
        .ok (decimal (Pubkey.code commitmentRootAddress), wordBytes 0x2f0a, 41) := by
  obtain ⟨hresolve, hadmits, hroot, -⟩ := account_readers_agree sampleAddress
    (fun key => decimal (Pubkey.code key)) (fun _ _ _ => .ok usdWallet)
  have hreaches : reaches (step localRuntime) usdWorld
      (listingSteps governor usdMint ++ launchSteps governor)
      (fun _ world => world.lookup sampleFields.assetEntry =
        some (.entry sampleEntry.entry)) = true := by
    decide +kernel
  obtain ⟨history, world, hrun, hlookup⟩ := exists_run_of_reaches hreaches
  have hchain : ChainRun localRuntime usdWorld history world := ⟨preLaunch_usdWorld, hrun⟩
  have haccepts := (hresolve (fun _ => some ⟨sampleAddress tcapProgram,
      sampleEntry.image sampleAddress⟩) sampleFields (sampleAddress tcapProgram) sampleEntry
      (answerOf sampleAddress sampleFields sampleEntry usdWallet) rfl).mpr
    ⟨rfl, ⟨rfl, rfl, rfl, by decide, by decide, ⟨rfl, rfl, rfl, rfl, rfl⟩,
      by decide +kernel, by decide +kernel, by decide +kernel⟩, usdWallet, rfl, rfl⟩
  refine ⟨history, world, hchain, haccepts, ?_, ?_⟩
  · exact hadmits localRuntime usdWorld history world _ sampleFields sampleEntry _
      sampleAccounts hchain rfl (of_decide_eq_true hlookup) rfl haccepts
      ⟨rfl, rfl, rfl, rfl, rfl⟩
  · exact (hroot _ sampleRoot _ rfl).mpr ⟨rfl, rfl, rfl⟩

end Sample

end TsnProtocol.Tcap.AccountReaders
