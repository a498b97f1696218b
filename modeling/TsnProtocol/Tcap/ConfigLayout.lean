import TsnProtocol.Lib.ByteReader
import TsnProtocol.Tcap.Setup

/-!
The bytes of the global configuration, in the present layout and in the one before the
flags, and the migration that rewrites the account in place.
-/

namespace TsnProtocol.Tcap.ConfigLayout

open Lib.ByteReader
open Lib.Checked
open Solana.Address
open Tcap.State
open Tcap.Execution

/-- How reading an account fails. -/
inductive DecodeError where
  | discriminatorMismatch
  | unexpectedLength
  | invalidValue
  deriving DecidableEq

/-- `AccountDeserialize::try_deserialize`: the discriminator, then the fields. What
follows the fields is not looked at. -/
def decodeAccount {α : Type} (discriminator : List Byte) (fields : Reader DecodeError α)
    (data : List Byte) : Except DecodeError α := do
  require (data.take 8 = discriminator) .discriminatorMismatch
  let (value, _) ← fields (data.drop 8)
  return value

theorem decodeAccount_eq_ok {α : Type} {discriminator data : List Byte}
    {fields : Reader DecodeError α} {value : α} :
    decodeAccount discriminator fields data = .ok value ↔
      data.take 8 = discriminator ∧ ∃ rest, fields (data.drop 8) = .ok (value, rest) := by
  simp only [decodeAccount, bind_eq_ok, require_eq_ok, pure_eq_ok]
  constructor
  · rintro ⟨_, hdiscriminator, ⟨value', rest⟩, hfields, rfl⟩
    exact ⟨hdiscriminator, rest, hfields⟩
  · rintro ⟨hdiscriminator, rest, hfields⟩
    exact ⟨(), hdiscriminator, ⟨value, rest⟩, hfields, rfl⟩

/-- `TcapGlobalConfigV1::DISCRIMINATOR`. -/
def configDiscriminator : List Byte := [82, 213, 245, 246, 55, 110, 13, 0]

/-- `TcapGlobalConfigV1::SPACE`: one key more than the fields take. -/
def configSpace : Nat := 8 + 2 + 2 + 2 + 32 * 7 + 1 + 1 + 32 + 2 + 1 + 1

structure ConfigHead where
  (version protocolVersion minimumInstructionVersion : Nat)
  (governanceAuthority registryAuthority assetRegistry emergencyAuthority approvedTsnProgram
    proofVerifierProgram : Bytes32)
  deriving DecidableEq

structure ConfigTail where
  commitmentRootState : Bytes32
  domainVersion : Nat
  migrationState : TcapMigrationStateV1
  bump : Nat
  deriving DecidableEq

/-- The configuration of the legacy deployment, which did not serialize the flags before
the root field. -/
structure LegacyConfig extends ConfigHead, ConfigTail where
  deriving DecidableEq

/-- The fields of `TcapGlobalConfigV1`, as the bytes give them. -/
structure Config extends LegacyConfig where
  (proofVerifierEnabled paused : Bool)
  deriving DecidableEq

section Readers

def takeMigrationState : Reader DecodeError TcapMigrationStateV1 := do
  match (← takeByte .unexpectedLength).toNat with
  | 0 => pure .development
  | 1 => pure .auditRequired
  | 2 => pure .ready
  | _ => fun _ => .error .invalidValue

def takeHead : Reader DecodeError ConfigHead := do
  let version ← takeNat 2 .unexpectedLength
  let protocolVersion ← takeNat 2 .unexpectedLength
  let minimumInstructionVersion ← takeNat 2 .unexpectedLength
  let governanceAuthority ← takeWord .unexpectedLength
  let registryAuthority ← takeWord .unexpectedLength
  let assetRegistry ← takeWord .unexpectedLength
  let emergencyAuthority ← takeWord .unexpectedLength
  let approvedTsnProgram ← takeWord .unexpectedLength
  let proofVerifierProgram ← takeWord .unexpectedLength
  return ⟨version, protocolVersion, minimumInstructionVersion, governanceAuthority,
    registryAuthority, assetRegistry, emergencyAuthority, approvedTsnProgram,
    proofVerifierProgram⟩

def takeTail : Reader DecodeError ConfigTail := do
  let commitmentRootState ← takeWord .unexpectedLength
  let domainVersion ← takeNat 2 .unexpectedLength
  let migrationState ← takeMigrationState
  let bump ← takeNat 1 .unexpectedLength
  return ⟨commitmentRootState, domainVersion, migrationState, bump⟩

def takeLegacyConfig : Reader DecodeError LegacyConfig := do
  let head ← takeHead
  let tail ← takeTail
  return ⟨head, tail⟩

def takeConfig : Reader DecodeError Config := do
  let head ← takeHead
  let proofVerifierEnabled ← takeBool .invalidValue
  let paused ← takeBool .invalidValue
  let tail ← takeTail
  return ⟨⟨head, tail⟩, proofVerifierEnabled, paused⟩

def decodeConfig : List Byte → Except DecodeError Config :=
  decodeAccount configDiscriminator takeConfig

def decodeLegacyConfig : List Byte → Except DecodeError LegacyConfig :=
  decodeAccount configDiscriminator takeLegacyConfig

end Readers

section Writers

def migrationStateByte : TcapMigrationStateV1 → Byte
  | .development => 0
  | .auditRequired => 1
  | .ready => 2

def encodeHead (head : ConfigHead) : List Byte :=
  leBytes 2 head.version ++ (leBytes 2 head.protocolVersion ++
    (leBytes 2 head.minimumInstructionVersion ++ (wordBytes head.governanceAuthority ++
    (wordBytes head.registryAuthority ++ (wordBytes head.assetRegistry ++
    (wordBytes head.emergencyAuthority ++ (wordBytes head.approvedTsnProgram ++
    wordBytes head.proofVerifierProgram)))))))

def encodeTail (tail : ConfigTail) : List Byte :=
  wordBytes tail.commitmentRootState ++ (leBytes 2 tail.domainVersion ++
    ([migrationStateByte tail.migrationState] ++ leBytes 1 tail.bump))

/-- `AnchorSerialize` of `TcapGlobalConfigV1`. -/
def encodeConfig (config : Config) : List Byte :=
  encodeHead config.toConfigHead ++ ([boolByte config.proofVerifierEnabled] ++
    ([boolByte config.paused] ++ encodeTail config.toConfigTail))

def encodeLegacyConfig (config : LegacyConfig) : List Byte :=
  encodeHead config.toConfigHead ++ encodeTail config.toConfigTail

/-- The numbers of a configuration fit their fields. -/
structure Fits (config : LegacyConfig) : Prop where
  version : config.version < 256 ^ 2
  protocolVersion : config.protocolVersion < 256 ^ 2
  minimumInstructionVersion : config.minimumInstructionVersion < 256 ^ 2
  domainVersion : config.domainVersion < 256 ^ 2
  bump : config.bump < 256 ^ 1

theorem reads_takeMigrationState {state : TcapMigrationStateV1} :
    Reads takeMigrationState [migrationStateByte state] state := by
  intro rest
  cases state <;> rfl

theorem reads_takeHead {config : LegacyConfig} (hfits : Fits config) :
    Reads takeHead (encodeHead config.toConfigHead) config.toConfigHead :=
  reads_bind (reads_takeNat hfits.version) <|
  reads_bind (reads_takeNat hfits.protocolVersion) <|
  reads_bind (reads_takeNat hfits.minimumInstructionVersion) <|
  reads_bind reads_takeWord <|
  reads_bind reads_takeWord <|
  reads_bind reads_takeWord <|
  reads_bind reads_takeWord <|
  reads_bind reads_takeWord <|
  reads_bind_pure reads_takeWord

theorem reads_takeTail {config : LegacyConfig} (hfits : Fits config) :
    Reads takeTail (encodeTail config.toConfigTail) config.toConfigTail :=
  reads_bind reads_takeWord <|
  reads_bind (reads_takeNat hfits.domainVersion) <|
  reads_bind reads_takeMigrationState <|
  reads_bind_pure (reads_takeNat hfits.bump)

theorem decodeConfig_of_encode {config : Config} (hfits : Fits config.toLegacyConfig)
    (rest : List Byte) :
    decodeConfig (configDiscriminator ++ (encodeConfig config ++ rest)) = .ok config := by
  have hread : Reads takeConfig (encodeConfig config) config :=
    reads_bind (reads_takeHead hfits) <|
    reads_bind reads_takeBool <|
    reads_bind reads_takeBool <|
    reads_bind_pure (reads_takeTail hfits)
  exact decodeAccount_eq_ok.mpr ⟨rfl, rest, hread rest⟩

theorem decodeLegacyConfig_of_encode {config : LegacyConfig} (hfits : Fits config)
    (rest : List Byte) :
    decodeLegacyConfig (configDiscriminator ++ (encodeLegacyConfig config ++ rest)) =
      .ok config := by
  have hread : Reads takeLegacyConfig (encodeLegacyConfig config) config :=
    reads_bind (reads_takeHead hfits) (reads_bind_pure (reads_takeTail hfits))
  exact decodeAccount_eq_ok.mpr ⟨rfl, rest, hread rest⟩

end Writers

section Migration

def tcapProgramId : Bytes32 :=
  0x0d1db5b270ec29533703581e1b0d917164c0e8260765cf3e39c92fd9a1f54582

def tsnProgramId : Bytes32 :=
  0x06c5c758926dc361476d208de0a814537137d9da1c96c1bc8768567ca607c64a

/-- An account as the runtime keeps it. -/
structure RawAccount where
  owner : Bytes32
  lamports : Nat
  data : List Byte
  deriving DecidableEq

/-- What `find_program_address` returns for the seeds of the migration. -/
structure Derived where
  config : Bytes32
  configBump : BitVec 8
  (assetRegistry commitmentRoot : Bytes32)

structure MigrateTcapConfigLayoutV1 where
  (governance config : Bytes32)

inductive MigrationError where
  | tcap (error : TcapError)
  | decode (problem : DecodeError)
  | accountNotSigner
  | accountOwnedByWrongProgram
  | constraintSeeds
  | system
  deriving DecidableEq

/-- `Pubkey::try_from` on a slice. -/
def keyOf (bytes : List Byte) : Option Bytes32 :=
  if bytes.length = 32 then some (wordOfBytes bytes) else none

def migratedConfig (derived : Derived) (protocolVersion minimumInstructionVersion : Nat)
    (legacyGovernance emergency : Bytes32) : Config where
  version := 1
  protocolVersion := protocolVersion
  minimumInstructionVersion := minimumInstructionVersion
  governanceAuthority := legacyGovernance
  registryAuthority := legacyGovernance
  assetRegistry := derived.assetRegistry
  emergencyAuthority := emergency
  approvedTsnProgram := tsnProgramId
  proofVerifierProgram := 0
  proofVerifierEnabled := false
  paused := false
  commitmentRootState := derived.commitmentRoot
  domainVersion := 1
  migrationState := .development
  bump := derived.configBump.toNat

/-- Bring an account up to the rent of its new size, out of the account that signs. -/
def topUp (minimum : Nat) (payer account : RawAccount) :
    Except MigrationError (RawAccount × RawAccount) :=
  if account.lamports < minimum then do
    let amount := minimum - account.lamports
    require (payer.owner = 0 ∧ payer.data = [] ∧ amount ≤ payer.lamports) .system
    return ({ payer with lamports := payer.lamports - amount },
      { account with lamports := account.lamports + amount })
  else
    return (payer, account)

def migrateTcapConfigLayoutV1 (derived : Derived) (rent : Nat → Nat)
    (signers : List Bytes32) (accounts : MigrateTcapConfigLayoutV1)
    (governance config : RawAccount) :
    Except MigrationError (RawAccount × RawAccount) := do
  require (accounts.governance ∈ signers) .accountNotSigner
  require (accounts.config = derived.config) .constraintSeeds
  require (config.owner = tcapProgramId) (.tcap .invalidPda)
  let data := config.data
  require (244 ≤ data.length) (.tcap .invalidPda)
  require (data.take 8 = configDiscriminator) (.tcap .invalidPda)
  let legacyGovernance ← okOr (keyOf (between data 14 46)) (.tcap .invalidAuthority)
  require (legacyGovernance = accounts.governance) (.tcap .invalidAuthority)
  let emergency := (keyOf (between data 110 142)).getD tsnProgramId
  let migrated := migratedConfig derived (leValue (between data 10 12))
    (leValue (between data 12 14)) legacyGovernance emergency
  let encoded := encodeConfig migrated
  let (governance, config) ← topUp (rent configSpace) governance config
  let out := resize data configSpace
  let out := writeAt out 0 configDiscriminator
  return (governance, { config with data := writeAt out 8 encoded })

variable {derived : Derived} {rent : Nat → Nat} {signers : List Bytes32}
  {accounts : MigrateTcapConfigLayoutV1} {governance config : RawAccount}
  {data : List Byte}

/-- The calls a migration carries out. -/
structure Accepts (derived : Derived) (rent : Nat → Nat) (signers : List Bytes32)
    (accounts : MigrateTcapConfigLayoutV1) (governance config : RawAccount) : Prop where
  signed : accounts.governance ∈ signers
  address : accounts.config = derived.config
  owner : config.owner = tcapProgramId
  size : 244 ≤ config.data.length
  discriminator : config.data.take 8 = configDiscriminator
  governed : wordOfBytes (between config.data 14 46) = accounts.governance
  funded : config.lamports < rent configSpace → governance.owner = 0 ∧
    governance.data = [] ∧ rent configSpace - config.lamports ≤ governance.lamports

/-- What is in the account after a migration. -/
def migratedData (derived : Derived) (data : List Byte) : List Byte :=
  writeAt (writeAt (resize data configSpace) 0 configDiscriminator) 8
    (encodeConfig (migratedConfig derived (leValue (between data 10 12))
      (leValue (between data 12 14)) (wordOfBytes (between data 14 46))
      (wordOfBytes (between data 110 142))))

theorem keyOf_between {start stop : Nat} (hstop : stop ≤ data.length)
    (hsize : stop - start = 32) :
    keyOf (between data start stop) = some (wordOfBytes (between data start stop)) := by
  rw [keyOf, if_pos ((length_between hstop).trans hsize)]

theorem topUp_eq_ok {minimum : Nat} {payer account payer' account' : RawAccount} :
    topUp minimum payer account = .ok (payer', account') →
      (account.lamports < minimum → payer.owner = 0 ∧ payer.data = [] ∧
        minimum - account.lamports ≤ payer.lamports) ∧ account'.data = account.data := by
  intro hrun
  simp only [topUp] at hrun
  split at hrun
  · simp only [bind_eq_ok, require_eq_ok, pure_eq_ok, Prod.mk.injEq] at hrun
    rcases hrun with ⟨_, hfunded, -, rfl⟩
    exact ⟨fun _ => hfunded, rfl⟩
  · rename_i hrich
    simp only [pure_eq_ok, Prod.mk.injEq] at hrun
    rcases hrun with ⟨-, rfl⟩
    exact ⟨fun hpoor => absurd hpoor hrich, rfl⟩

theorem topUp_ok {minimum : Nat} {payer account : RawAccount}
    (hfunded : account.lamports < minimum → payer.owner = 0 ∧ payer.data = [] ∧
      minimum - account.lamports ≤ payer.lamports) :
    ∃ moved, topUp minimum payer account = .ok moved := by
  simp only [topUp]
  split
  · rename_i hpoor
    exact ⟨_, by rw [require, if_pos (hfunded hpoor)]; rfl⟩
  · exact ⟨_, rfl⟩

theorem migrate_eq_ok {governance' next : RawAccount}
    (hrun : migrateTcapConfigLayoutV1 derived rent signers accounts governance config =
      .ok (governance', next)) :
    Accepts derived rent signers accounts governance config ∧
      next.data = migratedData derived config.data := by
  simp only [migrateTcapConfigLayoutV1, bind_eq_ok, require_eq_ok, okOr_eq_ok,
    pure_eq_ok, Prod.mk.injEq] at hrun
  rcases hrun with ⟨_, hsigned, _, haddress, _, howner, _, hsize, _, hdiscriminator, key, hkey,
    _, hgoverned, ⟨payer, topped⟩, htopUp, -, rfl⟩
  rw [keyOf_between (by omega) rfl, Option.some.injEq] at hkey
  subst hkey
  have hemergency : keyOf (between config.data 110 142) =
      some (wordOfBytes (between config.data 110 142)) := keyOf_between (by omega) rfl
  refine ⟨⟨hsigned, haddress, howner, hsize, hdiscriminator, hgoverned,
    (topUp_eq_ok htopUp).1⟩, ?_⟩
  simp only [migratedData, hemergency, Option.getD_some]

theorem exists_migrate (haccepts : Accepts derived rent signers accounts governance config) :
    ∃ governance' next, migrateTcapConfigLayoutV1 derived rent signers accounts governance
      config = .ok (governance', next) := by
  rcases topUp_ok haccepts.funded with ⟨⟨payer, topped⟩, htopUp⟩
  have hsize := haccepts.size
  have hkey : keyOf (between config.data 14 46) = some accounts.governance := by
    rw [keyOf_between (by omega) rfl, haccepts.governed]
  suffices hrun : ∃ moved, migrateTcapConfigLayoutV1 derived rent signers accounts governance
      config = .ok moved by
    rcases hrun with ⟨⟨governance', next⟩, hrun⟩
    exact ⟨governance', next, hrun⟩
  simp only [migrateTcapConfigLayoutV1, hkey]
  exact exists_ok_seq (require_eq_ok.mpr haccepts.signed) <|
    exists_ok_seq (require_eq_ok.mpr haccepts.address) <|
    exists_ok_seq (require_eq_ok.mpr haccepts.owner) <|
    exists_ok_seq (require_eq_ok.mpr hsize) <|
    exists_ok_seq (require_eq_ok.mpr haccepts.discriminator) <|
    exists_ok_bind rfl <|
    exists_ok_seq (require_eq_ok.mpr rfl) <|
    exists_ok_bind htopUp ⟨_, rfl⟩

/-- What the migration makes of an account whose head it has read. -/
def rewritten (derived : Derived) (head : ConfigHead) : Config :=
  migratedConfig derived head.protocolVersion head.minimumInstructionVersion
    head.governanceAuthority head.emergencyAuthority

theorem takeHead_drop {head : ConfigHead} {rest : List Byte}
    (hread : takeHead (data.drop 8) = .ok (head, rest)) :
    206 ≤ data.length ∧ head.protocolVersion = leValue (between data 10 12) ∧
      head.minimumInstructionVersion = leValue (between data 12 14) ∧
      head.governanceAuthority = wordOfBytes (between data 14 46) ∧
      head.emergencyAuthority = wordOfBytes (between data 110 142) := by
  simp only [takeHead, reader_bind_eq_ok, reader_pure_eq_ok] at hread
  rcases hread with ⟨_, _, hversion, protocolVersion, _, hprotocol, minimum, _, hminimum,
    governanceAuthority, _, hgovernance, hread⟩
  rcases hread with ⟨_, _, hregistry, _, _, hassetRegistry, emergency, _, hemergency, _, _,
    htsn, _, _, hverifier, rfl, -⟩
  rcases (takeNat_drop_eq_ok (by decide)).mp hversion with ⟨-, -, rfl⟩
  rcases (takeNat_drop_eq_ok (by decide)).mp hprotocol with ⟨-, rfl, rfl⟩
  rcases (takeNat_drop_eq_ok (by decide)).mp hminimum with ⟨-, rfl, rfl⟩
  rcases takeWord_drop_eq_ok.mp hgovernance with ⟨-, rfl, rfl⟩
  rcases takeWord_drop_eq_ok.mp hregistry with ⟨-, -, rfl⟩
  rcases takeWord_drop_eq_ok.mp hassetRegistry with ⟨-, -, rfl⟩
  rcases takeWord_drop_eq_ok.mp hemergency with ⟨-, rfl, rfl⟩
  rcases takeWord_drop_eq_ok.mp htsn with ⟨-, -, rfl⟩
  rcases takeWord_drop_eq_ok.mp hverifier with ⟨hsize, -, -⟩
  exact ⟨hsize, rfl, rfl, rfl, rfl⟩

theorem fits_migratedConfig :
    Fits (migratedConfig derived (leValue (between data 10 12)) (leValue (between data 12 14))
      (wordOfBytes (between data 14 46)) (wordOfBytes (between data 110 142))).toLegacyConfig := by
  have hpair : ∀ start, leValue (between data start (start + 2)) < 256 ^ 2 := by
    intro start
    refine lt_of_lt_of_le (leValue_lt _) (Nat.pow_le_pow_right (by decide) ?_)
    rw [between, List.length_take]
    omega
  constructor
  · exact (by decide : 1 < 256 ^ 2)
  · exact hpair 10
  · exact hpair 12
  · exact (by decide : 1 < 256 ^ 2)
  · exact derived.configBump.isLt

theorem decodeConfig_migratedData :
    decodeConfig (migratedData derived data) =
      .ok (migratedConfig derived (leValue (between data 10 12)) (leValue (between data 12 14))
        (wordOfBytes (between data 14 46)) (wordOfBytes (between data 110 142))) := by
  have hwritten : ∀ rest bytes : List Byte,
      writeAt (writeAt rest 0 configDiscriminator) 8 bytes =
        configDiscriminator ++ (bytes ++
          (writeAt rest 0 configDiscriminator).drop (8 + bytes.length)) := by
    intro rest bytes
    rfl
  rw [migratedData, hwritten]
  exact decodeConfig_of_encode fits_migratedConfig _

theorem decodeConfig_migrated {head : ConfigHead} {rest : List Byte}
    (hread : takeHead (data.drop 8) = .ok (head, rest)) :
    decodeConfig (migratedData derived data) = .ok (rewritten derived head) := by
  rcases takeHead_drop hread with ⟨-, hprotocol, hminimum, hgovernance, hemergency⟩
  rw [decodeConfig_migratedData, rewritten, hprotocol, hminimum, hgovernance, hemergency]

theorem head_of_decodeConfig {fields : Config} (hdecode : decodeConfig data = .ok fields) :
    ∃ rest, takeHead (data.drop 8) = .ok (fields.toConfigHead, rest) := by
  rcases decodeAccount_eq_ok.mp hdecode with ⟨-, _, hfields⟩
  simp only [takeConfig, reader_bind_eq_ok, reader_pure_eq_ok] at hfields
  rcases hfields with ⟨head, rest, hhead, _, _, -, _, _, -, _, _, -, rfl, -⟩
  exact ⟨rest, hhead⟩

theorem head_of_decodeLegacyConfig {fields : LegacyConfig}
    (hdecode : decodeLegacyConfig data = .ok fields) :
    ∃ rest, takeHead (data.drop 8) = .ok (fields.toConfigHead, rest) := by
  rcases decodeAccount_eq_ok.mp hdecode with ⟨-, _, hfields⟩
  simp only [takeLegacyConfig, reader_bind_eq_ok, reader_pure_eq_ok] at hfields
  rcases hfields with ⟨head, rest, hhead, _, _, -, rfl, -⟩
  exact ⟨rest, hhead⟩

/-- The fields that a migration overwrites hold what it writes. -/
structure Settled (derived : Derived) (config : LegacyConfig) : Prop where
  version : config.version = 1
  registryAuthority : config.registryAuthority = config.governanceAuthority
  assetRegistry : config.assetRegistry = derived.assetRegistry
  approvedTsnProgram : config.approvedTsnProgram = tsnProgramId
  proofVerifierProgram : config.proofVerifierProgram = 0
  commitmentRootState : config.commitmentRootState = derived.commitmentRoot
  domainVersion : config.domainVersion = 1
  migrationState : config.migrationState = .development
  bump : config.bump = derived.configBump.toNat

theorem rewritten_eq_iff {fields : LegacyConfig} :
    (rewritten derived fields.toConfigHead).toLegacyConfig = fields ↔
      Settled derived fields := by
  rcases fields with ⟨⟨version, protocol, minimum, authority, registry, assets, emergency, tsn,
    verifier⟩, root, domain, state, bump⟩
  constructor
  · intro hsame
    simp only [rewritten, migratedConfig, LegacyConfig.mk.injEq, ConfigHead.mk.injEq,
      ConfigTail.mk.injEq, true_and] at hsame
    rcases hsame with ⟨⟨hversion, hregistry, hassets, htsn, hverifier⟩, hroot, hdomain,
      hstate, hbump⟩
    exact ⟨hversion.symm, hregistry.symm, hassets.symm, htsn.symm, hverifier.symm,
      hroot.symm, hdomain.symm, hstate.symm, hbump.symm⟩
  · rintro ⟨hversion, hregistry, hassets, htsn, hverifier, hroot, hdomain, hstate, hbump⟩
    dsimp only at *
    subst hversion hregistry hassets htsn hverifier hroot hdomain hstate hbump
    rfl

/-- A call that succeeds leaves an account that decodes to these fields. -/
def Leaves (derived : Derived) (rent : Nat → Nat) (signers : List Bytes32)
    (accounts : MigrateTcapConfigLayoutV1) (governance config : RawAccount)
    (holds : Config → Prop) : Prop :=
  ∀ governance' next, migrateTcapConfigLayoutV1 derived rent signers accounts governance
    config = .ok (governance', next) →
      ∃ fields, decodeConfig next.data = .ok fields ∧ holds fields

theorem leaves_iff {head : ConfigHead} {rest : List Byte} {holds : Config → Prop}
    (hread : takeHead (config.data.drop 8) = .ok (head, rest)) :
    Leaves derived rent signers accounts governance config holds ↔
      (Accepts derived rent signers accounts governance config →
        holds (rewritten derived head)) := by
  constructor
  · intro hleaves haccepts
    rcases exists_migrate haccepts with ⟨governance', next, hrun⟩
    rcases hleaves governance' next hrun with ⟨fields, hdecode, hholds⟩
    rw [(migrate_eq_ok hrun).2, decodeConfig_migrated hread] at hdecode
    cases hdecode
    exact hholds
  · intro hholds governance' next hrun
    rcases migrate_eq_ok hrun with ⟨haccepts, hdata⟩
    exact ⟨_, hdata ▸ decodeConfig_migrated hread, hholds haccepts⟩

/-- Whether the migration keeps every field of an account, in either layout: exactly when
it rejects the call or finds in place what it is about to write. -/
theorem leaves_fields_iff (derived : Derived) (rent : Nat → Nat) (signers : List Bytes32)
    (accounts : MigrateTcapConfigLayoutV1) (governance config : RawAccount) :
    (∀ current, decodeConfig config.data = .ok current →
      (Leaves derived rent signers accounts governance config (· = current) ↔
        (Accepts derived rent signers accounts governance config →
          Settled derived current.toLegacyConfig ∧ current.proofVerifierEnabled = false ∧
            current.paused = false))) ∧
    (∀ legacy, decodeLegacyConfig config.data = .ok legacy →
      (Leaves derived rent signers accounts governance config
          (fun fields => fields.toLegacyConfig = legacy) ↔
        (Accepts derived rent signers accounts governance config →
          Settled derived legacy))) := by
  constructor
  · rintro ⟨current, enabled, paused⟩ hdecode
    rcases head_of_decodeConfig hdecode with ⟨rest, hread⟩
    rw [leaves_iff hread, ← rewritten_eq_iff]
    refine imp_congr_right fun _ => ?_
    constructor
    · intro hsame
      injection hsame with hfields henabled hpaused
      exact ⟨hfields, henabled.symm, hpaused.symm⟩
    · rintro ⟨hfields, henabled, hpaused⟩
      dsimp only at hfields henabled hpaused
      subst henabled hpaused
      exact congrArg (Config.mk · false false) hfields
  · intro legacy hdecode
    rcases head_of_decodeLegacyConfig hdecode with ⟨rest, hread⟩
    rw [leaves_iff hread, rewritten_eq_iff]

end Migration

section Rerun

def governor : Bytes32 := 101
def guardian : Bytes32 := 102

def sampleDerived : Derived := ⟨11, 255, 12, 13⟩

def sampleConfig (paused : Bool) : Config :=
  { migratedConfig sampleDerived 1 2 governor guardian with paused := paused }

def sampleAccount (fields : List Byte) : RawAccount :=
  ⟨tcapProgramId, 1000, configDiscriminator ++ (fields ++ List.replicate 32 0)⟩

def sampleCall : MigrateTcapConfigLayoutV1 := ⟨governor, 11⟩

theorem fits_sampleConfig (paused : Bool) : Fits (sampleConfig paused).toLegacyConfig := by
  cases paused <;> constructor <;> decide

theorem decode_sample (paused : Bool) :
    decodeConfig (sampleAccount (encodeConfig (sampleConfig paused))).data =
      .ok (sampleConfig paused) :=
  decodeConfig_of_encode (fits_sampleConfig paused) _

theorem accepts_sample :
    Accepts sampleDerived (fun _ => 1000) [governor] sampleCall ⟨0, 0, []⟩
      (sampleAccount (encodeConfig (sampleConfig true))) where
  signed := by decide
  address := rfl
  owner := rfl
  size := by decide +kernel
  discriminator := rfl
  governed := by decide +kernel
  funded := by decide

/-- Governance runs the migration again on a configuration that is paused: it comes out
unpaused. -/
theorem not_leaves_paused :
    ¬ ∀ derived rent signers accounts governance config current,
      decodeConfig config.data = .ok current →
        Leaves derived rent signers accounts governance config (· = current) := by
  intro hclaim
  have hleaves := hclaim sampleDerived (fun _ => 1000) [governor] sampleCall ⟨0, 0, []⟩ _ _
    (decode_sample true)
  rcases head_of_decodeConfig (decode_sample true) with ⟨rest, hread⟩
  have hsame := (leaves_iff hread).mp hleaves accepts_sample
  exact absurd (congrArg Config.paused hsame) (by decide)

/-- Run again on what it wrote itself, the migration changes no field; nor does it on a
legacy account with the same fields. -/
theorem leaves_settled :
    Leaves sampleDerived (fun _ => 1000) [governor] sampleCall ⟨0, 0, []⟩
        (sampleAccount (encodeConfig (sampleConfig false))) (· = sampleConfig false) ∧
      Leaves sampleDerived (fun _ => 1000) [governor] sampleCall ⟨0, 0, []⟩
        (sampleAccount (encodeLegacyConfig (sampleConfig false).toLegacyConfig))
        (fun fields => fields.toLegacyConfig = (sampleConfig false).toLegacyConfig) := by
  have hsettled : Settled sampleDerived (sampleConfig false).toLegacyConfig :=
    ⟨rfl, rfl, rfl, rfl, rfl, rfl, rfl, rfl, rfl⟩
  constructor
  · exact ((leaves_fields_iff _ _ _ _ _ _).1 _ (decode_sample false)).mpr
      fun _ => ⟨hsettled, rfl, rfl⟩
  · exact ((leaves_fields_iff _ _ _ _ _ _).2 _
      (decodeLegacyConfig_of_encode (fits_sampleConfig false) _)).mpr fun _ => hsettled

end Rerun

end TsnProtocol.Tcap.ConfigLayout
