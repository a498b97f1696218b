import TsnProtocol.Tcap.Effects

/-!
The custody graph of an asset: how its entry, reserve, vault and mint refer to each
other. Deposits, credits and payouts each check a part of it; the custody migration
points an entry at another reserve and vault and has to leave the whole of it in place.
-/

namespace TsnProtocol.Tcap.CustodyMigration

open Lib.Checked
open Lib.FiniteStore
open Solana.Address
open Tcap.State
open Tcap.Execution
open Tcap.AssetGovernance
open Tcap.Funding
open Tcap.Tips
open Tcap.Program

variable {runtime : Runtime} {call : Call} {world next : World} {key : Pubkey}

/-- The accounts an asset entry refers to. -/
structure Custody where
  entry : TcapAssetEntryV1
  reserve : TcapReserveStateV1
  vault : TokenAccount
  mint : Mint

/-- The entry at an address points to the reserve, the vault and the mint. -/
structure Loads (world : World) (key : Pubkey) (custody : Custody) : Prop where
  entry : world.lookup key = some (.entry custody.entry)
  reserve : world.lookup custody.entry.reserveState = some (.reserve custody.reserve)
  vault : world.lookup custody.entry.futureVault = some (.token custody.vault)
  mint : world.lookup custody.entry.asset.mint = some (.mint custody.mint)

/-- What a deposit asks of the custody of its asset. -/
structure DepositLinks (key : Pubkey) (custody : Custody) : Prop where
  assetEntry : custody.reserve.assetEntry = key
  futureVault : custody.reserve.futureVault = custody.entry.futureVault
  reserveAuthority : custody.reserve.reserveAuthority = custody.entry.reserveAuthority
  vaultMint : custody.vault.mint = custody.entry.asset.mint
  vaultOwner : custody.vault.owner = custody.entry.reserveAuthority
  vaultProgram : custody.vault.program = custody.entry.asset.tokenProgram
  mintProgram : custody.mint.program = custody.entry.asset.tokenProgram
  balance : custody.reserve.actualAssets = custody.vault.amount

/-- What a credit asks of it. -/
structure CreditLinks (key : Pubkey) (custody : Custody) : Prop where
  assetEntry : custody.reserve.assetEntry = key
  solvent : ∃ liabilities, custody.reserve.totalLiabilities = some liabilities ∧
    liabilities ≤ custody.reserve.actualAssets

/-- What the payout of an exit asks of it: the reserve authority that signs is the one
derived from the entry. -/
structure PayoutLinks (runtime : Runtime) (key : Pubkey) (custody : Custody) : Prop where
  assetEntry : custody.reserve.assetEntry = key
  signerBump : custody.reserve.reserveAuthorityBump =
    runtime.bump (deriveReserveAuthority key)
  vaultOwner : custody.vault.owner = deriveReserveAuthority key
  vaultMint : custody.vault.mint = custody.entry.asset.mint
  vaultProgram : custody.vault.program = custody.mint.program

structure CustodyLinks (runtime : Runtime) (key : Pubkey) (custody : Custody) : Prop where
  deposit : DepositLinks key custody
  credit : CreditLinks key custody
  payout : PayoutLinks runtime key custody

/-- The entry at an address has a custody with every link in place. -/
def CustodyGraph (runtime : Runtime) (world : World) (key : Pubkey) : Prop :=
  ∃ custody, Loads world key custody ∧ CustodyLinks runtime key custody

section Checked

theorem programs_of_transferChecked {signers : List Pubkey}
    {program source mint destination authority : Pubkey} {amount decimals : Nat}
    (hmoved : transferChecked world signers program source mint destination authority
      amount decimals = .ok next) :
    ∃ sourceData mintData destinationData,
      world.lookup source = some (.token sourceData) ∧
      world.lookup mint = some (.mint mintData) ∧
      world.lookup destination = some (.token destinationData) ∧
      sourceData.program = program ∧ destinationData.program = program ∧
        mintData.program = program ∧ sourceData.mint = mint ∧
          sourceData.owner = authority := by
  simp only [transferChecked, bind_eq_ok, load_eq_ok, require_eq_ok, wrap_token,
    wrap_mint] at hmoved
  rcases hmoved with ⟨sourceData, hsource, mintData, hmint, destinationData, hdestination,
    _, hprograms, _, hmints, _, -, _, howner, -⟩
  exact ⟨sourceData, mintData, destinationData, hsource, hmint, hdestination,
    hprograms.1, hprograms.2.1, hprograms.2.2, hmints.1, howner.1⟩

/-- A deposit that succeeds has found its links. -/
theorem depositLinks_of_deposit {accounts : DepositAssetV2} {amount : Nat}
    (hrun : depositAssetV2 runtime call accounts amount world = .ok next) :
    ∃ custody, Loads world accounts.assetEntry custody ∧
      DepositLinks accounts.assetEntry custody := by
  simp only [depositAssetV2, bind_eq_ok, check_eq_ok] at hrun
  rcases hrun with ⟨loaded, hload, _, -, _, -, _, hprogram, _, hbalance, moved, hmoved, -⟩
  simp only [loadDepositAssetV2, bind_eq_ok, load_eq_ok, check_eq_ok, pure_eq_ok,
    wrap_reserve, wrap_token, wrap_mint] at hload
  rcases hload with ⟨_, -, _, -, entry, hentry, reserve, hreserve, _, -, vault, hvault, mint,
    hmint, hload⟩
  rcases hload with ⟨_, -, _, -, _, htokenProgram, _, hentryMint, _, -, _, -, _, -, _, -, _, -,
    _, hstate, hload⟩
  rcases hload with ⟨_, hlink, _, hfutureVault, _, hauthority, _, -, _, -, _, -, _, -, _,
    hkey, _, hvaultMint, _, howner, rfl⟩
  rcases programs_of_transferChecked hmoved with ⟨_, mintData, _, -, hmint', -, -, -,
    hmintProgram, -⟩
  have hsame : mint = mintData := by
    rw [hmint] at hmint'
    cases hmint'
    rfl
  refine ⟨⟨entry, reserve, vault, mint⟩,
    ⟨loadEntry_eq_ok hentry, hstate ▸ hreserve, hkey ▸ hvault, hentryMint ▸ hmint⟩, ?_⟩
  exact {
    assetEntry := hlink
    futureVault := hfutureVault.trans hkey
    reserveAuthority := hauthority
    vaultMint := hvaultMint.trans hentryMint.symm
    vaultOwner := howner
    vaultProgram := hprogram.trans htokenProgram.symm
    mintProgram := by rw [hsame, hmintProgram, htokenProgram]
    balance := hbalance }

/-- A credit that succeeds has found its links. -/
theorem creditLinks_of_credit {accounts : CreditGpruMemoV1} {args : CreditGpruMemoV1Args}
    (hrun : creditGpruMemoV1 runtime call accounts args world = .ok next) :
    ∃ entry reserve, world.lookup accounts.assetEntry = some (.entry entry) ∧
      world.lookup entry.reserveState = some (.reserve reserve) ∧
        ∀ vault mint, CreditLinks accounts.assetEntry ⟨entry, reserve, vault, mint⟩ := by
  simp only [creditGpruMemoV1, bind_eq_ok, load_eq_ok, check_eq_ok, okOr_eq_ok,
    wrap_reserve] at hrun
  rcases hrun with ⟨_, -, _, -, _, -, entry, hentry, reserve, hreserve, hrun⟩
  rcases hrun with ⟨_, -, _, -, _, -, _, -, _, hstate, _, hlink, _, -, _, -, _, -, _, -, _, -,
    hrun⟩
  rcases hrun with ⟨_, -, _, -, _, -, _, -, _, -, _, -, _, -, _, -, _, -, _, -, hrun⟩
  rcases hrun with ⟨_, -, _, -, _, -, liabilities, hliabilities, _, hsolvent, -⟩
  exact ⟨entry, reserve, loadEntry_eq_ok hentry, hstate ▸ hreserve,
    fun _ _ => ⟨hlink, liabilities, hliabilities, hsolvent⟩⟩

/-- A payout that succeeds has found its links. -/
theorem payoutLinks_of_payout {accounts : PayoutTcapExitV1} {owner : Pubkey}
    (hrun : payoutTcapExitV1 runtime call accounts owner world = .ok next) :
    ∃ entry reserve vault mint, world.lookup accounts.assetEntry = some (.entry entry) ∧
      world.lookup accounts.reserveState = some (.reserve reserve) ∧
      world.lookup entry.futureVault = some (.token vault) ∧
      world.lookup entry.asset.mint = some (.mint mint) ∧
        PayoutLinks runtime accounts.assetEntry ⟨entry, reserve, vault, mint⟩ := by
  simp only [payoutTcapExitV1, bind_eq_ok, load_eq_ok, check_eq_ok, seeds_eq_ok,
    wrap_reserve, wrap_token] at hrun
  rcases hrun with ⟨_, -, _, -, reserve, hreserve, entry, hentry, _, -, vault, hvault, _, -, _,
    -, hrun⟩
  rcases hrun with ⟨_, -, _, -, _, ⟨hauthority, hbump⟩, _, hlink, _, hkey, _, -, _, hmintKey,
    _, -, _, -, _, -, moved, hmoved, -⟩
  rcases programs_of_transferChecked hmoved with ⟨sourceData, mintData, _, hsource, hmint, -,
    hprogram, -, hmintProgram, hvaultMint, howner⟩
  have hsame : vault = sourceData := by
    rw [hvault] at hsource
    cases hsource
    rfl
  subst hsame
  refine ⟨entry, reserve, vault, mintData, loadEntry_eq_ok hentry, hreserve, hkey ▸ hvault,
    hmintKey ▸ hmint, ?_⟩
  exact {
    assetEntry := hlink
    signerBump := hbump
    vaultOwner := howner.trans hauthority
    vaultMint := hvaultMint.trans hmintKey
    vaultProgram := hprogram.trans hmintProgram.symm }

end Checked

/-- The target of a migration already belongs to the entry: the links that the migration
neither sets nor checks. -/
structure BelongsTo (runtime : Runtime) (accounts : MigrateAssetEntryCustodyGraphV2)
    (reserve : TcapReserveStateV1) (vault : TokenAccount) (mint : Mint) : Prop where
  assetEntry : reserve.assetEntry = accounts.assetEntry
  signerBump : reserve.reserveAuthorityBump =
    runtime.bump (deriveReserveAuthority accounts.assetEntry)
  vaultOwner : vault.owner = deriveReserveAuthority accounts.assetEntry
  vaultProgram : vault.program = accounts.tokenProgram
  mintProgram : mint.program = accounts.tokenProgram

/-- The accounts handed to a migration as its target belong to the entry. -/
def TargetBelongs (runtime : Runtime) (world : World)
    (accounts : MigrateAssetEntryCustodyGraphV2) : Prop :=
  ∃ reserve vault mint,
    world.lookup accounts.targetReserveState = some (.reserve reserve) ∧
    world.lookup accounts.targetVault = some (.token vault) ∧
    world.lookup accounts.mint = some (.mint mint) ∧
      BelongsTo runtime accounts reserve vault mint

/-- What a migration that succeeds has checked of its target, and the entry it writes. -/
structure Migrates (world next : World) (accounts : MigrateAssetEntryCustodyGraphV2)
    (custody : Custody) : Prop where
  reserve : world.lookup accounts.targetReserveState = some (.reserve custody.reserve)
  vault : world.lookup accounts.targetVault = some (.token custody.vault)
  mint : world.lookup accounts.mint = some (.mint custody.mint)
  reserveState : custody.entry.reserveState = accounts.targetReserveState
  entryVault : custody.entry.futureVault = accounts.targetVault
  entryMint : custody.entry.asset.mint = accounts.mint
  entryProgram : custody.entry.asset.tokenProgram = accounts.tokenProgram
  futureVault : custody.reserve.futureVault = custody.entry.futureVault
  reserveAuthority : custody.reserve.reserveAuthority = custody.entry.reserveAuthority
  vaultMint : custody.vault.mint = accounts.mint
  vaultOwner : custody.vault.owner = custody.entry.reserveAuthority
  balance : custody.reserve.actualAssets = custody.vault.amount
  solvent : ∃ liabilities, custody.reserve.totalLiabilities = some liabilities ∧
    liabilities ≤ custody.reserve.actualAssets
  wasEntry : ∃ old, world.lookup accounts.assetEntry = some (.entry old)
  written : next = world.insert accounts.assetEntry (.entry custody.entry)

theorem migrates_of_migrate {accounts : MigrateAssetEntryCustodyGraphV2}
    (hrun : migrateAssetEntryCustodyGraphV2 runtime call accounts world = .ok next) :
    ∃ custody, Migrates world next accounts custody := by
  simp only [migrateAssetEntryCustodyGraphV2, bind_eq_ok, load_eq_ok, check_eq_ok,
    okOr_eq_ok, pure_eq_ok, wrap_reserve, wrap_token, wrap_mint] at hrun
  rcases hrun with ⟨_, -, _, -, entry, hentry, _, -, assetState, -, _, -, _, -, reserve,
    hreserve, vault, hvault, mint, hmint, hrun⟩
  rcases hrun with ⟨_, -, _, -, _, -, _, -, _, -, _, -, _, -, _, -, _, -, _, -, _, -, hrun⟩
  rcases hrun with ⟨_, hstate, _, -, _, hfutureVault, _, hauthority, _, hkey, _, hvaultMint, _,
    howner, _, hentryMint, _, hentryProgram, hrun⟩
  rcases hrun with ⟨_, -, _, -, _, -, _, -, _, hbalance, liabilities, hliabilities, _,
    hsolvent, hwritten⟩
  let entry' := { entry with
    reserveState := assetState.reserveState
    futureVault := assetState.futureVault
    reserveAuthority := assetState.reserveAuthority }
  exact ⟨⟨entry', reserve, vault, mint⟩, {
    reserve := hreserve
    vault := hvault
    mint := hmint
    reserveState := hstate.symm
    entryVault := hkey.symm
    entryMint := hentryMint.symm
    entryProgram := hentryProgram.symm
    futureVault := hfutureVault
    reserveAuthority := hauthority
    vaultMint := hvaultMint
    vaultOwner := howner
    balance := hbalance
    solvent := ⟨liabilities, hliabilities, hsolvent⟩
    wasEntry := ⟨entry, loadEntry_eq_ok hentry⟩
    written := hwritten.symm }⟩

/-- After the migration the entry refers to the accounts it was handed. -/
theorem Migrates.loads {accounts : MigrateAssetEntryCustodyGraphV2} {custody : Custody}
    (hmigrates : Migrates world next accounts custody) :
    Loads next accounts.assetEntry custody := by
  rcases hmigrates.wasEntry with ⟨old, hold⟩
  have hkeep : ∀ {key account}, world.lookup key = some account →
      (∀ entry, account ≠ .entry entry) → next.lookup key = some account := by
    intro key account hlookup hother
    rw [hmigrates.written, lookup_insert_eq, if_neg, hlookup]
    rintro rfl
    rw [hold] at hlookup
    exact hother old (Option.some.inj hlookup).symm
  constructor
  · rw [hmigrates.written, lookup_insert_eq, if_pos rfl]
  · rw [hmigrates.reserveState]
    exact hkeep hmigrates.reserve nofun
  · rw [hmigrates.entryVault]
    exact hkeep hmigrates.vault nofun
  · rw [hmigrates.entryMint]
    exact hkeep hmigrates.mint nofun

theorem Loads.unique {first second : Custody} (hfirst : Loads world key first)
    (hsecond : Loads world key second) : first = second := by
  rcases first with ⟨entry, reserve, vault, mint⟩
  rcases second with ⟨entry', reserve', vault', mint'⟩
  have hentry : entry = entry' := by simpa using hfirst.entry.symm.trans hsecond.entry
  subst hentry
  have hreserve : reserve = reserve' := by
    simpa using hfirst.reserve.symm.trans hsecond.reserve
  have hvault : vault = vault' := by simpa using hfirst.vault.symm.trans hsecond.vault
  have hmint : mint = mint' := by simpa using hfirst.mint.symm.trans hsecond.mint
  rw [hreserve, hvault, hmint]

/-- The migration itself sees to every other link. -/
theorem Migrates.links_iff {accounts : MigrateAssetEntryCustodyGraphV2} {custody : Custody}
    (hmigrates : Migrates world next accounts custody) :
    CustodyLinks runtime accounts.assetEntry custody ↔
      BelongsTo runtime accounts custody.reserve custody.vault custody.mint := by
  constructor
  · rintro ⟨hdeposit, -, hpayout⟩
    exact {
      assetEntry := hdeposit.assetEntry
      signerBump := hpayout.signerBump
      vaultOwner := hpayout.vaultOwner
      vaultProgram := hdeposit.vaultProgram.trans hmigrates.entryProgram
      mintProgram := hdeposit.mintProgram.trans hmigrates.entryProgram }
  · intro hbelongs
    have hmint : custody.vault.mint = custody.entry.asset.mint :=
      hmigrates.vaultMint.trans hmigrates.entryMint.symm
    constructor
    · exact {
        assetEntry := hbelongs.assetEntry
        futureVault := hmigrates.futureVault
        reserveAuthority := hmigrates.reserveAuthority
        vaultMint := hmint
        vaultOwner := hmigrates.vaultOwner
        vaultProgram := hbelongs.vaultProgram.trans hmigrates.entryProgram.symm
        mintProgram := hbelongs.mintProgram.trans hmigrates.entryProgram.symm
        balance := hmigrates.balance }
    · exact ⟨hbelongs.assetEntry, hmigrates.solvent⟩
    · exact {
        assetEntry := hbelongs.assetEntry
        signerBump := hbelongs.signerBump
        vaultOwner := hbelongs.vaultOwner
        vaultMint := hmint
        vaultProgram := hbelongs.vaultProgram.trans hbelongs.mintProgram.symm }

/-- A migration leaves the whole custody graph in place exactly when its target already
belonged to the entry. -/
theorem custodyGraph_iff_of_migrate {accounts : MigrateAssetEntryCustodyGraphV2}
    (hrun : migrateAssetEntryCustodyGraphV2 runtime call accounts world = .ok next) :
    CustodyGraph runtime next accounts.assetEntry ↔ TargetBelongs runtime world accounts := by
  rcases migrates_of_migrate hrun with ⟨custody, hmigrates⟩
  constructor
  · rintro ⟨custody', hloads, hlinks⟩
    rw [hloads.unique hmigrates.loads] at hlinks
    exact ⟨custody.reserve, custody.vault, custody.mint, hmigrates.reserve, hmigrates.vault,
      hmigrates.mint, hmigrates.links_iff.mp hlinks⟩
  · rintro ⟨reserve, vault, mint, hreserve, hvault, hmint, hbelongs⟩
    have hreserve' : reserve = custody.reserve := by
      simpa using hreserve.symm.trans hmigrates.reserve
    have hvault' : vault = custody.vault := by
      simpa using hvault.symm.trans hmigrates.vault
    have hmint' : mint = custody.mint := by simpa using hmint.symm.trans hmigrates.mint
    rw [hreserve', hvault', hmint'] at hbelongs
    exact ⟨custody, hmigrates.loads, hmigrates.links_iff.mpr hbelongs⟩

section Relinking

def governor : Pubkey := .raw 101
def usdMint : Pubkey := .raw 201
def targetReserve : Pubkey := .raw 501
def targetVault : Pubkey := .raw 502

/-- An asset with empty custody and an asset state that names another reserve and vault,
which were set up for `owner`. -/
def relinkWorld (owner reserveAuthority : Pubkey) : World :=
  let entry := splEntryAddress usdMint
  let assetState := assetStateAddress splTokenProgram usdMint
  ((((((((Finmap.insert globalConfigAddress
    (Account.config ⟨1, 1, 2, governor, governor, assetRegistryAddress, governor, tsnProgram,
      Pubkey.default, false, false, commitmentRootAddress, 1, .development, 255⟩) ∅).insert
    usdMint (.mint plainMint)).insert
    entry (.entry ⟨1, 1, assetRegistryAddress, 1, ⟨splTokenProgram, usdMint, 1, 1⟩,
      deriveReserveState entry, deriveFutureVault entry, deriveReserveAuthority entry, 6, true,
      true, false, 0, 0, 0, 1, .active, .approved, false, 255⟩)).insert
    (deriveAssetGovernancePolicy entry) (.policy ⟨2, 1, assetRegistryAddress, entry, usdMint,
      splTokenProgram, .approved, .active, true, false, false, false, true, true, false, 1,
      governor, 255⟩)).insert
    (deriveReserveState entry) (.reserve ⟨⟨1, 1, Pubkey.default, entry,
      deriveFutureVault entry, deriveReserveAuthority entry, 0, 0, 0, 0, 0, 0, true, false, 255,
      255, 255⟩, 0⟩)).insert
    (deriveFutureVault entry)
      (.token ⟨splTokenProgram, usdMint, deriveReserveAuthority entry, 0⟩)).insert
    assetState (.assetState ⟨globalConfigAddress, splTokenProgram, usdMint, targetReserve,
      targetVault, reserveAuthority, 255⟩)).insert
    targetReserve (.reserve ⟨⟨1, 1, assetState, owner, targetVault, reserveAuthority, 0, 0, 0,
      0, 0, 0, true, false, 255, 255, 255⟩, 0⟩)).insert
    targetVault (.token ⟨splTokenProgram, usdMint, reserveAuthority, 0⟩)

def relinkAccounts : MigrateAssetEntryCustodyGraphV2 :=
  let entry := splEntryAddress usdMint
  ⟨governor, globalConfigAddress, entry, deriveAssetGovernancePolicy entry,
    assetStateAddress splTokenProgram usdMint, deriveReserveState entry,
    deriveFutureVault entry, targetReserve, targetVault, usdMint, splTokenProgram⟩

/-- The target reserve of the sample, as a migration finds it. -/
def relinkReserve (owner reserveAuthority : Pubkey) : TcapReserveStateV1 :=
  ⟨⟨1, 1, assetStateAddress splTokenProgram usdMint, owner, targetVault, reserveAuthority, 0,
    0, 0, 0, 0, 0, true, false, 255, 255, 255⟩, 0⟩

/-- The target reserve was set up for no entry: the migration succeeds, and no deposit,
credit or payout of the asset does afterwards. -/
theorem not_custodyGraph_of_migrate :
    ¬ ∀ runtime call world next accounts,
      migrateAssetEntryCustodyGraphV2 runtime call accounts world = .ok next →
        CustodyGraph runtime next accounts.assetEntry := by
  intro hclaim
  have hok : (migrateAssetEntryCustodyGraphV2 localRuntime ⟨[governor], 1⟩ relinkAccounts
      (relinkWorld Pubkey.default (.raw 503))).isOk = true := by
    decide +kernel
  cases hrun : migrateAssetEntryCustodyGraphV2 localRuntime ⟨[governor], 1⟩ relinkAccounts
      (relinkWorld Pubkey.default (.raw 503)) with
  | error failure =>
      rw [hrun] at hok
      cases hok
  | ok next =>
      rcases migrates_of_migrate hrun with ⟨custody, hmigrates⟩
      rcases hclaim _ _ _ _ _ hrun with ⟨custody', hloads, hlinks⟩
      rw [hloads.unique hmigrates.loads] at hlinks
      have hreserve : relinkReserve Pubkey.default (.raw 503) = custody.reserve := by
        have hlookup : (relinkWorld Pubkey.default (.raw 503)).lookup targetReserve =
            some (.reserve (relinkReserve Pubkey.default (.raw 503))) := rfl
        simpa using hlookup.symm.trans hmigrates.reserve
      have howner := hlinks.credit.assetEntry
      rw [← hreserve] at howner
      exact absurd howner (by decide)

/-- A target that was set up for the entry. -/
theorem custodyGraph_after_migrate :
    ∃ next, migrateAssetEntryCustodyGraphV2 localRuntime ⟨[governor], 1⟩ relinkAccounts
        (relinkWorld (splEntryAddress usdMint)
          (deriveReserveAuthority (splEntryAddress usdMint))) = .ok next ∧
      CustodyGraph localRuntime next (splEntryAddress usdMint) := by
  have hok : (migrateAssetEntryCustodyGraphV2 localRuntime ⟨[governor], 1⟩ relinkAccounts
      (relinkWorld (splEntryAddress usdMint)
        (deriveReserveAuthority (splEntryAddress usdMint)))).isOk = true := by
    decide +kernel
  cases hrun : migrateAssetEntryCustodyGraphV2 localRuntime ⟨[governor], 1⟩ relinkAccounts
      (relinkWorld (splEntryAddress usdMint)
        (deriveReserveAuthority (splEntryAddress usdMint))) with
  | error failure =>
      rw [hrun] at hok
      cases hok
  | ok next =>
      refine ⟨next, rfl, (custodyGraph_iff_of_migrate hrun).mpr ?_⟩
      exact ⟨relinkReserve (splEntryAddress usdMint)
          (deriveReserveAuthority (splEntryAddress usdMint)),
        ⟨splTokenProgram, usdMint, deriveReserveAuthority (splEntryAddress usdMint), 0⟩,
        plainMint, rfl, rfl, rfl, ⟨rfl, rfl, rfl, rfl, rfl⟩⟩

end Relinking

end TsnProtocol.Tcap.CustodyMigration
