import TsnProtocol.Tcap.Administration

/-!
What each instruction that moves value found and what it wrote.
-/

namespace TsnProtocol.Tcap.Effects

open Lib.Checked
open Solana.Address
open Tcap.State
open Tcap.Execution
open Tcap.Setup
open Tcap.AssetGovernance
open Tcap.Funding
open Tcap.Tips

variable {runtime : Runtime} {call : Call} {world next : World}

theorem creditOneTimeTip_eq_ok {accounts : CreditOneTimeTip}
    {args : CreditOneTimeTipArgs}
    (hstep : creditOneTimeTip runtime call accounts args world = .ok next) :
    ∃ config tip tip' entry reserve liability,
      world.lookup globalConfigAddress = some (.config config) ∧
      world.lookup accounts.currentTip = some (.oneTimeTip tip) ∧
      world.lookup accounts.assetEntry = some (.entry entry) ∧
      world.lookup accounts.reserveState = some (.reserve reserve) ∧
      world.lookup accounts.liability = some (.liability liability) ∧
      accounts.reserveState = entry.reserveState ∧
      liability.assetEntry = accounts.assetEntry ∧
      deriveTsnAuthorizationSigner config.approvedTsnProgram args.authorizationDigest ∈
        call.signers ∧
      args.amount ≤ reserve.pendingLiabilities ∧
      next = ((world.insert accounts.currentTip (.oneTimeTip tip')).insert
        accounts.reserveState (.reserve
          { reserve with
            pendingLiabilities := reserve.pendingLiabilities - args.amount
            settledConfidentialLiabilities :=
              reserve.settledConfidentialLiabilities + args.amount })).insert
        accounts.liability
          (.liability { liability with available := liability.available + args.amount }) := by
  simp only [creditOneTimeTip, bind_eq_ok, load_eq_ok, loadConfig_eq_ok, check_eq_ok,
    tsnAuthorized_eq_ok, addU64_eq_ok, subU64_eq_ok, pure_eq_ok, wrap_oneTimeTip,
    wrap_reserve, wrap_liability] at hstep
  obtain ⟨_, -, config, ⟨hconfig, hkey, -⟩, tip, htip, entry, hentry, reserve, hreserve,
    liability, hliability, hstep⟩ := hstep
  obtain ⟨_, -, _, -, _, hstate, _, -, _, hlink, _, -, _, -, _, -, _, -, _,
    ⟨hsigner, hsigned⟩, hstep⟩ := hstep
  obtain ⟨_, -, _, -, _, -, _, -, _, -, _, -, _, -, _, -, _, -, _, -, hstep⟩ := hstep
  obtain ⟨_, henough, settled, ⟨-, rfl⟩, _, -, _, -, _, -, pending, ⟨-, rfl⟩, available,
    ⟨-, rfl⟩, rfl⟩ := hstep
  refine ⟨config, tip, _, entry, reserve, liability, hkey ▸ hconfig, htip,
    loadEntry_eq_ok hentry, hreserve, hliability, hstate, hlink, ?_, henough, rfl⟩
  rw [hsigner]
  exact hsigned

theorem creditOneTimeTipTransfer_eq_ok {accounts : CreditOneTimeTip}
    {args : CreditOneTimeTipArgs}
    (hstep : creditOneTimeTipTransfer runtime call accounts args world = .ok next) :
    ∃ config tip tip' entry reserve liability,
      world.lookup globalConfigAddress = some (.config config) ∧
      world.lookup accounts.currentTip = some (.oneTimeTip tip) ∧
      world.lookup accounts.assetEntry = some (.entry entry) ∧
      world.lookup accounts.reserveState = some (.reserve reserve) ∧
      world.lookup accounts.liability = some (.liability liability) ∧
      accounts.reserveState = entry.reserveState ∧
      liability.assetEntry = accounts.assetEntry ∧
      deriveTsnAuthorizationSigner config.approvedTsnProgram args.authorizationDigest ∈
        call.signers ∧
      args.amount ≤ reserve.transferPending ∧
      next = ((world.insert accounts.liability (.liability
        { liability with available := liability.available + args.amount })).insert
        accounts.reserveState (.reserve
          { reserve with
            settledConfidentialLiabilities :=
              reserve.settledConfidentialLiabilities + args.amount
            transferPending := reserve.transferPending - args.amount })).insert
        accounts.currentTip (.oneTimeTip tip') := by
  simp only [creditOneTimeTipTransfer, bind_eq_ok, load_eq_ok, loadConfig_eq_ok,
    check_eq_ok, tsnAuthorized_eq_ok, addU64_eq_ok, subU64_eq_ok, pure_eq_ok,
    wrap_oneTimeTip, wrap_reserve, wrap_liability] at hstep
  obtain ⟨_, -, config, ⟨hconfig, hkey, -⟩, tip, htip, entry, hentry, reserve, hreserve,
    liability, hliability, hstep⟩ := hstep
  obtain ⟨_, -, _, hstate, _, -, _, hlink, _, -, _, -, _, -, _, -, _, -, _, -, _, -, _,
    ⟨hsigner, hsigned⟩, hstep⟩ := hstep
  obtain ⟨_, -, _, -, _, -, _, -, _, -, _, -, _, -, _, -, _, -, _, henough, _, -, hstep⟩ :=
    hstep
  obtain ⟨available, ⟨-, rfl⟩, settled, ⟨-, rfl⟩, pending, ⟨-, rfl⟩, _, -, _, -, rfl⟩ :=
    hstep
  refine ⟨config, tip, _, entry, reserve, liability, hkey ▸ hconfig, htip,
    loadEntry_eq_ok hentry, hreserve, hliability, hstate, hlink, ?_, henough, rfl⟩
  rw [hsigner]
  exact hsigned

theorem creditGpruMemoV1_eq_ok {accounts : CreditGpruMemoV1}
    {args : CreditGpruMemoV1Args}
    (hstep : creditGpruMemoV1 runtime call accounts args world = .ok next) :
    ∃ root root' entry reserve,
      world.lookup accounts.commitmentRoot = some (.commitmentRoot root) ∧
      world.lookup accounts.assetEntry = some (.entry entry) ∧
      world.lookup accounts.reserveState = some (.reserve reserve) ∧
      reserve.assetEntry = accounts.assetEntry ∧
      0 < args.amount ∧ args.amount ≤ reserve.pendingLiabilities ∧
      next = (world.insert accounts.commitmentRoot (.commitmentRoot root')).insert
        accounts.reserveState (.reserve
          { reserve with
            pendingLiabilities := reserve.pendingLiabilities - args.amount
            settledConfidentialLiabilities :=
              reserve.settledConfidentialLiabilities + args.amount }) := by
  simp only [creditGpruMemoV1, bind_eq_ok, load_eq_ok, check_eq_ok, addU64_eq_ok,
    subU64_eq_ok, pure_eq_ok, wrap_commitmentRoot, wrap_reserve] at hstep
  obtain ⟨_, -, config, -, root, hroot, entry, hentry, reserve, hreserve, hstep⟩ := hstep
  obtain ⟨_, -, _, -, _, -, _, -, _, -, _, hlink, _, -, _, -, _, -, _, -, _, hpositive,
    hstep⟩ := hstep
  obtain ⟨_, -, _, -, _, -, _, -, _, -, _, -, _, -, _, -, _, -, _, -, hstep⟩ := hstep
  obtain ⟨_, -, _, -, _, henough, _, -, _, -, _, -, _, -, pending, ⟨-, rfl⟩, settled,
    ⟨-, rfl⟩, rfl⟩ := hstep
  exact ⟨root, _, entry, reserve, hroot, loadEntry_eq_ok hentry, hreserve, hlink,
    hpositive, henough, rfl⟩

theorem initializeTcapTipLiabilityV2_eq_ok {accounts : InitializeTcapTipLiabilityV2}
    {initialAvailable : Nat}
    (hstep : initializeTcapTipLiabilityV2 runtime call accounts initialAvailable world =
      .ok next) :
    ∃ config entry reserve liability,
      world.lookup globalConfigAddress = some (.config config) ∧
      world.lookup accounts.assetEntry = some (.entry entry) ∧
      world.lookup accounts.reserveState = some (.reserve reserve) ∧
      world.lookup accounts.liability = none ∧
      accounts.liability =
        deriveTcapTipLiabilityV2 liability.tip liability.assetEntry ∧
      liability.assetEntry = accounts.assetEntry ∧
      liability.available = initialAvailable ∧ 0 < initialAvailable ∧
      accounts.reserveState = entry.reserveState ∧
      config.governanceAuthority ∈ call.signers ∧
      next = (world.insert accounts.liability (.liability liability)).insert
        accounts.reserveState (.reserve
          { reserve with
            settledConfidentialLiabilities :=
              reserve.settledConfidentialLiabilities + initialAvailable }) := by
  simp only [initializeTcapTipLiabilityV2, bind_eq_ok, load_eq_ok, loadConfig_eq_ok,
    signer_eq_ok, vacant_eq_ok, governed, check_eq_ok, addU64_eq_ok, pure_eq_ok,
    wrap_reserve] at hstep
  obtain ⟨_, hsigned, config, ⟨hconfig, hkey, -⟩, _, -, entry, hentry, reserve, hreserve,
    _, ⟨haddress, hfresh⟩, hstep⟩ := hstep
  obtain ⟨_, hgoverned, _, -, _, -, _, hstate, _, hpositive, settled, ⟨-, rfl⟩, _, -, rfl⟩ :=
    hstep
  exact ⟨config, entry, reserve, _, hkey ▸ hconfig, loadEntry_eq_ok hentry, hreserve, hfresh,
    haddress, rfl, rfl, hpositive, hstate, hgoverned ▸ hsigned, rfl⟩

theorem debitTcapExitV1_eq_ok {accounts : DebitTcapExitV1} {args : DebitTcapExitArgsV1}
    (hstep : debitTcapExitV1 runtime call accounts args world = .ok next) :
    ∃ tip tip' reserve liability permit,
      world.lookup accounts.currentTip = some (.oneTimeTip tip) ∧
      world.lookup accounts.reserveState = some (.reserve reserve) ∧
      world.lookup accounts.liability = some (.liability liability) ∧
      world.lookup accounts.permit = none ∧
      accounts.permit = exitPermitAddress permit.nonce ∧ permit.mint = args.mint ∧
      permit.amount = args.amount ∧ permit.consumed = false ∧
      0 < args.amount ∧ args.amount ≤ liability.available ∧
      args.amount ≤ reserve.settledConfidentialLiabilities ∧
      next = (((world.insert accounts.permit (.permit permit)).insert
        accounts.currentTip (.oneTimeTip tip')).insert
        accounts.liability (.liability
          { liability with
            available := liability.available - args.amount
            spent := liability.spent + args.amount })).insert
        accounts.reserveState (.reserve
          { reserve with
            settledConfidentialLiabilities :=
              reserve.settledConfidentialLiabilities - args.amount }) := by
  simp only [debitTcapExitV1, bind_eq_ok, load_eq_ok, vacant_eq_ok, check_eq_ok,
    addU64_eq_ok, subU64_eq_ok, pure_eq_ok, wrap_oneTimeTip, wrap_reserve,
    wrap_liability] at hstep
  obtain ⟨_, -, config, -, tip, htip, reserve, hreserve, liability, hliability, _,
    ⟨haddress, hfresh⟩, hstep⟩ := hstep
  obtain ⟨_, -, _, -, _, ⟨hpositive, -⟩, _, -, _, -, _, -, _, hspendable, hstep⟩ := hstep
  obtain ⟨available, ⟨-, rfl⟩, spent, ⟨-, rfl⟩, settled, ⟨henough, rfl⟩, rfl⟩ := hstep
  exact ⟨tip, _, reserve, liability, _, htip, hreserve, hliability, hfresh, haddress, rfl,
    rfl, rfl, hpositive, hspendable, henough, rfl⟩

/-- A transfer between two accounts, or one that changes nothing. -/
theorem transferChecked_eq_ok {signers : List Pubkey}
    {program source mint destination authority : Pubkey} {amount decimals : Nat}
    (hstep : transferChecked world signers program source mint destination authority
      amount decimals = .ok next) :
    ∃ sourceData destinationData,
      world.lookup source = some (.token sourceData) ∧
      world.lookup destination = some (.token destinationData) ∧
      sourceData.owner = authority ∧ authority ∈ signers ∧ amount ≤ sourceData.amount ∧
      (source = destination ∧ next = world ∨
        source ≠ destination ∧
        next = (world.insert source (.token
          { sourceData with amount := sourceData.amount - amount })).insert
          destination (.token
            { destinationData with amount := destinationData.amount + amount })) := by
  simp only [transferChecked, bind_eq_ok, load_eq_ok, require_eq_ok, wrap_token] at hstep
  obtain ⟨sourceData, hsource, mintData, -, destinationData, hdestination, hstep⟩ := hstep
  obtain ⟨_, -, _, -, _, -, _, ⟨howner, hsigned⟩, _, henough, hstep⟩ := hstep
  refine ⟨sourceData, destinationData, hsource, hdestination, howner, hsigned, henough, ?_⟩
  split at hstep
  · rename_i hsame
    cases hstep
    exact .inl ⟨hsame, rfl⟩
  · rename_i hdistinct
    simp only [bind_eq_ok, require_eq_ok, pure_eq_ok] at hstep
    obtain ⟨_, -, rfl⟩ := hstep
    exact .inr ⟨hdistinct, rfl⟩

/-- What both deposits do: a transfer into the vault of the asset, then a write of
its reserve with the balance the vault has after it. -/
def Deposits (call : Call) (world : World) (accounts : DepositAssetV2) (amount : Nat)
    (next : World) : Prop :=
  ∃ entry reserve vault decimals moved vault',
    world.lookup accounts.assetEntry = some (.entry entry) ∧
    world.lookup accounts.reserveState = some (.reserve reserve) ∧
    world.lookup accounts.vault = some (.token vault) ∧
    accounts.reserveState = entry.reserveState ∧ accounts.vault = entry.futureVault ∧
    accounts.depositor ∈ call.signers ∧ reserve.actualAssets = vault.amount ∧
    transferChecked world call.signers accounts.tokenProgram accounts.source
      accounts.mint accounts.vault accounts.depositor amount decimals = .ok moved ∧
    moved.lookup accounts.vault = some (.token vault') ∧
    vault'.amount = vault.amount + amount ∧
    next = moved.insert accounts.reserveState (.reserve
      { reserve with
        actualAssets := vault'.amount
        pendingLiabilities := reserve.pendingLiabilities + amount })

theorem loadDepositAssetV2_eq_ok {accounts : DepositAssetV2} {loaded : DepositAccounts}
    (hload : loadDepositAssetV2 runtime call accounts world = .ok loaded) :
    accounts.depositor ∈ call.signers ∧
      world.lookup accounts.assetEntry = some (.entry loaded.entry) ∧
      world.lookup accounts.reserveState = some (.reserve loaded.reserve) ∧
      world.lookup accounts.vault = some (.token loaded.vault) ∧
      accounts.reserveState = loaded.entry.reserveState ∧
      accounts.vault = loaded.entry.futureVault := by
  simp only [loadDepositAssetV2, bind_eq_ok, load_eq_ok, signer_eq_ok, check_eq_ok,
    pure_eq_ok, wrap_reserve, wrap_token] at hload
  obtain ⟨_, hsigned, _, -, entry, hentry, reserve, hreserve, _, -, vault, hvault, _, -,
    hload⟩ := hload
  obtain ⟨_, -, _, -, _, -, _, -, _, -, _, -, _, -, _, -, _, -, _, hstate, hload⟩ := hload
  obtain ⟨_, -, _, -, _, -, _, -, _, -, _, -, _, -, _, hkey, _, -, _, -, rfl⟩ := hload
  exact ⟨hsigned, loadEntry_eq_ok hentry, hreserve, hvault, hstate, hkey⟩

theorem depositAssetV2_eq_ok {accounts : DepositAssetV2} {amount : Nat}
    (hstep : depositAssetV2 runtime call accounts amount world = .ok next) :
    Deposits call world accounts amount next := by
  simp only [depositAssetV2, bind_eq_ok, load_eq_ok, check_eq_ok, addU64_eq_ok,
    pure_eq_ok, wrap_token] at hstep
  obtain ⟨loaded, hload, _, -, _, -, _, -, _, hactual, moved, hmoved, vault', hvault',
    hstep⟩ := hstep
  obtain ⟨expected, ⟨-, rfl⟩, _, hamount, pending, ⟨-, rfl⟩, rfl⟩ := hstep
  obtain ⟨hsigned, hentry, hreserve, hvault, hstate, hkey⟩ := loadDepositAssetV2_eq_ok hload
  exact ⟨loaded.entry, loaded.reserve, loaded.vault, loaded.mint.decimals, moved, vault',
    hentry, hreserve, hvault, hstate, hkey, hsigned, hactual, hmoved, hvault', hamount, rfl⟩

theorem depositWithFundingCommitmentV2_eq_ok {accounts : DepositWithFundingCommitmentV2}
    {args : DepositWithFundingCommitmentArgsV2}
    (hstep : depositWithFundingCommitmentV2 runtime call accounts args world = .ok next) :
    ∃ funded claim root nonce,
      Deposits call world accounts.toDepositAssetV2 args.amount funded ∧
      accounts.fundingClaim =
        deriveFundingClaim accounts.assetEntry args.fundingIdentifier ∧
      accounts.fundingRoot = deriveFundingRoot accounts.assetEntry ∧
      accounts.fundingNonce =
        deriveFundingAuthorizationNonce accounts.assetEntry accounts.depositor ∧
      world.lookup accounts.fundingClaim = none ∧
      (world.lookup accounts.fundingRoot = none ∨
        ∃ old, world.lookup accounts.fundingRoot = some (.fundingRoot old)) ∧
      (world.lookup accounts.fundingNonce = none ∨
        ∃ old, world.lookup accounts.fundingNonce = some (.fundingNonce old)) ∧
      next = ((funded.insert accounts.fundingClaim (.fundingClaim claim)).insert
        accounts.fundingRoot (.fundingRoot root)).insert
        accounts.fundingNonce (.fundingNonce nonce) := by
  simp only [depositWithFundingCommitmentV2, bind_eq_ok, load_eq_ok, loadOrInit_eq_ok,
    vacant_eq_ok, check_eq_ok, addU64_eq_ok, nextReserveFundingAccounting, pure_eq_ok,
    wrap_token, wrap_fundingRoot, wrap_fundingNonce] at hstep
  obtain ⟨loaded, hload, _, -, _, -, _, -, _, -, root, ⟨hrootKey, hroot⟩, _,
    ⟨hclaimKey, hclaim⟩, nonce, ⟨hnonceKey, hnonce⟩, hstep⟩ := hstep
  obtain ⟨_, -, _, -, _, -, _, -, _, -, mode, -, _, -, _, -, _, -, _, hactual, hstep⟩ :=
    hstep
  obtain ⟨_, -, _, -, _, -, nextNonce, -, ⟨newActual, newPending⟩, hnext, hstep⟩ := hstep
  obtain ⟨⟨previous, starting⟩, -, sequence, -, moved, hmoved, vault', hvault', hstep⟩ :=
    hstep
  obtain ⟨expected, ⟨-, rfl⟩, _, ⟨-, hamount⟩, rfl⟩ := hstep
  obtain ⟨actual, ⟨-, rfl⟩, pending, ⟨-, rfl⟩, _, -, hpair⟩ := hnext
  obtain ⟨-, rfl⟩ := Prod.mk.inj hpair
  obtain ⟨hsigned, hentry, hreserve, hvault, hstate, hkey⟩ := loadDepositAssetV2_eq_ok hload
  refine ⟨_, _, _, _, ⟨loaded.entry, loaded.reserve, loaded.vault, loaded.mint.decimals,
    moved, vault', hentry, hreserve, hvault, hstate, hkey, hsigned, hactual, hmoved, hvault',
    hamount, rfl⟩, hclaimKey, hrootKey, hnonceKey, hclaim, ?_, ?_, rfl⟩
  · exact hroot.imp And.left fun hold => ⟨root, hold⟩
  · exact hnonce.imp And.left fun hold => ⟨nonce, hold⟩

theorem payoutTcapExitV1_eq_ok {accounts : PayoutTcapExitV1} {destinationOwner : Pubkey}
    (hstep : payoutTcapExitV1 runtime call accounts destinationOwner world = .ok next) :
    ∃ entry reserve permit vault decimals moved,
      world.lookup accounts.assetEntry = some (.entry entry) ∧
      world.lookup accounts.reserveState = some (.reserve reserve) ∧
      world.lookup accounts.permit = some (.permit permit) ∧
      world.lookup accounts.vault = some (.token vault) ∧
      reserve.assetEntry = accounts.assetEntry ∧ accounts.vault = entry.futureVault ∧
      permit.consumed = false ∧ permit.mint = entry.asset.mint ∧
      permit.amount ≤ vault.amount ∧
      transferChecked world (accounts.reserveAuthority :: call.signers)
        accounts.tokenProgram accounts.vault accounts.mint accounts.destination
        accounts.reserveAuthority permit.amount decimals = .ok moved ∧
      next = (moved.insert accounts.reserveState (.reserve
        { reserve with actualAssets := vault.amount - permit.amount })).insert
        accounts.permit (.permit { permit with consumed := true }) := by
  simp only [payoutTcapExitV1, bind_eq_ok, load_eq_ok, check_eq_ok, subU64_eq_ok,
    pure_eq_ok, wrap_reserve, wrap_permit, wrap_token] at hstep
  obtain ⟨_, -, _, -, reserve, hreserve, entry, hentry, permit, hpermit, vault, hvault, _,
    -, mint, -, hstep⟩ := hstep
  obtain ⟨_, -, _, hunconsumed, _, -, _, hlink, _, hkey, _, -, _, -, _, -, _, hmint, _, -,
    moved, hmoved, actual, ⟨henough, rfl⟩, rfl⟩ := hstep
  exact ⟨entry, reserve, permit, vault, mint.decimals, moved, loadEntry_eq_ok hentry,
    hreserve, hpermit, hvault, hlink, hkey, hunconsumed, hmint, henough, hmoved, rfl⟩

theorem syncGovernedAssetInfrastructureV2_eq_ok
    {accounts : SyncGovernedAssetInfrastructureV2}
    (hstep : syncGovernedAssetInfrastructureV2 runtime call accounts world = .ok next) :
    ∃ entry policy reserve vault policy',
      world.lookup accounts.assetEntry = some (.entry entry) ∧
      world.lookup accounts.governancePolicy = some (.policy policy) ∧
      world.lookup accounts.reserveState = some (.reserve reserve) ∧
      world.lookup accounts.vault = some (.token vault) ∧
      reserve.assetEntry = accounts.assetEntry ∧ accounts.vault = entry.futureVault ∧
      reserve.actualAssets ≤ vault.amount ∧
      next = (world.insert accounts.reserveState (.reserve
        { reserve with actualAssets := vault.amount })).insert
        accounts.governancePolicy (.policy policy') := by
  simp only [syncGovernedAssetInfrastructureV2, bind_eq_ok, load_eq_ok, check_eq_ok,
    reconcileDonatedVaultAssets, pure_eq_ok, wrap_reserve, wrap_token] at hstep
  obtain ⟨_, -, _, -, entry, hentry, policy, hpolicy, _, -, reserve, hreserve, mint, -, vault,
    hvault, hstep⟩ := hstep
  obtain ⟨_, -, _, -, _, -, _, -, _, -, _, hlink, _, -, _, -, _, -, _, hkey, hstep⟩ := hstep
  obtain ⟨_, -, _, -, _, -, _, -, _, -, _, -, _, -, _, ⟨_, henough, _, -, rfl⟩, rfl⟩ := hstep
  exact ⟨entry, policy, reserve, vault, _, loadEntry_eq_ok hentry, loadPolicy_eq_ok hpolicy,
    hreserve, hvault, hlink, hkey, henough, rfl⟩

theorem registerGovernedAssetV2_eq_ok {accounts : RegisterGovernedAssetV2}
    {args : RegisterGovernedAssetArgsV2}
    (hstep : registerGovernedAssetV2 runtime call accounts args world = .ok next) :
    ∃ registry mint entry policy extensionPolicy registry',
      world.lookup accounts.registry = some (.registry registry) ∧
      world.lookup accounts.mint = some (.mint mint) ∧
      mint.program = accounts.tokenProgram ∧
      accounts.registry = assetRegistryAddress ∧
      accounts.assetEntry =
        assetEntryAddress accounts.registry accounts.tokenProgram accounts.mint ∧
      accounts.governancePolicy = deriveAssetGovernancePolicy accounts.assetEntry ∧
      accounts.extensionPolicy = deriveAssetExtensionPolicy accounts.assetEntry ∧
      world.lookup accounts.assetEntry = none ∧
      world.lookup accounts.governancePolicy = none ∧
      world.lookup accounts.extensionPolicy = none ∧
      entry.registry = accounts.registry ∧
      entry.asset.tokenProgram = accounts.tokenProgram ∧
      entry.asset.mint = accounts.mint ∧
      entry.reserveState = deriveReserveState accounts.assetEntry ∧
      entry.futureVault = deriveFutureVault accounts.assetEntry ∧
      entry.reserveAuthority = deriveReserveAuthority accounts.assetEntry ∧
      next = (((world.insert accounts.assetEntry (.entry entry)).insert
        accounts.governancePolicy (.policy policy)).insert
        accounts.extensionPolicy (.extensionPolicy extensionPolicy)).insert
        accounts.registry (.registry registry') := by
  simp only [registerGovernedAssetV2, bind_eq_ok, load_eq_ok, vacant_eq_ok, check_eq_ok,
    validateTokenProgram, pure_eq_ok, wrap_mint] at hstep
  obtain ⟨_, -, _, -, registry, hregistry, mint, hmint, _, -, _, ⟨hentryKey, hentry⟩, _,
    ⟨hpolicyKey, hpolicy⟩, _, ⟨hextensionKey, hextension⟩, hstep⟩ := hstep
  obtain ⟨_, -, _, -, _, -, _, -, _, -, _, -, _, -, _, ⟨_, hprogram, -⟩, _, -, _, -, hstep⟩ :=
    hstep
  obtain ⟨inspection, -, _, -, count, -, rfl⟩ := hstep
  obtain ⟨hregistry, haddress⟩ := loadRegistry_eq_ok hregistry
  exact ⟨registry, mint, _, _, _, _, hregistry, hmint, hprogram, haddress, hentryKey,
    hpolicyKey, hextensionKey, hentry, hpolicy, hextension, rfl, rfl, rfl, rfl, rfl, rfl, rfl⟩

end TsnProtocol.Tcap.Effects
