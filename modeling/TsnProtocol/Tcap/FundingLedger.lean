import TsnProtocol.Tcap.TipWrites
import TsnProtocol.Tcap.Solvency

/-!
The funding ledger of an asset. Every committed deposit appends one claim to it: the claims
are numbered without a gap, the stored root is the chain over them, the nonce of a depositor
counts the claims it made, and the reserve rises by what they fund.
-/

namespace TsnProtocol.Tcap.FundingLedger

open Lib.Checked
open Lib.Transition
open Solana.Address
open Tcap.State
open Tcap.Execution
open Tcap.Setup
open Tcap.Funding
open Tcap.Program
open Tcap.Effects
open Tcap.Frames
open Tcap.Persistence
open Tcap.TipWrites

variable {runtime : Runtime} {call : Call} {world next start : World} {asset : Pubkey}

abbrev roots (world : World) : Pubkey → Option FundingRootV1 :=
  records FundingRootV1 world

abbrev fundingClaims (world : World) : Pubkey → Option FundingClaimV1 :=
  records FundingClaimV1 world

abbrev nonces (world : World) : Pubkey → Option FundingAuthorizationNonceV1 :=
  records FundingAuthorizationNonceV1 world

abbrev reserves (world : World) : Pubkey → Option TcapReserveStateV1 :=
  records TcapReserveStateV1 world

/-- The domain that funding claims are made in. -/
def fundingDomain (runtime : Runtime) (world : World) : Bytes32 :=
  match records TcapGlobalConfigV1 world globalConfigAddress with
  | none => 0
  | some config =>
      fundingDomainSeparatorV3 runtime config.protocolVersion config.domainVersion 0

/-- Root and sequence the next claim of an asset continues. -/
def head (runtime : Runtime) (asset : Pubkey) (world : World) : Bytes32 × Nat :=
  match roots world (deriveFundingRoot asset) with
  | none => (emptyFundingRoot runtime (fundingDomain runtime world) asset, 0)
  | some root => (root.currentRoot, root.sequence)

/-- Nonce the next claim of a depositor has to name. -/
def nextNonce (world : World) (asset depositor : Pubkey) : Nat :=
  match nonces world (deriveFundingAuthorizationNonce asset depositor) with
  | none => 0
  | some nonce => nonce.nextNonce

/-- The reserve of an asset, when entry and reserve name each other. -/
def reserveOf (world : World) (asset : Pubkey) : Option TcapReserveStateV1 := do
  let entry ← records TcapAssetEntryV1 world asset
  let reserve ← reserves world entry.reserveState
  if reserve.assetEntry = asset then some reserve else none

/-- A reserve after a committed deposit. -/
def fundedReserve (reserve : TcapReserveStateV1) (amount : Nat) : TcapReserveStateV1 :=
  { reserve with
    actualAssets := reserve.actualAssets + amount
    pendingLiabilities := reserve.pendingLiabilities + amount }

section Writes

variable {α : Type} [AccountData α]

/-- A transfer is not seen by the accounts of another layout. -/
theorem records_of_transfer {signers : List Pubkey}
    {program source mint destination authority : Pubkey} {amount decimals : Nat}
    (hview : ∀ token, (AccountData.view (.token token) : Option α) = none)
    (htransfer : transferChecked world signers program source mint destination authority
      amount decimals = .ok next) :
    records α next = records α world := by
  obtain ⟨_, _, hsource, hdestination, -, -, -, ⟨-, rfl⟩ | ⟨-, rfl⟩⟩ :=
    transferChecked_eq_ok htransfer
  · rfl
  · exact records_insert_unseen
      (records_insert_unseen rfl (records_eq_none hsource (hview _)) (hview _))
      (records_eq_none hdestination (hview _)) (hview _)

theorem records_of_loadOrInit {β : Type} [AccountData β] {key address : Pubkey}
    {zeroed data : β} (hload : loadOrInit world key address zeroed = .ok data)
    (hview : ∀ data : β, (AccountData.view (wrap data) : Option α) = none) :
    records α world key = none := by
  obtain ⟨-, ⟨hvacant, -⟩ | hstored⟩ := loadOrInit_eq_ok.mp hload
  · exact records_eq_none_of_vacant hvacant
  · exact records_eq_none hstored (hview data)

end Writes

section Addresses

theorem deriveFundingClaim_inj {identifier identifier' : Bytes32} {asset' : Pubkey} :
    deriveFundingClaim asset identifier = deriveFundingClaim asset' identifier' ↔
      asset = asset' ∧ identifier = identifier' := by
  simp [deriveFundingClaim, findProgramAddress]

theorem deriveFundingRoot_inj {asset' : Pubkey} :
    deriveFundingRoot asset = deriveFundingRoot asset' ↔ asset = asset' := by
  simp [deriveFundingRoot, findProgramAddress]

theorem deriveFundingAuthorizationNonce_inj {asset' depositor depositor' : Pubkey} :
    deriveFundingAuthorizationNonce asset depositor =
        deriveFundingAuthorizationNonce asset' depositor' ↔
      asset = asset' ∧ depositor = depositor' := by
  simp [deriveFundingAuthorizationNonce, findProgramAddress]

end Addresses

/-- The root of an asset, once stored, is not read as an empty one. -/
def Versioned (world : World) (asset : Pubkey) : Prop :=
  ∀ root, roots world (deriveFundingRoot asset) = some root → root.version ≠ 0

/-- What a committed deposit finds, and the claim, root, nonce and reserve it leaves. -/
structure Funds (runtime : Runtime) (accounts : DepositWithFundingCommitmentV2)
    (args : DepositWithFundingCommitmentArgsV2) (world next : World)
    (claim : FundingClaimV1) (root : FundingRootV1) (nonce : FundingAuthorizationNonceV1)
    (entry : TcapAssetEntryV1) (reserve : TcapReserveStateV1) : Prop where
  vacant : fundingClaims world accounts.fundingClaim = none
  address : accounts.fundingClaim =
    deriveFundingClaim accounts.assetEntry claim.fundingIdentifier
  rootAddress : accounts.fundingRoot = deriveFundingRoot accounts.assetEntry
  nonceAddress : accounts.fundingNonce =
    deriveFundingAuthorizationNonce accounts.assetEntry accounts.depositor
  reserveAddress : accounts.reserveState = entry.reserveState
  asset : claim.assetEntry = accounts.assetEntry
  amount : claim.amount = args.amount
  sequence : Versioned world accounts.assetEntry →
    claim.fundingRootSequence = (head runtime accounts.assetEntry world).2 + 1
  chained : Versioned world accounts.assetEntry →
    root.currentRoot = nextFundingRoot runtime (fundingDomain runtime world)
      (head runtime accounts.assetEntry world).1 claim.fundingCommitment
      claim.fundingRootSequence
  numbered : root.sequence = claim.fundingRootSequence
  versioned : root.version ≠ 0
  counted : nonce.nextNonce = nextNonce world accounts.assetEntry accounts.depositor + 1
  entryAt : records TcapAssetEntryV1 world accounts.assetEntry = some entry
  reserveAt : reserves world accounts.reserveState = some reserve
  backed : reserve.assetEntry = accounts.assetEntry
  claims_eq : fundingClaims next =
    Function.update (fundingClaims world) accounts.fundingClaim (some claim)
  roots_eq : roots next = Function.update (roots world) accounts.fundingRoot (some root)
  nonces_eq : nonces next =
    Function.update (nonces world) accounts.fundingNonce (some nonce)
  reserves_eq : reserves next = Function.update (reserves world) accounts.reserveState
    (some (fundedReserve reserve args.amount))

theorem loadDepositAssetV2_reserve {accounts : DepositAssetV2} {loaded : DepositAccounts}
    (hload : loadDepositAssetV2 runtime call accounts world = .ok loaded) :
    world.lookup globalConfigAddress = some (.config loaded.config) ∧
      loaded.reserve.assetEntry = accounts.assetEntry := by
  simp only [loadDepositAssetV2, bind_eq_ok, loadConfig_eq_ok, load_eq_ok, check_eq_ok,
    pure_eq_ok] at hload
  obtain ⟨_, -, config, ⟨hconfig, hconfigKey, -⟩, entry, -, reserve, -, source, -, vault, -,
    mint, -, hload⟩ := hload
  obtain ⟨_, -, _, -, _, -, _, -, _, -, _, -, _, -, _, -, _, -, _, -, _, hreserve, hload⟩ :=
    hload
  obtain ⟨_, -, _, -, _, -, _, -, _, -, _, -, _, -, _, -, _, -, rfl⟩ := hload
  exact ⟨hconfigKey.symm ▸ hconfig, hreserve⟩

/-- A stored root is continued by the next claim. -/
theorem head_of_startingFunding {root : FundingRootV1} {config : TcapGlobalConfigV1}
    {zeroed : FundingRootV1} {continued : Bytes32 × Nat} (hzeroed : zeroed.version = 0)
    (hversioned : Versioned world asset)
    (hroot : loadOrInit world (deriveFundingRoot asset) (deriveFundingRoot asset) zeroed =
      .ok root)
    (hstart : startingFunding runtime root config (fundingDomain runtime world) asset =
      .ok continued) :
    continued = head runtime asset world := by
  obtain ⟨-, ⟨hvacant, rfl⟩ | hstored⟩ := loadOrInit_eq_ok.mp hroot
  · rw [startingFunding, if_pos hzeroed] at hstart
    cases hstart
    rw [head, roots, records_eq_none_of_vacant hvacant]
  · have hsome : roots world (deriveFundingRoot asset) = some root :=
      records_eq_some.mpr hstored
    rw [startingFunding, if_neg (hversioned root hsome)] at hstart
    simp only [bind_eq_ok, check_eq_ok, pure_eq_ok] at hstart
    obtain ⟨_, -, rfl⟩ := hstart
    rw [head, hsome]

theorem nextNonce_of_loadOrInit {depositor : Pubkey}
    {nonce zeroed : FundingAuthorizationNonceV1} (hzeroed : zeroed.nextNonce = 0)
    (hnonce : loadOrInit world (deriveFundingAuthorizationNonce asset depositor)
      (deriveFundingAuthorizationNonce asset depositor) zeroed = .ok nonce) :
    nonce.nextNonce = nextNonce world asset depositor := by
  obtain ⟨-, ⟨hvacant, rfl⟩ | hstored⟩ := loadOrInit_eq_ok.mp hnonce
  · rw [nextNonce, nonces, records_eq_none_of_vacant hvacant, hzeroed]
  · rw [nextNonce, nonces, records_eq_some.mpr hstored]

/-- The four ledgers after the writes of a committed deposit. -/
theorem records_of_funding {moved : World} {reserveKey claimKey rootKey nonceKey : Pubkey}
    {old reserve : TcapReserveStateV1} {claim : FundingClaimV1} {root : FundingRootV1}
    {nonce : FundingAuthorizationNonceV1}
    (hmoved : ∀ (α : Type) [AccountData α],
      (∀ token, (AccountData.view (.token token) : Option α) = none) →
        records α moved = records α world)
    (hreserve : world.lookup reserveKey = some (.reserve old))
    (hfresh : world.lookup claimKey = none)
    (hroot : ∀ (α : Type) [AccountData α],
      (∀ root, (AccountData.view (.fundingRoot root) : Option α) = none) →
        records α world rootKey = none)
    (hnonce : ∀ (α : Type) [AccountData α],
      (∀ nonce, (AccountData.view (.fundingNonce nonce) : Option α) = none) →
        records α world nonceKey = none)
    (hdistinct : rootKey ≠ claimKey ∧ nonceKey ≠ claimKey ∧ nonceKey ≠ rootKey)
    (hnext : next = (((moved.insert reserveKey (.reserve reserve)).insert
      claimKey (.fundingClaim claim)).insert rootKey (.fundingRoot root)).insert
      nonceKey (.fundingNonce nonce)) :
    fundingClaims next = Function.update (fundingClaims world) claimKey (some claim) ∧
      roots next = Function.update (roots world) rootKey (some root) ∧
      nonces next = Function.update (nonces world) nonceKey (some nonce) ∧
      reserves next = Function.update (reserves world) reserveKey (some reserve) := by
  obtain ⟨hrootClaim, hnonceClaim, hnonceRoot⟩ := hdistinct
  subst hnext
  refine ⟨?_, ?_, ?_, ?_⟩
  · refine records_insert_beside (records_insert_beside (records_insert_seen
      (records_insert_unseen (hmoved _ fun _ => rfl) (records_eq_none hreserve rfl) rfl))
      hrootClaim (hroot _ fun _ => rfl) rfl) hnonceClaim (hnonce _ fun _ => rfl) rfl
  · refine records_insert_beside (records_insert_seen (records_insert_unseen
      (records_insert_unseen (hmoved _ fun _ => rfl) (records_eq_none hreserve rfl) rfl)
      (records_eq_none_of_vacant hfresh) rfl)) hnonceRoot (hnonce _ fun _ => rfl) rfl
  · refine records_insert_seen (records_insert_unseen (records_insert_unseen
      (records_insert_unseen (hmoved _ fun _ => rfl) (records_eq_none hreserve rfl) rfl)
      (records_eq_none_of_vacant hfresh) rfl) (hroot _ fun _ => rfl) rfl)
  · have hstored : reserves world reserveKey = some old := records_eq_some.mpr hreserve
    have hbeside : ∀ {key : Pubkey}, reserves world key = none → key ≠ reserveKey :=
      fun hnone => ne_of_records hnone hstored
    have hclaimNone : reserves world claimKey = none := records_eq_none_of_vacant hfresh
    have hrootNone : reserves world rootKey = none := hroot _ fun _ => rfl
    have hnonceNone : reserves world nonceKey = none := hnonce _ fun _ => rfl
    exact records_insert_beside (records_insert_beside (records_insert_beside
      (records_insert_seen (hmoved _ fun _ => rfl)) (hbeside hclaimNone) hclaimNone rfl)
      (hbeside hrootNone) hrootNone rfl) (hbeside hnonceNone) hnonceNone rfl

theorem depositWithFundingCommitmentV2_funds {accounts : DepositWithFundingCommitmentV2}
    {args : DepositWithFundingCommitmentArgsV2}
    (hstep : depositWithFundingCommitmentV2 runtime call accounts args world = .ok next) :
    ∃ claim root nonce entry reserve,
      Funds runtime accounts args world next claim root nonce entry reserve := by
  simp only [depositWithFundingCommitmentV2, bind_eq_ok, load_eq_ok, vacant_eq_ok,
    check_eq_ok, addU64_eq_ok, nextReserveFundingAccounting, nextFundingSequence,
    validateAndAdvanceFundingNonce, pure_eq_ok, wrap_token] at hstep
  obtain ⟨loaded, hload, _, -, _, -, _, -, _, -, root, hroot, _, ⟨hclaimKey, hfresh⟩, nonce,
    hnonce, hstep⟩ := hstep
  obtain ⟨_, -, _, -, _, -, _, -, _, -, mode, -, _, -, _, -, _, -, _, hactual, hstep⟩ := hstep
  obtain ⟨_, -, _, -, _, -, _, ⟨_, hadvance, -, rfl⟩, ⟨newActual, newPending⟩, hnext, hstep⟩ :=
    hstep
  obtain ⟨⟨previous, starting⟩, hstart, sequence, ⟨-, rfl⟩, moved, hmoved, vault', hvault',
    hstep⟩ := hstep
  obtain ⟨expected, ⟨-, rfl⟩, _, ⟨-, hamount⟩, rfl⟩ := hstep
  obtain ⟨actual, ⟨-, rfl⟩, pending, ⟨-, rfl⟩, _, -, hpair⟩ := hnext
  obtain ⟨rfl, rfl⟩ := Prod.mk.inj hpair
  obtain ⟨hsigned, hentry, hreserve, hvault, hstate, hkey⟩ := loadDepositAssetV2_eq_ok hload
  obtain ⟨hconfig, hbacked⟩ := loadDepositAssetV2_reserve hload
  obtain ⟨hrootKey, -⟩ := loadOrInit_eq_ok.mp hroot
  obtain ⟨hnonceKey, -⟩ := loadOrInit_eq_ok.mp hnonce
  have hdomain : fundingDomainSeparatorV3 runtime loaded.config.protocolVersion
      loaded.config.domainVersion 0 = fundingDomain runtime world := by
    rw [fundingDomain, records_eq_some.mpr hconfig]
  rw [hdomain] at hstart
  have hrootNone := fun (α : Type) [AccountData α] hview =>
    @records_of_loadOrInit world α _ _ _ _ _ _ _ hroot hview
  have hnonceNone := fun (α : Type) [AccountData α] hview =>
    @records_of_loadOrInit world α _ _ _ _ _ _ _ hnonce hview
  obtain ⟨hclaims, hroots, hnonces, hreserves⟩ := records_of_funding
    (fun α _ hview => records_of_transfer hview hmoved) hreserve hfresh hrootNone hnonceNone
    (by simp [hrootKey, hnonceKey, hclaimKey, deriveFundingRoot, deriveFundingClaim,
      deriveFundingAuthorizationNonce, findProgramAddress]) rfl
  rw [hrootKey] at hroot
  rw [hnonceKey] at hnonce
  have hhead := fun hversioned => head_of_startingFunding rfl hversioned hroot hstart
  have hcount := nextNonce_of_loadOrInit rfl hnonce
  refine ⟨_, _, _, loaded.entry, loaded.reserve, ⟨?_, hclaimKey, hrootKey, hnonceKey, hstate,
    rfl, rfl, ?_, ?_, ?_, ?_, ?_, ?_, ?_, hbacked, hclaims, hroots, hnonces, ?_⟩⟩
  · exact records_eq_none_of_vacant hfresh
  · intro hversioned
    rw [← hhead hversioned]
  · intro hversioned
    rw [← hhead hversioned, hdomain]
  · rfl
  · exact Nat.one_ne_zero
  · exact congrArg (· + 1) hcount
  · exact records_eq_some.mpr hentry
  · exact records_eq_some.mpr hreserve
  · rw [hreserves, hamount, ← hactual]
    rfl

section Runs

/-- The layouts the funding ledger is read from. -/
def ledgerKinds : List AccountKind :=
  [.config, .entry, .reserve, .fundingRoot, .fundingClaim, .fundingNonce]

/-- A committed deposit, or a step that writes nothing of the ledger. -/
def OnFunding : Step → Prop
  | .tcap _ (.depositWithFundingCommitmentV2 _ _) => True
  | input => ¬ StepMovesLayout input ∧ ∀ kind ∈ ledgerKinds, kind ∉ stepWrites input

/-- The claim a step makes on an asset, with the depositor it is made for. -/
def fundedBy (runtime : Runtime) (asset : Pubkey) (entry : World × Step) :
    Option (Pubkey × FundingClaimV1) :=
  match entry.2 with
  | .tcap call (.depositWithFundingCommitmentV2 accounts args) =>
      if accounts.assetEntry = asset then
        match depositWithFundingCommitmentV2 runtime call accounts args entry.1 with
        | .error _ => none
        | .ok next =>
            (fundingClaims next accounts.fundingClaim).map (accounts.depositor, ·)
      else none
  | _ => none

/-- The claims a run made on an asset, oldest first. -/
def claimsOf (runtime : Runtime) (asset : Pubkey) (history : List (World × Step)) :
    List (Pubkey × FundingClaimV1) :=
  (history.filterMap (fundedBy runtime asset)).reverse

/-- The root after one more claim. -/
def extendRoot (runtime : Runtime) (domain root : Bytes32) (claim : FundingClaimV1) :
    Bytes32 :=
  nextFundingRoot runtime domain root claim.fundingCommitment claim.fundingRootSequence

/-- Nobody has funded the asset yet. -/
structure Unfunded (world : World) (asset : Pubkey) : Prop where
  root : roots world (deriveFundingRoot asset) = none
  nonce : ∀ depositor,
    nonces world (deriveFundingAuthorizationNonce asset depositor) = none
  claim : ∀ key claim, fundingClaims world key = some claim → claim.assetEntry ≠ asset

/-- The ledger of an asset holds exactly the given claims, in their order. -/
structure Journal (runtime : Runtime) (asset : Pubkey) (world : World)
    (claims : List (Pubkey × FundingClaimV1)) : Prop where
  numbered : claims.map (fun claim => claim.2.fundingRootSequence) =
    List.range' 1 claims.length
  chained : head runtime asset world =
    ((claims.map Prod.snd).foldl (extendRoot runtime (fundingDomain runtime world))
      (emptyFundingRoot runtime (fundingDomain runtime world) asset), claims.length)
  counted : ∀ depositor, nextNonce world asset depositor =
    claims.countP fun claim => claim.1 = depositor
  distinct : (claims.map fun claim => claim.2.fundingIdentifier).Nodup
  stored : ∀ key claim, fundingClaims world key = some claim ∧ claim.assetEntry = asset ↔
    claim ∈ claims.map Prod.snd ∧ key = deriveFundingClaim asset claim.fundingIdentifier
  versioned : Versioned world asset

theorem journal_nil (runtime : Runtime) (hunfunded : Unfunded world asset) :
    Journal runtime asset world [] where
  numbered := rfl
  chained := by
    rw [head, hunfunded.root]
    rfl
  counted := by
    intro depositor
    rw [nextNonce, hunfunded.nonce]
    rfl
  distinct := List.nodup_nil
  stored := by
    intro key claim
    simp only [List.map_nil, List.not_mem_nil, false_and, iff_false]
    exact fun hstored => hunfunded.claim key claim hstored.1 hstored.2
  versioned := by
    intro root hroot
    rw [hunfunded.root] at hroot
    cases hroot

/-- The ledger of an asset reads roots, claims, nonces and the domain only. -/
theorem journal_of_records {claims : List (Pubkey × FundingClaimV1)}
    (hjournal : Journal runtime asset world claims)
    (hdomain : fundingDomain runtime next = fundingDomain runtime world)
    (hroot : roots next (deriveFundingRoot asset) = roots world (deriveFundingRoot asset))
    (hnonce : ∀ depositor, nonces next (deriveFundingAuthorizationNonce asset depositor) =
      nonces world (deriveFundingAuthorizationNonce asset depositor))
    (hclaim : ∀ key claim, fundingClaims next key = some claim ∧ claim.assetEntry = asset ↔
      fundingClaims world key = some claim ∧ claim.assetEntry = asset) :
    Journal runtime asset next claims where
  numbered := hjournal.numbered
  chained := by
    rw [head, hroot, hdomain]
    exact hjournal.chained
  counted := by
    intro depositor
    rw [nextNonce, hnonce]
    exact hjournal.counted depositor
  distinct := hjournal.distinct
  stored := fun key claim => (hclaim key claim).trans (hjournal.stored key claim)
  versioned := by
    intro root hstored
    rw [hroot] at hstored
    exact hjournal.versioned root hstored

theorem fundingDomain_of_records (hconfig : records TcapGlobalConfigV1 next =
    records TcapGlobalConfigV1 world) :
    fundingDomain runtime next = fundingDomain runtime world := by
  rw [fundingDomain, hconfig, fundingDomain]

section Deposit

variable {accounts : DepositWithFundingCommitmentV2}
  {args : DepositWithFundingCommitmentArgsV2} {claim : FundingClaimV1} {root : FundingRootV1}
  {nonce : FundingAuthorizationNonceV1} {entry : TcapAssetEntryV1}
  {reserve : TcapReserveStateV1} {claims : List (Pubkey × FundingClaimV1)}

/-- A committed deposit appends its claim to the ledger of its asset. -/
theorem journal_of_funds
    (hfunds : Funds runtime accounts args world next claim root nonce entry reserve)
    (hdomain : fundingDomain runtime next = fundingDomain runtime world)
    (hjournal : Journal runtime accounts.assetEntry world claims) :
    Journal runtime accounts.assetEntry next
      (claims ++ [(accounts.depositor, claim)]) := by
  have hfresh : ∀ other ∈ claims.map Prod.snd,
      other.fundingIdentifier ≠ claim.fundingIdentifier := by
    intro other hother hsame
    obtain ⟨hstored, -⟩ := (hjournal.stored accounts.fundingClaim other).mpr
      ⟨hother, by rw [hsame]; exact hfunds.address⟩
    rw [hfunds.vacant] at hstored
    cases hstored
  have hsequence : claim.fundingRootSequence = claims.length + 1 := by
    rw [hfunds.sequence hjournal.versioned, hjournal.chained]
  have hroot : roots next (deriveFundingRoot accounts.assetEntry) = some root := by
    rw [hfunds.roots_eq, hfunds.rootAddress, Function.update_self]
  constructor
  case numbered =>
    rw [List.map_append, hjournal.numbered, List.length_append]
    simp [List.range'_1_concat, hsequence, Nat.add_comm]
  case chained =>
    rw [head, hroot, hdomain]
    simp only [List.map_append, List.map_cons, List.map_nil, List.foldl_append,
      List.foldl_cons, List.foldl_nil, List.length_append, List.length_singleton]
    rw [hfunds.chained hjournal.versioned, hfunds.numbered, hjournal.chained, hsequence, extendRoot, hsequence]
  case counted =>
    intro depositor
    rw [nextNonce, hfunds.nonces_eq, hfunds.nonceAddress, List.countP_append,
      ← hjournal.counted depositor, List.countP_singleton]
    by_cases hsame : accounts.depositor = depositor
    · subst hsame
      simpa using hfunds.counted
    · have hother : deriveFundingAuthorizationNonce accounts.assetEntry depositor ≠
          deriveFundingAuthorizationNonce accounts.assetEntry accounts.depositor :=
        fun h => hsame (deriveFundingAuthorizationNonce_inj.mp h).2.symm
      rw [Function.update_of_ne hother]
      simp [hsame, nextNonce]
  case distinct =>
    rw [List.map_append, List.nodup_append]
    refine ⟨hjournal.distinct, List.nodup_singleton _, ?_⟩
    intro identifier hidentifier other hother
    obtain ⟨earlier, hearlier, rfl⟩ := List.mem_map.mp hidentifier
    rw [List.mem_singleton.mp hother]
    exact hfresh earlier.2 (List.mem_map_of_mem hearlier)
  case stored =>
    intro key other
    rw [hfunds.claims_eq, Function.update_apply, List.map_append, List.mem_append]
    by_cases hkey : key = accounts.fundingClaim
    · subst hkey
      rw [if_pos rfl, hfunds.address, deriveFundingClaim_inj]
      simp only [Option.some.injEq, List.map_cons, List.map_nil, List.mem_singleton,
        true_and]
      constructor
      · rintro ⟨rfl, -⟩
        exact ⟨.inr rfl, rfl⟩
      · rintro ⟨hearlier | rfl, hidentifier⟩
        · exact absurd hidentifier.symm (hfresh other hearlier)
        · exact ⟨rfl, hfunds.asset⟩
    · rw [if_neg hkey, hjournal.stored key other]
      refine and_congr_left fun haddress => (or_iff_left ?_).symm
      intro hlast
      rw [List.map_cons, List.map_nil, List.mem_singleton] at hlast
      exact hkey (haddress.trans (hlast ▸ hfunds.address.symm))
  case versioned =>
    intro other hother
    rw [hroot] at hother
    exact Option.some.inj hother ▸ hfunds.versioned

/-- A committed deposit leaves the ledgers of the other assets as they are. -/
theorem journal_of_funds_beside
    (hfunds : Funds runtime accounts args world next claim root nonce entry reserve)
    (hdomain : fundingDomain runtime next = fundingDomain runtime world)
    (hother : accounts.assetEntry ≠ asset) (hjournal : Journal runtime asset world claims) :
    Journal runtime asset next claims := by
  refine journal_of_records hjournal hdomain ?_ ?_ ?_
  · rw [hfunds.roots_eq, hfunds.rootAddress, Function.update_of_ne]
    exact fun h => hother (deriveFundingRoot_inj.mp h).symm
  · intro depositor
    rw [hfunds.nonces_eq, hfunds.nonceAddress, Function.update_of_ne]
    exact fun h => hother (deriveFundingAuthorizationNonce_inj.mp h).1.symm
  · intro key stored
    rw [hfunds.claims_eq, Function.update_apply]
    split_ifs with hkey
    · constructor
      · rintro ⟨hclaim, hasset⟩
        cases hclaim
        exact absurd (hfunds.asset.symm.trans hasset) hother
      · rintro ⟨hclaim, -⟩
        rw [hkey, hfunds.vacant] at hclaim
        cases hclaim
    · rfl

/-- A committed deposit raises the reserve of its asset by its amount. -/
theorem reserveOf_of_funds
    (hfunds : Funds runtime accounts args world next claim root nonce entry reserve)
    (hentries : records TcapAssetEntryV1 next = records TcapAssetEntryV1 world)
    {old : TcapReserveStateV1} (hreserve : reserveOf world asset = some old) :
    reserveOf next asset = some (if accounts.assetEntry = asset then
      fundedReserve old claim.amount else old) := by
  simp only [reserveOf, Option.bind_eq_bind, Option.bind_eq_some_iff] at hreserve ⊢
  obtain ⟨listed, hlisted, stored, hstored, hsame⟩ := hreserve
  split_ifs at hsame with hback
  cases hsame
  rw [hentries, hfunds.reserves_eq]
  by_cases hasset : accounts.assetEntry = asset
  · subst hasset
    have hentry : listed = entry := Option.some.inj (hlisted.symm.trans hfunds.entryAt)
    subst hentry
    rw [← hfunds.reserveAddress, hfunds.reserveAt] at hstored
    cases hstored
    refine ⟨listed, hlisted, fundedReserve reserve args.amount, ?_, ?_⟩
    · rw [hfunds.reserveAddress, Function.update_self]
    · rw [if_pos rfl, hfunds.amount]
      exact if_pos hback
  · refine ⟨listed, hlisted, old, ?_, ?_⟩
    · rw [Function.update_of_ne, hstored]
      intro hkey
      rw [hkey, hfunds.reserveAt] at hstored
      cases hstored
      exact hasset (hfunds.backed.symm.trans hback)
    · rw [if_pos hback, if_neg hasset]

end Deposit

/-- What a step keeps: the ledger of the asset, and a reserve that rises with it. -/
structure Appends (runtime : Runtime) (asset : Pubkey) (world next : World)
    (made : List (Pubkey × FundingClaimV1)) : Prop where
  journal : ∀ claims, Journal runtime asset world claims →
    Journal runtime asset next (claims ++ made)
  reserve : ∀ reserve, reserveOf world asset = some reserve →
    reserveOf next asset =
      some (fundedReserve reserve (made.map fun claim => claim.2.amount).sum)

theorem appends_of_records (hconfig : records TcapGlobalConfigV1 next =
      records TcapGlobalConfigV1 world)
    (hentries : records TcapAssetEntryV1 next = records TcapAssetEntryV1 world)
    (hreserves : reserves next = reserves world) (hroots : roots next = roots world)
    (hclaims : fundingClaims next = fundingClaims world)
    (hnonces : nonces next = nonces world) :
    Appends runtime asset world next [] where
  journal := by
    intro claims hjournal
    rw [List.append_nil]
    exact journal_of_records hjournal (fundingDomain_of_records hconfig) (by rw [hroots])
      (fun _ => by rw [hnonces]) fun _ _ => by rw [hclaims]
  reserve := by
    intro reserve hreserve
    rw [reserveOf, hentries, hreserves]
    exact hreserve

theorem ledgerKinds_of_idle {input : Step} {α : Type} [AccountData α]
    (hidle : ¬ StepMovesLayout input ∧ ∀ kind ∈ ledgerKinds, kind ∉ stepWrites input)
    (hkind : ∀ data : α, kind (wrap data) ∈ ledgerKinds)
    (hstep : step runtime world input = .ok next) : records α next = records α world :=
  records_of_step hidle.1 (fun data => hidle.2 _ (hkind data)) hstep

/-- A step that writes nothing of the ledger appends nothing to it. -/
theorem appends_of_idle {input : Step}
    (hidle : ¬ StepMovesLayout input ∧ ∀ kind ∈ ledgerKinds, kind ∉ stepWrites input)
    (hstep : step runtime world input = .ok next) :
    Appends runtime asset world next [] := by
  apply appends_of_records
  all_goals
    refine ledgerKinds_of_idle hidle (fun data => ?_) hstep
    simp [ledgerKinds, kind]

theorem appends_of_deposit {accounts : DepositWithFundingCommitmentV2}
    {args : DepositWithFundingCommitmentArgsV2}
    (hstep : step runtime world (.tcap call (.depositWithFundingCommitmentV2 accounts args)) =
      .ok next) :
    Appends runtime asset world next (fundedBy runtime asset
      (world, .tcap call (.depositWithFundingCommitmentV2 accounts args))).toList := by
  have hexecute : depositWithFundingCommitmentV2 runtime call accounts args world = .ok next :=
    (step_tcap_eq_ok.mp hstep).2
  have hlayout : ¬ StepMovesLayout (.tcap call (.depositWithFundingCommitmentV2 accounts args)) :=
    id
  obtain ⟨claim, root, nonce, entry, reserve, hfunds⟩ :=
    depositWithFundingCommitmentV2_funds hexecute
  have hdomain : fundingDomain runtime next = fundingDomain runtime world :=
    fundingDomain_of_records (records_of_step hlayout
      (fun _ => by simp [stepWrites, writes, kind]) hstep)
  have hentries : records TcapAssetEntryV1 next = records TcapAssetEntryV1 world :=
    records_of_step hlayout (fun _ => by simp [stepWrites, writes, kind]) hstep
  have hmade : fundingClaims next accounts.fundingClaim = some claim := by
    rw [hfunds.claims_eq, Function.update_self]
  simp only [fundedBy, hexecute, hmade]
  by_cases hasset : accounts.assetEntry = asset
  · subst hasset
    rw [if_pos rfl]
    constructor
    · exact fun claims hjournal => journal_of_funds hfunds hdomain hjournal
    · intro old hold
      rw [reserveOf_of_funds hfunds hentries hold, if_pos rfl]
      rfl
  · rw [if_neg hasset]
    constructor
    · intro claims hjournal
      rw [Option.toList_none, List.append_nil]
      exact journal_of_funds_beside hfunds hdomain hasset hjournal
    · intro old hold
      rw [reserveOf_of_funds hfunds hentries hold, if_neg hasset]
      rfl

theorem appends_of_step {input : Step} (hon : OnFunding input)
    (hstep : step runtime world input = .ok next) :
    Appends runtime asset world next (fundedBy runtime asset (world, input)).toList := by
  cases input with
  | external call action => exact appends_of_idle hon hstep
  | tcap call instruction =>
      cases instruction with
      | depositWithFundingCommitmentV2 accounts args => exact appends_of_deposit hstep
      | _ => exact appends_of_idle hon hstep

/-- Along a run of committed deposits every asset that nobody had funded keeps its books:
its ledger holds the claims of the run, and its reserve has risen by their amounts. -/
theorem journal_of_run {history : List (World × Step)}
    (hrun : Run (step runtime) start history world)
    (hon : ∀ entry ∈ history, OnFunding entry.2) (hunfunded : Unfunded start asset) :
    Journal runtime asset world (claimsOf runtime asset history) ∧
      ∀ reserve, reserveOf start asset = some reserve →
        reserveOf world asset = some (fundedReserve reserve
          ((claimsOf runtime asset history).map fun claim => claim.2.amount).sum) := by
  refine @Run.induct_of_forall _ _ _ (step runtime) start (fun _ input => OnFunding input)
    (fun history world => Journal runtime asset world (claimsOf runtime asset history) ∧
      ∀ reserve, reserveOf start asset = some reserve →
        reserveOf world asset = some (fundedReserve reserve
          ((claimsOf runtime asset history).map fun claim => claim.2.amount).sum))
    history world hrun hon ⟨journal_nil runtime hunfunded, fun _ hreserve => hreserve⟩ ?_
  rintro history world input next hinput ⟨hjournal, hreserve⟩ hstep
  have happends := @appends_of_step _ _ _ asset _ hinput hstep
  have hclaims : claimsOf runtime asset ((world, input) :: history) =
      claimsOf runtime asset history ++ (fundedBy runtime asset (world, input)).toList := by
    rw [claimsOf, List.filterMap_cons]
    cases fundedBy runtime asset (world, input) with
    | none => exact (List.append_nil _).symm
    | some claim => exact List.reverse_cons
  rw [hclaims]
  refine ⟨happends.journal _ hjournal, ?_⟩
  intro reserve hstart
  rw [happends.reserve _ (hreserve reserve hstart), List.map_append, List.sum_append]
  simp only [fundedReserve, Nat.add_assoc]

/-- A step that makes no claim on any asset. -/
def Unclaiming (input : Step) : Prop :=
  ¬ StepMovesLayout input ∧
    ∀ kind ∈ [AccountKind.fundingRoot, .fundingClaim, .fundingNonce], kind ∉ stepWrites input

/-- Before its first committed deposit an asset is not funded. -/
theorem unfunded_of_run {history : List (World × Step)} (hlaunch : PreLaunch start)
    (hrun : Run (step runtime) start history world)
    (hunclaiming : ∀ entry ∈ history, Unclaiming entry.2) (asset : Pubkey) :
    Unfunded world asset := by
  have hunread : ∀ {α : Type} [AccountData α],
      (∀ key (data : α), ¬ PreLaunchAccount key (wrap data)) →
      (∀ data : α, kind (wrap data) ∈
        [AccountKind.fundingRoot, .fundingClaim, .fundingNonce]) →
      ∀ key, records α world key = none := by
    intro α _ hlater hkind
    refine @Run.induct_of_forall _ _ _ (step runtime) start (fun _ input => Unclaiming input)
      (fun _ world => ∀ key, records α world key = none) history world hrun hunclaiming ?_ ?_
    · intro key
      refine Option.eq_none_iff_forall_ne_some.mpr fun data hdata => ?_
      exact hlater key data (hlaunch key _ (records_eq_some.mp hdata))
    · intro _ world input next hinput hnone hstep
      rw [records_of_step hinput.1 (fun data => hinput.2 _ (hkind data)) hstep]
      exact hnone
  constructor
  case root => exact hunread (fun _ _ => id) (fun _ => by simp [kind]) _
  case nonce => exact fun _ => hunread (fun _ _ => id) (fun _ => by simp [kind]) _
  case claim =>
    intro key claim hclaim
    have hnone : fundingClaims world key = none :=
      hunread (fun _ _ => id) (fun _ => by simp [kind]) key
    rw [hnone] at hclaim
    cases hclaim

section Sample

open Tcap.Solvency (governor depositor usdMint usdWallet usdWorld
  preLaunch_usdWorld)

instance (input : Step) : Decidable (Unclaiming input) := by
  unfold Unclaiming
  infer_instance

instance (input : Step) : Decidable (OnFunding input) := by
  unfold OnFunding
  split <;> infer_instance

def secondDepositor : Pubkey := .raw 103
def secondWallet : Pubkey := .raw 302

/-- Two wallets, before the listing of the mint they hold. -/
def walletWorld : World :=
  usdWorld.insert secondWallet (.token ⟨splTokenProgram, usdMint, secondDepositor, 50⟩)

theorem preLaunch_walletWorld : PreLaunch walletWorld :=
  preLaunch_insert preLaunch_usdWorld (by simp [PreLaunchAccount, secondWallet, Pubkey.program?])

/-- The same wallets, with the mint open for deposits. -/
def listedWorld : World :=
  match replay (step localRuntime) walletWorld
      (listingSteps governor usdMint ++ launchSteps governor) with
  | .ok (_, world) => world
  | .error _ => ∅

theorem unfunded_listedWorld (asset : Pubkey) : Unfunded listedWorld asset := by
  have hsteps : ∀ input ∈ listingSteps governor usdMint ++ launchSteps governor,
      Unclaiming input := by decide
  unfold listedWorld
  split
  · rename_i history world hreplay
    refine unfunded_of_run preLaunch_walletWorld (run_of_replay hreplay) ?_ asset
    intro entry hentry
    refine hsteps entry.2 ?_
    rw [← inputs_of_replay hreplay]
    exact List.mem_map_of_mem hentry
  · exact @unfunded_of_run localRuntime _ _ _ preLaunch_empty Run.start (by simp) asset

/-- A committed deposit into the vault of the listed mint. -/
def fundingStep (depositor source : Pubkey) (identifier : Bytes32) (nonce amount : Nat) :
    Step :=
  let entry := splEntryAddress usdMint
  let args : DepositWithFundingCommitmentArgsV2 :=
    ⟨amount, 0, 4, identifier, nonce, 100, 5, 6,
      fundingDomainSeparatorV3 localRuntime 1 1 0, 0⟩
  let authorization :=
    depositorAuthorizationCommitmentV3 localRuntime 1 depositor entry identifier nonce 100
  let commitment := fundingCommitmentV3 localRuntime 1 (deriveReserveState entry)
    splTokenProgram usdMint 0 authorization args
  .tcap ⟨[depositor], 9⟩ (.depositWithFundingCommitmentV2
    ⟨⟨depositor, globalConfigAddress, entry, deriveReserveState entry, source,
        deriveFutureVault entry, usdMint, splTokenProgram⟩,
      assetRegistryAddress, deriveFundingRoot entry, deriveFundingClaim entry identifier,
      deriveFundingAuthorizationNonce entry depositor⟩
    { args with expectedFundingCommitment := commitment })

/-- Three deposits of two depositors. -/
theorem journal_after_three_deposits :
    ∃ history world, Run (step localRuntime) listedWorld history world ∧
      (claimsOf localRuntime (splEntryAddress usdMint) history).map
        (fun claim => (claim.1, claim.2.amount)) =
          [(depositor, 60), (secondDepositor, 30), (depositor, 40)] ∧
      Journal localRuntime (splEntryAddress usdMint) world
        (claimsOf localRuntime (splEntryAddress usdMint) history) ∧
      ∀ reserve, reserveOf listedWorld (splEntryAddress usdMint) = some reserve →
        reserveOf world (splEntryAddress usdMint) = some (fundedReserve reserve
          ((claimsOf localRuntime (splEntryAddress usdMint) history).map
            fun claim => claim.2.amount).sum) := by
  have hreaches : reaches (step localRuntime) listedWorld
      [fundingStep depositor usdWallet 13 1 40,
        fundingStep secondDepositor secondWallet 12 0 30,
        fundingStep depositor usdWallet 11 0 60]
      (fun history _ => (∀ entry ∈ history, OnFunding entry.2) ∧
        (claimsOf localRuntime (splEntryAddress usdMint) history).map
          (fun claim => (claim.1, claim.2.amount)) =
            [(depositor, 60), (secondDepositor, 30), (depositor, 40)]) = true := by
    decide +kernel
  obtain ⟨history, world, hrun, hholds⟩ := exists_run_of_reaches hreaches
  obtain ⟨hon, hclaims⟩ := of_decide_eq_true hholds
  exact ⟨history, world, hrun, hclaims, journal_of_run hrun hon (unfunded_listedWorld _)⟩

end Sample

end Runs

end TsnProtocol.Tcap.FundingLedger
