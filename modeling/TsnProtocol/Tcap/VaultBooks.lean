import TsnProtocol.Tcap.Frames
import TsnProtocol.Tcap.Solvency

/-!
The book value of a reserve against the balance of its vault. Deposits demand that the
two agree; they do along every run in which nobody sends tokens to a vault from outside
and no exit is paid out to the vault it is paid from.
-/

namespace TsnProtocol.Tcap.VaultBooks

open Lib.Checked
open Lib.FiniteStore
open Lib.Transition
open Lib.CustodyLedger
open Solana.Address
open Tcap.State
open Tcap.Execution
open Tcap.AssetGovernance
open Tcap.Funding
open Tcap.Program
open Tcap.Custody
open Tcap.Administration
open Tcap.LedgerWrites
open Tcap.Effects
open Tcap.Refinement
open Tcap.Frames
open Tcap.Solvency

variable {runtime : Runtime} {call : Call} {world next moved : World} {key : Pubkey}

/-- The book value of every reserve is the balance of its vault. -/
def BooksMatch (world : World) : Prop :=
  ∀ key entry reserve vault, world.lookup key = some (.entry entry) →
    world.lookup entry.reserveState = some (.reserve reserve) →
      world.lookup entry.futureVault = some (.token vault) →
        reserve.actualAssets = vault.amount

/-- Other programs put no tokens into a vault. -/
def VaultsClosed : Step → Prop
  | .external _ (.transferChecked _ _ _ destination _ _ _) =>
      ∀ entry, destination ≠ deriveFutureVault entry
  | .external _ (.mintTo _ destination _ _) => ∀ entry, destination ≠ deriveFutureVault entry
  | _ => True

/-- An exit is not paid out to the vault it is paid from. -/
def PaysOutside : Step → Prop
  | .tcap _ (.payoutTcapExitV1 accounts _) => accounts.destination ≠ accounts.vault
  | _ => True

/-- The vault of a listed asset holds tokens of its mint. -/
def VaultMints (world : World) : Prop :=
  ∀ entry token, world.lookup (deriveFutureVault entry) = some (.token token) →
    (ledger world).mint entry = some token.mint

/-- A vault gains nothing from writes that are not of tokens. -/
theorem vault_le_of_tokens {entry : Pubkey}
    (htokens : ∀ token, next.lookup (deriveFutureVault entry) = some (.token token) →
      world.lookup (deriveFutureVault entry) = some (.token token)) :
    (ledger next).vault entry ≤ (ledger world).vault entry := by
  simp only [ledger]
  cases hlookup : next.lookup (deriveFutureVault entry) with
  | none => exact Nat.zero_le _
  | some account =>
      cases account with
      | token token => rw [htokens token hlookup]
      | _ => exact Nat.zero_le _

theorem vault_of_lookup {entry : Pubkey} {token : TokenAccount}
    (hlookup : world.lookup (deriveFutureVault entry) = some (.token token)) :
    (ledger world).vault entry = token.amount := by
  simp [ledger, hlookup, tokensOf]

theorem token_of_writesOnly {kinds : List AccountKind} {token : TokenAccount}
    (hwrites : WritesOnly kinds world next) (hkinds : .token ∉ kinds)
    (hlookup : next.lookup key = some (.token token)) :
    world.lookup key = some (.token token) := by
  rcases hwrites.stored key _ hlookup with hstored | hkind
  · exact hstored
  · exact absurd hkind hkinds

section Transfers

variable {signers : List Pubkey} {program source mint destination authority : Pubkey}
  {amount decimals : Nat}

/-- What a transfer between two accounts takes from one vault and gives to another. -/
theorem vault_le_add_of_transfer (entry : Pubkey) (hdistinct : destination ≠ source)
    (htransfer : transferChecked world signers program source mint destination authority
      amount decimals = .ok moved) :
    (ledger moved).vault entry + (if deriveFutureVault entry = source then amount else 0) ≤
      (ledger world).vault entry +
        if deriveFutureVault entry = destination then amount else 0 := by
  obtain ⟨sourceData, destinationData, hsource, hdestination, -, -, henough, hcases⟩ :=
    transferChecked_eq_ok htransfer
  rcases hcases with ⟨hsame, -⟩ | ⟨-, rfl⟩
  · exact absurd hsame.symm hdistinct
  rw [vault_insert_token, vault_insert_token]
  split_ifs with hto hfrom hfrom
  · exact absurd (hto.symm.trans hfrom) hdistinct
  · rw [vault_of_lookup (hto ▸ hdestination)]
    exact le_rfl
  · rw [vault_of_lookup (hfrom ▸ hsource)]
    exact (Nat.sub_add_cancel henough).le
  · omega

/-- A transfer leaves the mint of every token account as it is. -/
theorem token_of_transfer {token : TokenAccount}
    (htransfer : transferChecked world signers program source mint destination authority
      amount decimals = .ok moved)
    (hlookup : moved.lookup key = some (.token token)) :
    ∃ old, world.lookup key = some (.token old) ∧ old.mint = token.mint := by
  obtain ⟨sourceData, destinationData, hsource, hdestination, -, -, -, hcases⟩ :=
    transferChecked_eq_ok htransfer
  rcases hcases with ⟨-, rfl⟩ | ⟨-, rfl⟩
  · exact ⟨token, hlookup, rfl⟩
  rw [lookup_insert_eq, lookup_insert_eq] at hlookup
  split_ifs at hlookup with hto hfrom
  · cases hlookup
    exact ⟨destinationData, hto ▸ hdestination, rfl⟩
  · cases hlookup
    exact ⟨sourceData, hfrom ▸ hsource, rfl⟩
  · exact ⟨token, hlookup, rfl⟩

end Transfers

/-- Where an exit is paid to, and in which mint. -/
theorem payoutTcapExitV1_destination {accounts : PayoutTcapExitV1} {destinationOwner : Pubkey}
    (hstep : payoutTcapExitV1 runtime call accounts destinationOwner world = .ok next) :
    ∃ entry destination, world.lookup accounts.assetEntry = some (.entry entry) ∧
      world.lookup accounts.destination = some (.token destination) ∧
        destination.mint = entry.asset.mint := by
  simp only [payoutTcapExitV1, bind_eq_ok, load_eq_ok, check_eq_ok, wrap_token] at hstep
  obtain ⟨_, -, _, -, _, -, entry, hentry, _, -, _, -, destination, hdestination, _, -,
    hstep⟩ := hstep
  obtain ⟨_, -, _, -, _, -, _, -, _, -, _, hmint, -⟩ := hstep
  exact ⟨entry, destination, loadEntry_eq_ok hentry, hdestination, hmint⟩

theorem vault_insert_reserve {reserve : TcapReserveStateV1} {old : TcapReserveStateV1}
    (hlookup : world.lookup key = some (.reserve old)) :
    (ledger (world.insert key (.reserve reserve))).vault = (ledger world).vault :=
  vault_insert_of_not_token (by rw [hlookup]; rfl) rfl

/-- Both deposits put the amount into the vault they name and into no other. -/
theorem vault_le_of_deposits {accounts : DepositAssetV2} {amount : Nat}
    (hwellFormed : WellFormed world) (hsigners : noProgramSigner call)
    (hdeposits : Deposits call world accounts amount next) (entry : Pubkey) :
    (ledger next).vault entry ≤
      (ledger world).vault entry + paidIn entry
        (.deposit accounts.assetEntry amount : Move Pubkey Pubkey) := by
  obtain ⟨data, reserve, vault, decimals, moved, vault', hentry, hreserve, hvault, -, hkey, -,
    -, hmoved, -, -, rfl⟩ := hdeposits
  obtain ⟨haddress, -⟩ := vault_of_entry hwellFormed hentry hvault hkey
  have hsource := source_ne_vault hwellFormed hsigners hmoved
  have hdistinct : accounts.vault ≠ accounts.source := by
    rw [haddress]
    exact hsource _
  have hmovedVault := vault_le_add_of_transfer entry hdistinct hmoved
  rw [vault_insert_reserve (lookup_of_transfer hmoved hreserve (by simp))]
  rw [if_neg (hsource entry), haddress] at hmovedVault
  simp only [paidIn]
  simp only [deriveFutureVault_inj] at hmovedVault
  omega

theorem token_of_insert {account : Account} {token : TokenAccount} {other : Pubkey}
    (hlookup : (world.insert key account).lookup other = some (.token token))
    (haccount : ∀ token, account ≠ .token token) :
    world.lookup other = some (.token token) := by
  rw [lookup_insert_eq] at hlookup
  split_ifs at hlookup
  · exact absurd (Option.some.inj hlookup) (haccount token)
  · exact hlookup

/-- The tokens after a deposit with a funding commitment are those after the deposit. -/
theorem token_of_funding {accounts : DepositWithFundingCommitmentV2} {claim root nonce}
    {token : TokenAccount} {other : Pubkey}
    (hlookup : (((world.insert accounts.fundingClaim (.fundingClaim claim)).insert
      accounts.fundingRoot (.fundingRoot root)).insert accounts.fundingNonce
        (.fundingNonce nonce)).lookup other = some (.token token)) :
    world.lookup other = some (.token token) :=
  token_of_insert (token_of_insert (token_of_insert hlookup nofun) nofun) nofun

/-- Only the asset paid from can have a vault in the mint it pays. -/
theorem destination_ne_vault {accounts : PayoutTcapExitV1} {destinationOwner : Pubkey}
    (hdistinct : MintsDistinct (ledger world)) (hmints : VaultMints world)
    (hstep : payoutTcapExitV1 runtime call accounts destinationOwner world = .ok next)
    (entry : Pubkey) (hentry : entry ≠ accounts.assetEntry) :
    deriveFutureVault entry ≠ accounts.destination := by
  obtain ⟨data, destination, hdata, hdestination, hmint⟩ := payoutTcapExitV1_destination hstep
  intro hvault
  have hvaultMint := hmints entry destination (hvault ▸ hdestination)
  rw [hmint, ← mint_of_entry hdata] at hvaultMint
  exact hentry (hdistinct entry accounts.assetEntry data.asset.mint
    (hvaultMint.trans (mint_of_entry hdata)) (mint_of_entry hdata))

/-- A payout to another account takes the amount out of the vault. -/
theorem vault_le_of_payout {accounts : PayoutTcapExitV1} {destinationOwner : Pubkey}
    (hwellFormed : WellFormed world) (hdistinct : MintsDistinct (ledger world))
    (hmints : VaultMints world) (hpays : accounts.destination ≠ accounts.vault)
    (hstep : payoutTcapExitV1 runtime call accounts destinationOwner world = .ok next)
    (entry : Pubkey) :
    (ledger next).vault entry + paidOut entry
        (.payout accounts.assetEntry (permitAmount world accounts.permit) :
          Move Pubkey Pubkey) ≤ (ledger world).vault entry := by
  have hother := destination_ne_vault hdistinct hmints hstep entry
  obtain ⟨data, reserve, permit, vault, decimals, moved, hentry, hreserve, hpermit, hvault, -,
    hkey, -, -, -, hmoved, rfl⟩ := payoutTcapExitV1_eq_ok hstep
  obtain ⟨haddress, -⟩ := vault_of_entry hwellFormed hentry hvault hkey
  have hmovedVault := vault_le_add_of_transfer entry hpays hmoved
  have hnext : (ledger ((moved.insert accounts.reserveState (.reserve
      { reserve with actualAssets := vault.amount - permit.amount })).insert accounts.permit
        (.permit { permit with consumed := true }))).vault entry ≤
      (ledger moved).vault entry :=
    vault_le_of_tokens fun token hlookup => token_of_insert (token_of_insert hlookup nofun) nofun
  have hamount : permitAmount world accounts.permit = permit.amount := by
    simp [permitAmount, hpermit]
  have hdestination : deriveFutureVault entry ≠ accounts.destination := by
    by_cases hasset : entry = accounts.assetEntry
    · rw [hasset, ← haddress]
      exact hpays.symm
    · exact hother hasset
  rw [if_neg hdestination, haddress] at hmovedVault
  simp only [deriveFutureVault_inj] at hmovedVault
  simp only [paidOut, hamount]
  omega

/-- Other programs leave the vaults alone if they put no tokens into them. -/
theorem token_of_external {action : ExternalAction} {entry : Pubkey} {token : TokenAccount}
    (hwellFormed : WellFormed world) (hsigners : noProgramSigner call)
    (hclosed : VaultsClosed (.external call action))
    (hstep : executeExternal call action world = .ok next)
    (hlookup : next.lookup (deriveFutureVault entry) = some (.token token)) :
    world.lookup (deriveFutureVault entry) = some (.token token) := by
  cases action with
  | transferChecked program source mint destination authority amount decimals =>
      have hsource := source_ne_vault hwellFormed hsigners hstep entry
      obtain ⟨sourceData, destinationData, -, -, -, -, -, ⟨-, rfl⟩ | ⟨-, rfl⟩⟩ :=
        transferChecked_eq_ok hstep
      · exact hlookup
      · rwa [lookup_insert_eq, if_neg (hclosed entry).symm, lookup_insert_eq,
          if_neg hsource] at hlookup
  | mintTo mint destination authority amount =>
      simp only [executeExternal, bind_eq_ok, pure_eq_ok] at hstep
      obtain ⟨_, -, _, -, _, -, _, -, _, -, rfl⟩ := hstep
      rwa [lookup_insert_eq, if_neg (hclosed entry).symm] at hlookup
  | initializeAccount account program mint owner =>
      simp only [executeExternal, bind_eq_ok, pure_eq_ok] at hstep
      obtain ⟨_, hfresh, _, -, _, -, rfl⟩ := hstep
      obtain ⟨hsigned, -⟩ := freshAddress_eq_ok hfresh
      have hkey : deriveFutureVault entry ≠ account := by
        rintro rfl
        exact hsigners _ hsigned (by simp [deriveFutureVault])
      rwa [lookup_insert_eq, if_neg hkey] at hlookup
  | initializeMint account data =>
      simp only [executeExternal, bind_eq_ok, pure_eq_ok] at hstep
      obtain ⟨_, -, _, -, rfl⟩ := hstep
      exact token_of_insert hlookup (by rintro _ ⟨⟩)
  | writeForeign account owner data =>
      simp only [executeExternal, bind_eq_ok] at hstep
      obtain ⟨_, -, hstep⟩ := hstep
      split at hstep
      · cases hstep
        exact token_of_insert hlookup (by rintro _ ⟨⟩)
      · cases hstep
        exact token_of_insert hlookup (by rintro _ ⟨⟩)
      · cases hstep

/-- No vault holds more after a step than the move of the ledger accounts for. -/
theorem vault_le_of_step {input : Step} (hwellFormed : WellFormed world)
    (hdistinct : MintsDistinct (ledger world)) (hmints : VaultMints world)
    (hclosed : VaultsClosed input) (hpays : PaysOutside input)
    (hstep : step runtime world input = .ok next) (entry : Pubkey) :
    (ledger next).vault entry + paidOut entry (moveOf world input) ≤
      (ledger world).vault entry + paidIn entry (moveOf world input) := by
  cases input with
  | external call action =>
      obtain ⟨hsigners, hstep⟩ := step_external_eq_ok.mp hstep
      exact vault_le_of_tokens fun token hlookup =>
        token_of_external hwellFormed hsigners hclosed hstep hlookup
  | tcap call instruction =>
      obtain ⟨hsigners, hstep⟩ := step_tcap_eq_ok.mp hstep
      have hwrites := writesOnly_execute runtime call instruction world next hstep
      cases instruction with
      | depositAssetV2 accounts amount =>
          exact vault_le_of_deposits hwellFormed hsigners (depositAssetV2_eq_ok hstep) entry
      | depositWithFundingCommitmentV2 accounts args =>
          obtain ⟨funded, claim, root, nonce, hdeposits, -, -, -, -, -, -, rfl⟩ :=
            depositWithFundingCommitmentV2_eq_ok hstep
          refine le_trans (vault_le_of_tokens ?_)
            (vault_le_of_deposits hwellFormed hsigners hdeposits entry)
          exact fun token hlookup => token_of_funding hlookup
      | payoutTcapExitV1 accounts destinationOwner =>
          exact vault_le_of_payout hwellFormed hdistinct hmints hpays hstep entry
      | initializeGovernedVaultV2 accounts =>
          rw [ledger_eq_of_administers (administers_initializeGovernedVaultV2 hstep)]
          exact le_rfl
      | _ =>
          exact vault_le_of_tokens fun token hlookup =>
            token_of_writesOnly hwrites (by simp [writes]) hlookup

/-- A new vault is opened in the mint of its asset. -/
theorem vault_of_initialize {accounts : InitializeGovernedVaultV2} {entry : Pubkey}
    {token : TokenAccount}
    (hstep : initializeGovernedVaultV2 runtime call accounts world = .ok next)
    (hlookup : next.lookup (deriveFutureVault entry) = some (.token token)) :
    world.lookup (deriveFutureVault entry) = some (.token token) ∨
      (ledger world).mint entry = some token.mint := by
  simp only [initializeGovernedVaultV2, bind_eq_ok, vacant_eq_ok, check_eq_ok,
    pure_eq_ok] at hstep
  obtain ⟨_, -, _, -, data, hdata, _, -, _, -, _, -, _, -, _, -, _, ⟨hkey, -⟩, hstep⟩ := hstep
  obtain ⟨_, -, _, -, _, -, _, -, _, -, _, -, _, hmint, _, -, _, -, _, -, _, -, _, -, rfl⟩ :=
    hstep
  replace hlookup := token_of_insert hlookup (by rintro _ ⟨⟩)
  rw [lookup_insert_eq, hkey] at hlookup
  split_ifs at hlookup with hvault
  · cases hlookup
    right
    rw [deriveFutureVault_inj.mp hvault, mint_of_entry (loadEntry_eq_ok hdata), hmint]
  · exact .inl hlookup

/-- What a vault holds after an instruction is in the mint of what it held before, or in
the mint of its asset. -/
theorem mint_of_execute {instruction : Instruction} {entry : Pubkey} {token : TokenAccount}
    (hmints : VaultMints world)
    (hstep : execute runtime call instruction world = .ok next)
    (hlookup : next.lookup (deriveFutureVault entry) = some (.token token)) :
    (ledger world).mint entry = some token.mint := by
  have hwrites := writesOnly_execute runtime call instruction world next hstep
  have hkept : ∀ {moved : World}, (∀ token, moved.lookup (deriveFutureVault entry) =
      some (.token token) → ∃ old, world.lookup (deriveFutureVault entry) =
        some (.token old) ∧ old.mint = token.mint) →
      moved.lookup (deriveFutureVault entry) = some (.token token) →
        (ledger world).mint entry = some token.mint := by
    intro moved hold hmoved
    obtain ⟨old, hlookup, hmint⟩ := hold token hmoved
    rw [hmints entry old hlookup, hmint]
  have hdeposited : ∀ {accounts : DepositAssetV2} {amount : Nat} {funded : World},
      Deposits call world accounts amount funded →
        funded.lookup (deriveFutureVault entry) = some (.token token) →
          (ledger world).mint entry = some token.mint := by
    rintro accounts amount funded ⟨data, reserve, vault, decimals, moved, vault', -, -, -, -,
      -, -, -, hmoved, -, -, rfl⟩ hfunded
    exact hkept (fun _ => token_of_transfer hmoved) (token_of_insert hfunded nofun)
  cases instruction with
  | depositAssetV2 accounts amount => exact hdeposited (depositAssetV2_eq_ok hstep) hlookup
  | depositWithFundingCommitmentV2 accounts args =>
      obtain ⟨funded, claim, root, nonce, hdeposits, -, -, -, -, -, -, rfl⟩ :=
        depositWithFundingCommitmentV2_eq_ok hstep
      exact hdeposited hdeposits (token_of_funding hlookup)
  | payoutTcapExitV1 accounts destinationOwner =>
      obtain ⟨data, reserve, permit, vault, decimals, moved, -, -, -, -, -, -, -, -, -, hmoved,
        rfl⟩ := payoutTcapExitV1_eq_ok hstep
      exact hkept (fun _ => token_of_transfer hmoved)
        (token_of_insert (token_of_insert hlookup nofun) nofun)
  | initializeGovernedVaultV2 accounts =>
      rcases vault_of_initialize hstep hlookup with hold | hmint
      · exact hmints entry token hold
      · exact hmint
  | _ =>
      exact hmints entry token
        (token_of_writesOnly hwrites (by simp [writes]) hlookup)

theorem vaultMints_of_step {input : Step} (hwellFormed : WellFormed world)
    (hmints : VaultMints world) (hclosed : VaultsClosed input)
    (hstep : step runtime world input = .ok next) : VaultMints next := by
  intro entry token hlookup
  refine mint_of_moves (simulates_step hwellFormed hstep).moves ?_
  cases input with
  | external call action =>
      obtain ⟨hsigners, hstep⟩ := step_external_eq_ok.mp hstep
      exact hmints entry token (token_of_external hwellFormed hsigners hclosed hstep hlookup)
  | tcap call instruction =>
      exact mint_of_execute hmints (step_tcap_eq_ok.mp hstep).2 hlookup

/-- What a run keeps of the books and the vaults. -/
structure Booked (world : World) : Prop where
  wellFormed : WellFormed world
  distinct : MintsDistinct (ledger world)
  mints : VaultMints world
  booked : ∀ entry, (ledger world).actual entry = (ledger world).vault entry

theorem booked_of_preLaunch (hlaunch : PreLaunch world) : Booked world where
  wellFormed := wellFormed_of_preLaunch hlaunch
  distinct := by
    rw [ledger_of_preLaunch hlaunch]
    exact backed_emptyLedger.distinct
  mints := by
    intro entry token hlookup
    exact absurd (by simp [deriveFutureVault]) (hlaunch _ _ hlookup)
  booked := by
    rw [ledger_of_preLaunch hlaunch]
    exact fun _ => rfl

theorem booked_of_step {input : Step} (hbooked : Booked world) (hclosed : VaultsClosed input)
    (hpays : PaysOutside input) (hstep : step runtime world input = .ok next) :
    Booked next := by
  obtain ⟨hwellFormed, hdistinct, hmints, hmatch⟩ := hbooked
  obtain ⟨hformed, hmoves⟩ := simulates_step hwellFormed hstep
  refine ⟨hformed, mintsDistinct_of_moves hmoves hdistinct,
    vaultMints_of_step hwellFormed hmints hclosed hstep, ?_⟩
  exact booked_of_moves hmoves
    (vault_le_of_step hwellFormed hdistinct hmints hclosed hpays hstep) hmatch

/-- In every run in which nobody else puts tokens into a vault and no exit is paid to
the vault it is paid from, the book value of a reserve is the balance of its vault. -/
theorem booksMatch_of_run {start : World} {history : List (World × Step)}
    (hrun : ChainRun runtime start history world)
    (hclosed : ∀ entry ∈ history, VaultsClosed entry.2)
    (hpays : ∀ entry ∈ history, PaysOutside entry.2) : BooksMatch world := by
  obtain ⟨hlaunch, hrun⟩ := hrun
  have hbooked : Booked world := by
    refine @Run.induct_of_forall _ _ _ (step runtime) start
      (fun _ input => VaultsClosed input ∧ PaysOutside input) (fun _ world => Booked world) _ _
      hrun (fun entry hentry => ⟨hclosed entry hentry, hpays entry hentry⟩) ?_ ?_
    · exact booked_of_preLaunch hlaunch
    · rintro history world input next ⟨hclosed, hpays⟩ hbooked hstep
      exact booked_of_step hbooked hclosed hpays hstep
  intro key entry reserve vault hentry hreserve hvault
  have hlink := assetEntry_of_reserveState hbooked.wellFormed hentry hreserve rfl
  obtain ⟨hactual, -, -⟩ := books_of_reserve hbooked.wellFormed hreserve
  obtain ⟨-, hbalance⟩ := vault_of_entry hbooked.wellFormed hentry hvault rfl
  rw [← hactual, hlink, hbooked.booked key, hbalance]

section Runs

/-- The book value at an entry is the balance of its vault. -/
def matchesAt (world : World) (key : Pubkey) : Bool :=
  match world.lookup key with
  | some (.entry entry) =>
      match world.lookup entry.reserveState, world.lookup entry.futureVault with
      | some (.reserve reserve), some (.token vault) => reserve.actualAssets = vault.amount
      | _, _ => true
  | _ => true

theorem matchesAt_of_booksMatch (hmatch : BooksMatch world) (key : Pubkey) :
    matchesAt world key = true := by
  unfold matchesAt
  split
  · rename_i entry hentry
    split
    · rename_i reserve vault hreserve hvault
      exact decide_eq_true (hmatch key entry reserve vault hentry hreserve hvault)
    · rfl
  · rfl

/-- Deposit 100, credit them to a tip and debit 40 for an exit to the given account, which
is then paid, latest step first. -/
def exitSteps (destination : Pubkey) : List Step :=
  payoutStep usdMint depositor destination ::
    exitStep usdMint depositor 5 usdMint destination 40 ::
    creditStep usdMint depositor 5 1 100 ::
    (openTipSteps usdMint depositor 5 1 ++
      depositStep usdMint depositor usdWallet 100 ::
      (listingSteps governor usdMint ++ launchSteps governor))

instance (input : Step) : Decidable (PaysOutside input) := by
  unfold PaysOutside
  split <;> infer_instance

/-- No step of another program. -/
def isTcap : Step → Bool
  | .tcap _ _ => true
  | .external _ _ => false

theorem vaultsClosed_of_isTcap {input : Step} (htcap : isTcap input = true) :
    VaultsClosed input := by
  cases input with
  | tcap call instruction => trivial
  | external call action => cases htcap

/-- An exit paid to the vault itself: the book value falls to 60, the balance stays at
100. -/
theorem not_booksMatch_after_payout :
    ¬ ∀ runtime start history world, ChainRun runtime start history world →
      (∀ entry ∈ history, VaultsClosed entry.2) → BooksMatch world := by
  intro hclaim
  have hreaches : reaches (step localRuntime) usdWorld
      (exitSteps (deriveFutureVault (splEntryAddress usdMint)))
      (fun history world => (∀ entry ∈ history, isTcap entry.2 = true) ∧
        matchesAt world (splEntryAddress usdMint) = false) = true := by
    decide +kernel
  obtain ⟨history, world, hrun, hholds⟩ := exists_run_of_reaches hreaches
  obtain ⟨htcap, hfails⟩ := of_decide_eq_true hholds
  have hmatch := hclaim localRuntime usdWorld history world ⟨preLaunch_usdWorld, hrun⟩
    fun entry hentry => vaultsClosed_of_isTcap (htcap entry hentry)
  rw [matchesAt_of_booksMatch hmatch] at hfails
  cases hfails

/-- The same exit paid to the wallet of the depositor. -/
theorem booksMatch_after_payout :
    ∃ history world, ChainRun localRuntime usdWorld history world ∧
      (∀ entry ∈ history, VaultsClosed entry.2) ∧
      (∀ entry ∈ history, PaysOutside entry.2) ∧ BooksMatch world := by
  have hreaches : reaches (step localRuntime) usdWorld (exitSteps usdWallet)
      (fun history _ => (∀ entry ∈ history, isTcap entry.2 = true) ∧
        ∀ entry ∈ history, PaysOutside entry.2) = true := by
    decide +kernel
  obtain ⟨history, world, hrun, hholds⟩ := exists_run_of_reaches hreaches
  obtain ⟨htcap, hpays⟩ := of_decide_eq_true hholds
  have hchain : ChainRun localRuntime usdWorld history world := ⟨preLaunch_usdWorld, hrun⟩
  have hclosed : ∀ entry ∈ history, VaultsClosed entry.2 :=
    fun entry hentry => vaultsClosed_of_isTcap (htcap entry hentry)
  exact ⟨history, world, hchain, hclosed, hpays, booksMatch_of_run hchain hclosed hpays⟩

end Runs

end TsnProtocol.Tcap.VaultBooks
