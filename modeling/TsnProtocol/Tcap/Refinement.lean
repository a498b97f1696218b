import TsnProtocol.Tcap.Effects
import TsnProtocol.Tcap.LedgerWrites

/-!
The chain refines the custody ledger: every step of the program, and every step
of another program, is a move of the ledger or leaves it alone.
-/

namespace TsnProtocol.Tcap.Refinement

open Lib.Checked
open Lib.FiniteStore
open Lib.CustodyLedger
open Solana.Address
open Tcap.State
open Tcap.Execution
open Tcap.AssetGovernance
open Tcap.Funding
open Tcap.Tips
open Tcap.Program
open Tcap.Custody
open Tcap.Administration
open Tcap.Effects
open Tcap.LedgerWrites

variable {runtime : Runtime} {call : Call} {world next : World} {key : Pubkey}

/-- Asset of the liability stored at a key. -/
def liabilityAsset (world : World) (key : Pubkey) : Pubkey :=
  match world.lookup key with
  | some (.liability liability) => liability.assetEntry
  | _ => Pubkey.default

theorem liabilityAsset_of_lookup {liability : TcapTipLiabilityV2}
    (hlookup : world.lookup key = some (.liability liability)) :
    liabilityAsset world key = liability.assetEntry := by
  simp [liabilityAsset, hlookup]

/-- Asset of the reserve stored at a key. -/
def reserveAsset (world : World) (key : Pubkey) : Pubkey :=
  match world.lookup key with
  | some (.reserve reserve) => reserve.assetEntry
  | _ => Pubkey.default

theorem reserveAsset_of_lookup {reserve : TcapReserveStateV1}
    (hlookup : world.lookup key = some (.reserve reserve)) :
    reserveAsset world key = reserve.assetEntry := by
  simp [reserveAsset, hlookup]

/-- Amount of the permit stored at a key. -/
def permitAmount (world : World) (key : Pubkey) : Nat :=
  match world.lookup key with
  | some (.permit permit) => permit.amount
  | _ => 0

/-- The move an instruction makes on the ledger of the world it runs in. -/
def instructionMove (world : World) : Instruction → Move Pubkey Pubkey
  | .registerGovernedAssetV2 accounts _ => .list accounts.assetEntry accounts.mint
  | .depositAssetV2 accounts amount => .deposit accounts.assetEntry amount
  | .depositWithFundingCommitmentV2 accounts args =>
      .deposit accounts.assetEntry args.amount
  | .creditGpruMemoV1 accounts args => .settle accounts.assetEntry args.amount
  | .creditOneTimeTip accounts args | .creditOneTimeTipTransfer accounts args =>
      .credit accounts.assetEntry args.amount
  | .initializeTcapTipLiabilityV2 accounts initialAvailable =>
      .grant accounts.assetEntry initialAvailable
  | .debitTcapExitV1 accounts args =>
      .debit (liabilityAsset world accounts.liability)
        (reserveAsset world accounts.reserveState) args.mint args.amount
  | .payoutTcapExitV1 accounts _ =>
      .payout accounts.assetEntry (permitAmount world accounts.permit)
  | .syncGovernedAssetInfrastructureV2 accounts => .reconcile accounts.assetEntry
  | _ => .idle

def moveOf (world : World) : Step → Move Pubkey Pubkey
  | .tcap _ instruction => instructionMove world instruction
  | .external _ _ => .idle

/-- The accounts keep their shape and the ledger makes the move. -/
structure Simulates (world : World) (move : Move Pubkey Pubkey) (next : World) : Prop where
  wellFormed : WellFormed next
  moves : Moves (ledger world) move (ledger next)

theorem simulates_of_administers (hwellFormed : WellFormed world)
    (hadmin : Administers world next) : Simulates world .idle next where
  wellFormed := wellFormed_of_sound (sound_of_administers hadmin) hwellFormed
  moves := by
    rw [ledger_eq_of_administers hadmin]
    exact ⟨trivial, rfl, fun _ => le_rfl⟩

theorem mint_of_entry {entry : TcapAssetEntryV1}
    (hlookup : world.lookup key = some (.entry entry)) :
    (ledger world).mint key = some entry.asset.mint := by
  simp [ledger, hlookup, entryMint]

theorem mint_ne_none_of_registered (hregistered : Registered world key) :
    (ledger world).mint key ≠ none := by
  obtain ⟨entry, hentry⟩ := hregistered
  simp [mint_of_entry hentry]

/-- What the ledger records for the asset of a reserve. -/
theorem books_of_reserve {reserve : TcapReserveStateV1} (hwellFormed : WellFormed world)
    (hlookup : world.lookup key = some (.reserve reserve)) :
    (ledger world).actual reserve.assetEntry = reserve.actualAssets ∧
      (ledger world).unsettled reserve.assetEntry = unsettledLiabilities reserve ∧
      (ledger world).settled reserve.assetEntry =
        reserve.settledConfidentialLiabilities := by
  obtain ⟨rfl, -⟩ := hwellFormed key _ hlookup
  simp [ledger, hlookup, actualOf, unsettledOf, settledOf]

/-- The reserve an entry points to is the reserve of that entry. -/
theorem assetEntry_of_reserveState {entry : TcapAssetEntryV1}
    {reserve : TcapReserveStateV1} {assetEntry : Pubkey} (hwellFormed : WellFormed world)
    (hentry : world.lookup assetEntry = some (.entry entry))
    (hreserve : world.lookup key = some (.reserve reserve))
    (hstate : key = entry.reserveState) : reserve.assetEntry = assetEntry := by
  obtain ⟨-, -, hderived, -⟩ := hwellFormed assetEntry _ hentry
  obtain ⟨hkey, -⟩ := hwellFormed key _ hreserve
  exact deriveReserveState_inj.mp (hkey.symm.trans (hstate.trans hderived))

/-- The vault an entry points to is the vault of that entry. -/
theorem vault_of_entry {entry : TcapAssetEntryV1} {vault : TokenAccount}
    {assetEntry : Pubkey} (hwellFormed : WellFormed world)
    (hentry : world.lookup assetEntry = some (.entry entry))
    (hvault : world.lookup key = some (.token vault)) (hkey : key = entry.futureVault) :
    key = deriveFutureVault assetEntry ∧ (ledger world).vault assetEntry = vault.amount := by
  obtain ⟨-, -, -, hderived, -⟩ := hwellFormed assetEntry _ hentry
  have haddress := hkey.trans hderived
  subst haddress
  simp [ledger, hvault, tokensOf]

/-- Moving an amount into the settled bucket of a reserve and to a liability of its
asset, with the tip rewritten on the way. -/
theorem simulates_credit {tip tip' : TcapOneTimeTip} {entry : TcapAssetEntryV1}
    {reserve reserve' : TcapReserveStateV1} {liability : TcapTipLiabilityV2}
    {tipKey entryKey reserveKey liabilityKey : Pubkey} {amount : Nat}
    (hwellFormed : WellFormed world)
    (htip : world.lookup tipKey = some (.oneTimeTip tip))
    (hentry : world.lookup entryKey = some (.entry entry))
    (hreserve : world.lookup reserveKey = some (.reserve reserve))
    (hliability : world.lookup liabilityKey = some (.liability liability))
    (hstate : reserveKey = entry.reserveState) (hlink : liability.assetEntry = entryKey)
    (hasset : reserve'.assetEntry = reserve.assetEntry)
    (hactual : reserve'.actualAssets = reserve.actualAssets)
    (hsettled : reserve'.settledConfidentialLiabilities =
      reserve.settledConfidentialLiabilities + amount)
    (hunsettled : unsettledLiabilities reserve' + amount = unsettledLiabilities reserve) :
    Simulates world (.credit entryKey amount)
      (((world.insert tipKey (.oneTimeTip tip')).insert reserveKey
        (.reserve reserve')).insert liabilityKey
          (.liability { liability with available := liability.available + amount })) := by
  obtain rfl := assetEntry_of_reserveState hwellFormed hentry hreserve hstate
  obtain ⟨hbookActual, hbookUnsettled, hbookSettled⟩ :=
    books_of_reserve hwellFormed hreserve
  obtain ⟨htipFormed, htipLedger⟩ :=
    plain_rewrite (.oneTimeTip tip') hwellFormed htip trivial trivial
  have hreserve' := lookup_survives (.oneTimeTip tip') htip hreserve (by simp)
  have hliability' := lookup_survives (.oneTimeTip tip') htip hliability (by simp)
  obtain ⟨hreserveFormed, hreserveLedger⟩ :=
    reserve_write reserve' ((ledger world).actual reserve.assetEntry)
      ((ledger world).unsettled reserve.assetEntry - amount)
      ((ledger world).settled reserve.assetEntry + amount) htipFormed hreserve' hasset
      (by omega) (by omega) (by omega)
  obtain ⟨hformed, hledger⟩ := liability_rewrite
    { liability with available := liability.available + amount } hreserveFormed
    (lookup_survives (.reserve reserve') hreserve' hliability' (by simp)) rfl rfl
  rw [hreserveLedger, htipLedger] at hledger
  have hraise : (ledger world).available reserve.assetEntry +
      (liability.available + amount) - liability.available =
      (ledger world).available reserve.assetEntry + amount := by omega
  refine ⟨hformed, ⟨mint_ne_none_of_registered ⟨entry, hentry⟩, by omega⟩, ?_, ?_⟩
  · rw [hledger]
    simp [post, raise, lower, hraise, hlink]
  · simp [hledger, paidIn, paidOut]

theorem simulates_creditOneTimeTip {accounts : CreditOneTimeTip}
    {args : CreditOneTimeTipArgs} (hwellFormed : WellFormed world)
    (hstep : creditOneTimeTip runtime call accounts args world = .ok next) :
    Simulates world (.credit accounts.assetEntry args.amount) next := by
  obtain ⟨config, tip, tip', entry, reserve, liability, -, htip, hentry, hreserve, hliability,
    hstate, hlink, -, henough, rfl⟩ := creditOneTimeTip_eq_ok hstep
  refine simulates_credit hwellFormed htip hentry hreserve hliability hstate hlink
    rfl rfl rfl ?_
  simp only [unsettledLiabilities]
  omega

theorem simulates_creditOneTimeTipTransfer {accounts : CreditOneTimeTip}
    {args : CreditOneTimeTipArgs} (hwellFormed : WellFormed world)
    (hstep : creditOneTimeTipTransfer runtime call accounts args world = .ok next) :
    Simulates world (.credit accounts.assetEntry args.amount) next := by
  obtain ⟨config, tip, tip', entry, reserve, liability, -, htip, hentry, hreserve, hliability,
    hstate, hlink, -, henough, rfl⟩ := creditOneTimeTipTransfer_eq_ok hstep
  -- the three writes are to different accounts, so their order does not matter
  rw [Finmap.insert_insert_of_ne _ (keys_ne hreserve htip (by simp)),
    Finmap.insert_insert_of_ne _ (keys_ne hliability htip (by simp)),
    Finmap.insert_insert_of_ne _ (keys_ne hliability hreserve (by simp))]
  refine simulates_credit hwellFormed htip hentry hreserve hliability hstate hlink
    rfl rfl rfl ?_
  simp only [unsettledLiabilities]
  omega

theorem simulates_creditGpruMemoV1 {accounts : CreditGpruMemoV1}
    {args : CreditGpruMemoV1Args} (hwellFormed : WellFormed world)
    (hstep : creditGpruMemoV1 runtime call accounts args world = .ok next) :
    Simulates world (.settle accounts.assetEntry args.amount) next := by
  obtain ⟨root, root', entry, reserve, hroot, hentry, hreserve, hlink, -, henough, rfl⟩ := creditGpruMemoV1_eq_ok hstep
  rw [← hlink] at hentry ⊢
  obtain ⟨hbookActual, hbookUnsettled, hbookSettled⟩ :=
    books_of_reserve hwellFormed hreserve
  simp only [unsettledLiabilities] at hbookUnsettled
  obtain ⟨hrootFormed, hrootLedger⟩ :=
    plain_rewrite (.commitmentRoot root') hwellFormed hroot trivial trivial
  obtain ⟨hformed, hledger⟩ :=
    reserve_write { reserve with
        pendingLiabilities := reserve.pendingLiabilities - args.amount
        settledConfidentialLiabilities :=
          reserve.settledConfidentialLiabilities + args.amount }
      ((ledger world).actual reserve.assetEntry)
      ((ledger world).unsettled reserve.assetEntry - args.amount)
      ((ledger world).settled reserve.assetEntry + args.amount) hrootFormed
      (lookup_survives _ hroot hreserve (by simp)) rfl hbookActual.symm
      (by simp only [unsettledLiabilities]; omega) (by rw [hbookSettled])
  rw [hrootLedger] at hledger
  refine ⟨hformed, ⟨mint_ne_none_of_registered ⟨entry, hentry⟩, by omega⟩, ?_, ?_⟩
  · rw [hledger]
    simp [post, raise, lower]
  · simp [hledger, paidIn, paidOut]

theorem simulates_initializeTcapTipLiabilityV2 {accounts : InitializeTcapTipLiabilityV2}
    {initialAvailable : Nat} (hwellFormed : WellFormed world)
    (hstep : initializeTcapTipLiabilityV2 runtime call accounts initialAvailable world =
      .ok next) :
    Simulates world (.grant accounts.assetEntry initialAvailable) next := by
  obtain ⟨config, entry, reserve, liability, -, hentry, hreserve, hfresh, hkey, hasset,
    hamount, -, hstate, -, rfl⟩ := initializeTcapTipLiabilityV2_eq_ok hstep
  have hlink := assetEntry_of_reserveState hwellFormed hentry hreserve hstate
  obtain ⟨hbookActual, hbookUnsettled, hbookSettled⟩ :=
    books_of_reserve hwellFormed hreserve
  obtain ⟨hopenFormed, hopenLedger⟩ :=
    liability_open liability hwellFormed hfresh hkey (hasset ▸ ⟨entry, hentry⟩)
  obtain ⟨hformed, hledger⟩ :=
    reserve_write { reserve with
        settledConfidentialLiabilities :=
          reserve.settledConfidentialLiabilities + initialAvailable }
      ((ledger world).actual reserve.assetEntry)
      ((ledger world).unsettled reserve.assetEntry)
      ((ledger world).settled reserve.assetEntry + initialAvailable) hopenFormed
      (lookup_survives_fresh _ hfresh hreserve) rfl hbookActual.symm
      hbookUnsettled.symm (by rw [hbookSettled])
  rw [hopenLedger] at hledger
  refine ⟨hformed, mint_ne_none_of_registered ⟨entry, hentry⟩, ?_, ?_⟩
  · rw [hledger]
    simp [post, raise, hlink, hasset, hamount]
  · simp [hledger, paidIn, paidOut]

theorem simulates_debitTcapExitV1 {accounts : DebitTcapExitV1}
    {args : DebitTcapExitArgsV1} (hwellFormed : WellFormed world)
    (hstep : debitTcapExitV1 runtime call accounts args world = .ok next) :
    Simulates world (.debit (liabilityAsset world accounts.liability)
      (reserveAsset world accounts.reserveState) args.mint args.amount) next := by
  obtain ⟨tip, tip', reserve, liability, permit, htip, hreserve, hliability, hfresh, hkey,
    hmint, hamount, hunconsumed, -, hspendable, henough, rfl⟩ := debitTcapExitV1_eq_ok hstep
  obtain ⟨hbookActual, hbookUnsettled, hbookSettled⟩ :=
    books_of_reserve hwellFormed hreserve
  have havailable := available_le_available hliability
  obtain ⟨hissueFormed, hissueLedger⟩ :=
    permit_issue permit hwellFormed hfresh hkey hunconsumed
  have htip' := lookup_survives_fresh (.permit permit) hfresh htip
  have hliability' := lookup_survives_fresh (.permit permit) hfresh hliability
  have hreserve' := lookup_survives_fresh (.permit permit) hfresh hreserve
  obtain ⟨htipFormed, htipLedger⟩ :=
    plain_rewrite (.oneTimeTip tip') hissueFormed htip' trivial trivial
  obtain ⟨hdebitFormed, hdebitLedger⟩ := liability_rewrite
    { liability with
      available := liability.available - args.amount
      spent := liability.spent + args.amount } htipFormed
    (lookup_survives _ htip' hliability' (by simp)) rfl rfl
  obtain ⟨hformed, hledger⟩ :=
    reserve_write { reserve with
        settledConfidentialLiabilities :=
          reserve.settledConfidentialLiabilities - args.amount }
      ((ledger world).actual reserve.assetEntry)
      ((ledger world).unsettled reserve.assetEntry)
      ((ledger world).settled reserve.assetEntry - args.amount) hdebitFormed
      (lookup_survives _ (lookup_survives _ htip' hliability' (by simp))
        (lookup_survives _ htip' hreserve' (by simp)) (by simp)) rfl hbookActual.symm
      hbookUnsettled.symm (by rw [hbookSettled])
  rw [hdebitLedger, htipLedger, hissueLedger] at hledger
  have hlower : (ledger world).available liability.assetEntry +
      (liability.available - args.amount) - liability.available =
      (ledger world).available liability.assetEntry - args.amount := by omega
  rw [liabilityAsset_of_lookup hliability, reserveAsset_of_lookup hreserve]
  refine ⟨hformed, ⟨?_, ?_, by omega, by omega⟩, ?_, ?_⟩
  · exact mint_ne_none_of_registered (hwellFormed _ _ hliability).2
  · exact mint_ne_none_of_registered (hwellFormed _ _ hreserve).2
  · rw [hledger]
    simp [post, lower, hlower, hmint, hamount]
  · simp [hledger, paidIn, paidOut]

section Transfers

variable {signers : List Pubkey} {program source mint destination authority : Pubkey}
    {amount decimals : Nat} {moved : World}

/-- A transfer keeps every account that is not a token account. -/
theorem lookup_of_transfer {account : Account}
    (htransfer : transferChecked world signers program source mint destination authority
      amount decimals = .ok moved)
    (hlookup : world.lookup key = some account) (haccount : ∀ token, account ≠ .token token) :
    moved.lookup key = some account := by
  obtain ⟨sourceData, destinationData, hsource, hdestination, -, -, -, hcases⟩ :=
    transferChecked_eq_ok htransfer
  rcases hcases with ⟨-, rfl⟩ | ⟨-, rfl⟩
  · exact hlookup
  · have hkept := lookup_survives (.token { sourceData with
      amount := sourceData.amount - amount }) hsource hlookup (haccount _)
    rw [lookup_insert_eq, if_neg (keys_ne hlookup hdestination (haccount _)), hkept]

/-- A transfer changes vaults only. -/
theorem transfer_writes (hwellFormed : WellFormed world)
    (htransfer : transferChecked world signers program source mint destination authority
      amount decimals = .ok moved) :
    WellFormed moved ∧ ledger moved = { ledger world with vault := (ledger moved).vault } := by
  obtain ⟨sourceData, destinationData, hsource, hdestination, -, -, -, hcases⟩ :=
    transferChecked_eq_ok htransfer
  rcases hcases with ⟨-, rfl⟩ | ⟨hdistinct, rfl⟩
  · exact ⟨hwellFormed, rfl⟩
  · obtain ⟨hsourceFormed, hsourceLedger⟩ :=
      token_write { sourceData with amount := sourceData.amount - amount }
        hwellFormed hsource rfl
    have hdestination' : (world.insert source (.token
        { sourceData with amount := sourceData.amount - amount })).lookup destination =
        some (.token destinationData) := by
      rw [lookup_insert_eq, if_neg hdistinct.symm, hdestination]
    obtain ⟨hformed, hledger⟩ :=
      token_write { destinationData with amount := destinationData.amount + amount }
        hsourceFormed hdestination' rfl
    refine ⟨hformed, ?_⟩
    rw [hledger, hsourceLedger]

/-- A vault loses at most the amount transferred, and only if it is the source. -/
theorem vault_le_of_transfer (entry : Pubkey)
    (htransfer : transferChecked world signers program source mint destination authority
      amount decimals = .ok moved) :
    (ledger world).vault entry ≤
      (ledger moved).vault entry + if deriveFutureVault entry = source then amount else 0 := by
  obtain ⟨sourceData, destinationData, hsource, hdestination, -, -, henough, hcases⟩ :=
    transferChecked_eq_ok htransfer
  have hvault : ∀ {token : TokenAccount},
      world.lookup (deriveFutureVault entry) = some (.token token) →
        (ledger world).vault entry = token.amount := by
    intro token hlookup
    simp [ledger, hlookup, tokensOf]
  rcases hcases with ⟨-, rfl⟩ | ⟨hdistinct, rfl⟩
  · omega
  · rw [vault_insert_token, vault_insert_token]
    by_cases hdest : deriveFutureVault entry = destination
    · rw [if_pos hdest, hvault (hdest ▸ hdestination)]
      simp only
      omega
    · rw [if_neg hdest]
      by_cases hsrc : deriveFutureVault entry = source
      · rw [if_pos hsrc, if_pos hsrc, hvault (hsrc ▸ hsource)]
        simp only
        omega
      · rw [if_neg hsrc, if_neg hsrc]
        omega

/-- Without a signature of the program no vault is the source of a transfer. -/
theorem source_ne_vault (hwellFormed : WellFormed world)
    (hsigners : ∀ key ∈ signers, key.program? ≠ some tcapProgram)
    (htransfer : transferChecked world signers program source mint destination authority
      amount decimals = .ok moved) (entry : Pubkey) : deriveFutureVault entry ≠ source := by
  rintro rfl
  obtain ⟨sourceData, -, hsource, -, howner, hsigned, -, -⟩ := transferChecked_eq_ok htransfer
  obtain ⟨owned, -, hauthority⟩ := hwellFormed _ _ hsource (by simp [deriveFutureVault])
  refine hsigners authority hsigned ?_
  rw [← howner, hauthority, deriveReserveAuthority, program?_findProgramAddress]

end Transfers

/-- A transfer of another program is idle, and no vault shrinks. -/
theorem simulates_transferChecked {program source mint destination authority : Pubkey}
    {amount decimals : Nat} (hwellFormed : WellFormed world)
    (hsigners : noProgramSigner call)
    (hstep : transferChecked world call.signers program source mint destination authority
      amount decimals = .ok next) :
    Simulates world .idle next := by
  obtain ⟨hformed, hledger⟩ := transfer_writes hwellFormed hstep
  refine ⟨hformed, trivial, hledger, ?_⟩
  intro entry
  have hvault := vault_le_of_transfer entry hstep
  rw [if_neg (source_ne_vault hwellFormed hsigners hstep entry)] at hvault
  simpa [paidIn, paidOut] using hvault

theorem simulates_deposits {accounts : DepositAssetV2} {amount : Nat}
    (hwellFormed : WellFormed world) (hsigners : noProgramSigner call)
    (hdeposits : Deposits call world accounts amount next) :
    Simulates world (.deposit accounts.assetEntry amount) next := by
  obtain ⟨entry, reserve, vault, decimals, moved, vault', hentry, hreserve, hvault, hstate,
    hkey, -, hactual, hmoved, hvault', hamount, rfl⟩ := hdeposits
  obtain ⟨haddress, hbookVault⟩ := vault_of_entry hwellFormed hentry hvault hkey
  have hlink := assetEntry_of_reserveState hwellFormed hentry hreserve hstate
  obtain ⟨hbookActual, hbookUnsettled, hbookSettled⟩ :=
    books_of_reserve hwellFormed hreserve
  obtain ⟨hmovedFormed, hmovedLedger⟩ := transfer_writes hwellFormed hmoved
  have hreserve' := lookup_of_transfer hmoved hreserve (by simp)
  have hmovedVault : (ledger moved).vault accounts.assetEntry = vault'.amount := by
    rw [haddress] at hvault'
    simp [ledger, hvault', tokensOf]
  simp only [unsettledLiabilities] at hbookUnsettled
  obtain ⟨hformed, hledger⟩ :=
    reserve_write { reserve with
        actualAssets := vault'.amount
        pendingLiabilities := reserve.pendingLiabilities + amount }
      ((ledger world).actual reserve.assetEntry + amount)
      ((ledger world).unsettled reserve.assetEntry + amount)
      ((ledger world).settled reserve.assetEntry) hmovedFormed hreserve' rfl
      (by simp only; omega) (by simp only [unsettledLiabilities]; omega) hbookSettled.symm
  rw [hmovedLedger] at hledger
  rw [← hlink] at hentry hbookVault hmovedVault ⊢
  refine ⟨hformed, ⟨mint_ne_none_of_registered ⟨entry, hentry⟩, by omega⟩, ?_, ?_⟩
  · rw [hledger]
    simp [post, raise]
  · intro asset
    have hmovedAsset := vault_le_of_transfer asset hmoved
    rw [if_neg (source_ne_vault hwellFormed hsigners hmoved asset)] at hmovedAsset
    simp only [hledger, paidIn, paidOut]
    split_ifs with hasset
    · subst hasset
      omega
    · omega

theorem simulates_depositAssetV2 {accounts : DepositAssetV2} {amount : Nat}
    (hwellFormed : WellFormed world) (hsigners : noProgramSigner call)
    (hstep : depositAssetV2 runtime call accounts amount world = .ok next) :
    Simulates world (.deposit accounts.assetEntry amount) next :=
  simulates_deposits hwellFormed hsigners (depositAssetV2_eq_ok hstep)

/-- A deposit writes token accounts and a reserve. -/
theorem lookup_of_deposits {accounts : DepositAssetV2} {amount : Nat}
    (hdeposits : Deposits call world accounts amount next)
    (hplain : ∀ account, world.lookup key = some account → Plain account) :
    next.lookup key = world.lookup key := by
  obtain ⟨entry, reserve, vault, decimals, moved, vault', -, hreserve, -, -, -, -, -, hmoved,
    -, -, rfl⟩ := hdeposits
  obtain ⟨sourceData, destinationData, hsource, hdestination, -, -, -, hcases⟩ :=
    transferChecked_eq_ok hmoved
  have hne : ∀ {other : Pubkey} {account : Account}, world.lookup other = some account →
      ¬ Plain account → key ≠ other := by
    rintro other account hother hunplain rfl
    exact hunplain (hplain account hother)
  rw [lookup_insert_eq, if_neg (hne hreserve id)]
  rcases hcases with ⟨-, rfl⟩ | ⟨-, rfl⟩
  · rfl
  · rw [lookup_insert_eq, if_neg (hne hdestination id), lookup_insert_eq,
      if_neg (hne hsource id)]

theorem simulates_depositWithFundingCommitmentV2
    {accounts : DepositWithFundingCommitmentV2} {args : DepositWithFundingCommitmentArgsV2}
    (hwellFormed : WellFormed world) (hsigners : noProgramSigner call)
    (hstep : depositWithFundingCommitmentV2 runtime call accounts args world = .ok next) :
    Simulates world (.deposit accounts.assetEntry args.amount) next := by
  obtain ⟨funded, claim, root, nonce, hdeposits, hclaimKey, hrootKey, hnonceKey, hclaim, hroot,
    hnonce, rfl⟩ := depositWithFundingCommitmentV2_eq_ok hstep
  obtain ⟨hfunded, hmoves⟩ := simulates_deposits hwellFormed hsigners hdeposits
  have hclaimPlain : ∀ account, world.lookup accounts.fundingClaim = some account →
      Plain account := by
    simp [hclaim]
  have hrootPlain : ∀ account, world.lookup accounts.fundingRoot = some account →
      Plain account := by
    rcases hroot with hroot | ⟨old, hroot⟩ <;> simp [hroot, Plain]
  have hnoncePlain : ∀ account, world.lookup accounts.fundingNonce = some account →
      Plain account := by
    rcases hnonce with hnonce | ⟨old, hnonce⟩ <;> simp [hnonce, Plain]
  have hrootNe : accounts.fundingRoot ≠ accounts.fundingClaim := by
    simp [hrootKey, hclaimKey, deriveFundingRoot, deriveFundingClaim, findProgramAddress]
  have hnonceNe : accounts.fundingNonce ≠ accounts.fundingRoot ∧
      accounts.fundingNonce ≠ accounts.fundingClaim := by
    simp [hrootKey, hclaimKey, hnonceKey, deriveFundingRoot, deriveFundingClaim,
      deriveFundingAuthorizationNonce, findProgramAddress]
  obtain ⟨hclaimFormed, hclaimLedger⟩ := plain_write (.fundingClaim claim) hfunded
    (by rwa [lookup_of_deposits hdeposits hclaimPlain]) trivial
  obtain ⟨hrootFormed, hrootLedger⟩ := plain_write (.fundingRoot root) hclaimFormed
    (by rwa [lookup_insert_eq, if_neg hrootNe, lookup_of_deposits hdeposits hrootPlain])
    trivial
  obtain ⟨hformed, hledger⟩ := plain_write (.fundingNonce nonce) hrootFormed
    (by rwa [lookup_insert_eq, if_neg hnonceNe.1, lookup_insert_eq, if_neg hnonceNe.2,
      lookup_of_deposits hdeposits hnoncePlain]) trivial
  refine ⟨hformed, ?_⟩
  rw [hledger, hrootLedger, hclaimLedger]
  exact hmoves

theorem simulates_payoutTcapExitV1 {accounts : PayoutTcapExitV1}
    {destinationOwner : Pubkey} (hwellFormed : WellFormed world)
    (hstep : payoutTcapExitV1 runtime call accounts destinationOwner world = .ok next) :
    Simulates world (.payout accounts.assetEntry (permitAmount world accounts.permit))
      next := by
  obtain ⟨entry, reserve, permit, vault, decimals, moved, hentry, hreserve, hpermit, hvault,
    hlink, hkey, hunconsumed, hmint, henough, hmoved, rfl⟩ := payoutTcapExitV1_eq_ok hstep
  obtain ⟨haddress, hbookVault⟩ := vault_of_entry hwellFormed hentry hvault hkey
  obtain ⟨hbookActual, hbookUnsettled, hbookSettled⟩ :=
    books_of_reserve hwellFormed hreserve
  have houtstanding := amount_le_outstanding hpermit hunconsumed
  obtain ⟨hmovedFormed, hmovedLedger⟩ := transfer_writes hwellFormed hmoved
  have hreserve' := lookup_of_transfer hmoved hreserve (by simp)
  have hpermit' := lookup_of_transfer hmoved hpermit (by simp)
  obtain ⟨hpaidFormed, hpaidLedger⟩ :=
    reserve_write { reserve with actualAssets := vault.amount - permit.amount }
      ((ledger world).vault reserve.assetEntry - permit.amount)
      ((ledger world).unsettled reserve.assetEntry)
      ((ledger world).settled reserve.assetEntry) hmovedFormed hreserve' rfl
      (by rw [hlink, hbookVault]) hbookUnsettled.symm hbookSettled.symm
  obtain ⟨hformed, hledger⟩ := permit_consume hpaidFormed
    (lookup_survives _ hreserve' hpermit' (by simp)) hunconsumed
  rw [hpaidLedger, hmovedLedger] at hledger
  simp only [permitAmount, hpermit]
  have hlisted := mint_of_entry hentry
  refine ⟨hformed, ⟨entry.asset.mint, hlisted, hmint ▸ houtstanding, by omega⟩, ?_, ?_⟩
  · rw [hledger]
    simp [post, hlink, hlisted, hmint]
  · intro asset
    have hmovedAsset := vault_le_of_transfer asset hmoved
    rw [haddress] at hmovedAsset
    simp only [hledger, paidIn, paidOut]
    by_cases hasset : asset = accounts.assetEntry
    · subst hasset
      simpa using hmovedAsset
    · rw [if_neg (mt deriveFutureVault_inj.mp hasset)] at hmovedAsset
      simpa [hasset] using hmovedAsset

theorem simulates_syncGovernedAssetInfrastructureV2
    {accounts : SyncGovernedAssetInfrastructureV2} (hwellFormed : WellFormed world)
    (hstep : syncGovernedAssetInfrastructureV2 runtime call accounts world = .ok next) :
    Simulates world (.reconcile accounts.assetEntry) next := by
  obtain ⟨entry, policy, reserve, vault, policy', hentry, hpolicy, hreserve, hvault, hlink,
    hkey, henough, rfl⟩ := syncGovernedAssetInfrastructureV2_eq_ok hstep
  obtain ⟨-, hbookVault⟩ := vault_of_entry hwellFormed hentry hvault hkey
  obtain ⟨hbookActual, hbookUnsettled, hbookSettled⟩ :=
    books_of_reserve hwellFormed hreserve
  rw [← hlink] at hentry hbookVault ⊢
  obtain ⟨hreserveFormed, hreserveLedger⟩ :=
    reserve_write { reserve with actualAssets := vault.amount }
      ((ledger world).vault reserve.assetEntry)
      ((ledger world).unsettled reserve.assetEntry)
      ((ledger world).settled reserve.assetEntry) hwellFormed hreserve rfl
      hbookVault.symm hbookUnsettled.symm hbookSettled.symm
  obtain ⟨hformed, hledger⟩ := plain_rewrite (.policy policy') hreserveFormed
    (lookup_survives _ hreserve hpolicy (by simp)) trivial trivial
  rw [hreserveLedger] at hledger
  refine ⟨hformed, ⟨mint_ne_none_of_registered ⟨entry, hentry⟩, by omega⟩, ?_, ?_⟩
  · rw [hledger]
    simp [post]
  · simp [hledger, paidIn, paidOut]

/-- Two entries of one mint are one entry. -/
theorem entry_unique {entry : TcapAssetEntryV1} {mint : Mint} {tokenProgram mintKey : Pubkey}
    (hwellFormed : WellFormed world) (hentry : world.lookup key = some (.entry entry))
    (hmint : world.lookup mintKey = some (.mint mint)) (hprogram : mint.program = tokenProgram)
    (hasset : entry.asset.mint = mintKey) :
    key = assetEntryAddress assetRegistryAddress tokenProgram mintKey := by
  obtain ⟨hkey, -, -, -, -, mint', hmint', hprogram'⟩ := hwellFormed key _ hentry
  rw [hasset, hmint] at hmint'
  cases hmint'
  rw [hkey, hasset, ← hprogram, ← hprogram']

theorem simulates_registerGovernedAssetV2 {accounts : RegisterGovernedAssetV2}
    {args : RegisterGovernedAssetArgsV2} (hwellFormed : WellFormed world)
    (hstep : registerGovernedAssetV2 runtime call accounts args world = .ok next) :
    Simulates world (.list accounts.assetEntry accounts.mint) next := by
  obtain ⟨registry, mint, entry, policy, extensionPolicy, registry', hregistry, hmint,
    hprogram, haddress, hentryKey, hpolicyKey, hextensionKey, hentry, hpolicy, hextension,
    hlink, htoken, hasset, hreserve, hvault, hauthority, rfl⟩ :=
    registerGovernedAssetV2_eq_ok hstep
  obtain ⟨hentryFormed, hentryLedger⟩ := entry_create hwellFormed hentry
    (show Canonical world accounts.assetEntry (.entry entry) from
      ⟨by rw [htoken, hasset, ← haddress, hentryKey], hlink.trans haddress, hreserve, hvault,
        hauthority, mint, by rw [hasset, hmint], by rw [hprogram, htoken]⟩)
  have hpolicyNe : accounts.governancePolicy ≠ accounts.assetEntry := by
    simp [hpolicyKey, hentryKey, deriveAssetGovernancePolicy, assetEntryAddress,
      findProgramAddress]
  have hextensionNe : accounts.extensionPolicy ≠ accounts.governancePolicy ∧
      accounts.extensionPolicy ≠ accounts.assetEntry := by
    simp [hpolicyKey, hextensionKey, hentryKey, deriveAssetGovernancePolicy,
      deriveAssetExtensionPolicy, assetEntryAddress, findProgramAddress]
  have hpolicy' : (world.insert accounts.assetEntry (.entry entry)).lookup
      accounts.governancePolicy = none := by
    rw [lookup_insert_eq, if_neg hpolicyNe, hpolicy]
  have hextension' : ((world.insert accounts.assetEntry (.entry entry)).insert
      accounts.governancePolicy (.policy policy)).lookup accounts.extensionPolicy =
        none := by
    rw [lookup_insert_eq, if_neg hextensionNe.1, lookup_insert_eq, if_neg hextensionNe.2,
      hextension]
  obtain ⟨hpolicyFormed, hpolicyLedger⟩ :=
    plain_write (.policy policy) hentryFormed (by rw [hpolicy']; simp) trivial
  obtain ⟨hextensionFormed, hextensionLedger⟩ :=
    plain_write (.extensionPolicy extensionPolicy) hpolicyFormed
      (by rw [hextension']; simp) trivial
  obtain ⟨hformed, hledger⟩ := plain_rewrite (.registry registry') hextensionFormed
    (lookup_survives_fresh _ hextension' (lookup_survives_fresh _ hpolicy'
      (lookup_survives_fresh _ hentry hregistry))) trivial trivial
  rw [hextensionLedger, hpolicyLedger, hentryLedger] at hledger
  refine ⟨hformed, ⟨by simp [ledger, hentry], ?_⟩, ?_, ?_⟩
  · intro other hlisted
    simp only [ledger, Option.bind_eq_some_iff] at hlisted
    obtain ⟨account, hother, hmintOf⟩ := hlisted
    cases account with
    | entry listed =>
        have hsame := entry_unique hwellFormed hother hmint hprogram (Option.some.inj hmintOf)
        rw [← haddress, ← hentryKey] at hsame
        rw [hsame, hentry] at hother
        cases hother
    | _ => cases hmintOf
  · rw [hledger]
    simp [post, hasset]
  · simp [hledger, paidIn, paidOut]

theorem freshAddress_eq_ok {result : Unit}
    (hfresh : freshAddress call world key = .ok result) :
    key ∈ call.signers ∧ world.lookup key = none := by
  simpa [freshAddress] using hfresh

/-- What other programs do leaves the books alone, and no vault shrinks. -/
theorem simulates_executeExternal {action : ExternalAction} (hwellFormed : WellFormed world)
    (hsigners : noProgramSigner call)
    (hstep : executeExternal call action world = .ok next) :
    Simulates world .idle next := by
  cases action with
  | transferChecked program source mint destination authority amount decimals =>
      exact simulates_transferChecked hwellFormed hsigners hstep
  | mintTo mint destination authority amount =>
      simp only [executeExternal, bind_eq_ok, load_eq_ok, wrap_token, pure_eq_ok] at hstep
      obtain ⟨mintData, -, token, htoken, _, -, _, -, _, -, rfl⟩ := hstep
      obtain ⟨hformed, hledger⟩ := token_write { token with amount := token.amount + amount }
        hwellFormed htoken rfl
      refine ⟨hformed, trivial, hledger, ?_⟩
      intro entry
      rw [vault_insert_token]
      split_ifs with hvault
      · subst hvault
        simp [ledger, htoken, tokensOf, paidIn, paidOut]
      · simp [paidIn, paidOut]
  | initializeAccount account program mint owner =>
      simp only [executeExternal, bind_eq_ok, pure_eq_ok] at hstep
      obtain ⟨_, hfresh, mintData, -, _, -, rfl⟩ := hstep
      obtain ⟨hsigned, hfresh⟩ := freshAddress_eq_ok hfresh
      refine simulates_of_administers hwellFormed
        (administers_insert (administers_refl world) ?_)
      rw [Administrative, hfresh]
      refine ⟨keeps_of_ne (by simp) (by simp), ?_, ?_⟩
      · exact fun hprogram => absurd hprogram (hsigners account hsigned)
      · exact ⟨by simp, rfl, rfl, rfl, rfl, rfl, fun _ => rfl, fun _ => rfl⟩
  | initializeMint account data =>
      simp only [executeExternal, bind_eq_ok, pure_eq_ok] at hstep
      obtain ⟨_, hfresh, _, -, rfl⟩ := hstep
      obtain ⟨hsigned, hfresh⟩ := freshAddress_eq_ok hfresh
      refine simulates_of_administers hwellFormed
        (administers_insert (administers_refl world) ?_)
      rw [Administrative, hfresh]
      refine ⟨keeps_of_ne (by simp) (by simp), hsigners account hsigned, ?_⟩
      exact ⟨by simp, rfl, rfl, rfl, rfl, rfl, fun _ => rfl, fun _ => rfl⟩
  | writeForeign account owner data =>
      simp only [executeExternal, bind_eq_ok] at hstep
      obtain ⟨_, -, hstep⟩ := hstep
      refine simulates_of_administers hwellFormed ?_
      split at hstep
      · rename_i hfresh
        cases hstep
        exact administers_insert (administers_refl world)
          (administrative_of_fresh hfresh trivial)
      · rename_i old oldData hold
        cases hstep
        exact administers_insert (administers_refl world)
          (administrative_of_overwrite hold trivial trivial)
      · cases hstep

theorem simulates_execute {instruction : Instruction} (hwellFormed : WellFormed world)
    (hsigners : noProgramSigner call)
    (hstep : execute runtime call instruction world = .ok next) :
    Simulates world (instructionMove world instruction) next := by
  cases instruction with
  | registerGovernedAssetV2 => exact simulates_registerGovernedAssetV2 hwellFormed hstep
  | depositAssetV2 => exact simulates_depositAssetV2 hwellFormed hsigners hstep
  | depositWithFundingCommitmentV2 =>
      exact simulates_depositWithFundingCommitmentV2 hwellFormed hsigners hstep
  | creditGpruMemoV1 => exact simulates_creditGpruMemoV1 hwellFormed hstep
  | creditOneTimeTip => exact simulates_creditOneTimeTip hwellFormed hstep
  | creditOneTimeTipTransfer =>
      exact simulates_creditOneTimeTipTransfer hwellFormed hstep
  | initializeTcapTipLiabilityV2 =>
      exact simulates_initializeTcapTipLiabilityV2 hwellFormed hstep
  | debitTcapExitV1 => exact simulates_debitTcapExitV1 hwellFormed hstep
  | payoutTcapExitV1 => exact simulates_payoutTcapExitV1 hwellFormed hstep
  | syncGovernedAssetInfrastructureV2 =>
      exact simulates_syncGovernedAssetInfrastructureV2 hwellFormed hstep
  | _ =>
      exact simulates_of_administers hwellFormed
        (administers_execute id hwellFormed hstep)

/-- Every step is a move of the ledger. -/
theorem simulates_step {input : Step} (hwellFormed : WellFormed world)
    (hstep : step runtime world input = .ok next) :
    Simulates world (moveOf world input) next := by
  cases input with
  | tcap call instruction =>
      obtain ⟨hsigners, hstep⟩ := step_tcap_eq_ok.mp hstep
      exact simulates_execute hwellFormed hsigners hstep
  | external call action =>
      obtain ⟨hsigners, hstep⟩ := step_external_eq_ok.mp hstep
      exact simulates_executeExternal hwellFormed hsigners hstep

theorem wellFormed_of_preLaunch (hlaunch : PreLaunch world) : WellFormed world := by
  intro key account haccount
  have hkey := hlaunch key account haccount
  cases account with
  | token token => exact fun hprogram => absurd hprogram hkey
  | mint mint => exact hkey
  | tinTip tip => trivial
  | foreign owner data => trivial
  | program => trivial
  | _ => exact hkey.elim

/-- The ledger before anything is listed. -/
def emptyLedger : Ledger Pubkey Pubkey where
  mint _ := none
  actual _ := 0
  vault _ := 0
  unsettled _ := 0
  settled _ := 0
  available _ := 0
  outstanding _ := 0

/-- Before launch the ledger is empty. -/
theorem ledger_of_preLaunch (hlaunch : PreLaunch world) : ledger world = emptyLedger := by
  have hweigh : ∀ {weight : Account → Nat} (key : Pubkey),
      (∀ account, Plain account → weight account = 0) →
      (∀ token, key.program? ≠ some tcapProgram → weight (.token token) = 0) →
      (∀ mint, weight (.mint mint) = 0) → weigh weight (world.lookup key) = 0 := by
    intro weight key hplain htoken hmint
    cases hlookup : world.lookup key with
    | none => rfl
    | some account =>
        have hkey := hlaunch key account hlookup
        cases account with
        | token token => exact htoken token hkey
        | mint mint => exact hmint mint
        | tinTip tip => exact hplain _ trivial
        | foreign owner data => exact hplain _ trivial
        | program => exact hplain _ trivial
        | _ => exact hkey.elim
  have hzero : ∀ {weight : Account → Nat}, (∀ account, Plain account → weight account = 0) →
      (∀ token, weight (.token token) = 0) → (∀ mint, weight (.mint mint) = 0) →
      total weight world = 0 := by
    intro weight hplain htoken hmint
    refine total_eq_zero fun key account hlookup => ?_
    have hweight := hweigh key hplain (fun token _ => htoken token) hmint
    rwa [hlookup] at hweight
  refine Ledger.ext ?_ ?_ ?_ ?_ ?_ ?_ ?_ <;> funext key
  · simp only [ledger, emptyLedger, Option.bind_eq_none_iff]
    intro account hlookup
    have hkey := hlaunch key account hlookup
    cases account with
    | entry entry => exact hkey.elim
    | _ => rfl
  · exact hweigh _ (fun _ h => (weightless_of_plain h).actual) (fun _ _ => rfl) fun _ => rfl
  · refine hweigh _ (fun _ h => (weightless_of_plain h).tokens) (fun _ h => ?_) fun _ => rfl
    exact absurd (program?_findProgramAddress _ _ _) h
  · exact hweigh _ (fun _ h => (weightless_of_plain h).unsettled) (fun _ _ => rfl) fun _ => rfl
  · exact hweigh _ (fun _ h => (weightless_of_plain h).settled) (fun _ _ => rfl) fun _ => rfl
  · exact hzero (fun _ h => (weightless_of_plain h).available key) (fun _ => rfl) fun _ => rfl
  · exact hzero (fun _ h => (weightless_of_plain h).outstanding key) (fun _ => rfl)
      fun _ => rfl

/-- Every world of a run has its shape, the last one included. -/
theorem wellFormed_of_run {start : World} {history : List (World × Step)}
    (hrun : ChainRun runtime start history world) :
    WellFormed world ∧ ∀ entry ∈ history, WellFormed entry.1 := by
  obtain ⟨hlaunch, hrun⟩ := hrun
  refine hrun.induct_on (fun history world =>
    WellFormed world ∧ ∀ entry ∈ history, WellFormed entry.1) ?_ ?_
  · exact ⟨wellFormed_of_preLaunch hlaunch, by simp⟩
  · rintro history world input next - ⟨hwellFormed, hhistory⟩ hstep
    refine ⟨(simulates_step hwellFormed hstep).wellFormed, ?_⟩
    rintro entry hentry
    rcases List.mem_cons.mp hentry with rfl | hentry
    · exact hwellFormed
    · exact hhistory entry hentry

end TsnProtocol.Tcap.Refinement
