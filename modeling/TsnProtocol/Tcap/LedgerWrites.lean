import TsnProtocol.Tcap.Administration

/-!
How a write of a single account changes the custody ledger. Each kind of account
enters one part of the ledger, at the address its own fields derive.
-/

namespace TsnProtocol.Tcap.LedgerWrites

open Lib.FiniteStore
open Lib.CustodyLedger
open Solana.Address
open Tcap.State
open Tcap.Execution
open Tcap.Custody
open Tcap.Administration

variable {world : World} {key : Pubkey}

theorem deriveReserveState_inj {first second : Pubkey} :
    deriveReserveState first = deriveReserveState second ↔ first = second := by
  simp [deriveReserveState, findProgramAddress]

theorem deriveFutureVault_inj {first second : Pubkey} :
    deriveFutureVault first = deriveFutureVault second ↔ first = second := by
  simp [deriveFutureVault, findProgramAddress]

theorem deriveReserveState_ne_deriveFutureVault {first second : Pubkey} :
    deriveReserveState first ≠ deriveFutureVault second := by
  simp [deriveReserveState, deriveFutureVault, findProgramAddress]

theorem keys_ne {other : Pubkey} {first second : Account}
    (hkey : world.lookup key = some first) (hother : world.lookup other = some second)
    (hne : first ≠ second) : key ≠ other := by
  rintro rfl
  exact hne (Option.some.inj (hkey.symm.trans hother))

/-- What is stored under a key survives a write over something else. -/
theorem lookup_survives {other : Pubkey} {old kept : Account} (account : Account)
    (hkey : world.lookup key = some old) (hother : world.lookup other = some kept)
    (hne : kept ≠ old) : (world.insert key account).lookup other = some kept := by
  rw [lookup_insert_eq, if_neg (keys_ne hother hkey hne), hother]

/-- What is stored under a key survives a write where nothing was. -/
theorem lookup_survives_fresh {other : Pubkey} {kept : Account} (account : Account)
    (hkey : world.lookup key = none) (hother : world.lookup other = some kept) :
    (world.insert key account).lookup other = some kept := by
  rw [lookup_insert_eq, if_neg, hother]
  rintro rfl
  rw [hkey] at hother
  cases hother

theorem wellFormed_insert {account : Account} (hwellFormed : WellFormed world)
    (hkeeps : Keeps (world.lookup key) account)
    (hcanonical : Canonical world key account) :
    WellFormed (world.insert key account) := by
  refine wellFormed_of_sound ?_ hwellFormed
  intro other
  rw [lookup_insert_eq]
  split_ifs with hkey
  · subst hkey
    exact .inr ⟨account, rfl, hkeeps, hcanonical⟩
  · exact .inl rfl

/-- Nothing is lost by a write over something that is neither entry nor mint. -/
theorem keeps_of_ne {old : Option Account} {new : Account}
    (hentry : ∀ entry, old ≠ some (.entry entry)) (hmint : ∀ mint, old ≠ some (.mint mint)) :
    Keeps old new :=
  ⟨fun entry hold => absurd hold (hentry entry), fun mint hold => absurd hold (hmint mint)⟩

/-- Writing an account that is not part of the ledger. -/
theorem plain_write (account : Account) (hwellFormed : WellFormed world)
    (hold : ∀ old, world.lookup key = some old → Plain old) (hnew : Plain account) :
    WellFormed (world.insert key account) ∧
      ledger (world.insert key account) = ledger world := by
  have hadmin := administers_insert (administers_refl world)
    (administrative_of_plain hold hnew)
  exact ⟨wellFormed_of_sound (sound_of_administers hadmin) hwellFormed,
    ledger_eq_of_administers hadmin⟩

theorem plain_rewrite {old : Account} (account : Account) (hwellFormed : WellFormed world)
    (hlookup : world.lookup key = some old) (hold : Plain old) (hnew : Plain account) :
    WellFormed (world.insert key account) ∧
      ledger (world.insert key account) = ledger world := by
  refine plain_write account hwellFormed ?_ hnew
  intro other hother
  obtain rfl : old = other := Option.some.inj (hlookup.symm.trans hother)
  exact hold

/-- Creating an entry lists its mint. -/
theorem entry_create {entry : TcapAssetEntryV1} (hwellFormed : WellFormed world)
    (hfresh : world.lookup key = none) (hcanonical : Canonical world key (.entry entry)) :
    WellFormed (world.insert key (.entry entry)) ∧
      ledger (world.insert key (.entry entry)) =
        { ledger world with
          mint := Function.update (ledger world).mint key (some entry.asset.mint) } := by
  constructor
  · refine wellFormed_insert hwellFormed (keeps_of_ne ?_ ?_) hcanonical <;> simp [hfresh]
  · have hweigh : ∀ {weight : Account → Nat} (other : Pubkey),
        weight (.entry entry) = 0 →
          weigh weight ((world.insert key (.entry entry)).lookup other) =
            weigh weight (world.lookup other) := by
      intro weight other hzero
      rw [lookup_insert_eq]
      split_ifs with hkey
      · rw [hkey, hfresh, weigh_some, hzero, weigh_none]
      · rfl
    refine Ledger.ext ?_ ?_ ?_ ?_ ?_ ?_ ?_ <;> funext other
    · simp only [ledger, lookup_insert_eq, Function.update_apply]
      split_ifs <;> rfl
    · exact hweigh _ rfl
    · exact hweigh _ rfl
    · exact hweigh _ rfl
    · exact hweigh _ rfl
    · exact total_congr fun _ => hweigh _ rfl
    · exact total_congr fun _ => hweigh _ rfl

private theorem weigh_insert_reserve {weight : Account → Nat} (target : Pubkey)
    (account : Account) (entry : Pubkey) :
    weigh weight ((world.insert (deriveReserveState target) account).lookup
        (deriveReserveState entry)) =
      Function.update (fun entry => weigh weight (world.lookup (deriveReserveState entry)))
        target (weight account) entry := by
  rw [lookup_insert_eq, Function.update_apply]
  by_cases hentry : entry = target
  · rw [if_pos hentry, if_pos (deriveReserveState_inj.mpr hentry), weigh_some]
  · rw [if_neg hentry, if_neg (mt deriveReserveState_inj.mp hentry)]

/-- Rewriting a reserve sets the book value and the liabilities of its asset. -/
theorem reserve_write {reserve : TcapReserveStateV1} (reserve' : TcapReserveStateV1)
    (actual unsettled settled : Nat) (hwellFormed : WellFormed world)
    (hlookup : world.lookup key = some (.reserve reserve))
    (hentry : reserve'.assetEntry = reserve.assetEntry)
    (hactual : reserve'.actualAssets = actual)
    (hunsettled : unsettledLiabilities reserve' = unsettled)
    (hsettled : reserve'.settledConfidentialLiabilities = settled) :
    WellFormed (world.insert key (.reserve reserve')) ∧
      ledger (world.insert key (.reserve reserve')) =
        { ledger world with
          actual := Function.update (ledger world).actual reserve.assetEntry actual
          unsettled := Function.update (ledger world).unsettled reserve.assetEntry unsettled
          settled := Function.update (ledger world).settled reserve.assetEntry settled } := by
  obtain ⟨rfl, hregistered⟩ := hwellFormed key _ hlookup
  subst hactual hunsettled hsettled
  constructor
  · refine wellFormed_insert hwellFormed (keeps_of_ne ?_ ?_) ?_
    · simp [hlookup]
    · simp [hlookup]
    · exact ⟨by rw [hentry], hentry ▸ hregistered⟩
  · simp only [ledger, Ledger.mk.injEq]
    refine ⟨?_, ?_, ?_, ?_, ?_, ?_, ?_⟩ <;> funext entry
    · rw [lookup_insert_eq]
      split_ifs with hkey
      · rw [hkey, hlookup]
        rfl
      · rfl
    · exact weigh_insert_reserve _ _ entry
    · rw [lookup_insert_eq, if_neg deriveReserveState_ne_deriveFutureVault.symm]
    · exact weigh_insert_reserve _ _ entry
    · exact weigh_insert_reserve _ _ entry
    · exact total_insert_of_weigh_eq (by rw [hlookup]; rfl)
    · exact total_insert_of_weigh_eq (by rw [hlookup]; rfl)

/-- Liabilities, permits and token balances. These enter neither the list of assets
nor the reserves. -/
def Unbooked : Option Account → Prop
  | none | some (.liability _) | some (.permit _) | some (.token _) => True
  | _ => False

private theorem weigh_unbooked {old : Option Account} (hold : Unbooked old) :
    old.bind entryMint = none ∧ weigh actualOf old = 0 ∧ weigh unsettledOf old = 0 ∧
      weigh settledOf old = 0 := by
  cases old with
  | none => exact ⟨rfl, rfl, rfl, rfl⟩
  | some account =>
      cases account with
      | liability | permit | token => exact ⟨rfl, rfl, rfl, rfl⟩
      | _ => exact absurd hold id

/-- What a write of an unbooked account leaves as it is. -/
private theorem ledger_insert_unbooked (account : Account)
    (hold : Unbooked (world.lookup key)) (hnew : Unbooked (some account)) :
    ledger (world.insert key account) =
      { ledger world with
        vault := (ledger (world.insert key account)).vault
        available := (ledger (world.insert key account)).available
        outstanding := (ledger (world.insert key account)).outstanding } := by
  obtain ⟨hmint, hactual, hunsettled, hsettled⟩ := weigh_unbooked hold
  obtain ⟨hmint', hactual', hunsettled', hsettled'⟩ := weigh_unbooked hnew
  have hweigh : ∀ {weight : Account → Nat} (other : Pubkey),
      weigh weight (world.lookup key) = 0 → weigh weight (some account) = 0 →
        weigh weight ((world.insert key account).lookup other) =
          weigh weight (world.lookup other) := by
    intro weight other hbefore hafter
    rw [lookup_insert_eq]
    split_ifs with hkey
    · rw [hkey, hbefore, hafter]
    · rfl
  simp only [ledger, Ledger.mk.injEq]
  refine ⟨?_, ?_, trivial, ?_, ?_, trivial, trivial⟩ <;> funext entry
  · rw [lookup_insert_eq]
    split_ifs with hkey
    · rw [hkey, hmint, hmint']
    · rfl
  · exact hweigh _ hactual hactual'
  · exact hweigh _ hunsettled hunsettled'
  · exact hweigh _ hsettled hsettled'

theorem vault_insert_of_not_token {account : Account}
    (hold : weigh tokensOf (world.lookup key) = 0) (hnew : tokensOf account = 0) :
    (ledger (world.insert key account)).vault = (ledger world).vault := by
  funext entry
  simp only [ledger, lookup_insert_eq]
  split_ifs with hkey
  · rw [hkey, hold, weigh_some, hnew]
  · rfl

private theorem liability_write {old : Option Account} (liability : TcapTipLiabilityV2)
    (hwellFormed : WellFormed world) (hlookup : world.lookup key = old)
    (hold : ∀ account, old = some account → ∃ liability', account = .liability liability' ∧
      liability'.assetEntry = liability.assetEntry)
    (hkey : key = deriveTcapTipLiabilityV2 liability.tip liability.assetEntry)
    (hregistered : Registered world liability.assetEntry) :
    WellFormed (world.insert key (.liability liability)) ∧
      ledger (world.insert key (.liability liability)) =
        { ledger world with
          available := Function.update (ledger world).available liability.assetEntry
            ((ledger world).available liability.assetEntry + liability.available -
              weigh (availableOf liability.assetEntry) old) } := by
  have hunbooked : Unbooked (world.lookup key) := by
    rw [hlookup]
    cases old with
    | none => trivial
    | some account =>
        obtain ⟨liability', rfl, -⟩ := hold account rfl
        trivial
  have hweigh : ∀ {weight : Account → Nat},
      (∀ liability', weight (.liability liability') = 0) → weigh weight old = 0 := by
    intro weight hweight
    cases old with
    | none => rfl
    | some account =>
        obtain ⟨liability', rfl, -⟩ := hold account rfl
        exact hweight liability'
  constructor
  · refine wellFormed_insert hwellFormed (keeps_of_ne ?_ ?_) ⟨hkey, hregistered⟩
    · rintro entry hentry
      obtain ⟨_, hother, -⟩ := hold _ (hlookup.symm.trans hentry)
      cases hother
    · rintro mint hmint
      obtain ⟨_, hother, -⟩ := hold _ (hlookup.symm.trans hmint)
      cases hother
  · rw [ledger_insert_unbooked (.liability liability) hunbooked trivial,
      vault_insert_of_not_token (by rw [hlookup]; exact hweigh fun _ => rfl) rfl]
    simp only [Ledger.mk.injEq, true_and]
    constructor <;> funext asset
    · have htotal := total_insert (availableOf asset) world key (.liability liability)
      simp only [ledger, availableLiabilities, Function.update_apply]
      rw [hlookup] at htotal
      simp only [availableOf] at htotal
      by_cases hasset : asset = liability.assetEntry
      · subst hasset
        simp only [if_true] at htotal ⊢
        omega
      · have hzero : weigh (availableOf asset) old = 0 := by
          cases old with
          | none => rfl
          | some account =>
              obtain ⟨liability', rfl, hsame⟩ := hold account rfl
              simp [availableOf, hsame, Ne.symm hasset]
        rw [if_neg (Ne.symm hasset), hzero] at htotal
        rw [if_neg hasset]
        simpa using htotal
    · exact total_insert_of_weigh_eq (by rw [hlookup]; exact hweigh fun _ => rfl)

/-- Opening a liability raises what its asset lets spend. -/
theorem liability_open (liability : TcapTipLiabilityV2) (hwellFormed : WellFormed world)
    (hfresh : world.lookup key = none)
    (hkey : key = deriveTcapTipLiabilityV2 liability.tip liability.assetEntry)
    (hregistered : Registered world liability.assetEntry) :
    WellFormed (world.insert key (.liability liability)) ∧
      ledger (world.insert key (.liability liability)) =
        { ledger world with
          available := raise (ledger world).available liability.assetEntry
            liability.available } := by
  have hwrite := liability_write liability hwellFormed hfresh (by simp) hkey hregistered
  simpa [raise] using hwrite

/-- Rewriting a liability moves the spendable balance of its asset from what it held
to what it holds. -/
theorem liability_rewrite {liability : TcapTipLiabilityV2}
    (liability' : TcapTipLiabilityV2) (hwellFormed : WellFormed world)
    (hlookup : world.lookup key = some (.liability liability))
    (htip : liability'.tip = liability.tip)
    (hasset : liability'.assetEntry = liability.assetEntry) :
    WellFormed (world.insert key (.liability liability')) ∧
      ledger (world.insert key (.liability liability')) =
        { ledger world with
          available := Function.update (ledger world).available liability.assetEntry
            ((ledger world).available liability.assetEntry + liability'.available -
              liability.available) } := by
  obtain ⟨hkey, hregistered⟩ := hwellFormed key _ hlookup
  have hwrite := liability_write liability' hwellFormed hlookup (by simp [hasset])
    (by rw [htip, hasset, hkey]) (hasset ▸ hregistered)
  simpa [hasset, availableOf] using hwrite

/-- Issuing a permit raises what is outstanding in its mint. -/
theorem permit_issue (permit : TcapExitPermitV1) (hwellFormed : WellFormed world)
    (hfresh : world.lookup key = none) (hkey : key = exitPermitAddress permit.nonce)
    (hconsumed : permit.consumed = false) :
    WellFormed (world.insert key (.permit permit)) ∧
      ledger (world.insert key (.permit permit)) =
        { ledger world with
          outstanding := raise (ledger world).outstanding permit.mint permit.amount } := by
  constructor
  · refine wellFormed_insert hwellFormed (keeps_of_ne ?_ ?_) hkey <;> simp [hfresh]
  · rw [ledger_insert_unbooked (.permit permit) (by rw [hfresh]; trivial) trivial,
      vault_insert_of_not_token (by rw [hfresh]; rfl) rfl]
    simp only [Ledger.mk.injEq, true_and]
    constructor <;> funext mint
    · exact total_insert_of_weigh_eq (by rw [hfresh]; rfl)
    · have htotal := total_insert (outstandingOf mint) world key (.permit permit)
      rw [hfresh, weigh_none] at htotal
      simp only [outstandingOf, hconsumed, true_and, eq_comm (a := permit.mint)] at htotal
      simp only [raise_apply, ledger, outstandingPermits]
      split_ifs at htotal ⊢ <;> omega

/-- Consuming a permit lowers what is outstanding in its mint. -/
theorem permit_consume {permit : TcapExitPermitV1} (hwellFormed : WellFormed world)
    (hlookup : world.lookup key = some (.permit permit))
    (hunconsumed : permit.consumed = false) :
    WellFormed (world.insert key (.permit { permit with consumed := true })) ∧
      ledger (world.insert key (.permit { permit with consumed := true })) =
        { ledger world with
          outstanding := lower (ledger world).outstanding permit.mint permit.amount } := by
  constructor
  · have hkey := hwellFormed key _ hlookup
    refine wellFormed_insert hwellFormed (keeps_of_ne ?_ ?_) hkey <;> simp [hlookup]
  · rw [ledger_insert_unbooked (.permit { permit with consumed := true })
        (by rw [hlookup]; trivial) trivial,
      vault_insert_of_not_token (by rw [hlookup]; rfl) rfl]
    simp only [Ledger.mk.injEq, true_and]
    constructor <;> funext mint
    · exact total_insert_of_weigh_eq (by rw [hlookup]; rfl)
    · have htotal := total_insert (outstandingOf mint) world key
        (.permit { permit with consumed := true })
      rw [hlookup, weigh_some] at htotal
      simp only [outstandingOf, hunconsumed, true_and, Bool.true_eq_false, false_and,
        if_false] at htotal
      simp only [lower_apply, ledger, outstandingPermits]
      by_cases hmint : mint = permit.mint
      · rw [if_pos hmint.symm] at htotal
        rw [if_pos hmint]
        omega
      · rw [if_neg (Ne.symm hmint)] at htotal
        rw [if_neg hmint]
        omega

/-- A permit that is outstanding is part of what is outstanding in its mint. -/
theorem amount_le_outstanding {permit : TcapExitPermitV1}
    (hlookup : world.lookup key = some (.permit permit))
    (hunconsumed : permit.consumed = false) :
    permit.amount ≤ (ledger world).outstanding permit.mint := by
  have hweight : outstandingOf permit.mint (.permit permit) ≤
      (ledger world).outstanding permit.mint := weight_le_total hlookup
  simpa [outstandingOf, hunconsumed] using hweight

/-- A liability is part of what its asset lets spend. -/
theorem available_le_available {liability : TcapTipLiabilityV2}
    (hlookup : world.lookup key = some (.liability liability)) :
    liability.available ≤ (ledger world).available liability.assetEntry := by
  have hweight : availableOf liability.assetEntry (.liability liability) ≤
      (ledger world).available liability.assetEntry := weight_le_total hlookup
  simpa [availableOf] using hweight

/-- Writing a token balance changes vaults only. -/
theorem token_write {token : TokenAccount} (token' : TokenAccount)
    (hwellFormed : WellFormed world)
    (hlookup : world.lookup key = some (.token token)) (howner : token'.owner = token.owner) :
    WellFormed (world.insert key (.token token')) ∧
      ledger (world.insert key (.token token')) =
        { ledger world with
          vault := (ledger (world.insert key (.token token'))).vault } := by
  constructor
  · refine wellFormed_insert hwellFormed (keeps_of_ne ?_ ?_) ?_
    · simp [hlookup]
    · simp [hlookup]
    · simpa only [Canonical, howner] using hwellFormed key _ hlookup
  · rw [ledger_insert_unbooked (.token token') (by rw [hlookup]; trivial) trivial]
    simp only [Ledger.mk.injEq, true_and]
    constructor <;> funext other <;>
      exact total_insert_of_weigh_eq (by rw [hlookup]; rfl)

theorem vault_insert_token (token : TokenAccount) (entry : Pubkey) :
    (ledger (world.insert key (.token token))).vault entry =
      if deriveFutureVault entry = key then token.amount
        else (ledger world).vault entry := by
  simp only [ledger, lookup_insert_eq]
  split_ifs <;> rfl

end TsnProtocol.Tcap.LedgerWrites
