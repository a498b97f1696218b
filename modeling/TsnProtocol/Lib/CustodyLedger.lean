import Mathlib

/-!
An abstract custody ledger: assets held in vaults, a book value recorded for
each, liabilities against it in two stages, balances spendable by holders, and
permits to take value out, which are denominated in a mint and not in an asset.
-/

namespace TsnProtocol.Lib.CustodyLedger

@[ext]
structure Ledger (Asset Mint : Type) where
  /-- Mint of a listed asset. -/
  mint : Asset → Option Mint
  /-- Book value of the vault. -/
  actual : Asset → Nat
  /-- Balance of the vault. -/
  vault : Asset → Nat
  /-- Liabilities not yet owed to a holder. -/
  unsettled : Asset → Nat
  /-- Liabilities owed to holders. -/
  settled : Asset → Nat
  /-- What the holders of an asset may spend, in total. -/
  available : Asset → Nat
  /-- Permits not yet paid, in total. -/
  outstanding : Mint → Nat

/-- What can happen to a ledger. A debit names the asset of the holder, the
asset whose liabilities shrink and the mint of the permit separately. -/
inductive Move (Asset Mint : Type) where
  | idle
  | list (asset : Asset) (mint : Mint)
  | deposit (asset : Asset) (amount : Nat)
  | settle (asset : Asset) (amount : Nat)
  | credit (asset : Asset) (amount : Nat)
  | grant (asset : Asset) (amount : Nat)
  | debit (holder reserve : Asset) (mint : Mint) (amount : Nat)
  | payout (asset : Asset) (amount : Nat)
  | reconcile (asset : Asset)

variable {Asset Mint : Type}

/-- What a move requires of the ledger it is made on. -/
def Guard (ledger : Ledger Asset Mint) : Move Asset Mint → Prop
  | .idle => True
  | .list asset mint =>
      ledger.mint asset = none ∧ ∀ other, ledger.mint other ≠ some mint
  | .deposit asset _ =>
      ledger.mint asset ≠ none ∧ ledger.actual asset = ledger.vault asset
  | .settle asset amount | .credit asset amount =>
      ledger.mint asset ≠ none ∧ amount ≤ ledger.unsettled asset
  | .grant asset _ => ledger.mint asset ≠ none
  | .debit holder reserve _ amount =>
      ledger.mint holder ≠ none ∧ ledger.mint reserve ≠ none ∧
        amount ≤ ledger.available holder ∧ amount ≤ ledger.settled reserve
  | .payout asset amount =>
      ∃ mint, ledger.mint asset = some mint ∧ amount ≤ ledger.outstanding mint ∧
        amount ≤ ledger.vault asset
  | .reconcile asset =>
      ledger.mint asset ≠ none ∧ ledger.actual asset ≤ ledger.vault asset

variable [DecidableEq Asset] [DecidableEq Mint]

/-- Add to one account of a family. -/
def raise {Key : Type} [DecidableEq Key] (balance : Key → Nat) (key : Key)
    (amount : Nat) : Key → Nat :=
  Function.update balance key (balance key + amount)

/-- Take from one account of a family. -/
def lower {Key : Type} [DecidableEq Key] (balance : Key → Nat) (key : Key)
    (amount : Nat) : Key → Nat :=
  Function.update balance key (balance key - amount)

theorem raise_apply {Key : Type} [DecidableEq Key] (balance : Key → Nat)
    (key other : Key) (amount : Nat) :
    raise balance key amount other =
      if other = key then balance other + amount else balance other := by
  by_cases hkey : other = key
  · subst other
    simp [raise]
  · simp [raise, hkey]

theorem lower_apply {Key : Type} [DecidableEq Key] (balance : Key → Nat)
    (key other : Key) (amount : Nat) :
    lower balance key amount other =
      if other = key then balance other - amount else balance other := by
  by_cases hkey : other = key
  · subst other
    simp [lower]
  · simp [lower, hkey]

/-- The ledger after a move, given the vault balances after it. -/
def post (ledger : Ledger Asset Mint) (vault : Asset → Nat) :
    Move Asset Mint → Ledger Asset Mint
  | .idle => { ledger with vault := vault }
  | .list asset mint =>
      { ledger with
        vault := vault
        mint := Function.update ledger.mint asset (some mint) }
  | .deposit asset amount =>
      { ledger with
        vault := vault
        actual := raise ledger.actual asset amount
        unsettled := raise ledger.unsettled asset amount }
  | .settle asset amount =>
      { ledger with
        vault := vault
        unsettled := lower ledger.unsettled asset amount
        settled := raise ledger.settled asset amount }
  | .credit asset amount =>
      { ledger with
        vault := vault
        unsettled := lower ledger.unsettled asset amount
        settled := raise ledger.settled asset amount
        available := raise ledger.available asset amount }
  | .grant asset amount =>
      { ledger with
        vault := vault
        settled := raise ledger.settled asset amount
        available := raise ledger.available asset amount }
  | .debit holder reserve mint amount =>
      { ledger with
        vault := vault
        settled := lower ledger.settled reserve amount
        available := lower ledger.available holder amount
        outstanding := raise ledger.outstanding mint amount }
  | .payout asset amount =>
      { ledger with
        vault := vault
        actual := Function.update ledger.actual asset (ledger.vault asset - amount)
        outstanding := match ledger.mint asset with
          | some mint => lower ledger.outstanding mint amount
          | none => ledger.outstanding }
  | .reconcile asset =>
      { ledger with
        vault := vault
        actual := Function.update ledger.actual asset (ledger.vault asset) }

/-- What a move pays into a vault. -/
def paidIn (asset : Asset) : Move Asset Mint → Nat
  | .deposit target amount => if asset = target then amount else 0
  | _ => 0

/-- What a move pays out of a vault. -/
def paidOut (asset : Asset) : Move Asset Mint → Nat
  | .payout target amount => if asset = target then amount else 0
  | _ => 0

/-- What a move debits from the holders of an asset. -/
def debited (asset : Asset) : Move Asset Mint → Nat
  | .debit holder _ _ amount => if asset = holder then amount else 0
  | _ => 0

/-- A move leads from one ledger to another: its guard holds, the books follow,
and no vault loses more than the move pays out of it. -/
structure Moves (ledger : Ledger Asset Mint) (move : Move Asset Mint)
    (next : Ledger Asset Mint) : Prop where
  guard : Guard ledger move
  books : next = post ledger next.vault move
  vaults : ∀ asset, ledger.vault asset + paidIn asset move ≤
    next.vault asset + paidOut asset move

/-- No mint is listed twice. -/
def MintsDistinct (ledger : Ledger Asset Mint) : Prop :=
  ∀ first second mint, ledger.mint first = some mint →
    ledger.mint second = some mint → first = second

/-- Every permit still outstanding is in a listed mint. -/
def PermitsListed (ledger : Ledger Asset Mint) : Prop :=
  ∀ mint, ledger.outstanding mint ≠ 0 → ∃ asset, ledger.mint asset = some mint

theorem mintsDistinct_of_moves {ledger next : Ledger Asset Mint}
    {move : Move Asset Mint} (hmoves : Moves ledger move next)
    (hdistinct : MintsDistinct ledger) : MintsDistinct next := by
  rw [hmoves.books]
  cases move with
  | list asset mint =>
      obtain ⟨-, hfresh⟩ := hmoves.guard
      intro first second other hfirst hsecond
      simp only [post, Function.update_apply] at hfirst hsecond
      split_ifs at hfirst hsecond with hone htwo htwo
      · rw [hone, htwo]
      · cases hfirst
        exact absurd hsecond (hfresh second)
      · cases hsecond
        exact absurd hfirst (hfresh first)
      · exact hdistinct first second other hfirst hsecond
  | _ => exact hdistinct

/-- The reserve debited is the one of the mint the permit is issued in, and a
grant leaves the asset covered. -/
def KeepsBacking (ledger : Ledger Asset Mint) : Move Asset Mint → Prop
  | .debit _ reserve mint _ => ledger.mint reserve = some mint
  | .grant asset amount =>
      ∀ mint, ledger.mint asset = some mint →
        ledger.settled asset + amount + ledger.unsettled asset +
          ledger.outstanding mint ≤ ledger.actual asset
  | _ => True

/-- Every listed asset covers its liabilities and the permits in its mint, and
its vault covers the book value. -/
structure Backed (ledger : Ledger Asset Mint) : Prop where
  distinct : MintsDistinct ledger
  permits : PermitsListed ledger
  unlisted : ∀ asset, ledger.mint asset = none →
    ledger.settled asset = 0 ∧ ledger.unsettled asset = 0 ∧ ledger.actual asset = 0
  covered : ∀ asset mint, ledger.mint asset = some mint →
    ledger.settled asset + ledger.unsettled asset + ledger.outstanding mint ≤
      ledger.actual asset
  held : ∀ asset, ledger.actual asset ≤ ledger.vault asset

private theorem permitsListed_of_moves {ledger next : Ledger Asset Mint}
    {move : Move Asset Mint} (hmoves : Moves ledger move next)
    (hdebit : ∀ holder reserve mint amount, move = .debit holder reserve mint amount →
      ∃ asset, ledger.mint asset = some mint)
    (hpermits : PermitsListed ledger) : PermitsListed next := by
  rw [hmoves.books]
  cases move with
  | list asset mint =>
      intro other hother
      obtain ⟨listed, hlisted⟩ := hpermits other hother
      refine ⟨listed, ?_⟩
      obtain ⟨hnone, -⟩ := hmoves.guard
      have hne : listed ≠ asset := by
        rintro rfl
        rw [hnone] at hlisted
        cases hlisted
      simpa [post, Function.update_of_ne hne] using hlisted
  | debit holder reserve mint amount =>
      intro other hother
      simp only [post, raise_apply] at hother ⊢
      split_ifs at hother with hmint
      · exact hmint ▸ hdebit holder reserve mint amount rfl
      · exact hpermits other hother
  | payout asset amount =>
      obtain ⟨mint, hmint, -, -⟩ := hmoves.guard
      intro other hother
      simp only [post, hmint, lower_apply] at hother ⊢
      refine hpermits other ?_
      split_ifs at hother with hsame <;> omega
  | _ => exact hpermits

theorem held_of_moves {ledger next : Ledger Asset Mint} {move : Move Asset Mint}
    (hmoves : Moves ledger move next)
    (hheld : ∀ asset, ledger.actual asset ≤ ledger.vault asset) (asset : Asset) :
    next.actual asset ≤ next.vault asset := by
  have hvault := hmoves.vaults asset
  have hbefore := hheld asset
  rw [hmoves.books]
  cases move with
  | deposit target amount =>
      simp only [post, raise_apply, paidIn, paidOut] at hvault ⊢
      split_ifs at hvault ⊢ with htarget <;> omega
  | payout target amount =>
      simp only [post, Function.update_apply, paidIn, paidOut] at hvault ⊢
      split_ifs at hvault ⊢ with htarget
      · subst target
        omega
      · omega
  | reconcile target =>
      simp only [post, Function.update_apply, paidIn, paidOut] at hvault ⊢
      split_ifs with htarget
      · subst target
        omega
      · omega
  | _ =>
      simp only [post, paidIn, paidOut] at hvault ⊢
      omega

/-- A listed asset keeps its mint. -/
theorem mint_of_moves {ledger next : Ledger Asset Mint} {move : Move Asset Mint}
    {asset : Asset} {mint : Mint} (hmoves : Moves ledger move next)
    (hmint : ledger.mint asset = some mint) : next.mint asset = some mint := by
  rw [hmoves.books]
  cases move with
  | list target listed =>
      obtain ⟨hnone, -⟩ := hmoves.guard
      have hne : asset ≠ target := by
        rintro rfl
        rw [hnone] at hmint
        cases hmint
      simpa [post, Function.update_of_ne hne] using hmint
  | _ => exact hmint

/-- Books that equal their vaults stay so under a move by which no vault gains more than
it pays in. -/
theorem booked_of_moves {ledger next : Ledger Asset Mint} {move : Move Asset Mint}
    (hmoves : Moves ledger move next)
    (hclosed : ∀ asset, next.vault asset + paidOut asset move ≤
      ledger.vault asset + paidIn asset move)
    (hbooked : ∀ asset, ledger.actual asset = ledger.vault asset) (asset : Asset) :
    next.actual asset = next.vault asset := by
  have hheld := held_of_moves hmoves (fun asset => Nat.le_of_eq (hbooked asset)) asset
  refine Nat.le_antisymm hheld ?_
  have hvault := hclosed asset
  have hbefore := hbooked asset
  rw [hmoves.books]
  cases move with
  | deposit target amount =>
      simp only [post, raise_apply, paidIn, paidOut] at hvault ⊢
      split_ifs at hvault ⊢ with htarget <;> omega
  | payout target amount =>
      simp only [post, Function.update_apply, paidIn, paidOut] at hvault ⊢
      split_ifs at hvault ⊢ with htarget
      · subst target
        omega
      · omega
  | reconcile target =>
      simp only [post, Function.update_apply, paidIn, paidOut] at hvault ⊢
      split_ifs with htarget
      · subst target
        omega
      · omega
  | _ =>
      simp only [post, paidIn, paidOut] at hvault ⊢
      omega

private theorem unlisted_of_moves {ledger next : Ledger Asset Mint}
    {move : Move Asset Mint} (hmoves : Moves ledger move next)
    (hunlisted : ∀ asset, ledger.mint asset = none →
      ledger.settled asset = 0 ∧ ledger.unsettled asset = 0 ∧ ledger.actual asset = 0)
    (asset : Asset) (hnone : next.mint asset = none) :
    next.settled asset = 0 ∧ next.unsettled asset = 0 ∧ next.actual asset = 0 := by
  have hguard := hmoves.guard
  rw [hmoves.books] at hnone ⊢
  cases move with
  | list target mint =>
      refine hunlisted asset ?_
      simp only [post, Function.update_apply] at hnone
      split_ifs at hnone with htarget
      exact hnone
  | idle => exact hunlisted asset hnone
  | _ =>
      -- every other move touches listed assets only
      have hbefore := hunlisted asset hnone
      simp only [post, raise_apply, lower_apply, Function.update_apply] at hnone ⊢
      simp only [Guard] at hguard
      grind

/-- Backing is kept by every move that keeps backing. -/
theorem backed_of_moves {ledger next : Ledger Asset Mint} {move : Move Asset Mint}
    (hmoves : Moves ledger move next) (hkeeps : KeepsBacking ledger move)
    (hbacked : Backed ledger) : Backed next where
  distinct := mintsDistinct_of_moves hmoves hbacked.distinct
  permits := by
    refine permitsListed_of_moves hmoves ?_ hbacked.permits
    rintro holder reserve mint amount rfl
    exact ⟨reserve, hkeeps⟩
  unlisted := unlisted_of_moves hmoves hbacked.unlisted
  held := held_of_moves hmoves hbacked.held
  covered := by
    intro asset mint hmint
    have hguard := hmoves.guard
    have hcovered := hbacked.covered asset
    have hheld := hbacked.held asset
    rw [hmoves.books] at hmint ⊢
    cases move with
    | idle => exact hcovered mint hmint
    | list target listed =>
        simp only [post, Function.update_apply] at hmint ⊢
        split_ifs at hmint with htarget
        · subst htarget
          cases hmint
          have hzero := hbacked.unlisted asset hguard.1
          have hnone : ledger.outstanding mint = 0 := by
            by_contra hpositive
            obtain ⟨other, hother⟩ := hbacked.permits mint hpositive
            exact hguard.2 other hother
          omega
        · exact hcovered mint hmint
    | deposit target amount =>
        have hbefore := hcovered mint hmint
        simp only [post, raise_apply]
        split_ifs <;> omega
    | settle target amount | credit target amount =>
        have hbefore := hcovered mint hmint
        simp only [post, raise_apply, lower_apply, Guard] at hguard ⊢
        split_ifs with htarget
        · subst htarget
          omega
        · exact hbefore
    | grant target amount =>
        have hbefore := hcovered mint hmint
        simp only [post, raise_apply]
        split_ifs with htarget
        · subst htarget
          have hgrant := hkeeps mint hmint
          omega
        · exact hbefore
    | debit holder reserve issued amount =>
        have hbefore := hcovered mint hmint
        obtain ⟨-, -, -, henough⟩ := hguard
        simp only [post, raise_apply, lower_apply] at hmint ⊢
        by_cases hreserve : asset = reserve
        · subst hreserve
          have hissued : mint = issued := Option.some.inj (hmint.symm.trans hkeeps)
          subst hissued
          simp only [if_true]
          omega
        · have hissued : mint ≠ issued := by
            rintro rfl
            exact hreserve (hbacked.distinct asset reserve mint hmint hkeeps)
          simpa [hreserve, hissued] using hbefore
    | payout target amount =>
        have hbefore := hcovered mint hmint
        obtain ⟨paid, hpaid, houtstanding, hvault⟩ := hguard
        simp only [post, hpaid, lower_apply, Function.update_apply] at hmint ⊢
        by_cases htarget : asset = target
        · subst htarget
          have hmints : mint = paid := Option.some.inj (hmint.symm.trans hpaid)
          subst hmints
          simp only [if_true]
          omega
        · have hmints : mint ≠ paid := by
            rintro rfl
            exact htarget (hbacked.distinct asset target mint hmint hpaid)
          simpa [htarget, hmints] using hbefore
    | reconcile target =>
        have hbefore := hcovered mint hmint
        simp only [post, Function.update_apply]
        split_ifs with htarget
        · subst htarget
          omega
        · exact hbefore

/-- A debit takes from the reserve of the holder's own asset and issues its
permit in that asset's mint. -/
def KeepsIsolation (ledger : Ledger Asset Mint) : Move Asset Mint → Prop
  | .debit holder reserve mint _ =>
      reserve = holder ∧ ledger.mint holder = some mint
  | _ => True

/-- What left a vault and what is still permitted to leave it add up to what was
debited from its holders; the holders' balances are part of the settled
liabilities. `paid` and `taken` accumulate payouts and debits. -/
structure Isolated (ledger : Ledger Asset Mint) (paid taken : Asset → Nat) : Prop where
  distinct : MintsDistinct ledger
  permits : PermitsListed ledger
  unlisted : ∀ asset, ledger.mint asset = none → paid asset = 0 ∧ taken asset = 0
  accounted : ∀ asset mint, ledger.mint asset = some mint →
    paid asset + ledger.outstanding mint = taken asset
  spendable : ∀ asset, ledger.available asset ≤ ledger.settled asset

/-- Isolation is kept by every move that keeps isolation. -/
theorem isolated_of_moves {ledger next : Ledger Asset Mint} {move : Move Asset Mint}
    {paid taken : Asset → Nat} (hmoves : Moves ledger move next)
    (hkeeps : KeepsIsolation ledger move) (hisolated : Isolated ledger paid taken) :
    Isolated next (fun asset => paid asset + paidOut asset move)
      (fun asset => taken asset + debited asset move) where
  distinct := mintsDistinct_of_moves hmoves hisolated.distinct
  permits := by
    refine permitsListed_of_moves hmoves ?_ hisolated.permits
    rintro holder reserve mint amount rfl
    exact ⟨holder, hkeeps.2⟩
  unlisted := by
    intro asset hnone
    have hguard := hmoves.guard
    have hunlisted := hisolated.unlisted asset
    rw [hmoves.books] at hnone
    cases move with
    | list target mint =>
        simp only [post, Function.update_apply] at hnone
        split_ifs at hnone with htarget
        simpa [paidOut, debited] using hunlisted hnone
    | debit holder reserve mint amount =>
        have hne : asset ≠ holder := by
          rintro rfl
          exact hguard.1 hnone
        simpa [paidOut, debited, hne] using hunlisted hnone
    | payout target amount =>
        obtain ⟨mint, hmint, -, -⟩ := hguard
        have hne : asset ≠ target := by
          rintro rfl
          rw [show ledger.mint asset = none from hnone] at hmint
          cases hmint
        simpa [paidOut, debited, hne] using hunlisted hnone
    | _ => simpa [paidOut, debited] using hunlisted hnone
  accounted := by
    intro asset mint hmint
    have hguard := hmoves.guard
    have haccounted := hisolated.accounted asset
    rw [hmoves.books] at hmint ⊢
    cases move with
    | list target listed =>
        simp only [post, Function.update_apply, paidOut, debited] at hmint ⊢
        split_ifs at hmint with htarget
        · subst htarget
          cases hmint
          have hzero := hisolated.unlisted asset hguard.1
          have hnone : ledger.outstanding mint = 0 := by
            by_contra hpositive
            obtain ⟨other, hother⟩ := hisolated.permits mint hpositive
            exact hguard.2 other hother
          omega
        · exact haccounted mint hmint
    | debit holder reserve issued amount =>
        have hbefore := haccounted mint hmint
        simp only [post, raise_apply, paidOut, debited] at hmint ⊢
        by_cases hholder : asset = holder
        · subst hholder
          have hissued : mint = issued := Option.some.inj (hmint.symm.trans hkeeps.2)
          subst hissued
          simp only [if_true]
          omega
        · have hissued : mint ≠ issued := by
            rintro rfl
            exact hholder (hisolated.distinct asset holder mint hmint hkeeps.2)
          simpa [hholder, hissued] using hbefore
    | payout target amount =>
        have hbefore := haccounted mint hmint
        obtain ⟨paidMint, hpaid, houtstanding, -⟩ := hguard
        simp only [post, hpaid, lower_apply, paidOut, debited] at hmint ⊢
        by_cases htarget : asset = target
        · subst htarget
          have hmints : mint = paidMint := Option.some.inj (hmint.symm.trans hpaid)
          subst hmints
          simp only [if_true]
          omega
        · have hmints : mint ≠ paidMint := by
            rintro rfl
            exact htarget (hisolated.distinct asset target mint hmint hpaid)
          simpa [htarget, hmints] using hbefore
    | _ => simpa [post, paidOut, debited] using haccounted mint hmint
  spendable := by
    intro asset
    have hguard := hmoves.guard
    have hbefore := hisolated.spendable asset
    rw [hmoves.books]
    cases move with
    | settle target amount =>
        simp only [post, raise_apply]
        split_ifs <;> omega
    | credit target amount | grant target amount =>
        simp only [post, raise_apply]
        split_ifs <;> omega
    | debit holder reserve issued amount =>
        obtain ⟨rfl, -⟩ := hkeeps
        simp only [post, lower_apply]
        split_ifs with hholder <;> omega
    | _ => exact hbefore

end TsnProtocol.Lib.CustodyLedger
