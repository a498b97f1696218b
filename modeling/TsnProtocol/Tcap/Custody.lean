import TsnProtocol.Lib.CustodyLedger
import TsnProtocol.Tcap.Program

/-!
The custody ledger behind the accounts of the chain, and the shape those
accounts keep: every account of TCAP sits at the address its own fields derive.
-/

namespace TsnProtocol.Tcap.Custody

open Lib.FiniteStore
open Lib.CustodyLedger
open Solana.Address
open Tcap.State
open Tcap.Execution

/-- Liability buckets other than the settled one. -/
def unsettledLiabilities (reserve : TcapReserveStateV1) : Nat :=
  reserve.pendingLiabilities + reserve.transferPending +
    reserve.authorizedWithdrawalLiabilities + reserve.reservedRefundLiabilities

theorem liabilities_eq_settled_add_unsettled (reserve : TcapReserveStateV1) :
    reserve.liabilities =
      reserve.settledConfidentialLiabilities + unsettledLiabilities reserve := by
  simp only [TcapReserveStateV1.liabilities, unsettledLiabilities]
  omega

def entryMint : Account → Option Pubkey
  | .entry entry => some entry.asset.mint
  | _ => none

def actualOf : Account → Nat
  | .reserve reserve => reserve.actualAssets
  | _ => 0

def unsettledOf : Account → Nat
  | .reserve reserve => unsettledLiabilities reserve
  | _ => 0

def settledOf : Account → Nat
  | .reserve reserve => reserve.settledConfidentialLiabilities
  | _ => 0

def tokensOf : Account → Nat
  | .token token => token.amount
  | _ => 0

/-- What a liability lets its tip spend, if it is one of the given asset. -/
def availableOf (entry : Pubkey) : Account → Nat
  | .liability liability =>
      if liability.assetEntry = entry then liability.available else 0
  | _ => 0

/-- What a permit is still good for, if it is one in the given mint. -/
def outstandingOf (mint : Pubkey) : Account → Nat
  | .permit permit =>
      if permit.consumed = false ∧ permit.mint = mint then permit.amount else 0
  | _ => 0

/-- Exit permits issued in a mint and not yet consumed, in total. -/
def outstandingPermits (world : World) (mint : Pubkey) : Nat :=
  total (outstandingOf mint) world

/-- Spendable balance of all liabilities of an asset, in total. -/
def availableLiabilities (world : World) (entry : Pubkey) : Nat :=
  total (availableOf entry) world

/-- The custody ledger of a world. Assets are named by their entry. -/
def ledger (world : World) : Ledger Pubkey Pubkey where
  mint entry := (world.lookup entry).bind entryMint
  actual entry := weigh actualOf (world.lookup (deriveReserveState entry))
  vault entry := weigh tokensOf (world.lookup (deriveFutureVault entry))
  unsettled entry := weigh unsettledOf (world.lookup (deriveReserveState entry))
  settled entry := weigh settledOf (world.lookup (deriveReserveState entry))
  available entry := availableLiabilities world entry
  outstanding mint := outstandingPermits world mint

/-- The asset an account belongs to is registered. -/
def Registered (world : World) (entry : Pubkey) : Prop :=
  ∃ data, world.lookup entry = some (.entry data)

/-- An account is where its fields say it is, and refers to a registered asset
and a mint of the right program. Legacy layouts do not occur. -/
def Canonical (world : World) (key : Pubkey) : Account → Prop
  | .entry entry =>
      key = assetEntryAddress assetRegistryAddress entry.asset.tokenProgram
        entry.asset.mint ∧
      entry.registry = assetRegistryAddress ∧
      entry.reserveState = deriveReserveState key ∧
      entry.futureVault = deriveFutureVault key ∧
      entry.reserveAuthority = deriveReserveAuthority key ∧
      ∃ mint, world.lookup entry.asset.mint = some (.mint mint) ∧
        mint.program = entry.asset.tokenProgram
  | .reserve reserve =>
      key = deriveReserveState reserve.assetEntry ∧
      Registered world reserve.assetEntry
  | .liability liability =>
      key = deriveTcapTipLiabilityV2 liability.tip liability.assetEntry ∧
      Registered world liability.assetEntry
  | .permit permit => key = exitPermitAddress permit.nonce
  | .token token =>
      key.program? = some tcapProgram →
        ∃ entry, key = deriveFutureVault entry ∧
          token.owner = deriveReserveAuthority entry
  | .mint _ => key.program? ≠ some tcapProgram
  | .assetState _ | .legacyReserve _ | .liquidityPool _ | .legacyTip _ => False
  | _ => True

def WellFormed (world : World) : Prop :=
  ∀ key account, world.lookup key = some account → Canonical world key account

/-- A write keeps an entry the entry of its asset and a mint a mint of its
program. -/
def Keeps (old : Option Account) (new : Account) : Prop :=
  (∀ entry, old = some (.entry entry) →
    ∃ entry', new = .entry entry' ∧ entry'.asset = entry.asset) ∧
  ∀ mint, old = some (.mint mint) →
    ∃ mint', new = .mint mint' ∧ mint'.program = mint.program

/-- Every account of `next` is one of `world`, or written soundly over what was
there. -/
def Sound (world next : World) : Prop :=
  ∀ key, next.lookup key = world.lookup key ∨
    ∃ account, next.lookup key = some account ∧
      Keeps (world.lookup key) account ∧ Canonical world key account

theorem registered_of_sound {world next : World} {entry : Pubkey}
    (hsound : Sound world next) (hregistered : Registered world entry) :
    Registered next entry := by
  obtain ⟨data, hdata⟩ := hregistered
  rcases hsound entry with hsame | ⟨account, haccount, hkeeps, -⟩
  · exact ⟨data, hsame.trans hdata⟩
  · obtain ⟨data', rfl, -⟩ := hkeeps.1 data hdata
    exact ⟨data', haccount⟩

theorem mint_of_sound {world next : World} {key : Pubkey} {mint : Mint}
    (hsound : Sound world next) (hmint : world.lookup key = some (.mint mint)) :
    ∃ mint', next.lookup key = some (.mint mint') ∧ mint'.program = mint.program := by
  rcases hsound key with hsame | ⟨account, haccount, hkeeps, -⟩
  · exact ⟨mint, hsame.trans hmint, rfl⟩
  · obtain ⟨mint', rfl, hprogram⟩ := hkeeps.2 mint hmint
    exact ⟨mint', haccount, hprogram⟩

theorem canonical_of_sound {world next : World} {key : Pubkey} {account : Account}
    (hsound : Sound world next) (hcanonical : Canonical world key account) :
    Canonical next key account := by
  cases account with
  | entry entry =>
      obtain ⟨hkey, hregistry, hreserve, hvault, hauthority, mint, hmint, hprogram⟩ :=
        hcanonical
      obtain ⟨mint', hmint', hprogram'⟩ := mint_of_sound hsound hmint
      exact ⟨hkey, hregistry, hreserve, hvault, hauthority, mint', hmint',
        hprogram'.trans hprogram⟩
  | reserve reserve =>
      exact ⟨hcanonical.1, registered_of_sound hsound hcanonical.2⟩
  | liability liability =>
      exact ⟨hcanonical.1, registered_of_sound hsound hcanonical.2⟩
  | _ => exact hcanonical

theorem wellFormed_of_sound {world next : World} (hsound : Sound world next)
    (hwellFormed : WellFormed world) : WellFormed next := by
  intro key account haccount
  rcases hsound key with hsame | ⟨account', haccount', -, hcanonical⟩
  · exact canonical_of_sound hsound (hwellFormed key account (hsame ▸ haccount))
  · obtain rfl : account' = account := Option.some.inj (haccount'.symm.trans haccount)
    exact canonical_of_sound hsound hcanonical

/-- A write leaves everything the ledger reads at its key as it was, and issues no
permit. -/
structure SameWeight (old : Option Account) (new : Account) : Prop where
  permit : ∀ permit, new ≠ .permit permit
  mint : old.bind entryMint = entryMint new
  actual : weigh actualOf old = actualOf new
  unsettled : weigh unsettledOf old = unsettledOf new
  settled : weigh settledOf old = settledOf new
  tokens : weigh tokensOf old = tokensOf new
  available : ∀ entry, weigh (availableOf entry) old = availableOf entry new
  outstanding : ∀ mint, weigh (outstandingOf mint) old = outstandingOf mint new

/-- Every account of `next` is one of `world`, or written soundly and without
effect on the ledger. -/
def Administers (world next : World) : Prop :=
  ∀ key, next.lookup key = world.lookup key ∨
    ∃ account, next.lookup key = some account ∧ Keeps (world.lookup key) account ∧
      Canonical world key account ∧ SameWeight (world.lookup key) account

theorem sound_of_administers {world next : World} (hadmin : Administers world next) :
    Sound world next := by
  intro key
  rcases hadmin key with hsame | ⟨account, haccount, hkeeps, hcanonical, -⟩
  · exact .inl hsame
  · exact .inr ⟨account, haccount, hkeeps, hcanonical⟩

private theorem weigh_of_administers {world next : World} {weight : Account → Nat}
    (hadmin : Administers world next)
    (hweight : ∀ old new, SameWeight old new → weigh weight old = weight new)
    (key : Pubkey) :
    weigh weight (next.lookup key) = weigh weight (world.lookup key) := by
  rcases hadmin key with hsame | ⟨account, haccount, -, -, hsame⟩
  · rw [hsame]
  · rw [haccount, weigh_some, hweight _ _ hsame]

theorem ledger_eq_of_administers {world next : World}
    (hadmin : Administers world next) : ledger next = ledger world := by
  have hweigh := @weigh_of_administers world next
  simp only [ledger, Ledger.mk.injEq]
  refine ⟨?_, ?_, ?_, ?_, ?_, ?_, ?_⟩ <;> funext key
  · rcases hadmin key with hsame | ⟨account, haccount, -, -, hsame⟩
    · rw [hsame]
    · rw [haccount, hsame.mint, Option.bind_some]
  · exact hweigh hadmin (fun _ _ hsame => hsame.actual) _
  · exact hweigh hadmin (fun _ _ hsame => hsame.tokens) _
  · exact hweigh hadmin (fun _ _ hsame => hsame.unsettled) _
  · exact hweigh hadmin (fun _ _ hsame => hsame.settled) _
  · exact total_congr (hweigh hadmin fun _ _ hsame => hsame.available key)
  · exact total_congr (hweigh hadmin fun _ _ hsame => hsame.outstanding key)

end TsnProtocol.Tcap.Custody
