import TsnProtocol.Faucet.Program

/-!
The three records of the faucet agree: its totals, the states of the wallets and the receipts
all tell what the granted requests were.
-/

namespace TsnProtocol.Faucet.Books

open Lib.Checked
open Lib.FiniteStore
open Lib.Transition
open Solana.Address
open Faucet.Program

variable {runtime : Runtime} {call : Call} {chain next launch : Chain} {faucet : FaucetState}
  {wallet : FaucetWalletState} {accounts : RequestTokens} {requestId : Bytes32}
  {amount nonce : Nat} {transition : Step} {history : List (Chain × Step)}

section Effects

/-- What a request finds when it is granted, and what it leaves. -/
structure Requested (runtime : Runtime) (call : Call) (accounts : RequestTokens)
    (requestId : Bytes32) (amount nonce : Nat) (chain next : Chain) (faucet : FaucetState)
    (wallet : FaucetWalletState) : Prop where
  faucetAt : chain.faucets.lookup faucetAddress = some faucet
  walletAt : (chain.wallets.lookup (walletStateAddress accounts.requester)).getD .zeroed = wallet
  unused : chain.receipts.lookup accounts.receipt = none
  first : wallet.version = 0 → nonce = 0
  again : wallet.version ≠ 0 →
    nonce = wallet.nextNonce ∧ wallet.lastRequestSlot + faucet.cooldownSlots ≤ call.slot
  faucets_eq : next.faucets = chain.faucets.insert faucetAddress
    { faucet with
      totalMinted := faucet.totalMinted + amount
      requestCount := faucet.requestCount + 1 }
  wallets_eq : next.wallets = chain.wallets.insert (walletStateAddress accounts.requester)
    { version := faucetVersionV1
      faucet := accounts.faucet
      wallet := accounts.requester
      nextNonce := nonce + 1
      lastRequestSlot := call.slot
      totalMinted := wallet.totalMinted + amount
      bump := runtime.bump accounts.walletState }
  receipts_eq : next.receipts = chain.receipts.insert accounts.receipt
    (receiptOf runtime call accounts requestId amount nonce)

theorem checkWalletState_eq_ok
    (hcheck : checkWalletState call accounts nonce faucet wallet = .ok ()) :
    (wallet.version = 0 → nonce = 0) ∧ (wallet.version ≠ 0 →
      nonce = wallet.nextNonce ∧ wallet.lastRequestSlot + faucet.cooldownSlots ≤ call.slot) := by
  unfold checkWalletState at hcheck
  split at hcheck
  · rename_i hversion
    simp only [bind_eq_ok, check_eq_ok, addU64_eq_ok] at hcheck
    rcases hcheck with ⟨_, -, _, hnonce, _, ⟨-, rfl⟩, hslot⟩
    exact ⟨fun hzero => absurd hzero hversion, fun _ => ⟨hnonce, hslot⟩⟩
  · rename_i hversion
    exact ⟨fun _ => check_eq_ok.mp hcheck, fun hother => absurd hother hversion⟩

theorem requestTokens_eq_ok
    (hrequest : requestTokens runtime call accounts requestId amount nonce chain = .ok next) :
    ∃ faucet wallet,
      Requested runtime call accounts requestId amount nonce chain next faucet wallet := by
  simp only [requestTokens, loadRequest, bind_eq_ok, require_eq_ok, check_eq_ok, okOr_eq_ok,
    addU64_eq_ok, pure_eq_ok] at hrequest
  rcases hrequest with ⟨⟨faucet, wallet, tokens⟩, hload, _, hcheck, _, ⟨-, rfl⟩, _, ⟨-, rfl⟩, _,
    ⟨-, rfl⟩, ⟨mints, minted⟩, -, _, ⟨-, rfl⟩, rfl⟩
  rcases hload with ⟨_, -, found, hfaucet, _, ⟨haddress, -⟩, _, -, _, -, _, hwallet, _, -, _,
    hunused, _, -, _, -, _, -, _, -, _, -, hpair⟩
  simp only [Prod.mk.injEq] at hpair
  rcases hpair with ⟨rfl, hstate, -⟩
  simp only [checkRequest, bind_eq_ok] at hcheck
  rcases hcheck with ⟨_, -, _, -, _, -, _, -, _, -, _, -, _, -, hcheck⟩
  rcases checkWalletState_eq_ok hcheck with ⟨hfirst, hagain⟩
  refine ⟨found, wallet, ?_⟩
  constructor
  · rw [← haddress]
    exact hfaucet
  · rw [← hwallet]
    exact hstate
  · exact hunused
  · exact hfirst
  · exact hagain
  · rw [← haddress]
  · rw [← hwallet]
  · rfl

/-- What the faucet has recorded, and how far apart requests have to be. -/
def books (faucet : FaucetState) : Nat × Nat × Nat :=
  (faucet.totalMinted, faucet.requestCount, faucet.cooldownSlots)

/-- A step that grants no request. -/
structure Quiet (chain next : Chain) : Prop where
  wallets_eq : next.wallets = chain.wallets
  receipts_eq : next.receipts = chain.receipts
  opened : chain.faucets.lookup faucetAddress = none →
    ∀ faucet, next.faucets.lookup faucetAddress = some faucet →
      faucet.totalMinted = 0 ∧ faucet.requestCount = 0
  kept : ∀ faucet, chain.faucets.lookup faucetAddress = some faucet →
    (next.faucets.lookup faucetAddress).map books = some (books faucet)

/-- The receipt a step records, if it is a request. -/
def requestOf (runtime : Runtime) : Step → Option FaucetRequestReceipt
  | .faucet call (.requestTokens accounts requestId amount nonce) =>
      some (receiptOf runtime call accounts requestId amount nonce)
  | _ => none

theorem quiet_initializeFaucet {accounts : InitializeFaucet}
    (hcreate : initializeFaucet runtime call accounts chain = .ok next) :
    Quiet chain next := by
  simp only [initializeFaucet, bind_eq_ok, require_eq_ok, check_eq_ok, okOr_eq_ok,
    pure_eq_ok] at hcreate
  rcases hcreate with ⟨_, -, _, haddress, _, hvacant, _, -, _, -, _, -, _, -, _, -, _, -, _,
    -, rfl⟩
  rw [haddress] at hvacant
  constructor
  · rfl
  · rfl
  · intro _ faucet hfaucet
    rw [haddress, Finmap.lookup_insert, Option.some.injEq] at hfaucet
    subst hfaucet
    exact ⟨rfl, rfl⟩
  · intro faucet hfaucet
    rw [hvacant] at hfaucet
    cases hfaucet

theorem quiet_setFaucetPaused {accounts : SetFaucetPaused} {paused : Bool}
    (hpause : setFaucetPaused runtime call accounts paused chain = .ok next) :
    Quiet chain next := by
  simp only [setFaucetPaused, bind_eq_ok, require_eq_ok, check_eq_ok, okOr_eq_ok,
    pure_eq_ok] at hpause
  rcases hpause with ⟨_, -, found, hfound, _, -, _, ⟨haddress, -⟩, rfl⟩
  rw [haddress] at hfound
  constructor
  · rfl
  · rfl
  · intro hnone
    rw [hnone] at hfound
    cases hfound
  · intro faucet hfaucet
    rw [hfaucet, Option.some.injEq] at hfound
    subst hfound
    simp [haddress, books]

/-- What a step of the chain can do. -/
theorem step_cases (hstep : step runtime chain transition = .ok next) :
    (requestOf runtime transition = none ∧ Quiet chain next) ∨
      ∃ call accounts requestId amount nonce faucet wallet,
        transition = .faucet call (.requestTokens accounts requestId amount nonce) ∧
          Requested runtime call accounts requestId amount nonce chain next faucet wallet := by
  rcases transition with ⟨call, instruction⟩ | ⟨mints, tokens⟩
  · rcases instruction with accounts | ⟨accounts, requestId, amount, nonce⟩ | ⟨accounts, paused⟩
    · exact .inl ⟨rfl, quiet_initializeFaucet hstep⟩
    · rcases requestTokens_eq_ok hstep with ⟨faucet, wallet, hrequested⟩
      exact .inr ⟨call, accounts, requestId, amount, nonce, faucet, wallet, rfl, hrequested⟩
    · exact .inl ⟨rfl, quiet_setFaucetPaused hstep⟩
  · cases hstep
    refine .inl ⟨rfl, rfl, rfl, ?_, ?_⟩
    · intro hnone faucet hfaucet
      rw [hnone] at hfaucet
      cases hfaucet
    · intro faucet hfaucet
      rw [hfaucet]
      rfl

end Effects

section Runs

/-- The receipts of the requests a run has granted, latest first. -/
def requests (runtime : Runtime) (history : List (Chain × Step)) : List FaucetRequestReceipt :=
  history.filterMap fun entry => requestOf runtime entry.2

/-- Those of one wallet. -/
def requestsOf (runtime : Runtime) (wallet : Pubkey) (history : List (Chain × Step)) :
    List FaucetRequestReceipt :=
  (requests runtime history).filter fun receipt => receipt.wallet = wallet

/-- Requests, latest first, with the cooldown between them. -/
def Apart (cooldownSlots : Nat) (own : List FaucetRequestReceipt) : Prop :=
  own.Pairwise fun later earlier => earlier.executedSlot + cooldownSlots ≤ later.executedSlot

/-- The state of a wallet tells what its requests were. -/
def Recorded (own : List FaucetRequestReceipt) : Option FaucetWalletState → Prop
  | none => own = []
  | some wallet => wallet.version = faucetVersionV1 ∧
      own.map (fun receipt => receipt.nonce) = (List.range wallet.nextNonce).reverse ∧
        ∀ receipt ∈ own, receipt.executedSlot ≤ wallet.lastRequestSlot

structure Balanced (runtime : Runtime) (history : List (Chain × Step)) (chain : Chain) : Prop where
  receipts_eq : values chain.receipts = requests runtime history
  unopened : chain.faucets.lookup faucetAddress = none → requests runtime history = []
  totals : ∀ faucet, chain.faucets.lookup faucetAddress = some faucet →
    faucet.totalMinted = ((requests runtime history).map fun receipt => receipt.amount).sum ∧
      faucet.requestCount = (requests runtime history).length
  minted : total (fun wallet => wallet.totalMinted) chain.wallets =
    ((requests runtime history).map fun receipt => receipt.amount).sum
  recorded : ∀ wallet,
    Recorded (requestsOf runtime wallet history) (chain.wallets.lookup (walletStateAddress wallet))
  apart : ∀ faucet wallet, chain.faucets.lookup faucetAddress = some faucet →
    Apart faucet.cooldownSlots (requestsOf runtime wallet history)

theorem balanced_launch (hlaunch : Launch chain) : Balanced runtime [] chain := by
  constructor
  · rw [hlaunch.receipts]
    rfl
  · intro _
    rfl
  · intro faucet hfaucet
    rw [hlaunch.faucets] at hfaucet
    cases hfaucet
  · rw [hlaunch.wallets]
    rfl
  · intro wallet
    rw [hlaunch.wallets]
    rfl
  · intro faucet wallet hfaucet
    exact .nil

theorem balanced_quiet (hbalanced : Balanced runtime history chain)
    (hnone : requestOf runtime transition = none) (hquiet : Quiet chain next) :
    Balanced runtime ((chain, transition) :: history) next := by
  have hsame : requests runtime ((chain, transition) :: history) = requests runtime history := by
    simp [requests, hnone]
  have hown : ∀ wallet, requestsOf runtime wallet ((chain, transition) :: history) =
      requestsOf runtime wallet history := by
    intro wallet
    rw [requestsOf, requestsOf, hsame]
  have hback : ∀ faucet, next.faucets.lookup faucetAddress = some faucet →
      (∃ before, chain.faucets.lookup faucetAddress = some before ∧ books before = books faucet) ∨
        requests runtime history = [] ∧ faucet.totalMinted = 0 ∧ faucet.requestCount = 0 := by
    intro faucet hfaucet
    cases hbefore : chain.faucets.lookup faucetAddress with
    | none => exact .inr ⟨hbalanced.unopened hbefore, hquiet.opened hbefore faucet hfaucet⟩
    | some before =>
        have hkept := hquiet.kept before hbefore
        rw [hfaucet, Option.map_some, Option.some.injEq] at hkept
        exact .inl ⟨before, rfl, hkept.symm⟩
  constructor
  · rw [hquiet.receipts_eq, hsame]
    exact hbalanced.receipts_eq
  · intro hnext
    rw [hsame]
    apply hbalanced.unopened
    cases hbefore : chain.faucets.lookup faucetAddress with
    | none => rfl
    | some before =>
        have hkept := hquiet.kept before hbefore
        rw [hnext] at hkept
        cases hkept
  · intro faucet hfaucet
    rw [hsame]
    rcases hback faucet hfaucet with ⟨before, hbefore, hbook⟩ | ⟨hempty, htotal, hcount⟩
    · simp only [books, Prod.mk.injEq] at hbook
      rw [← hbook.1, ← hbook.2.1]
      exact hbalanced.totals before hbefore
    · rw [hempty, htotal, hcount]
      exact ⟨rfl, rfl⟩
  · rw [hquiet.wallets_eq, hsame]
    exact hbalanced.minted
  · intro wallet
    rw [hquiet.wallets_eq, hown]
    exact hbalanced.recorded wallet
  · intro faucet wallet hfaucet
    rw [hown]
    rcases hback faucet hfaucet with ⟨before, hbefore, hbook⟩ | ⟨hempty, -⟩
    · simp only [books, Prod.mk.injEq] at hbook
      rw [← hbook.2.2]
      exact hbalanced.apart before wallet hbefore
    · rw [requestsOf, hempty]
      exact .nil

/-- The nonce of a granted request is the number of requests the wallet made before, and the
time of each of them lies the cooldown back. -/
theorem follows_of_recorded {own : List FaucetRequestReceipt}
    (hrecorded : Recorded own (chain.wallets.lookup (walletStateAddress accounts.requester)))
    (hrequested : Requested runtime call accounts requestId amount nonce chain next faucet
      wallet) :
    own.map (fun receipt => receipt.nonce) = (List.range nonce).reverse ∧
      ∀ receipt ∈ own, receipt.executedSlot + faucet.cooldownSlots ≤ call.slot := by
  have hwallet := hrequested.walletAt
  cases hstored : chain.wallets.lookup (walletStateAddress accounts.requester) with
  | none =>
      rw [hstored] at hwallet hrecorded
      have hempty : own = [] := hrecorded
      have hnonce : nonce = 0 := hrequested.first (by rw [← hwallet]; rfl)
      subst hempty hnonce
      exact ⟨rfl, fun receipt hreceipt => absurd hreceipt List.not_mem_nil⟩
  | some stored =>
      rw [hstored] at hwallet hrecorded
      have hsame : stored = wallet := hwallet
      subst hsame
      rcases hrecorded with ⟨hversion, hnonces, hlast⟩
      have hused : stored.version ≠ 0 := by
        rw [hversion]
        decide
      rcases hrequested.again hused with ⟨hnonce, hslot⟩
      rw [hnonce]
      refine ⟨hnonces, ?_⟩
      intro receipt hreceipt
      have hbefore := hlast receipt hreceipt
      omega

theorem balanced_request (hbalanced : Balanced runtime history chain)
    (hrequested : Requested runtime call accounts requestId amount nonce chain next faucet
      wallet) :
    Balanced runtime ((chain, .faucet call (.requestTokens accounts requestId amount nonce)) ::
      history) next := by
  have hcons : requests runtime
      ((chain, .faucet call (.requestTokens accounts requestId amount nonce)) :: history) =
        receiptOf runtime call accounts requestId amount nonce :: requests runtime history :=
    rfl
  have hself : requestsOf runtime accounts.requester
      ((chain, .faucet call (.requestTokens accounts requestId amount nonce)) :: history) =
        receiptOf runtime call accounts requestId amount nonce ::
          requestsOf runtime accounts.requester history := by
    simp [requestsOf, hcons, receiptOf]
  have hothers : ∀ other, other ≠ accounts.requester → requestsOf runtime other
      ((chain, .faucet call (.requestTokens accounts requestId amount nonce)) :: history) =
        requestsOf runtime other history := by
    intro other hother
    have hwallet : ¬ accounts.requester = other := fun hsame => hother hsame.symm
    simp [requestsOf, hcons, receiptOf, hwallet]
  rcases follows_of_recorded (hbalanced.recorded accounts.requester) hrequested with
    ⟨hnonces, hslots⟩
  have hfaucet : next.faucets.lookup faucetAddress = some { faucet with
      totalMinted := faucet.totalMinted + amount
      requestCount := faucet.requestCount + 1 } := by
    rw [hrequested.faucets_eq, Finmap.lookup_insert]
  rcases hbalanced.totals faucet hrequested.faucetAt with ⟨htotal, hcount⟩
  constructor
  · rw [hrequested.receipts_eq, values_insert_of_lookup_eq_none _ hrequested.unused,
      hbalanced.receipts_eq, hcons]
    rfl
  · intro hnone
    rw [hfaucet] at hnone
    cases hnone
  · intro found hfound
    rw [hfaucet, Option.some.injEq] at hfound
    subst hfound
    rw [hcons, List.map_cons, List.sum_cons, List.length_cons, ← htotal, ← hcount]
    exact ⟨Nat.add_comm _ _, rfl⟩
  · have hwrite := total_insert (fun wallet : FaucetWalletState => wallet.totalMinted)
      chain.wallets (walletStateAddress accounts.requester)
      { version := faucetVersionV1
        faucet := accounts.faucet
        wallet := accounts.requester
        nextNonce := nonce + 1
        lastRequestSlot := call.slot
        totalMinted := wallet.totalMinted + amount
        bump := runtime.bump accounts.walletState }
    have hweigh : weigh (fun wallet : FaucetWalletState => wallet.totalMinted)
        (chain.wallets.lookup (walletStateAddress accounts.requester)) = wallet.totalMinted := by
      rw [← hrequested.walletAt]
      cases chain.wallets.lookup (walletStateAddress accounts.requester) <;> rfl
    have hminted := hbalanced.minted
    rw [hrequested.wallets_eq, hcons, List.map_cons, List.sum_cons]
    rw [hweigh] at hwrite
    simp only [receiptOf] at hwrite ⊢
    omega
  · intro other
    rw [hrequested.wallets_eq]
    by_cases hother : other = accounts.requester
    · rw [hother, hself, Finmap.lookup_insert]
      refine ⟨rfl, ?_, ?_⟩
      · rw [List.map_cons, hnonces, List.range_succ, List.reverse_append]
        rfl
      · intro receipt hreceipt
        rcases List.mem_cons.mp hreceipt with rfl | hearlier
        · exact Nat.le_refl _
        · have hbefore := hslots receipt hearlier
          have hlast : receipt.executedSlot ≤ call.slot := by
            omega
          exact hlast
    · have hkey : walletStateAddress other ≠ walletStateAddress accounts.requester :=
        fun hsame => hother (walletStateAddress_inj.mp hsame)
      rw [hothers other hother, Finmap.lookup_insert_of_ne _ hkey]
      exact hbalanced.recorded other
  · intro found other hfound
    rw [hfaucet, Option.some.injEq] at hfound
    subst hfound
    by_cases hother : other = accounts.requester
    · rw [hother, hself]
      exact List.pairwise_cons.mpr
        ⟨hslots, hbalanced.apart faucet accounts.requester hrequested.faucetAt⟩
    · rw [hothers other hother]
      exact hbalanced.apart faucet other hrequested.faucetAt

theorem balanced_of_run (hlaunch : Launch launch) (hrun : Run (step runtime) launch history chain) :
    Balanced runtime history chain := by
  refine hrun.induct_on (Balanced runtime) (balanced_launch hlaunch) ?_
  intro history state input next _ hbalanced hstep
  rcases step_cases hstep with
    ⟨hnone, hquiet⟩ | ⟨call, accounts, requestId, amount, nonce, faucet, wallet, rfl, hrequested⟩
  · exact balanced_quiet hbalanced hnone hquiet
  · exact balanced_request hbalanced hrequested

end Runs

/-- The receipts of one wallet. -/
def receiptsOf (wallet : Pubkey) (chain : Chain) : Multiset FaucetRequestReceipt :=
  (values chain.receipts).filter fun receipt => receipt.wallet = wallet

/-- After every run the totals of the faucet are those of the wallets and of the receipts, the
receipts of a wallet carry each nonce once from 0 on, and its requests were the cooldown
apart. -/
theorem books_balance (hlaunch : Launch launch)
    (hrun : Run (step runtime) launch history chain)
    (hfaucet : chain.faucets.lookup faucetAddress = some faucet) :
    faucet.totalMinted = total (fun wallet => wallet.totalMinted) chain.wallets ∧
      faucet.totalMinted = total (fun receipt => receipt.amount) chain.receipts ∧
      faucet.requestCount = (values chain.receipts).card ∧
      ∀ wallet,
        receiptsOf wallet chain = requestsOf runtime wallet history ∧
        (receiptsOf wallet chain).map (fun receipt => receipt.nonce) =
          Multiset.range (receiptsOf wallet chain).card ∧
        Apart faucet.cooldownSlots (requestsOf runtime wallet history) := by
  have hbalanced := balanced_of_run hlaunch hrun
  rcases hbalanced.totals faucet hfaucet with ⟨htotal, hcount⟩
  refine ⟨?_, ?_, ?_, ?_⟩
  · rw [htotal, hbalanced.minted]
  · rw [htotal, total_eq_sum_values, hbalanced.receipts_eq, Multiset.map_coe, Multiset.sum_coe]
  · rw [hcount, hbalanced.receipts_eq, Multiset.coe_card]
  · intro wallet
    have hown : receiptsOf wallet chain = requestsOf runtime wallet history := by
      rw [receiptsOf, hbalanced.receipts_eq, Multiset.filter_coe]
      rfl
    have hnonces : ∃ count, (requestsOf runtime wallet history).map
        (fun receipt => receipt.nonce) = (List.range count).reverse := by
      have hrecorded := hbalanced.recorded wallet
      cases hstored : chain.wallets.lookup (walletStateAddress wallet) with
      | none =>
          rw [hstored] at hrecorded
          have hempty : requestsOf runtime wallet history = [] := hrecorded
          exact ⟨0, by rw [hempty]; rfl⟩
      | some state =>
          rw [hstored] at hrecorded
          exact ⟨state.nextNonce, hrecorded.2.1⟩
    rcases hnonces with ⟨count, hnonces⟩
    have hlength : (requestsOf runtime wallet history).length = count := by
      have hsame := congrArg List.length hnonces
      simpa using hsame
    refine ⟨hown, ?_, hbalanced.apart faucet wallet hfaucet⟩
    rw [hown, Multiset.map_coe, hnonces, Multiset.coe_card, hlength, Multiset.coe_reverse]
    rfl

section Sample

def sampleMint : Pubkey := .raw 21

def sampleLaunch : Chain where
  faucets := ∅
  wallets := ∅
  receipts := ∅
  mints := (∅ : Store Pubkey Mint).insert sampleMint
    ⟨token2022Program, stableTcapDecimals, some mintAuthorityAddress, 0⟩
  tokens := ∅

def requestStep (requester : Pubkey) (slot : Nat) (requestId : Bytes32) (amount nonce : Nat) :
    Step :=
  .faucet ⟨[requester], slot⟩ (.requestTokens
    ⟨requester, faucetAddress, walletStateAddress requester, receiptAddress requester requestId,
      sampleMint, associatedTokenAddress requester token2022Program sampleMint,
      mintAuthorityAddress, token2022Program⟩ requestId amount nonce)

/-- Two wallets, one of which asks again after a pause. -/
theorem books_balance_of_three :
    ∃ history chain faucet, Run (step ⟨fun _ => 255⟩) sampleLaunch history chain ∧
      chain.faucets.lookup faucetAddress = some faucet ∧ faucet.totalMinted = 60000 ∧
      total (fun wallet => wallet.totalMinted) chain.wallets = 60000 ∧
      (values chain.receipts).card = 3 := by
  have hreaches : reaches (step ⟨fun _ => 255⟩) sampleLaunch
      [requestStep (.raw 1) 9 8 30000 1,
        .faucet ⟨[.raw 7], 8⟩ (.setFaucetPaused ⟨.raw 7, faucetAddress⟩ false),
        .faucet ⟨[.raw 7], 7⟩ (.setFaucetPaused ⟨.raw 7, faucetAddress⟩ true),
        requestStep (.raw 2) 6 9 20000 0, requestStep (.raw 1) 5 9 10000 0,
        .faucet ⟨[.raw 7], 4⟩ (.initializeFaucet
          ⟨.raw 7, faucetAddress, sampleMint, mintAuthorityAddress, token2022Program⟩)]
      (fun _ chain => (chain.faucets.lookup faucetAddress).any fun faucet =>
        faucet.totalMinted = 60000 ∧ faucet.requestCount = 3) = true := by
    decide +kernel
  rcases exists_run_of_reaches hreaches with ⟨history, chain, hrun, hholds⟩
  rcases (Option.any_eq_true _ _).mp hholds with ⟨faucet, hfaucet, hrecords⟩
  rcases of_decide_eq_true hrecords with ⟨htotal, hcount⟩
  rcases books_balance ⟨rfl, rfl, rfl⟩ hrun hfaucet with ⟨hwallets, -, hreceipts, -⟩
  exact ⟨history, chain, faucet, hrun, hfaucet, htotal, hwallets ▸ htotal, hreceipts ▸ hcount⟩

end Sample

end TsnProtocol.Faucet.Books
