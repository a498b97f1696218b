import TsnProtocol.Crosschain.Payouts

/-!
What becomes of a settlement that the hub has consumed and no vault has paid: it can be paid
until its deadline whenever the vault holds enough, and never again after it.
-/

namespace TsnProtocol.Crosschain.Stranding

open Crosschain.DestinationNetwork
open Crosschain.Payouts
open Crosschain.SettlementHub (PayoutAuthorization Setting SOLANA_NETWORK payload)
open Lib.Checked
open Lib.Evm
open Lib.Transition

def Unpaid (world : World) (settlementId : Bytes32) : Prop :=
  ∀ payout ∈ world.payouts, payout.release.settlementId ≠ settlementId

instance (world : World) (settlementId : Bytes32) : Decidable (Unpaid world settlementId) :=
  inferInstanceAs (Decidable (∀ payout ∈ world.payouts, _))

/-- The destination executor executes the message of the authorization now. -/
def Executable (setting : Setting) (world : World) (authorization : PayoutAuthorization) :
    Prop :=
  ∃ next, step setting world (.deliver authorization.destinationNetwork
    authorization.destinationExecutor (payload authorization)) = .ok next

/-- The executor and the vault that the authorization is for serve this hub. -/
structure Served (setting : Setting) (world : World) (authorization : PayoutAuthorization)
    (executor : Executor) (vault : Vault) : Prop where
  deployed : (world.networks authorization.destinationNetwork).executors
    authorization.destinationExecutor = some executor
  chain : executor.creditcoinChainId = setting.chainId
  emitter : executor.settlementEmitter = setting.hub
  token : executor.settlementToken = authorization.token
  funded : (world.networks authorization.destinationNetwork).vaults executor.liquidityVault =
    some vault
  serves : vault.executor = authorization.destinationExecutor

section Clocks

variable {setting : Setting} {world next : World} {input : Input}

theorem now_le_withNetwork {name : Bytes32} {network : Network}
    (hnow : (world.networks name).now ≤ network.now) (other : Bytes32) :
    (world.networks other).now ≤ ((withNetwork world name network).networks other).now := by
  by_cases hname : other = name
  · subst other
    simpa only [withNetwork, Function.update_self] using hnow
  · simp only [withNetwork, Function.update_of_ne hname]
    exact BitVec.le_refl _

theorem now_of_transferToken {network paid : Network} {token sender recipient : Address}
    {amount : Uint256}
    (htransfer : transferToken network token sender recipient amount = .ok paid) :
    network.now ≤ paid.now := by
  obtain ⟨-, moved, -, rfl⟩ := transferToken_eq_ok.mp htransfer
  exact BitVec.le_refl _

theorem now_of_release {network paid : Network} {vault sender recipient : Address}
    {amount : Uint256} {settlementId : Bytes32} {released : Release}
    (hrelease : release network vault sender recipient amount settlementId =
      .ok (paid, released)) : network.now ≤ paid.now := by
  obtain ⟨found, -, -, -, -, -, moved, -, rfl⟩ := release_eq_ok.mp hrelease
  exact BitVec.le_refl _

/-- The block time of a network never falls. -/
theorem now_of_step (hstep : step setting world input = .ok next) (name : Bytes32) :
    (world.networks name).now ≤ (next.networks name).now := by
  rcases input with _ | _ | _ | _ | _ | _ | _ | _ | _
  all_goals
    simp only [step, bind_eq_ok, require_eq_ok, mapError_eq_ok, pure_eq_ok] at hstep
  case block =>
    obtain ⟨-, -, rfl⟩ := hstep
    exact BitVec.le_refl _
  case hub =>
    obtain ⟨books, -, rfl⟩ := hstep
    exact BitVec.le_refl _
  case registry =>
    obtain ⟨-, -, registry, -, rfl⟩ := hstep
    exact BitVec.le_refl _
  case networkBlock =>
    obtain ⟨-, hnow, rfl⟩ := hstep
    exact now_le_withNetwork hnow name
  case deliver =>
    obtain ⟨-, -, ⟨network, released⟩, hprocess, rfl⟩ := hstep
    simp only [processMessage, bind_eq_ok] at hprocess
    obtain ⟨executor, -, ⟨⟩, -, settlement, -, ⟨⟩, -, ⟨⟩, -, ⟨⟩, -, hrelease⟩ := hprocess
    have hnow := now_of_release hrelease
    exact now_le_withNetwork hnow name
  case release =>
    obtain ⟨⟨⟩, -, ⟨network, released⟩, hrelease, rfl⟩ := hstep
    exact now_le_withNetwork (now_of_release hrelease) name
  case fund =>
    obtain ⟨⟨⟩, -, network, hfund, rfl⟩ := hstep
    simp only [fund, bind_eq_ok] at hfund
    obtain ⟨found, -, ⟨⟩, -, ⟨⟩, -, htransfer⟩ := hfund
    exact now_le_withNetwork (now_of_transferToken htransfer) name
  case withdraw =>
    obtain ⟨⟨⟩, -, network, hwithdraw, rfl⟩ := hstep
    simp only [withdraw, bind_eq_ok] at hwithdraw
    obtain ⟨found, -, ⟨⟩, -, ⟨⟩, -, htransfer⟩ := hwithdraw
    exact now_le_withNetwork (now_of_transferToken htransfer) name
  case transfer =>
    obtain ⟨⟨⟩, -, network, htransfer, rfl⟩ := hstep
    exact now_le_withNetwork (now_of_transferToken htransfer) name

end Clocks

section Runs

variable {setting : Setting} {start world next : World} {history later : List (World × Input)}
  {settlementId : Bytes32}

theorem accepted_append (later history : List (World × Input)) :
    accepted (later ++ history) = accepted later ++ accepted history :=
  List.filterMap_append

/-- A settlement that is consumed is not authorized again, whatever is called. -/
theorem not_authorized_again (hdeployed : Deployed start)
    (hrun : Run (step setting) start history world)
    (hconsumed : world.books.hub.processedSettlements settlementId = true)
    (hlater : Run (step setting) world later next) :
    ∀ again ∈ accepted later, again.settlementId ≠ settlementId := by
  obtain ⟨authorization, hmember, rfl⟩ :=
    ((consistent_of_run hdeployed hrun).processed settlementId).mp hconsumed
  have hdistinct := (consistent_of_run hdeployed (hrun.append hlater)).settlementsDistinct
  rw [accepted_append, List.map_append, List.nodup_append] at hdistinct
  intro again hagain hsame
  exact hdistinct.2.2 _ (List.mem_map_of_mem hagain) _ (List.mem_map_of_mem hmember) hsame

/-- While it is unpaid, its executor executes it exactly in time and with a vault that holds
the amount. -/
theorem executable_iff {authorization : PayoutAuthorization} {executor : Executor}
    {vault : Vault} (hdeployed : Deployed start)
    (hrun : Run (step setting) start history world) (hsolana : SOLANA_NETWORK setting ≠ 0)
    (hmember : authorization ∈ accepted history)
    (hunpaid : Unpaid world authorization.settlementId)
    (hserved : Served setting world authorization executor vault) :
    Executable setting world authorization ↔
      (world.networks authorization.destinationNetwork).now ≤ authorization.deadline ∧
      authorization.amount ≤
        ((world.networks authorization.destinationNetwork).tokens
          authorization.token).balanceOf executor.liquidityVault := by
  have hconsistent := consistent_of_run hdeployed hrun
  obtain ⟨before, sender, signature, taken, -, haccepted⟩ := signed_of_accepted hrun hmember
  have htoken : vault.token = authorization.token := by
    obtain ⟨paired, hpaired, hsame⟩ := hconsistent.wired.paired _ _ vault hserved.funded
    rw [hserved.serves, hserved.deployed] at hpaired
    rw [← hsame, ← Option.some.inj hpaired, hserved.token]
  have hname := hconsistent.wired.named _ _ executor hserved.deployed
  have hpublished : payload authorization ∈ world.books.published := by
    rw [hconsistent.published]
    exact List.mem_map_of_mem hmember
  have hunused : executor.usedNonces authorization.nonce = false := by
    rw [Bool.eq_false_iff]
    intro hused
    obtain ⟨paid, hpaid, hnonce, payout, hpayout, hpays⟩ :=
      hconsistent.used _ _ executor _ hserved.deployed hused
    have hsame : paid = authorization := eq_of_nonce hconsistent hpaid hmember hnonce
    subst paid
    exact hunpaid payout hpayout hpays.2.2.2.2.2
  have hchecked : checkMessage executor authorization.destinationExecutor
      (messageOf authorization) = .ok () := by
    have hsource : authorization.sourceNetwork ≠ 0 := by
      rw [haccepted.sourceNetwork]
      exact hsolana
    exact checkMessage_eq_ok.mpr ⟨haccepted.settlementId, hsource, haccepted.sealedTipHeadHash,
      haccepted.tinHash, haccepted.exitCommitment, hname.symm, rfl, hserved.token.symm,
      haccepted.recipient, haccepted.amount⟩
  constructor
  · rintro ⟨next, hstep⟩
    simp only [step, bind_eq_ok, require_eq_ok, mapError_eq_ok, pure_eq_ok] at hstep
    obtain ⟨-, -, ⟨network, released⟩, hprocess, -⟩ := hstep
    obtain ⟨found, hfound, -, -, -, htimely, -, hrelease⟩ := processMessage_eq_ok.mp hprocess
    have hsame : found = executor := Option.some.inj (hfound.symm.trans hserved.deployed)
    subst found
    obtain ⟨paying, hpaying, -, -, -, -, moved, hmoved, -⟩ := release_eq_ok.mp hrelease
    have hvault : paying = vault := Option.some.inj (hpaying.symm.trans hserved.funded)
    subst paying
    rw [htoken] at hmoved
    exact ⟨htimely, (Token.transfer_eq_some hmoved).1⟩
  · rintro ⟨htimely, hheld⟩
    obtain ⟨moved, hmoved⟩ := Option.isSome_iff_exists.mp
      ((@Token.isSome_transfer _ _ authorization.recipient _).mpr hheld)
    rw [← htoken] at hmoved
    obtain ⟨network, released, hprocess⟩ : ∃ network released,
        processMessage (world.networks authorization.destinationNetwork)
          authorization.destinationExecutor setting.chainId setting.hub
          (payload authorization) = .ok (network, released) :=
      ⟨_, _, processMessage_eq_ok.mpr ⟨executor, hserved.deployed, hserved.chain.symm,
        hserved.emitter.symm, hchecked, htimely, hunused,
        release_eq_ok.mpr ⟨vault, hserved.funded, hserved.serves.symm, haccepted.recipient,
          haccepted.amount, rfl, moved, hmoved, rfl⟩⟩⟩
    simp only [Executable, step, bind_eq_ok, require_eq_ok, mapError_eq_ok, pure_eq_ok]
    exact ⟨_, (), hpublished, (network, released), hprocess, rfl⟩

/-- What is unpaid when the deadline has passed on its network stays unpaid. -/
theorem unpaid_after_deadline {authorization : PayoutAuthorization}
    (hdeployed : Deployed start) (hrun : Run (step setting) start history world)
    (hmember : authorization ∈ accepted history)
    (hunpaid : Unpaid world authorization.settlementId)
    (hlate : authorization.deadline < (world.networks authorization.destinationNetwork).now)
    (hlater : Run (step setting) world later next) :
    Unpaid next authorization.settlementId := by
  have hkept : authorization.deadline <
      (next.networks authorization.destinationNetwork).now ∧
      Unpaid next authorization.settlementId := by
    refine hlater.induct_on (fun _ state => authorization.deadline <
      (state.networks authorization.destinationNetwork).now ∧
      Unpaid state authorization.settlementId) ⟨hlate, hunpaid⟩ ?_
    rintro later state input after hprefix ⟨hpassed, hstill⟩ hstep
    have hconsistent := consistent_of_run hdeployed (hrun.append hprefix)
    refine ⟨Nat.lt_of_lt_of_le hpassed (now_of_step hstep _), ?_⟩
    rcases effect_of_step hconsistent.wired hconsistent.published hstep with
      ⟨-, -, -, -, -, -, hpayouts⟩ | ⟨_, _, -, -, -, -, -, -, hpayouts⟩ |
      ⟨paid, executor, payout, -, hpaid, hpays, -, -, htimely, -, -, -, -, hpayouts⟩
    · rw [Unpaid, hpayouts]
      exact hstill
    · rw [Unpaid, hpayouts]
      exact hstill
    · intro other hother
      rw [hpayouts] at hother
      rcases List.mem_cons.mp hother with rfl | hearlier
      · intro hsame
        have hagain : authorization ∈ accepted (later ++ history) := by
          rw [accepted_append]
          exact List.mem_append_right _ hmember
        have heq : paid = authorization :=
          eq_of_settlementId hconsistent hpaid hagain (hpays.2.2.2.2.2.symm.trans hsame)
        rw [heq] at hpays htimely
        rw [hpays.1] at htimely
        exact absurd hpassed (BitVec.not_lt.mpr htimely)
      · exact hstill other hearlier
  exact hkept.2

/-- A consumed settlement that is unpaid is executed exactly in time and with a vault that
holds the amount; the hub never authorizes it again, and after the deadline it stays unpaid. -/
theorem payable_until_deadline (hdeployed : Deployed start)
    (hrun : Run (step setting) start history world) (hsolana : SOLANA_NETWORK setting ≠ 0)
    (hconsumed : world.books.hub.processedSettlements settlementId = true)
    (hunpaid : Unpaid world settlementId) :
    ∃ authorization ∈ accepted history, authorization.settlementId = settlementId ∧
      (∀ executor vault, Served setting world authorization executor vault →
        (Executable setting world authorization ↔
          (world.networks authorization.destinationNetwork).now ≤ authorization.deadline ∧
          authorization.amount ≤
            ((world.networks authorization.destinationNetwork).tokens
              authorization.token).balanceOf executor.liquidityVault)) ∧
      (∀ later next, Run (step setting) world later next →
        ∀ again ∈ accepted later, again.settlementId ≠ settlementId) ∧
      (authorization.deadline < (world.networks authorization.destinationNetwork).now →
        ∀ later next, Run (step setting) world later next → Unpaid next settlementId) := by
  obtain ⟨authorization, hmember, rfl⟩ :=
    ((consistent_of_run hdeployed hrun).processed settlementId).mp hconsumed
  refine ⟨authorization, hmember, rfl, ?_, ?_, ?_⟩
  · intro executor vault hserved
    exact executable_iff hdeployed hrun hsolana hmember hunpaid hserved
  · intro later next hlater
    exact not_authorized_again hdeployed hrun hconsumed hlater
  · intro hlate later next hlater
    exact unpaid_after_deadline hdeployed hrun hmember hunpaid hlate hlater

end Runs

section Samples

theorem sample_solana_ne_zero : SOLANA_NETWORK sampleSetting ≠ 0 := by
  decide +kernel

/-- A consumed settlement that waits, with what the theorem says of it. -/
theorem payable_before_deadline :
    ∃ history world, Run (step sampleSetting) sampleWorld history world ∧
      ∃ authorization ∈ accepted history, authorization.settlementId = 0x5e77 ∧
        ∀ later next, Run (step sampleSetting) world later next →
          ∀ again ∈ accepted later, again.settlementId ≠ 0x5e77 := by
  have hreaches : reaches (step sampleSetting) sampleWorld settledRun
      (fun _ world => world.books.hub.processedSettlements 0x5e77 &&
        decide (Unpaid world 0x5e77)) = true := by
    decide +kernel
  obtain ⟨history, world, hrun, hproperty⟩ := exists_run_of_reaches hreaches
  rw [Bool.and_eq_true, decide_eq_true_eq] at hproperty
  obtain ⟨authorization, hmember, hid, -, hagain, -⟩ := payable_until_deadline
    deployed_sampleWorld hrun sample_solana_ne_zero hproperty.1 hproperty.2
  exact ⟨history, world, hrun, authorization, hmember, hid, hagain⟩

/-- The message has not been delivered when its deadline passes. -/
def lateRun : List Input :=
  .networkBlock sampleAuthorization.destinationNetwork 2001 :: settledRun

example : lateRun ≠ [] := by
  decide +kernel

def cannotDeliver (world : World) : Bool :=
  match step sampleSetting world (.deliver sampleAuthorization.destinationNetwork
    sampleAuthorization.destinationExecutor (payload sampleAuthorization)) with
  | .ok _ => false
  | .error _ => true

theorem not_executable_of_cannotDeliver {world : World} (hcannot : cannotDeliver world = true) :
    ¬ Executable sampleSetting world sampleAuthorization := by
  rintro ⟨next, hnext⟩
  rw [cannotDeliver, hnext] at hcannot
  cases hcannot

/-- A settlement is consumed and unpaid, its executor refuses its message, and no calls
whatever make the hub authorize it again. -/
theorem stranded_after_deadline :
    ∃ history world, Run (step sampleSetting) sampleWorld history world ∧
      world.books.hub.processedSettlements 0x5e77 = true ∧ Unpaid world 0x5e77 ∧
      ¬ Executable sampleSetting world sampleAuthorization ∧
      ∀ later next, Run (step sampleSetting) world later next →
        ∀ again ∈ accepted later, again.settlementId ≠ 0x5e77 := by
  have hreaches : reaches (step sampleSetting) sampleWorld lateRun
      (fun _ world => world.books.hub.processedSettlements 0x5e77 &&
        decide (Unpaid world 0x5e77) && cannotDeliver world) = true := by
    decide +kernel
  obtain ⟨history, world, hrun, hproperty⟩ := exists_run_of_reaches hreaches
  rw [Bool.and_eq_true, Bool.and_eq_true, decide_eq_true_eq] at hproperty
  exact ⟨history, world, hrun, hproperty.1.1, hproperty.1.2,
    not_executable_of_cannotDeliver hproperty.2,
    fun _ _ hlater => not_authorized_again deployed_sampleWorld hrun hproperty.1.1 hlater⟩

end Samples

end TsnProtocol.Crosschain.Stranding
