import TsnProtocol.Escrow.State

/-!
Token accounts. A transfer moves tokens between two accounts and changes neither mint nor
owner of any account, so an account whose owner does not sign is never debited.
-/

namespace TsnProtocol.Escrow.Tokens

open Lib.Checked
open Lib.FiniteStore
open Solana.Address
open Escrow.State

variable {tokens next : Tokens} {signers : List Pubkey}
  {source destination authority key wallet mint : Pubkey} {amount : Nat}

/-- `transfer` of the token program: signed for by the owner of the source; a transfer of an
account to itself changes nothing. -/
def transfer (tokens : Tokens) (signers : List Pubkey)
    (source destination authority : Pubkey) (amount : Nat) : Result Tokens := do
  let sourceData ← load tokens source
  let destinationData ← load tokens destination
  require (amount ≤ sourceData.amount) .token
  require (sourceData.mint = destinationData.mint) .token
  require (sourceData.owner = authority ∧ authority ∈ signers) .token
  if source = destination then
    return tokens
  else
    require (destinationData.amount + amount < 2 ^ 64) .token
    return (tokens.insert source
      { sourceData with amount := sourceData.amount - amount }).insert destination
        { destinationData with amount := destinationData.amount + amount }

/-- `init_if_needed` of an associated token account. -/
def openAssociated (tokens : Tokens) (key wallet mint : Pubkey) : Result Tokens := do
  require (key = getAssociatedTokenAddress wallet mint) .constraintAddress
  match tokens.lookup key with
  | none => return tokens.insert key ⟨mint, wallet, 0⟩
  | some token => do
      require (token.mint = mint) .constraintTokenMint
      require (token.owner = wallet) .constraintTokenOwner
      return tokens

/-- The balance of an address after a transfer. -/
def moved (source destination : Pubkey) (amount : Nat) (key : Pubkey) (balance : Nat) : Nat :=
  if source = destination then balance
  else if key = source then balance - amount
  else if key = destination then balance + amount
  else balance

/-- A transfer changes the balance of its two accounts and nothing else. -/
structure Transfers (tokens : Tokens) (signers : List Pubkey)
    (source destination authority : Pubkey) (amount : Nat) (next : Tokens) : Prop where
  signed : authority ∈ signers
  debited : ∃ token, tokens.lookup source = some token ∧ token.owner = authority ∧
    amount ≤ token.amount
  credited : ∃ token, tokens.lookup destination = some token
  sameMint : ∀ token token', tokens.lookup source = some token →
    tokens.lookup destination = some token' → token.mint = token'.mint
  room : source ≠ destination → ∀ token, tokens.lookup destination = some token →
    token.amount + amount < 2 ^ 64
  lookup_eq : ∀ key, next.lookup key = (tokens.lookup key).map fun token =>
    { token with amount := moved source destination amount key token.amount }

theorem transfer_eq_ok
    (htransfer : transfer tokens signers source destination authority amount = .ok next) :
    Transfers tokens signers source destination authority amount next := by
  simp only [transfer, bind_eq_ok, load_eq_ok, require_eq_ok] at htransfer
  obtain ⟨sourceData, hsource, destinationData, hdestination, _, henough, _, hmint, _,
    ⟨howner, hsigned⟩, hnext⟩ := htransfer
  refine ⟨hsigned, ⟨sourceData, hsource, howner, henough⟩, ⟨destinationData, hdestination⟩,
    ?_, ?_, ?_⟩
  · intro token token' htoken htoken'
    rw [hsource] at htoken
    rw [hdestination] at htoken'
    cases htoken
    cases htoken'
    exact hmint
  · intro hother token htoken
    rw [hdestination] at htoken
    cases htoken
    rw [if_neg hother] at hnext
    simp only [bind_eq_ok, require_eq_ok] at hnext
    obtain ⟨_, hroom, -⟩ := hnext
    exact hroom
  · intro key
    split_ifs at hnext with hsame
    · cases hnext
      simp [moved, hsame]
    · simp only [bind_eq_ok, require_eq_ok, pure_eq_ok] at hnext
      obtain ⟨_, -, rfl⟩ := hnext
      rw [lookup_insert_eq, lookup_insert_eq]
      by_cases hdest : key = destination
      · rw [if_pos hdest, hdest, hdestination]
        simp [moved, hsame, Ne.symm hsame]
      · by_cases hkey : key = source
        · rw [if_neg hdest, if_pos hkey, hkey, hsource]
          simp [moved, hsame]
        · rw [if_neg hdest, if_neg hkey]
          simp [moved, hsame, hkey, hdest]

/-- A transfer between two accounts of one mint goes through when the source covers it and the
destination has room for it. -/
theorem exists_transfer {token token' : TokenAccount} (hsource : tokens.lookup source = some token)
    (hdestination : tokens.lookup destination = some token') (henough : amount ≤ token.amount)
    (hmint : token.mint = token'.mint) (howner : token.owner ∈ signers)
    (hroom : token'.amount + amount < 2 ^ 64) :
    ∃ next, transfer tokens signers source destination token.owner amount = .ok next := by
  refine exists_ok_bind (load_eq_ok.mpr hsource) ?_
  refine exists_ok_bind (load_eq_ok.mpr hdestination) ?_
  refine exists_ok_seq (require_eq_ok.mpr henough) ?_
  refine exists_ok_seq (require_eq_ok.mpr hmint) ?_
  refine exists_ok_seq (require_eq_ok.mpr ⟨rfl, howner⟩) ?_
  split_ifs
  · exact ⟨tokens, rfl⟩
  · exact exists_ok_seq (require_eq_ok.mpr hroom) ⟨_, rfl⟩

/-- An account whose owner is not the authority of the transfer is not debited. -/
theorem lookup_of_transfers {token : TokenAccount}
    (htransfers : Transfers tokens signers source destination authority amount next)
    (hlookup : tokens.lookup key = some token) (howner : token.owner ≠ authority) :
    next.lookup key = some { token with
      amount := token.amount + if key = destination then amount else 0 } := by
  have hsource : key ≠ source := by
    rintro rfl
    obtain ⟨token', htoken', howner', -⟩ := htransfers.debited
    rw [hlookup] at htoken'
    cases htoken'
    exact howner howner'
  rw [htransfers.lookup_eq, hlookup, Option.map_some, moved]
  by_cases hsame : source = destination
  · rw [if_pos hsame, if_neg fun h => hsource (h.trans hsame.symm)]
    rfl
  · rw [if_neg hsame, if_neg hsource]
    split_ifs
    · rfl
    · rfl

/-- What an associated token account is opened with. -/
theorem openAssociated_eq_ok (hopen : openAssociated tokens key wallet mint = .ok next) :
    key = getAssociatedTokenAddress wallet mint ∧
      (∃ token, next.lookup key = some token ∧ token.mint = mint ∧ token.owner = wallet) ∧
        (∀ other token, tokens.lookup other = some token → next.lookup other = some token) ∧
          ∀ other token, next.lookup other = some token →
            tokens.lookup other = some token ∨ other = key := by
  simp only [openAssociated, bind_eq_ok, require_eq_ok] at hopen
  obtain ⟨_, hkey, hopen⟩ := hopen
  refine ⟨hkey, ?_⟩
  split at hopen
  · rename_i hnone
    rw [pure_eq_ok] at hopen
    subst hopen
    refine ⟨⟨_, Finmap.lookup_insert _, rfl, rfl⟩, ?_, ?_⟩
    · intro other token hlookup
      rw [lookup_insert_eq, if_neg, hlookup]
      rintro rfl
      rw [hnone] at hlookup
      cases hlookup
    · intro other token hlookup
      rw [lookup_insert_eq] at hlookup
      split_ifs at hlookup with hother
      · exact .inr hother
      · exact .inl hlookup
  · rename_i token htoken
    simp only [bind_eq_ok, require_eq_ok, pure_eq_ok] at hopen
    obtain ⟨_, hmint, _, howner, rfl⟩ := hopen
    exact ⟨⟨token, htoken, hmint, howner⟩, fun _ _ hlookup => hlookup,
      fun _ _ hlookup => .inl hlookup⟩

end TsnProtocol.Escrow.Tokens
