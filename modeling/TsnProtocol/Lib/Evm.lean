import TsnProtocol.Lib.ByteReader
import TsnProtocol.Lib.FiniteStore

/-!
The data of an EVM contract: words and addresses, arithmetic that fails instead of wrapping
around, the words of an ABI encoding, and tokens whose transfers are exact.
-/

namespace TsnProtocol.Lib.Evm

open Lib.ByteReader
open Lib.FiniteStore

abbrev Bytes32 := BitVec 256

abbrev Uint256 := BitVec 256

abbrev Address := BitVec 160

/-- Addition; `none` on overflow. -/
def add (left right : Uint256) : Option Uint256 :=
  if left.toNat + right.toNat < 2 ^ 256 then some (left + right) else none

/-- Subtraction; `none` on underflow. -/
def sub (left right : Uint256) : Option Uint256 :=
  if right ≤ left then some (left - right) else none

theorem add_eq_some {left right result : Uint256} :
    add left right = some result ↔ result.toNat = left.toNat + right.toNat := by
  have hresult := result.isLt
  unfold add
  split
  · rename_i hfits
    have hsum : (left + right).toNat = left.toNat + right.toNat := by
      rw [BitVec.toNat_add, Nat.mod_eq_of_lt hfits]
    rw [Option.some.injEq, ← hsum]
    exact ⟨fun heq => heq ▸ rfl, fun heq => (BitVec.eq_of_toNat_eq heq).symm⟩
  · rename_i hover
    constructor
    · nofun
    · intro hsum
      exact absurd (hsum ▸ hresult) hover

theorem sub_eq_some {left right result : Uint256} :
    sub left right = some result ↔ result.toNat + right.toNat = left.toNat := by
  unfold sub
  split
  · rename_i hle
    have hdifference : (left - right).toNat = left.toNat - right.toNat :=
      BitVec.toNat_sub_of_le hle
    have hnat : right.toNat ≤ left.toNat := hle
    rw [Option.some.injEq]
    constructor
    · rintro rfl
      omega
    · intro hsum
      apply BitVec.eq_of_toNat_eq
      omega
  · rename_i hless
    constructor
    · nofun
    · intro hsum
      have hle : right.toNat ≤ left.toNat := by omega
      exact absurd hle hless

section Abi

variable {Error : Type}

/-- The encoding of a tuple of one-word values. -/
def abiEncode (words : List Bytes32) : List Byte :=
  words.flatMap wordBytes

def addressWord (address : Address) : Bytes32 :=
  address.setWidth 256

def boolWord (flag : Bool) : Bytes32 :=
  if flag then 1 else 0

/-- The next word as an address; a word that is wider fails. -/
def takeAddress (problem : Error) : Reader Error Address := do
  let word ← takeWord problem
  if word.toNat < 2 ^ 160 then pure (word.setWidth 160) else fun _ => .error problem

/-- The next word as a flag; a word other than zero and one fails. -/
def takeFlag (problem : Error) : Reader Error Bool := do
  let word ← takeWord problem
  if word = 0 then pure false
  else if word = 1 then pure true
  else fun _ => .error problem

theorem toNat_addressWord (address : Address) :
    (addressWord address).toNat = address.toNat := by
  have hlt := address.isLt
  rw [addressWord, BitVec.toNat_setWidth, Nat.mod_eq_of_lt (by omega)]

theorem reads_takeAddress {problem : Error} {address : Address} :
    Reads (takeAddress problem) (wordBytes (addressWord address)) address := by
  have hlt := address.isLt
  have hback : (addressWord address).setWidth 160 = address := by
    apply BitVec.eq_of_toNat_eq
    rw [BitVec.toNat_setWidth, toNat_addressWord, Nat.mod_eq_of_lt hlt]
  rw [← List.append_nil (wordBytes _)]
  refine reads_bind reads_takeWord ?_
  rw [toNat_addressWord, if_pos hlt, hback]
  exact reads_pure

theorem reads_takeFlag {problem : Error} {flag : Bool} :
    Reads (takeFlag problem) (wordBytes (boolWord flag)) flag := by
  rw [← List.append_nil (wordBytes _)]
  refine reads_bind reads_takeWord ?_
  cases flag with
  | false => exact reads_pure
  | true => exact reads_pure

end Abi

section Tokens

/-- The balance held under an account. -/
def balanceIn (balances : Store Address Uint256) (account : Address) : Uint256 :=
  (balances.lookup account).getD 0

/-- A token: what each account holds, in all less than `2 ^ 256`. -/
structure Token where
  balances : Store Address Uint256
  bounded : total BitVec.toNat balances < 2 ^ 256

namespace Token

/-- A token of which one account holds all there is. -/
def minted (account : Address) (amount : Uint256) : Token where
  balances := (∅ : Store Address Uint256).insert account amount
  bounded := by
    rw [total_insert_of_lookup_eq_none amount (Finmap.lookup_empty account)]
    exact amount.isLt

def balanceOf (token : Token) (account : Address) : Uint256 :=
  balanceIn token.balances account

/-- The balances after `amount` has moved. -/
def moved (balances : Store Address Uint256) (sender recipient : Address)
    (amount : Uint256) : Store Address Uint256 :=
  let debited := balances.insert sender (balanceIn balances sender - amount)
  debited.insert recipient (balanceIn debited recipient + amount)

theorem weigh_lookup (balances : Store Address Uint256) (account : Address) :
    weigh BitVec.toNat (balances.lookup account) = (balanceIn balances account).toNat := by
  unfold balanceIn
  cases balances.lookup account with
  | none => rfl
  | some balance => rfl

theorem balanceIn_le_total (balances : Store Address Uint256) (account : Address) :
    (balanceIn balances account).toNat ≤ total BitVec.toNat balances := by
  cases hlookup : balances.lookup account with
  | none => simp [balanceIn, hlookup]
  | some balance =>
      have hle : balance.toNat ≤ total BitVec.toNat balances := weight_le_total hlookup
      simpa [balanceIn, hlookup] using hle

theorem total_insert_balance (balances : Store Address Uint256) (account : Address)
    (balance : Uint256) :
    total BitVec.toNat (balances.insert account balance) +
        (balanceIn balances account).toNat =
      total BitVec.toNat balances + balance.toNat := by
  rw [← weigh_lookup]
  exact total_insert BitVec.toNat balances account balance

/-- A transfer keeps the sum of all balances. -/
theorem total_moved {balances : Store Address Uint256} {sender recipient : Address}
    {amount : Uint256} (hbounded : total BitVec.toNat balances < 2 ^ 256)
    (hheld : amount ≤ balanceIn balances sender) :
    total BitVec.toNat (moved balances sender recipient amount) =
      total BitVec.toNat balances := by
  have hnat : amount.toNat ≤ (balanceIn balances sender).toNat := hheld
  have hdebited := total_insert_balance balances sender (balanceIn balances sender - amount)
  rw [BitVec.toNat_sub_of_le hheld] at hdebited
  have hcredited := total_insert_balance
    (balances.insert sender (balanceIn balances sender - amount)) recipient
    (balanceIn (balances.insert sender (balanceIn balances sender - amount)) recipient + amount)
  have hrecipient := balanceIn_le_total
    (balances.insert sender (balanceIn balances sender - amount)) recipient
  rw [BitVec.toNat_add, Nat.mod_eq_of_lt (by omega)] at hcredited
  simp only [moved]
  omega

/-- An exact transfer; `none` where the sender holds less. -/
def transfer (token : Token) (sender recipient : Address) (amount : Uint256) : Option Token :=
  if hheld : amount ≤ token.balanceOf sender then
    some ⟨moved token.balances sender recipient amount,
      lt_of_eq_of_lt (total_moved token.bounded hheld) token.bounded⟩
  else none

theorem isSome_transfer {token : Token} {sender recipient : Address} {amount : Uint256} :
    (token.transfer sender recipient amount).isSome ↔ amount ≤ token.balanceOf sender := by
  unfold transfer
  split
  · rename_i hheld
    exact ⟨fun _ => hheld, fun _ => rfl⟩
  · rename_i hshort
    exact ⟨nofun, fun hheld => absurd hheld hshort⟩

theorem transfer_eq_some {token moved : Token} {sender recipient : Address}
    {amount : Uint256} (htransfer : token.transfer sender recipient amount = some moved) :
    amount ≤ token.balanceOf sender ∧
      moved.balances = Token.moved token.balances sender recipient amount := by
  unfold transfer at htransfer
  split at htransfer
  · rename_i hheld
    cases htransfer
    exact ⟨hheld, rfl⟩
  · cases htransfer

end Token

end Tokens

end TsnProtocol.Lib.Evm
