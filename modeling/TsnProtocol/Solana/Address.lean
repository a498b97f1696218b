import Mathlib

/-!
Account addresses. A program-derived address is kept as the term that derives
it, so that two addresses agree exactly when program and seeds do; the 32-byte
hash behind it is never compared with a key somebody chose freely.
-/

namespace TsnProtocol.Solana.Address

/-- A 32-byte word, read big-endian. -/
abbrev Bytes32 := BitVec 256

/-- An account address. -/
inductive Pubkey where
  | raw (bytes : Bytes32)
  | derived (program : Pubkey) (label : String)
  | under (parent seed : Pubkey)
  deriving DecidableEq

/-- The all-zero key, which is also the id of the system program. -/
def Pubkey.default : Pubkey := .raw 0

/-- Address derived from a label and further 32-byte seeds. -/
def findProgramAddress (program : Pubkey) (label : String)
    (seeds : List Pubkey) : Pubkey :=
  seeds.foldl .under (.derived program label)

/-- The program a derived address belongs to. -/
def Pubkey.program? : Pubkey → Option Pubkey
  | .raw _ => none
  | .derived program _ => some program
  | .under parent _ => parent.program?

@[simp] theorem program?_findProgramAddress (program : Pubkey) (label : String)
    (seeds : List Pubkey) :
    (findProgramAddress program label seeds).program? = some program := by
  suffices ∀ address : Pubkey, address.program? = some program →
      (seeds.foldl .under address).program? = some program by
    exact this (.derived program label) rfl
  induction seeds with
  | nil => exact fun address haddress => haddress
  | cons seed seeds ih => exact fun address haddress => ih (.under address seed) haddress

/-- Programs of the repository and of the chain, by their deployed ids. -/
def tcapProgram : Pubkey :=
  .raw 0x0d1db5b270ec29533703581e1b0d917164c0e8260765cf3e39c92fd9a1f54582

@[inherit_doc tcapProgram]
def tsnProgram : Pubkey :=
  .raw 0x06c5c758926dc361476d208de0a814537137d9da1c96c1bc8768567ca607c64a

@[inherit_doc tcapProgram]
def gpruProgram : Pubkey :=
  .raw 0x52331b9807f671f26e56f5b18422f1083e94f2bde0bbf9f15c1c63fdf4766f30

@[inherit_doc tcapProgram]
def splTokenProgram : Pubkey :=
  .raw 0x06ddf6e1d765a193d9cbe146ceeb79ac1cb485ed5f5b37913a8cf5857eff00a9

@[inherit_doc tcapProgram]
def token2022Program : Pubkey :=
  .raw 0x06ddf6e1ee758fde18425dbce46ccddab61afc4d83b90d27febdf928d8a18bfc

/-- One argument of `hashv`, before serialisation. -/
inductive Chunk where
  | text (label : String)
  | key (address : Pubkey)
  | word (bytes : Bytes32)
  | uint (width value : Nat)
  | bytes (data : List (BitVec 8))
  deriving DecidableEq

end TsnProtocol.Solana.Address
