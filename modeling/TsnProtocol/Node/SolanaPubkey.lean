import TsnProtocol.Gpru.Verifier
import TsnProtocol.Lib.Base58
import TsnProtocol.Lib.PythonText
import TsnProtocol.Node.ThresholdAccess
import TsnProtocol.Solana.Curve25519

/-!
The Node's adapter of Solana keys: their base-58 text, the test whether 32 bytes decompress to
a point of the curve, and program addresses, which are digests that do not.
-/

namespace TsnProtocol.Node.SolanaPubkey

open Gpru.Verifier (asciiBytes)
open Lib.Base58
open Lib.ByteReader
open Lib.Checked
open Lib.PythonText (stripText)
open Lib.SquareRoots
open Lib.TextFormat
open Lib.Utf16 (points)
open Solana.Address (Bytes32)
open Solana.Curve25519

section Text

/-- The loop of the encoders: each remainder is put in front. -/
def prependDigits (number : Nat) (encoded : Text) : Text :=
  if number = 0 then encoded
  else prependDigits (number / 58) (digitChar (number % 58) :: encoded)
termination_by number
decreasing_by omega

/-- What the encoders of the Node have in common; `encoded or BASE58_ALPHABET[0]` stands for a
number without digits. -/
def encodeBytes (data : List Byte) : Text :=
  let encoded := prependDigits (beValue data) []
  let leadingZeroes := data.length - (data.dropWhile (· = 0)).length
  List.replicate leadingZeroes '1' ++ if encoded = [] then ['1'] else encoded

/-- `_encode_base58`. -/
def encodeBase58 (data : List Byte) : Text :=
  encodeBytes data

/-- `_decode_base58`. -/
def decodeBase58 (value : Text) : Except String (List Byte) := do
  require (value ≠ []) "public key is empty"
  okOr (ThresholdAccess.decodeBase58 (points value)) "invalid base58 public key"

end Text

/-- `Pubkey`. -/
structure PublicKey where
  bytes : List Byte
  size : bytes.length = 32
  deriving DecidableEq

def PublicKey.new (bytes : List Byte) : Except String PublicKey :=
  if size : bytes.length = 32 then .ok ⟨bytes, size⟩
  else .error "public key must contain 32 bytes"

def PublicKey.fromString (value : Text) : Except String PublicKey := do
  let raw ← decodeBase58 (stripText value)
  require (raw.length = 32) "public key must decode to 32 bytes"
  PublicKey.new raw

/-- `__str__`. -/
def PublicKey.str (key : PublicKey) : Text :=
  encodeBase58 key.bytes

section CurvePoint

/-- `(x_squared * v - u) % p == 0`. -/
def isRatioRoot (u v x : Nat) : Bool :=
  decide ((((x * x % ed25519P * v : Nat) : Int) - u) % ed25519P = 0)

/-- The low 255 bits of a key. -/
def coordinateOf (data : List Byte) : Nat :=
  leValue data % 2 ^ 255

/-- The top bit of a key. -/
def signOf (data : List Byte) : Nat :=
  leValue data / 2 ^ 255

def isEd25519CurvePoint (data : List Byte) : Bool :=
  if data.length ≠ 32 then false
  else
    let sign := signOf data
    let y := coordinateOf data
    if ed25519P ≤ y then false
    else
      let ySquared := y * y % ed25519P
      let u := (((ySquared : Int) - 1) % ed25519P).toNat
      let v := (ed25519D * ySquared + 1) % ed25519P
      let uv7 := u * powMod ed25519P v 7 % ed25519P
      let candidate :=
        u * powMod ed25519P v 3 * powMod ed25519P uv7 ((ed25519P - 5) / 8) % ed25519P
      let x := if isRatioRoot u v candidate then candidate
        else candidate * ed25519SqrtM1 % ed25519P
      if isRatioRoot u v x then !(x = 0 && sign = 1) else false

end CurvePoint

section Addresses

variable (sha256 : List Byte → Bytes32)

def pdaMarker : List Byte := asciiBytes "ProgramDerivedAddress"
def maxSeeds : Nat := 16
def maxSeedLength : Nat := 32
def onCurveProblem : String := "PDA lies on the ed25519 curve"

def addressDigest (seeds : List (List Byte)) (programId : List Byte) : List Byte :=
  wordBytes (sha256 (seeds.flatten ++ (programId ++ pdaMarker)))

/-- `create_program_address`; a key is passed as its bytes. -/
def createProgramAddress (seeds : List (List Byte)) (programId : List Byte) :
    Except String PublicKey := do
  require (seeds.length ≤ maxSeeds) "maximum number of PDA seeds exceeded"
  require (∀ seed ∈ seeds, seed.length ≤ maxSeedLength) "maximum PDA seed length exceeded"
  require (programId.length = 32) "program id must contain 32 bytes"
  let digest := addressDigest sha256 seeds programId
  require (isEd25519CurvePoint digest = false) onCurveProblem
  PublicKey.new digest

def withBump (seeds : List (List Byte)) (bump : Nat) : List (List Byte) :=
  seeds ++ [[BitVec.ofNat 8 bump]]

/-- One round of the loop: only an address on the curve leads to the next bump. -/
def tryBump (seeds : List (List Byte)) (programId : List Byte) (bump : Nat)
    (next : Except String (PublicKey × Nat)) : Except String (PublicKey × Nat) :=
  match createProgramAddress sha256 (withBump seeds bump) programId with
  | .ok address => .ok (address, bump)
  | .error problem => if problem = onCurveProblem then next else .error problem

def findFrom (seeds : List (List Byte)) (programId : List Byte) :
    Nat → Except String (PublicKey × Nat)
  | 0 => tryBump sha256 seeds programId 0
      (.error "unable to find a viable program address bump seed")
  | bump + 1 => tryBump sha256 seeds programId (bump + 1) (findFrom seeds programId bump)

def findProgramAddress (seeds : List (List Byte)) (programId : List Byte) :
    Except String (PublicKey × Nat) :=
  findFrom sha256 seeds programId 255

end Addresses

section Encoders

theorem prependDigits_eq (number : Nat) (encoded : Text) :
    prependDigits number encoded = digitText number ++ encoded := by
  induction number using Nat.strong_induction_on generalizing encoded with
  | _ number ih =>
      rw [prependDigits]
      split_ifs with hzero
      · rw [digitText_eq_nil_iff.mpr hzero, List.nil_append]
      · rw [ih _ (by omega), digitText, digitText,
          Nat.digits_def' (by decide) (Nat.pos_of_ne_zero hzero), List.reverse_cons,
          List.map_append, List.append_assoc]
        rfl

theorem encodeBytes_eq (data : List Byte) :
    encodeBytes data = standardText data ++ if beValue data = 0 then ['1'] else [] := by
  rw [encodeBytes, prependDigits_eq, List.append_nil, length_sub_dropWhile, standardText]
  by_cases hzero : beValue data = 0
  · rw [if_pos (digitText_eq_nil_iff.mpr hzero), if_pos hzero, digitText_eq_nil_iff.mpr hzero,
      List.append_nil]
  · rw [if_neg (mt digitText_eq_nil_iff.mp hzero), if_neg hzero, List.append_nil]

/-- The encoders write the standard text of everything but zeros, to which they append a one. -/
theorem encodeBytes_eq_standardText_iff (data : List Byte) :
    encodeBytes data = standardText data ↔ ∃ byte ∈ data, byte ≠ 0 := by
  have hzero : (∃ byte ∈ data, byte ≠ 0) ↔ ¬ beValue data = 0 := by
    rw [beValue_eq_zero_iff]
    push Not
    rfl
  rw [encodeBytes_eq, List.append_right_eq_self, hzero]
  split_ifs with hvalue
  · simp [hvalue]
  · simp [hvalue]

end Encoders

end TsnProtocol.Node.SolanaPubkey
