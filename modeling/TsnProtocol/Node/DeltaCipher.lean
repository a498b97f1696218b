import TsnProtocol.Circomlib.BabyJubOrder
import TsnProtocol.HiddenHead.Consequences
import TsnProtocol.Sdk.DeltaCipher

/-!
The Node's encryption of blinding deltas next to the SDK's. The Node divides by denominators
that have to be invertible, and hands the quotients of its reductions to the prover.
-/

namespace TsnProtocol.Node.DeltaCipher

open Bn254.Field
open Bn254.Scalar
open Circomlib.BabyJub
open Circomlib.BabyJubOrder
open Circomlib.Gadgets
open HiddenHead.Circuit
open HiddenHead.Consequences
open Lib.ByteReader
open Lib.Checked
open Lib.TwistedEdwards
open Sdk.DeltaCipher

inductive DeltaError where
  | coordinateLength | notCanonical | outsideSubgroup | identity | deltaOutOfRange
  | notInvertible
  deriving DecidableEq

/-- `pow(value, -1, BABYJUB_FIELD)`. -/
def inverse (value : Fr) : Except DeltaError Fr := do
  require (value ≠ 0) .notInvertible
  return value⁻¹

def babyjubAdd (left right : Coordinates) : Except DeltaError Coordinates := do
  let product := left.1 * right.1 * left.2 * right.2
  let forX ← inverse (1 + babyJubD * product)
  let forY ← inverse (1 - babyJubD * product)
  return ((left.1 * right.2 + left.2 * right.1) * forX,
    (left.2 * right.2 - babyJubA * left.1 * right.1) * forY)

/-- The loop of `_babyjub_mul`; the first argument bounds the bits of the scalar. -/
def babyjubMulFrom : Nat → Nat → Coordinates → Coordinates → Except DeltaError Coordinates
  | 0, _, _, result => .ok result
  | bound + 1, scalar, base, result =>
      if scalar = 0 then .ok result
      else do
        let result ← if scalar % 2 = 1 then babyjubAdd result base else .ok result
        let base ← babyjubAdd base base
        babyjubMulFrom bound (scalar / 2) base result

def babyjubMul (point : Coordinates) (scalar : Nat) : Except DeltaError Coordinates :=
  babyjubMulFrom scalar.size scalar point (0, 1)

structure EncryptedDelta where
  (ephemeralScalar ephemeralPublicX ephemeralPublicY encryptedDelta sharedXReduction
    sharedXCarry encryptedDeltaCarry : Nat)
  deriving DecidableEq

/-- `drawn` is what `secrets.randbelow(BABYJUB_SUBORDER - 1)` returns. -/
def encryptBalanceBlindingDeltaV1 (scanPublicKeyX scanPublicKeyY : List Byte)
    (blindingDelta drawn : Nat) : Except DeltaError EncryptedDelta := do
  require (scanPublicKeyX.length = 32 ∧ scanPublicKeyY.length = 32) .coordinateLength
  let x := beValue scanPublicKeyX
  let y := beValue scanPublicKeyY
  require (isCanonicalPoint x y = true) .notCanonical
  let multiple ← babyjubMul (x, y) babyJubSuborder
  require (multiple = (0, 1)) .outsideSubgroup
  require (¬ (x = 0 ∧ y = 1)) .identity
  require (0 < blindingDelta ∧ blindingDelta < babyJubSuborder) .deltaOutOfRange
  let ephemeralScalar := drawn + 1
  let ephemeralPublic ← babyjubMul (coordinates balanceG) ephemeralScalar
  let shared ← babyjubMul (x, y) ephemeralScalar
  return {
    ephemeralScalar
    ephemeralPublicX := ephemeralPublic.1.val
    ephemeralPublicY := ephemeralPublic.2.val
    encryptedDelta := (blindingDelta + shared.1.val) % babyJubSuborder
    sharedXReduction := shared.1.val % babyJubSuborder
    sharedXCarry := shared.1.val / babyJubSuborder
    encryptedDeltaCarry :=
      (blindingDelta + shared.1.val % babyJubSuborder) / babyJubSuborder }

/-- What the circuit asks of the encryption: its constraints on the scalar, the shared point,
the reductions and the ciphertext, and the bounds these stand for. -/
structure MeetsCircuit (delta : Nat) (scanPublicKey : BabyPoint) (record : EncryptedDelta) :
    Prop where
  sharedXCarryBits : ∃ bits, Num2Bits 3 (record.sharedXCarry : Fr) bits
  sharedXMaskBound : LessThan 252 (record.sharedXReduction : Fr) suborder 1
  sharedX : ∀ lib shared,
    BalanceScalarMul lib 252 scanPublicKey (record.ephemeralScalar : Fr) shared →
      shared.1 = record.sharedXReduction + record.sharedXCarry * suborder
  encryptedDeltaCarryBits : ∃ bits, Num2Bits 1 (record.encryptedDeltaCarry : Fr) bits
  encryptedDelta : (record.encryptedDelta : Fr) =
    delta + record.sharedXReduction - record.encryptedDeltaCarry * suborder
  encryptedDeltaBound : LessThan 252 (record.encryptedDelta : Fr) suborder 1
  reduction_lt : record.sharedXReduction < babyJubSuborder
  carry_lt : record.sharedXCarry < 8
  deltaCarry_le : record.encryptedDeltaCarry ≤ 1
  encryptedDelta_lt : record.encryptedDelta < babyJubSuborder

section Points

/-- On the curve no denominator vanishes. -/
theorem babyjubAdd_coordinates (left right : BabyPoint) :
    babyjubAdd (coordinates left) (coordinates right) = .ok (coordinates (left + right)) := by
  have hplus := one_add_ne_zero left.contains right.contains
  have hminus := one_sub_ne_zero left.contains right.contains
  rw [babyJub_d] at hplus hminus
  have hproduct : babyJubD * (left.x * right.x * left.y * right.y) =
      babyJubD * left.x * right.x * left.y * right.y := by ring
  simp only [babyjubAdd, inverse, coordinates, hproduct, bind_eq_ok, require_eq_ok, pure_eq_ok]
  exact ⟨_, ⟨(), hplus, rfl⟩, _, ⟨(), hminus, rfl⟩, rfl⟩

theorem babyjubMulFrom_coordinates {bound scalar : Nat} (hscalar : scalar < 2 ^ bound)
    (base result : BabyPoint) :
    babyjubMulFrom bound scalar (coordinates base) (coordinates result) =
      .ok (multiplyFrom bound scalar (coordinates base) (coordinates result)) := by
  induction bound generalizing scalar base result with
  | zero => rfl
  | succ bound ih =>
      rw [babyjubMulFrom, multiplyFrom]
      by_cases hzero : scalar = 0
      · rw [if_pos hzero, if_pos hzero]
      · have hhalf : scalar / 2 < 2 ^ bound := by
          rw [pow_succ] at hscalar
          omega
        rw [if_neg hzero, if_neg hzero, babyjubAdd_coordinates, babyjubAdd_coordinates,
          addCoordinates_coordinates, addCoordinates_coordinates]
        split_ifs with hbit
        · exact ih hhalf _ _
        · exact ih hhalf _ _

theorem babyjubMul_coordinates (point : BabyPoint) (scalar : Nat) :
    babyjubMul (coordinates point) scalar = .ok (coordinates (scalar • point)) := by
  have hmultiple := babyjubMulFrom_coordinates (Nat.lt_size_self scalar) point 0
  rw [← multiply_coordinates]
  exact hmultiple

theorem cast_coordinates (point : BabyPoint) :
    ((point.x.val : Fr), (point.y.val : Fr)) = coordinates point := by
  rw [ZMod.natCast_zmod_val, ZMod.natCast_zmod_val]
  rfl

theorem isCanonicalPoint_val (point : BabyPoint) :
    isCanonicalPoint point.x.val point.y.val = true := by
  have hcontains := point.contains
  unfold Curve.Contains at hcontains
  rw [babyJub_a, babyJub_d] at hcontains
  rw [isCanonicalPoint, ZMod.natCast_zmod_val, ZMod.natCast_zmod_val]
  simp only [ZMod.val_lt, decide_true, Bool.true_and, decide_eq_true_eq]
  linear_combination hcontains

end Points

section Owner

/-- What the shared coordinate added to the delta, its owner takes away. -/
theorem recovered_eq {delta shared : Nat} (hdelta : delta < babyJubSuborder) :
    ((((delta + shared) % babyJubSuborder : Nat) - (shared : Int)) % babyJubSuborder).toNat =
      delta := by
  unfold babyJubSuborder at *
  omega

theorem decrypt_of_shared {delta secret : Nat} (hdelta : delta < babyJubSuborder)
    (hpositive : 0 < secret) (hsecret : secret < babyJubSuborder) (scalar : Nat) :
    decryptBalanceBlindingDeltaV1
        ((delta + (scalar • secret • balanceG).x.val) % babyJubSuborder)
        (scalar • balanceG).x.val (scalar • balanceG).y.val secret = .ok delta := by
  simp only [decryptBalanceBlindingDeltaV1, bind_eq_ok, require_eq_ok, pure_eq_ok]
  refine ⟨(), ⟨Nat.mod_lt _ (by decide), hpositive, hsecret⟩, (), isCanonicalPoint_val _, ?_⟩
  rw [cast_coordinates, multiply_coordinates, nsmul_left_comm]
  exact recovered_eq hdelta

end Owner

section Encryption

variable {delta secret scalar : Nat}

theorem sdk_encrypt_eq (hpositive : 0 < delta) (hdelta : delta < babyJubSuborder)
    (hscalarPositive : 0 < scalar) (hscalar : scalar < babyJubSuborder) (point : BabyPoint)
    (random : List Byte) :
    Sdk.DeltaCipher.encryptBalanceBlindingDeltaV1 delta point.x.val point.y.val (some scalar)
        random =
      .ok {
        encryptedDelta := (delta + (scalar • point).x.val) % babyJubSuborder
        ephemeralPublicKey := coordinates (scalar • balanceG)
        ephemeralScalar := scalar } := by
  simp only [Sdk.DeltaCipher.encryptBalanceBlindingDeltaV1, bind_eq_ok, require_eq_ok,
    pure_eq_ok, Option.getD_some, if_neg hscalarPositive.ne', cast_coordinates,
    multiply_coordinates]
  exact ⟨(), ⟨hpositive, hdelta⟩, (), isCanonicalPoint_val point, (), hscalar, rfl⟩

theorem beValue_beBytes_val (coordinate : Fr) :
    beValue (beBytes 32 coordinate.val) = coordinate.val := by
  refine beValue_beBytes (lt_trans (ZMod.val_lt coordinate) ?_)
  decide

theorem node_encrypt_eq (hpositive : 0 < delta) (hdelta : delta < babyJubSuborder)
    (hscalarPositive : 0 < scalar) {point : BabyPoint} (hpoint : point ≠ 0)
    (horder : babyJubSuborder • point = 0) :
    encryptBalanceBlindingDeltaV1 (beBytes 32 point.x.val) (beBytes 32 point.y.val) delta
        (scalar - 1) =
      .ok {
        ephemeralScalar := scalar
        ephemeralPublicX := (scalar • balanceG).x.val
        ephemeralPublicY := (scalar • balanceG).y.val
        encryptedDelta := (delta + (scalar • point).x.val) % babyJubSuborder
        sharedXReduction := (scalar • point).x.val % babyJubSuborder
        sharedXCarry := (scalar • point).x.val / babyJubSuborder
        encryptedDeltaCarry :=
          (delta + (scalar • point).x.val % babyJubSuborder) / babyJubSuborder } := by
  have hidentity : ¬ (point.x.val = 0 ∧ point.y.val = 1) := by
    rintro ⟨hx, -⟩
    exact hpoint (eq_zero_of_x_eq_zero ((ZMod.val_eq_zero _).mp hx) horder)
  simp only [encryptBalanceBlindingDeltaV1, length_beBytes, beValue_beBytes_val,
    Nat.sub_add_cancel hscalarPositive, cast_coordinates, babyjubMul_coordinates, horder,
    bind_eq_ok, require_eq_ok, pure_eq_ok]
  exact ⟨(), ⟨trivial, trivial⟩, (), isCanonicalPoint_val point, _, rfl, (), rfl, (), hidentity,
    (), ⟨hpositive, hdelta⟩, _, rfl, _, rfl, rfl⟩

end Encryption

section Circuit

variable {delta shared : Nat}

/-- The carry fits in three bits, since the order of the field is below eight suborders. -/
theorem carry_lt_eight (hshared : shared < bn254ScalarOrder) : shared / babyJubSuborder < 8 := by
  have hbound : bn254ScalarOrder < 8 * babyJubSuborder := by decide
  exact Nat.div_lt_of_lt_mul (by omega)

theorem deltaCarry_le_one (hdelta : delta < babyJubSuborder) :
    (delta + shared % babyJubSuborder) / babyJubSuborder ≤ 1 := by
  have hreduction : shared % babyJubSuborder < babyJubSuborder := Nat.mod_lt _ (by decide)
  exact Nat.lt_succ_iff.mp (Nat.div_lt_of_lt_mul (by omega))

theorem cast_reduction_add_carry (value : Nat) :
    ((value % babyJubSuborder : Nat) : Fr) + (value / babyJubSuborder : Nat) * suborder =
      value := by
  conv_rhs => rw [← Nat.mod_add_div value babyJubSuborder]
  rw [suborder]
  push_cast
  ring

theorem encrypted_eq : (((delta + shared) % babyJubSuborder : Nat) : Fr) =
    delta + (shared % babyJubSuborder : Nat) -
      ((delta + shared % babyJubSuborder) / babyJubSuborder : Nat) * suborder := by
  have hsum := cast_reduction_add_carry (delta + shared % babyJubSuborder)
  rw [Nat.add_mod_mod, Nat.cast_add] at hsum
  rw [← hsum]
  ring

theorem val_natCast_lt {value bound : Nat} (hvalue : value < bound)
    (hbound : bound ≤ bn254ScalarOrder) : (value : Fr).val < bound := by
  rwa [ZMod.val_cast_of_lt (hvalue.trans_le hbound)]

/-- The first coordinate of the point that the circuit multiplies. -/
theorem shared_x_eq {scalar : Nat} (hscalar : scalar < babyJubSuborder) {point : BabyPoint}
    (hx : point.x ≠ 0) {lib : Circomlib} {out : Coordinates}
    (hout : BalanceScalarMul lib 252 point (scalar : Fr) out) : out.1 = (scalar • point).x := by
  obtain ⟨bits, hbits, hmultiple⟩ := hout
  have hvalue : ((scalar : Nat) : Fr).val = scalar :=
    ZMod.val_cast_of_lt (hscalar.trans (by decide))
  have heq := lib.escalarMulAny_eq bits _ _ hbits.boolean hmultiple
  obtain ⟨hsmall, rfl⟩ := (num2Bits_iff (by decide) _ _).mp hbits
  rw [hvalue] at hsmall
  rw [bitValue_natBits, hvalue, Nat.mod_eq_of_lt hsmall, if_neg hx] at heq
  rw [heq]
  rfl

end Circuit

/-- The owner of the scan key recovers the delta from what the SDK encrypts, and from what the
Node encrypts, whose record meets the circuit. -/
theorem delta_recovered {secret delta scalar : Nat} (random : List Byte)
    (hsecret : 0 < secret ∧ secret < babyJubSuborder)
    (hdelta : 0 < delta ∧ delta < babyJubSuborder)
    (hscalar : 0 < scalar ∧ scalar < babyJubSuborder) :
    (∃ cipher,
      Sdk.DeltaCipher.encryptBalanceBlindingDeltaV1 delta
          (multiply (coordinates balanceG) secret).1.val
          (multiply (coordinates balanceG) secret).2.val (some scalar) random = .ok cipher ∧
        decryptBalanceBlindingDeltaV1 cipher.encryptedDelta cipher.ephemeralPublicKey.1.val
          cipher.ephemeralPublicKey.2.val secret = .ok delta) ∧
    ∃ record,
      encryptBalanceBlindingDeltaV1 (beBytes 32 (multiply (coordinates balanceG) secret).1.val)
          (beBytes 32 (multiply (coordinates balanceG) secret).2.val) delta (scalar - 1) =
        .ok record ∧
      decryptBalanceBlindingDeltaV1 record.encryptedDelta record.ephemeralPublicX
          record.ephemeralPublicY secret = .ok delta ∧
      MeetsCircuit delta (secret • balanceG) record := by
  obtain ⟨hsecretPositive, hsecretSmall⟩ := hsecret
  have hpoint := nsmul_balanceG_ne_zero hsecretPositive hsecretSmall
  have horder : babyJubSuborder • secret • balanceG = 0 := by
    rw [nsmul_left_comm, suborder_nsmul_balanceG, nsmul_zero]
  have hx : (secret • balanceG).x ≠ 0 := fun hzero => hpoint (eq_zero_of_x_eq_zero hzero horder)
  have hrecovered := decrypt_of_shared hdelta.2 hsecretPositive hsecretSmall scalar
  have hshared := ZMod.val_lt (scalar • secret • balanceG).x
  have hreduction : (scalar • secret • balanceG).x.val % babyJubSuborder < babyJubSuborder :=
    Nat.mod_lt _ (by decide)
  have hencrypted : (delta + (scalar • secret • balanceG).x.val) % babyJubSuborder <
      babyJubSuborder := Nat.mod_lt _ (by decide)
  have hfits : babyJubSuborder ≤ bn254ScalarOrder := by decide
  rw [multiply_coordinates]
  refine ⟨⟨_, sdk_encrypt_eq hdelta.1 hdelta.2 hscalar.1 hscalar.2 _ random, hrecovered⟩,
    _, node_encrypt_eq hdelta.1 hdelta.2 hscalar.1 hpoint horder, hrecovered, ?_⟩
  exact {
    sharedXCarryBits := (exists_num2Bits_iff (by decide) _).mpr
      (val_natCast_lt (carry_lt_eight hshared) (by decide))
    sharedXMaskBound := lessThan_suborder (val_natCast_lt hreduction hfits)
    sharedX := fun lib shared hmultiple => by
      rw [shared_x_eq hscalar.2 hx hmultiple, cast_reduction_add_carry,
        ZMod.natCast_zmod_val]
    encryptedDeltaCarryBits := (exists_num2Bits_iff (by decide) _).mpr
      (val_natCast_lt (Nat.lt_succ_of_le (deltaCarry_le_one hdelta.2)) (by decide))
    encryptedDelta := encrypted_eq
    encryptedDeltaBound := lessThan_suborder (val_natCast_lt hencrypted hfits)
    reduction_lt := hreduction
    carry_lt := carry_lt_eight hshared
    deltaCarry_le := deltaCarry_le_one hdelta.2
    encryptedDelta_lt := hencrypted }

/-- A delta of five, with the secret two and the ephemeral scalar three. -/
theorem delta_recovered_sample :
    ∃ record,
      encryptBalanceBlindingDeltaV1 (beBytes 32 (multiply (coordinates balanceG) 2).1.val)
          (beBytes 32 (multiply (coordinates balanceG) 2).2.val) 5 2 = .ok record ∧
      decryptBalanceBlindingDeltaV1 record.encryptedDelta record.ephemeralPublicX
          record.ephemeralPublicY 2 = .ok 5 ∧
      MeetsCircuit 5 (2 • balanceG) record :=
  have hrange : 0 < 2 ∧ 2 < babyJubSuborder := by decide
  have hdelta : 0 < 5 ∧ 5 < babyJubSuborder := by decide
  have hscalar : 0 < 3 ∧ 3 < babyJubSuborder := by decide
  (delta_recovered [] hrange hdelta hscalar).2

end TsnProtocol.Node.DeltaCipher
