import Mathlib
import TsnProtocol.Circomlib.BabyJub
import TsnProtocol.Gpru.Verifier
import TsnProtocol.Lib.ByteReader

/-!
The encryption of blinding deltas by the SDK: the scan key of a master seed, the encryption
of a delta under it, and the decryption by its owner.
-/

namespace TsnProtocol.Sdk.DeltaCipher

open Bn254.Field
open Bn254.Scalar
open Circomlib.BabyJub
open Gpru.Verifier (asciiBytes)
open Lib.ByteReader
open Lib.Checked
open Solana.Address

inductive CipherError where
  | masterSeedTooShort | deltaOrSecretOutOfField | notACanonicalPoint
  deriving DecidableEq

/-- The loop of `multiply`; the first argument bounds the bits of the scalar. -/
def multiplyFrom : Nat → Nat → Coordinates → Coordinates → Coordinates
  | 0, _, _, result => result
  | bound + 1, scalar, base, result =>
      if scalar = 0 then result
      else multiplyFrom bound (scalar / 2) (addCoordinates base base)
        (if scalar % 2 = 1 then addCoordinates result base else result)

def multiply (point : Coordinates) (scalar : Nat) : Coordinates :=
  multiplyFrom scalar.size scalar point (0, 1)

/-- `assertPoint`: canonical coordinates of a point on the curve. -/
def isCanonicalPoint (x y : Nat) : Bool :=
  x < bn254ScalarOrder && y < bn254ScalarOrder &&
    decide (babyJubA * x * x + y * y - 1 - babyJubD * x * x * y * y = (0 : Fr))

structure ScanKey where
  secret : Nat
  publicKey : Coordinates
  deriving DecidableEq

/-- The scan scalar of a master seed and its public point. -/
def deriveGpruBalanceScanKeyV1 (sha256 : List Byte → Bytes32) (masterSeed : List Byte) :
    Except CipherError ScanKey := do
  require (32 ≤ masterSeed.length) .masterSeedTooShort
  let digest := sha256 (asciiBytes "TSN_GPRU_BALANCE_SCAN_KEY_V1\x00" ++ masterSeed)
  let reduced := leValue (wordBytes digest) % babyJubSuborder
  let secret := if reduced = 0 then 1 else reduced
  return ⟨secret, multiply (coordinates balanceG) secret⟩

inductive EncryptionError where
  | deltaOutOfField | notACanonicalPoint | ephemeralScalarOutOfField
  deriving DecidableEq

structure DeltaCiphertext where
  encryptedDelta : Nat
  ephemeralPublicKey : Coordinates
  ephemeralScalar : Nat
  deriving DecidableEq

/-- `random` stands for the 32 bytes drawn when no ephemeral scalar is given. -/
def encryptBalanceBlindingDeltaV1 (delta scanX scanY : Nat) (ephemeralScalar : Option Nat)
    (random : List Byte) : Except EncryptionError DeltaCiphertext := do
  require (0 < delta ∧ delta < babyJubSuborder) .deltaOutOfField
  require (isCanonicalPoint scanX scanY = true) .notACanonicalPoint
  let drawn := ephemeralScalar.getD (leValue random % babyJubSuborder)
  let scalar := if drawn = 0 then 1 else drawn
  require (scalar < babyJubSuborder) .ephemeralScalarOutOfField
  let shared := multiply (scanX, scanY) scalar
  return {
    encryptedDelta := (delta + shared.1.val) % babyJubSuborder
    ephemeralPublicKey := multiply (coordinates balanceG) scalar
    ephemeralScalar := scalar }

def decryptBalanceBlindingDeltaV1 (encryptedDelta ephemeralX ephemeralY scanSecret : Nat) :
    Except CipherError Nat := do
  require (encryptedDelta < babyJubSuborder ∧ 0 < scanSecret ∧ scanSecret < babyJubSuborder)
    .deltaOrSecretOutOfField
  require (isCanonicalPoint ephemeralX ephemeralY = true) .notACanonicalPoint
  let shared := multiply (ephemeralX, ephemeralY) scanSecret
  return (((encryptedDelta : Int) - shared.1.val) % babyJubSuborder).toNat

theorem multiplyFrom_coordinates {bound scalar : Nat} (hscalar : scalar < 2 ^ bound)
    (base result : BabyPoint) :
    multiplyFrom bound scalar (coordinates base) (coordinates result) =
      coordinates (result + scalar • base) := by
  induction bound generalizing scalar base result with
  | zero =>
      obtain rfl : scalar = 0 := by simpa using hscalar
      simp [multiplyFrom]
  | succ bound ih =>
      rw [multiplyFrom]
      split
      · rename_i hzero
        rw [hzero, zero_nsmul, add_zero]
      · have hhalf : scalar / 2 < 2 ^ bound := by
          rw [pow_succ] at hscalar
          omega
        have hsplit : (scalar / 2) • (base + base) + (scalar % 2) • base = scalar • base := by
          rw [← two_nsmul, ← mul_nsmul', ← add_nsmul]
          congr 1
          omega
        rw [addCoordinates_coordinates]
        rcases Nat.mod_two_eq_zero_or_one scalar with hbit | hbit
        · rw [hbit, zero_nsmul, add_zero] at hsplit
          rw [if_neg (by omega), ih hhalf, hsplit]
        · rw [hbit, one_nsmul] at hsplit
          rw [if_pos hbit, addCoordinates_coordinates, ih hhalf, ← hsplit]
          congr 1
          abel

/-- Double-and-add computes multiples. -/
theorem multiply_coordinates (point : BabyPoint) (scalar : Nat) :
    multiply (coordinates point) scalar = coordinates (scalar • point) := by
  have hmultiple := multiplyFrom_coordinates (Nat.lt_size_self scalar) point 0
  rwa [zero_add] at hmultiple

theorem lt_suborder_of_decrypt {encryptedDelta ephemeralX ephemeralY scanSecret delta : Nat}
    (hdecrypt : decryptBalanceBlindingDeltaV1 encryptedDelta ephemeralX ephemeralY scanSecret =
      .ok delta) : delta < babyJubSuborder := by
  simp only [decryptBalanceBlindingDeltaV1, bind_eq_ok, require_eq_ok, pure_eq_ok] at hdecrypt
  obtain ⟨_, _, _, _, rfl⟩ := hdecrypt
  have hpos : (0 : Int) < babyJubSuborder := by decide
  rw [Int.toNat_lt (Int.emod_nonneg _ hpos.ne')]
  exact Int.emod_lt_of_pos _ hpos

end TsnProtocol.Sdk.DeltaCipher
