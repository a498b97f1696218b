import Mathlib

/-!
Primality of large numbers from the prime factors of their predecessor.
-/

namespace TsnProtocol.Lib.Lucas

/-- Lucas's test with the prime factors of `p - 1` given as a list, each of them
occurring in `p - 1` at most `exponent` times. -/
theorem prime_of_lucas {p : Nat} (generator : ZMod p) (factors : List Nat) (exponent : Nat)
    (hprimes : factors.Forall Nat.Prime) (hfactors : p - 1 ∣ factors.prod ^ exponent)
    (hone : generator ^ (p - 1) = 1)
    (hne : factors.Forall fun factor => generator ^ ((p - 1) / factor) ≠ 1) :
    p.Prime := by
  rw [List.forall_iff_forall_mem] at hprimes hne
  refine lucas_primality p generator hone fun divisor hprime hdivides => ?_
  have hproduct : divisor ∣ factors.prod :=
    hprime.dvd_of_dvd_pow (hdivides.trans hfactors)
  obtain ⟨factor, hfactor, hdivides⟩ := hprime.prime.dvd_prod_iff.mp hproduct
  rw [(Nat.prime_dvd_prime_iff_eq hprime (hprimes factor hfactor)).mp hdivides]
  exact hne factor hfactor

end TsnProtocol.Lib.Lucas
