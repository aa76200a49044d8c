import Mathlib
import NodeProbe.Proofs.Decimal.Nearest

/-!
# Doubles and their bits

The doubles of the language are given by their bits. A finite double has packed bits
(`exists_isPacked_of_finite`), and a double is the one nearest to a quotient if it has the bits of
the nearest one (`nearest_eq_of_toBits`). That a double is what its bits say is known with the whole
of the library alone, so this module imports all of it.
-/

namespace NodeProbe.Decimal

/-- Every finite double is packed. -/
theorem exists_isPacked_of_finite {bits : Nat} {negative : Bool} {m : Nat} {q : Int}
    (hbits : bits < 2 ^ 64) (h : Binary.ofBits bits = .finite negative m q) :
    ∃ k : Nat, IsPacked k m ∧ q = leastExponent + k ∧
      bits = k * 2 ^ 52 + m + if negative then 2 ^ 63 else 0 := by
  obtain ⟨low, sign, hlow, hsplit⟩ : ∃ (low : Nat) (sign : Bool), low < 2 ^ 63 ∧
      bits = low + if sign then 2 ^ 63 else 0 := by
    rcases Nat.lt_or_ge bits (2 ^ 63) with hsmall | hlarge
    · exact ⟨bits, false, hsmall, rfl⟩
    · refine ⟨bits - 2 ^ 63, true, by omega, ?_⟩
      rw [if_pos rfl]
      omega
  rcases Nat.lt_or_ge low infiniteBits with hfinite | hinfinite
  · obtain ⟨k, m', hpacked, rfl⟩ := exists_isPacked hfinite
    rw [hsplit, ofBits_packed hpacked sign] at h
    obtain ⟨rfl, rfl, rfl⟩ := Binary.finite.inj h
    exact ⟨k, hpacked, rfl, hsplit⟩
  · -- All bits of the exponent are set, so the double is not finite.
    unfold infiniteBits at hinfinite
    have hfield : bits / power 2 52 % power 2 11 = power 2 11 - 1 := by
      simp only [power_eq]
      rw [hsplit]
      split <;> omega
    unfold Binary.ofBits at h
    simp only at h
    rw [if_pos hfield] at h
    split at h <;> cases h

theorem nearest_eq_of_toBits {x : Float} {negative : Bool} {num den : Nat}
    (h : x.toBits.toNat = nearestBits num den + if negative then power 2 63 else 0) :
    nearest negative num den = x := by
  rw [nearest, ← h, UInt64.ofNat_toNat, Float.ofBits_toBits]

end NodeProbe.Decimal
