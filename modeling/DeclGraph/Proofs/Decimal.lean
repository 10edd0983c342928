import Mathlib.Tactic.Ring
import DeclGraph.Decimal.Shortest

/-!
Decimals of double-precision numbers: the number nearest to a decimal does not depend on how the
decimal is written, and the decimal that a number is written as is zero for zero only.
-/

namespace DeclGraph

theorem roundDiv_mul_left {k : Nat} (hk : 0 < k) (num den : Nat) :
    roundDiv (k * num) (k * den) = roundDiv num den := by
  have htwice : 2 * (k * (num % den)) = k * (2 * (num % den)) := Nat.mul_left_comm 2 k _
  have hlt : k * (2 * (num % den)) < k * den ↔ 2 * (num % den) < den := Nat.mul_lt_mul_left hk
  have heq : k * (2 * (num % den)) = k * den ↔ 2 * (num % den) = den := Nat.mul_right_inj hk.ne'
  unfold roundDiv
  rw [Nat.mul_div_mul_left _ _ hk, Nat.mul_mod_mul_left, htwice]
  simp only [hlt, heq]

theorem toDigits_mul_pow {n : Nat} (hn : 0 < n) (k : Nat) :
    Nat.toDigits 10 (n * 10 ^ k) = Nat.toDigits 10 n ++ List.replicate k '0' := by
  induction k with
  | zero => simp
  | succ k ih =>
      have hpos : 0 < n * 10 ^ k := Nat.mul_pos hn (Nat.pow_pos (by decide))
      have hnext : n * 10 ^ (k + 1) = 10 * (n * 10 ^ k) + 0 := by
        rw [Nat.pow_succ]
        ring
      rw [hnext, ← Nat.toDigits_append_toDigits (by decide) hpos (by decide), ih,
        Nat.toDigits_zero, List.append_assoc, List.replicate_succ']

theorem length_toString (n : Nat) : (toString n).length = (Nat.toDigits 10 n).length := by
  rw [Nat.toString_eq_ofList_toDigits, String.length_ofList]

namespace Binary64

theorem ofRatio_mul_left {k : Nat} (hk : 0 < k) (negative : Bool) (num den : Nat) :
    ofRatio negative (k * num) (k * den) = ofRatio negative num den := by
  unfold ofRatio
  simp only [Nat.mul_assoc, Nat.mul_div_mul_left _ _ hk, roundDiv_mul_left hk]

/-- A decimal as a fraction, rounded. -/
theorem ofRatio_shift (negative : Bool) (digits k : Nat) (exponent : Int) :
    (if 0 ≤ exponent then ofRatio negative (digits * 10 ^ k * 10 ^ exponent.toNat) 1
      else ofRatio negative (digits * 10 ^ k) (10 ^ (-exponent).toNat)) =
    if 0 ≤ exponent + k then ofRatio negative (digits * 10 ^ (exponent + k).toNat) 1
      else ofRatio negative digits (10 ^ (-(exponent + k)).toNat) := by
  by_cases hexponent : 0 ≤ exponent
  · have hsum : (exponent + k).toNat = k + exponent.toNat := by omega
    rw [if_pos hexponent, if_pos (by omega), hsum, Nat.pow_add, Nat.mul_assoc]
  · rw [if_neg hexponent]
    by_cases hshifted : 0 ≤ exponent + k
    · have hk : k = (-exponent).toNat + (exponent + k).toNat := by omega
      have hnum : digits * 10 ^ k =
          10 ^ (-exponent).toNat * (digits * 10 ^ (exponent + k).toNat) := by
        rw [Nat.mul_left_comm, ← Nat.pow_add, ← hk]
      have hpos : 0 < 10 ^ (-exponent).toNat := Nat.pow_pos (by decide)
      have hscale := ofRatio_mul_left hpos negative (digits * 10 ^ (exponent + k).toNat) 1
      rw [if_pos hshifted, hnum, ← hscale, Nat.mul_one]
    · have hk : (-exponent).toNat = k + (-(exponent + k)).toNat := by omega
      rw [if_neg hshifted, hk, Nat.pow_add, Nat.mul_comm digits,
        ofRatio_mul_left (Nat.pow_pos (by decide))]

/-- Zeros at the end of the digits count for the exponent. -/
theorem ofDecimal_mul_pow {digits : Nat} (hdigits : 0 < digits) (negative : Bool) (k : Nat)
    (exponent : Int) :
    ofDecimal negative (digits * 10 ^ k) exponent = ofDecimal negative digits (exponent + k) := by
  have hlength : (toString (digits * 10 ^ k)).length = (toString digits).length + k := by
    rw [length_toString, length_toString, toDigits_mul_pow hdigits, List.length_append,
      List.length_replicate]
  have hsize : exponent + ((toString digits).length + k : Nat) =
      exponent + k + (toString digits).length := by
    omega
  have hzero : digits * 10 ^ k ≠ 0 := (Nat.mul_pos hdigits (Nat.pow_pos (by decide))).ne'
  have hshift := ofRatio_shift negative digits k exponent
  unfold ofDecimal
  simp only [hlength, hsize, hzero, hdigits.ne', false_or]
  split
  · rfl
  · split
    · rfl
    · exact hshift

/-! The decimal of a number -/

theorem spacing_le {units : Nat} (h : 0 < units) : spacing units ≤ units := by
  calc
    spacing units = 2 ^ (Nat.log2 units - 52) := rfl
    _ ≤ 2 ^ Nat.log2 units := Nat.pow_le_pow_right (by decide) (Nat.sub_le _ _)
    _ ≤ units := Nat.log2_self_le h.ne'

theorem low_roundingInterval_pos {units : Nat} (h : 0 < units) :
    0 < (roundingInterval units).low := by
  have hspacing := spacing_le h
  rw [roundingInterval]
  dsimp only
  split <;> omega

theorem digits_pos_of_contains {interval : RoundingInterval} (hlow : 0 < interval.low) {d : Decimal}
    (h : interval.contains d = true) : 0 < d.digits := by
  by_contra hzero
  have hdigits : d.digits = 0 := by omega
  have hscaled : 0 < interval.low * 10 ^ (-d.exponent).toNat :=
    Nat.mul_pos hlow (Nat.pow_pos (by decide))
  have hlow' : 0 < interval.low * Nat.pow 10 (-d.exponent).toNat := hscaled
  unfold RoundingInterval.contains commonScale at h
  simp only [hdigits, Nat.zero_mul] at h
  split at h
  · rw [Bool.and_eq_true, decide_eq_true_iff] at h
    omega
  · rw [Bool.and_eq_true, decide_eq_true_iff] at h
    omega

theorem digits_pos_of_nearestWithin {units : Nat} (h : 0 < units) {exponent : Int} {d : Decimal}
    (hd : nearestWithin units exponent = some d) : 0 < d.digits := by
  have hlow := low_roundingInterval_pos h
  have hcontains : (roundingInterval units).contains d = true := by
    simp only [nearestWithin, ite_eq_iff, Option.some.injEq] at hd
    rcases hd with ⟨hin, rfl⟩ | ⟨-, ⟨hin, rfl⟩ | ⟨-, ⟨hin, rfl⟩ | ⟨-, hnone⟩⟩⟩
    · exact hin
    · exact hin
    · exact hin
    · cases hnone
  exact digits_pos_of_contains hlow hcontains

theorem digits_shortest_pos {units : Nat} (h : 0 < units) : 0 < (shortest units).digits := by
  rw [shortest]
  cases hfound : (List.range 17).findSome? fun (i : Nat) =>
      nearestWithin units (magnitude units - (i + 1)) with
  | none => exact h
  | some d =>
      obtain ⟨i, -, hd⟩ := List.exists_of_findSome?_eq_some hfound
      exact digits_pos_of_nearestWithin h hd

/-- A number as it is read back: the one nearest to the decimal that it is written as. -/
def reread : Binary64 → Binary64
  | finite negative units =>
    if units = 0 then finite negative 0
    else ofDecimal negative (shortest units).digits (shortest units).exponent
  | x => x

end Binary64

end DeclGraph
