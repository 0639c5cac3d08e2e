import Mathlib.Data.EReal.Basic
import LaptopCatalogue.Number.Binary

/-!
# The numbers that doubles stand for

Doubles are compared by their bit patterns. Here is what a pattern stands for, and that comparing
patterns compares these numbers.

* `Binary64.value`: the number that a double stands for, with the infinities at both ends.
* `Binary64.lt_iff`: one double is below another if both are numbers and the first is less.
* `Binary64.not_lt_iff`: what it means not to be below, for which a NaN is enough.
* `Binary64.not_lt_of_atMost`: not to be below survives a better left and an easier right side.
-/

namespace LaptopCatalogue.Binary64

/-! ## What a pattern stands for -/

/-- The multiple of the least positive double that a magnitude stands for. A magnitude is an
exponent with 52 binary digits behind it. The first exponent counts in steps of the least double;
every other one has a leading digit that is not written, and steps twice as large as the one
before. -/
def multiple (magnitude : ℕ) : ℕ :=
  let exponent := magnitude / 2 ^ 52
  let digits := magnitude % 2 ^ 52
  if exponent = 0 then digits else (2 ^ 52 + digits) * 2 ^ (exponent - 1)

/-- The multiple of the least positive double that a finite double stands for. -/
def signedMultiple (x : Binary64) : ℤ :=
  if x.isNegative then -(multiple x.magnitude : ℤ) else multiple x.magnitude

/-- The number that a double stands for. That of a NaN means nothing. -/
noncomputable def value (x : Binary64) : EReal :=
  if x.magnitude = infinity then if x.isNegative then ⊥ else ⊤
  else ((x.signedMultiple / 2 ^ 1074 : ℝ) : EReal)

/-! ## Larger patterns stand for larger numbers -/

theorem multiple_zero : multiple 0 = 0 := rfl

/-- From one magnitude to the next either the digits go up by one, or they start again behind the
next exponent. -/
theorem multiple_lt_succ (m : ℕ) : multiple m < multiple (m + 1) := by
  by_cases hcarry : m % 2 ^ 52 + 1 < 2 ^ 52
  · have hexponent : (m + 1) / 2 ^ 52 = m / 2 ^ 52 := by omega
    have hdigits : (m + 1) % 2 ^ 52 = m % 2 ^ 52 + 1 := by omega
    simp only [multiple, hexponent, hdigits]
    split
    · exact Nat.lt_succ_self _
    · exact Nat.mul_lt_mul_of_pos_right (by omega) (Nat.two_pow_pos _)
  · have hexponent : (m + 1) / 2 ^ 52 = m / 2 ^ 52 + 1 := by omega
    have hdigits : (m + 1) % 2 ^ 52 = 0 := by omega
    simp only [multiple, hexponent, hdigits]
    rw [if_neg (Nat.succ_ne_zero _), Nat.add_sub_cancel, Nat.add_zero]
    split
    · rename_i hfirst
      rw [hfirst, Nat.pow_zero, Nat.mul_one]
      exact Nat.mod_lt _ (Nat.two_pow_pos _)
    · rename_i hlater
      have hstep : 2 ^ (m / 2 ^ 52) = 2 * 2 ^ (m / 2 ^ 52 - 1) := by
        rw [← Nat.pow_succ', Nat.succ_eq_add_one, Nat.sub_add_cancel (Nat.pos_of_ne_zero hlater)]
      rw [hstep, ← Nat.mul_assoc]
      exact Nat.mul_lt_mul_of_pos_right (by omega) (Nat.two_pow_pos _)

theorem strictMono_multiple : StrictMono multiple := strictMono_nat_of_lt_succ multiple_lt_succ

/-- The two zeros are the only patterns where the sign does not matter. -/
theorem signedMultiple_lt_iff (x y : Binary64) :
    x.signedMultiple < y.signedMultiple ↔ x.rank < y.rank := by
  have hlt := strictMono_multiple.lt_iff_lt (a := x.magnitude) (b := y.magnitude)
  have hgt := strictMono_multiple.lt_iff_lt (a := y.magnitude) (b := x.magnitude)
  have hx := strictMono_multiple.lt_iff_lt (a := 0) (b := x.magnitude)
  have hy := strictMono_multiple.lt_iff_lt (a := 0) (b := y.magnitude)
  rw [multiple_zero] at hx hy
  unfold signedMultiple rank
  cases x.isNegative <;> cases y.isNegative <;> simp <;> omega

section

variable {x y : Binary64}

theorem magnitude_le_infinity (h : ¬x.isNaN) : x.magnitude ≤ infinity := by
  simpa [isNaN] using h

/-- Among numbers the order of patterns is the order of what they stand for. -/
theorem value_lt_iff (hx : ¬x.isNaN) (hy : ¬y.isNaN) : x.value < y.value ↔ x.rank < y.rank := by
  have hxle := magnitude_le_infinity hx
  have hyle := magnitude_le_infinity hy
  have hpositive : (0 : ℝ) < 2 ^ 1074 := by positivity
  by_cases hxinf : x.magnitude = infinity <;> by_cases hyinf : y.magnitude = infinity
  · unfold value rank
    cases x.isNegative <;> cases y.isNegative <;> simp [hxinf, hyinf, infinity]
  · have hylt : y.magnitude < infinity := lt_of_le_of_ne hyle hyinf
    unfold value rank
    cases x.isNegative <;> cases y.isNegative <;> simp [hxinf, hyinf] <;> omega
  · have hxlt : x.magnitude < infinity := lt_of_le_of_ne hxle hxinf
    unfold value rank
    cases x.isNegative <;> cases y.isNegative <;> simp [hxinf, hyinf] <;> omega
  · rw [← signedMultiple_lt_iff]
    unfold value
    rw [if_neg hxinf, if_neg hyinf, EReal.coe_lt_coe_iff, div_lt_div_iff_of_pos_right hpositive,
      Int.cast_lt]

end

/-! ## Comparisons -/

/-- One double is at most another: both are numbers, and the first is not greater. -/
def AtMost (x y : Binary64) : Prop := ¬x.isNaN ∧ ¬y.isNaN ∧ x.value ≤ y.value

/-- One double is below another if both are numbers and the first stands for less. -/
theorem lt_iff (x y : Binary64) : x.lt y ↔ ¬x.isNaN ∧ ¬y.isNaN ∧ x.value < y.value := by
  simp only [lt, Bool.and_eq_true, Bool.not_eq_true', Bool.eq_false_iff, decide_eq_true_eq,
    and_assoc]
  constructor
  · rintro ⟨hx, hy, hrank⟩
    exact ⟨hx, hy, (value_lt_iff hx hy).mpr hrank⟩
  · rintro ⟨hx, hy, hvalue⟩
    exact ⟨hx, hy, (value_lt_iff hx hy).mp hvalue⟩

/-- Not to be below is more than to be at least: it also holds where one side is no number. -/
theorem not_lt_iff (x y : Binary64) : ¬x.lt y ↔ x.isNaN ∨ y.isNaN ∨ y.AtMost x := by
  rw [lt_iff]
  unfold AtMost
  constructor
  · intro h
    by_cases hx : x.isNaN
    · exact .inl hx
    by_cases hy : y.isNaN
    · exact .inr (.inl hy)
    · exact .inr (.inr ⟨hy, hx, not_lt.mp fun hvalue => h ⟨hx, hy, hvalue⟩⟩)
  · rintro (hx | hy | ⟨_, _, hvalue⟩) ⟨hx', hy', hlt⟩
    · exact hx' hx
    · exact hy' hy
    · exact not_lt.mpr hvalue hlt

theorem AtMost.trans {x y z : Binary64} (hxy : x.AtMost y) (hyz : y.AtMost z) : x.AtMost z :=
  ⟨hxy.1, hyz.2.1, hxy.2.2.trans hyz.2.2⟩

theorem isNaN_or_atMost_self (x : Binary64) : x.isNaN ∨ x.AtMost x := by
  by_cases hx : x.isNaN
  · exact .inl hx
  · exact .inr ⟨hx, hx, le_rfl⟩

/-- Comparing numbers is comparing patterns, so it can be computed. -/
theorem atMost_iff (x y : Binary64) : x.AtMost y ↔ ¬x.isNaN ∧ ¬y.isNaN ∧ x.rank ≤ y.rank := by
  unfold AtMost
  constructor
  · rintro ⟨hx, hy, hvalue⟩
    exact ⟨hx, hy, not_lt.mp fun hrank => not_lt.mpr hvalue ((value_lt_iff hy hx).mpr hrank)⟩
  · rintro ⟨hx, hy, hrank⟩
    exact ⟨hx, hy, not_lt.mp fun hvalue => not_lt.mpr hrank ((value_lt_iff hy hx).mp hvalue)⟩

instance (x y : Binary64) : Decidable (x.AtMost y) := decidable_of_iff' _ (atMost_iff x y)

/-- What is not below a bound stays so when it goes up and the bound goes down. A NaN on either side
is as good. -/
theorem not_lt_of_atMost {x x' y y' : Binary64} (h : ¬x.lt y) (hx : x'.isNaN ∨ x.AtMost x')
    (hy : y'.isNaN ∨ y'.AtMost y) : ¬x'.lt y' := by
  rw [not_lt_iff] at h ⊢
  rcases hx with hx | hx
  · exact .inl hx
  rcases hy with hy | hy
  · exact .inr (.inl hy)
  -- both comparisons were between numbers, so the old one was too
  rcases h with hnan | hnan | hle
  · exact absurd hnan hx.1
  · exact absurd hnan hy.2.1
  · exact .inr (.inr ((hy.trans hle).trans hx))

end LaptopCatalogue.Binary64
