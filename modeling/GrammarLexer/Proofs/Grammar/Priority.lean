import GrammarLexer.Grammar.Priority
import Mathlib.Algebra.Group.Nat.Defs
import Mathlib.Order.Monotone.Basic

/-!
# The numbers that priorities stand for

Every number of the format but the infinite ones is a whole multiple of the least that is above
zero, so `Priority.value` counts in that unit. The infinite ones are given the power of two that
would come next, and compare with the others as they should.

The bits are compared as integers, without being taken apart: `atLeast_iff` says that this is the
order of the numbers.
-/

namespace GrammarLexer.Priority

/-- The size of a number from its bits but for the sign: eight bits of exponent, and the binary
digits after a leading one, which is left out at all exponents but the lowest. -/
def scale (magnitude : Nat) : Nat :=
  let exponent := magnitude / 2 ^ 23
  let fraction := magnitude % 2 ^ 23
  if exponent = 0 then fraction else (2 ^ 23 + fraction) * 2 ^ (exponent - 1)

/-- The number, as a multiple of the least above zero. -/
def value (priority : Priority) : Int :=
  if priority.bits.toNat < 2 ^ 31 then scale priority.magnitude else -scale priority.magnitude

/-- True if both are numbers and the first is the greater. -/
def Exceeds (left right : Priority) : Prop :=
  left.isNaN = false ∧ right.isNaN = false ∧ right.value < left.value

/-- True if both are numbers and the same. The two zeros are. -/
def Equals (left right : Priority) : Prop :=
  left.isNaN = false ∧ right.isNaN = false ∧ left.value = right.value

instance (left right : Priority) : Decidable (left.Exceeds right) :=
  inferInstanceAs (Decidable (_ ∧ _))

instance (left right : Priority) : Decidable (left.Equals right) :=
  inferInstanceAs (Decidable (_ ∧ _))

/-- Counted up by one, the bits stand for a greater number, also where the digits overflow into
the exponent. -/
theorem scale_lt_succ (magnitude : Nat) : scale magnitude < scale (magnitude + 1) := by
  by_cases carry : magnitude % 2 ^ 23 + 1 = 2 ^ 23
  · have exponent : (magnitude + 1) / 2 ^ 23 = magnitude / 2 ^ 23 + 1 := by omega
    have fraction : (magnitude + 1) % 2 ^ 23 = 0 := by omega
    simp only [scale, exponent, fraction, Nat.add_sub_cancel]
    rw [if_neg (Nat.succ_ne_zero _), Nat.add_zero]
    split
    · rename_i lowest
      rw [lowest]
      omega
    · rename_i higher
      obtain ⟨lower, same⟩ := Nat.exists_eq_succ_of_ne_zero higher
      have positive := Nat.two_pow_pos lower
      rw [same, Nat.succ_sub_one, Nat.pow_succ 2 lower]
      calc (2 ^ 23 + magnitude % 2 ^ 23) * 2 ^ lower
          < (2 ^ 23 * 2) * 2 ^ lower := Nat.mul_lt_mul_of_pos_right (by omega) positive
        _ = 2 ^ 23 * (2 ^ lower * 2) := by rw [Nat.mul_assoc, Nat.mul_comm 2]
  · have exponent : (magnitude + 1) / 2 ^ 23 = magnitude / 2 ^ 23 := by omega
    have fraction : (magnitude + 1) % 2 ^ 23 = magnitude % 2 ^ 23 + 1 := by omega
    simp only [scale, exponent, fraction]
    split
    · exact Nat.lt_succ_self _
    · exact Nat.mul_lt_mul_of_pos_right (by omega) (Nat.two_pow_pos _)

/-- Greater bits stand for greater numbers. -/
theorem scale_strictMono : StrictMono scale := strictMono_nat_of_lt_succ scale_lt_succ

/-- The integers by which numbers are compared have the order of the numbers. -/
theorem key_le_key {left right : Priority} : right.key ≤ left.key ↔ right.value ≤ left.value := by
  have ordered := scale_strictMono.le_iff_le (a := right.magnitude) (b := left.magnitude)
  have reversed := scale_strictMono.le_iff_le (a := left.magnitude) (b := right.magnitude)
  have zero (magnitude : Nat) : scale magnitude ≤ 0 ↔ magnitude ≤ 0 :=
    scale_strictMono.le_iff_le (b := 0)
  have zeroLeft := zero left.magnitude
  have zeroRight := zero right.magnitude
  unfold key value
  split <;> split <;> omega

/-- **Comparison.** It is that of the numbers, and fails for what is no number. -/
theorem atLeast_iff {left right : Priority} :
    left.atLeast right = true ↔
      left.isNaN = false ∧ right.isNaN = false ∧ right.value ≤ left.value := by
  simp only [atLeast, Bool.and_eq_true, Bool.not_eq_true', decide_eq_true_eq, key_le_key, and_assoc]

/-- A priority that equals zero counts as one, and any other as it is. -/
theorem effective_eq (priority : Priority) :
    priority.effective = if priority.Equals .zero then .one else priority := by
  have unset : priority.Equals .zero ↔ priority.magnitude = 0 := by
    have zero := scale_strictMono.le_iff_le (a := priority.magnitude) (b := 0)
    have none : scale 0 = 0 := rfl
    have nothing : (Priority.zero).value = 0 := rfl
    have number : (Priority.zero).isNaN = false := rfl
    rw [Equals, nothing, number]
    simp only [isNaN, value, decide_eq_false_iff_not, true_and]
    split <;> omega
  simp only [effective, unset]

end GrammarLexer.Priority
