import SentimentTree.Proofs.Numeric.UnitInterval

/-! # Sums that start from zero

Two numbers that are equal can still be told apart: zero has two signs. A sum that starts from zero
and takes numbers that are not negative never becomes the negative zero, and any other number makes
the same sum with numbers that are equal. So such a sum does not depend on the signs of zeros.
-/

namespace SentimentTree.Numeric

open Float.Model Float.Model.UnpackedFloat

variable {x y z : Float} {p q : ℚ}

/-- A number that is not negative and not the negative zero, as are the sums of such numbers. -/
def Accumulated (x : Float) : Prop := 0.0 ≤ x ∧ x.toModel.unpack ≠ .zero .negative

theorem accumulated_zero : Accumulated 0.0 := ⟨le_refl rfl, nofun⟩

/-- What compares as equal is the same or two zeros. -/
private theorem eq_or_zeros_of_compare {u v : UnpackedFloat} (compared : u.compare v = some .eq) :
    u = v ∨ ∃ s t, u = .zero s ∧ v = .zero t := by
  rcases u with ⟨_ | _⟩ | _ | s | ⟨_ | _, m, e, positive⟩ <;>
    rcases v with ⟨_ | _⟩ | _ | t | ⟨_ | _, n, f, positive'⟩ <;>
    simp_all [UnpackedFloat.compare, Ordering.then_eq_eq]

/-- Equal numbers added to the same sum give the same sum, unless it is the negative zero. -/
theorem add_congr (regular : x.toModel.unpack ≠ .zero .negative) (same : (y == z) = true) :
    x + y = x + z := by
  obtain ⟨a, left, right⟩ := (beq_iff_extents y z).mp same
  have compared : y.toModel.unpack.compare z.toModel.unpack = some .eq := by
    rw [compare_toModel, left, right]
    exact congrArg some Std.compare_self
  have sums : UnpackedFloat.add Format.binary64 x.toModel.unpack y.toModel.unpack =
      UnpackedFloat.add Format.binary64 x.toModel.unpack z.toModel.unpack := by
    rcases eq_or_zeros_of_compare compared with equal | ⟨s, t, first, second⟩
    · rw [equal]
    · rw [first, second]
      generalize x.toModel.unpack = u at regular ⊢
      rcases u with ⟨_ | _⟩ | _ | ⟨_ | _⟩ | ⟨r, m, e, positive⟩
      case zero.negative => exact (regular rfl).elim
      case zero.positive => cases s <;> cases t <;> rfl
      all_goals rfl
  exact congrArg (fun sum => Float.ofModel (.pack sum)) sums

private theorem HasValue.of_zero {s : Sign} (zero : x.toModel.unpack = .zero s) : HasValue x 0 :=
  congrArg extentOf? zero

private theorem HasValue.exists_zero (value : HasValue x 0) : ∃ s, x.toModel.unpack = .zero s := by
  rcases value.zero_or_finite with ⟨s, zero, _⟩ | ⟨s, m, e, positive, _, _, signed⟩
  · exact ⟨s, zero⟩
  · have magnitude : (0 : ℚ) < m * 2 ^ e := by positivity
    cases s with
    | positive => exact (magnitude.ne signed).elim
    | negative => exact (magnitude.ne (neg_eq_zero.mp signed.symm).symm).elim

/-- A sum of numbers that are not negative vanishes only if they do, however it is rounded: it is at
least as large as each of them. -/
private theorem HasValue.parts_eq_zero (left : HasValue x p) (right : HasValue y q)
    (p_nonneg : 0 ≤ p) (q_nonneg : 0 ≤ q) (total : HasValue (x + y) 0) : p = 0 ∧ q = 0 := by
  have rounded := left.add right
  have first := (left.le_iff total).mp ((rounded _ _ left).1 (by linarith))
  have second := (right.le_iff total).mp ((rounded _ _ right).1 (by linarith))
  exact ⟨first.antisymm p_nonneg, second.antisymm q_nonneg⟩

theorem Accumulated.add (sum : Accumulated x) (nonneg : 0.0 ≤ y) : Accumulated (x + y) := by
  refine ⟨add_nonneg sum.1 nonneg, fun vanishing => ?_⟩
  rcases infinite_or_value_of_nonneg sum.1 with infinite | ⟨p, left, p_nonneg⟩
  · rw [add_infinite sum.1 nonneg (.inl infinite)] at vanishing
    cases vanishing
  · rcases infinite_or_value_of_nonneg nonneg with infinite | ⟨q, right, q_nonneg⟩
    · rw [add_infinite sum.1 nonneg (.inr infinite)] at vanishing
      cases vanishing
    · obtain ⟨rfl, rfl⟩ := left.parts_eq_zero right p_nonneg q_nonneg (.of_zero vanishing)
      obtain ⟨s, first⟩ := left.exists_zero
      obtain ⟨t, second⟩ := right.exists_zero
      have unfolded : (x + y).toModel =
          .pack (UnpackedFloat.add Format.binary64 x.toModel.unpack y.toModel.unpack) := rfl
      rw [unfolded, first, second] at vanishing
      cases s with
      | negative => exact sum.2 first
      | positive => cases t <;> cases vanishing

end SentimentTree.Numeric
