import SentimentTree.Numeric.Arithmetic
import SentimentTree.Proofs.Numeric.Operations

/-! # Bounds that arithmetic keeps

Sums of numbers that are not negative are not negative, even when they leave the finite range, and
their quotient by a positive number is defined. Moving a defined number into the unit interval puts
it there.
-/

namespace SentimentTree.Numeric

open Float.Model Float.Model.UnpackedFloat

variable {x y : Float} {q : ℚ}

theorem hasValue_zero : HasValue 0.0 0 := rfl

theorem hasValue_half : HasValue 0.5 (1 / 2) := by
  have stored : HasValue 0.5 (2 ^ 52 * 2 ^ (-53 : ℤ)) := rfl
  rwa [show (2 : ℚ) ^ 52 * 2 ^ (-53 : ℤ) = 1 / 2 by norm_num] at stored

theorem hasValue_one : HasValue 1.0 1 := by
  have stored : HasValue 1.0 (2 ^ 52 * 2 ^ (-52 : ℤ)) := rfl
  rwa [show (2 : ℚ) ^ 52 * 2 ^ (-52 : ℤ) = 1 by norm_num] at stored

theorem hasValue_two : HasValue 2.0 2 := by
  have stored : HasValue 2.0 (2 ^ 52 * 2 ^ (-51 : ℤ)) := rfl
  rwa [show (2 : ℚ) ^ 52 * 2 ^ (-51 : ℤ) = 2 by norm_num] at stored

/-! ## Numbers that are not negative -/

/-- A number that is not negative is infinite or has a value that is not negative. -/
theorem infinite_or_value_of_nonneg (nonneg : 0.0 ≤ x) :
    x.toModel.unpack = .infinity .positive ∨ ∃ p, HasValue x p ∧ 0 ≤ p := by
  obtain ⟨a, b, zero, extent, above⟩ := (le_iff_extents _ _).mp nonneg
  obtain rfl := Option.some.inj (zero.symm.trans hasValue_zero)
  rw [extent?] at extent
  rcases shape : x.toModel.unpack with ⟨_ | _⟩ | _ | s | ⟨s, m, e, positive⟩
  · rw [shape] at extent
    obtain rfl := Option.some.inj extent
    simp at above
  · exact .inl rfl
  · rw [shape] at extent
    exact (Option.noConfusion rfl (heq_of_eq extent))
  all_goals
    have value : HasValue x _ := congrArg extentOf? shape
    exact .inr ⟨_, value, (hasValue_zero.le_iff value).mp nonneg⟩

private theorem nonneg_of_infinite (infinite : x.toModel.unpack = .infinity .positive) : 0.0 ≤ x :=
  (le_iff_extents _ _).mpr ⟨_, ⊤, hasValue_zero, congrArg extentOf? infinite, le_top⟩

private theorem unpack_pack_infinity (s : Sign) :
    (Float.Model.pack (.infinity s)).unpack = .infinity s := by
  cases s <;> rfl

/-- A sum of numbers that are not negative is infinite if one of them is. -/
theorem add_infinite (left : 0.0 ≤ x) (right : 0.0 ≤ y)
    (infinite : x.toModel.unpack = .infinity .positive ∨
      y.toModel.unpack = .infinity .positive) :
    (x + y).toModel.unpack = .infinity .positive := by
  have unfolded : (x + y).toModel =
      .pack (UnpackedFloat.add Format.binary64 x.toModel.unpack y.toModel.unpack) := rfl
  have shape : ∀ {z : Float}, 0.0 ≤ z → z.toModel.unpack = .infinity .positive ∨
      (∃ s, z.toModel.unpack = .zero s) ∨ ∃ s m e positive,
        z.toModel.unpack = .finite s m e positive := by
    intro z nonneg
    rcases infinite_or_value_of_nonneg nonneg with infinite | ⟨p, value, _⟩
    · exact .inl infinite
    · rcases value.zero_or_finite with ⟨s, zero, _⟩ | ⟨s, m, e, positive, finite, _⟩
      · exact .inr (.inl ⟨s, zero⟩)
      · exact .inr (.inr ⟨s, m, e, positive, finite⟩)
  rcases infinite with infinite | infinite
  · rcases shape right with other | ⟨s, other⟩ | ⟨s, m, e, _, other⟩ <;>
      rw [unfolded, infinite, other, UnpackedFloat.add] <;> simp [unpack_pack_infinity]
  · rcases shape left with other | ⟨s, other⟩ | ⟨s, m, e, _, other⟩ <;>
      rw [unfolded, infinite, other, UnpackedFloat.add] <;> simp [unpack_pack_infinity]

theorem add_nonneg (left : 0.0 ≤ x) (right : 0.0 ≤ y) : 0.0 ≤ x + y := by
  rcases infinite_or_value_of_nonneg left with infinite | ⟨p, first, p_nonneg⟩
  · exact nonneg_of_infinite (add_infinite left right (.inl infinite))
  · rcases infinite_or_value_of_nonneg right with infinite | ⟨q, second, q_nonneg⟩
    · exact nonneg_of_infinite (add_infinite left right (.inr infinite))
    · exact ((first.add second) _ _ hasValue_zero).1 (by linarith)

theorem foldl_add_nonneg {scores : List Float} (nonneg : ∀ score ∈ scores, 0.0 ≤ score)
    {start : Float} (start_nonneg : 0.0 ≤ start) : 0.0 ≤ scores.foldl (· + ·) start := by
  induction scores generalizing start with
  | nil => exact start_nonneg
  | cons score rest ih =>
    refine ih (fun other member => nonneg other (List.mem_cons_of_mem _ member)) ?_
    exact add_nonneg start_nonneg (nonneg score List.mem_cons_self)

theorem div_isNaN_eq_false (numerator : 0.0 ≤ x) (denominator : HasValue y q) (nonzero : q ≠ 0) :
    (x / y).isNaN = false := by
  rcases infinite_or_value_of_nonneg numerator with infinite | ⟨p, value, _⟩
  · have unfolded : (x / y).toModel =
        .pack (UnpackedFloat.div Format.binary64 x.toModel.unpack y.toModel.unpack) := rfl
    rcases denominator.zero_or_finite with ⟨_, _, rfl⟩ | ⟨s, m, e, _, shape, _⟩
    · exact (nonzero rfl).elim
    · change (x / y).toModel.unpack.isNaN = false
      rw [unfolded, infinite, shape, UnpackedFloat.div, unpack_pack_infinity]
      rfl
  · exact (value.div denominator nonzero).isNaN_eq_false

/-- A count of at least one becomes a number between one and `2 ^ 64`. -/
theorem exists_value_toFloat {count : UInt64} (positive : count ≠ 0) :
    ∃ v, HasValue count.toFloat v ∧ 1 ≤ v ∧ v ≤ 2 ^ 64 := by
  have one_le : 1 ≤ count.toNat := by
    have : count.toNat ≠ 0 := fun zero => positive (UInt64.toNat_inj.mp zero)
    omega
  have limit : HasValue (UInt64.toFloat (-1)) (2 ^ 64) := by
    have stored : HasValue (UInt64.toFloat (-1)) (2 ^ 52 * 2 ^ (12 : ℤ)) := rfl
    rwa [show (2 : ℚ) ^ 52 * 2 ^ (12 : ℤ) = 2 ^ 64 by norm_num] at stored
  have below : (count.toNat : ℚ) ≤ 2 ^ 64 := by exact_mod_cast count.toNat_lt.le
  exact (roundsTo_toFloat count).exists_value hasValue_one limit (by exact_mod_cast one_le) below

/-! ## The unit interval -/

theorem inUnit_iff_le : inUnit x = true ↔ 0.0 ≤ x ∧ x ≤ 1.0 := by simp [inUnit]

theorem inUnit_iff : inUnit x = true ↔ ∃ v, HasValue x v ∧ 0 ≤ v ∧ v ≤ 1 := by
  rw [inUnit_iff_le]
  constructor
  · rintro ⟨low, high⟩
    exact exists_value_of_between hasValue_zero hasValue_one low high
  · rintro ⟨v, value, low, high⟩
    exact ⟨(hasValue_zero.le_iff value).mpr low, (value.le_iff hasValue_one).mpr high⟩

theorem isFinite_of_inUnit (unit : inUnit x = true) : x.isFinite = true := by
  obtain ⟨v, value, -⟩ := inUnit_iff.mp unit
  exact (isFinite_iff x).mpr ⟨v, value⟩

theorem clampUnit_inUnit (defined : x.isNaN = false) : inUnit (clampUnit x) = true := by
  unfold clampUnit
  split
  · rfl
  · rename_i low
    split
    · rfl
    · rename_i high
      exact inUnit_iff_le.mpr ⟨le_of_not_lt defined rfl low, le_of_not_lt rfl defined high⟩

end SentimentTree.Numeric
