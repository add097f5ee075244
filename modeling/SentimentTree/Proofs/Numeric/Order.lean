import SentimentTree.Proofs.Numeric.Packing

/-! # The order of numbers

A number that is not undefined has an extent: its rational value, or one of the two infinities. The
comparisons of numbers are those of their extents, so they are total and transitive wherever both
sides are defined.
-/

namespace SentimentTree.Numeric

open Float.Model Float.Model.UnpackedFloat

/-- Rational values with an infinity at each end. -/
abbrev Extent : Type := WithBot (WithTop ℚ)

def withSign (s : Sign) (magnitude : ℚ) : ℚ :=
  match s with
  | .positive => magnitude
  | .negative => -magnitude

def extentOf? : UnpackedFloat → Option Extent
  | .notANumber => none
  | .infinity .positive => some ⊤
  | .infinity .negative => some ⊥
  | .zero _ => some ((0 : ℚ) : WithTop ℚ)
  | .finite s m e _ => some ((withSign s (m * 2 ^ e) : ℚ) : WithTop ℚ)

theorem extentOf?_signedNumber (s : Sign) (m : ℕ) (e : ℤ) :
    extentOf? (signedNumber s m e) = some ((withSign s (m * 2 ^ e) : ℚ) : WithTop ℚ) := by
  unfold signedNumber
  split
  · rfl
  · obtain rfl : m = 0 := by omega
    cases s <;> simp [extentOf?, withSign]

/-! ## Comparing -/

private theorem lt_of_exponent_lt {m₁ m₂ : ℕ} {e₁ e₂ : ℤ} (first : IsNormalized m₁ e₁)
    (second : IsNormalized m₂ e₂) (less : e₁ < e₂) : (m₁ : ℚ) * 2 ^ e₁ < m₂ * 2 ^ e₂ := by
  obtain ⟨bound, least, _⟩ := first
  have full : 2 ^ 52 ≤ m₂ := second.2.2.resolve_right (by omega)
  calc (m₁ : ℚ) * 2 ^ e₁ < 2 ^ 53 * 2 ^ e₁ :=
        mul_lt_mul_of_pos_right (by exact_mod_cast bound) (by positivity)
    _ = 2 ^ 52 * 2 ^ (e₁ + 1) := by
        rw [zpow_add₀ (by norm_num), zpow_one]
        ring
    _ ≤ 2 ^ 52 * 2 ^ e₂ :=
        mul_le_mul_of_nonneg_left (zpow_le_zpow_right₀ (by norm_num) (by omega)) (by norm_num)
    _ ≤ m₂ * 2 ^ e₂ := mul_le_mul_of_nonneg_right (by exact_mod_cast full) (by positivity)

/-- Normalized magnitudes compare by exponent, then by mantissa. -/
theorem compare_magnitudes {m₁ m₂ : ℕ} {e₁ e₂ : ℤ} (first : IsNormalized m₁ e₁)
    (second : IsNormalized m₂ e₂) :
    (compare e₁ e₂).then (compare m₁ m₂) = compare ((m₁ : ℚ) * 2 ^ e₁) (m₂ * 2 ^ e₂) := by
  rcases lt_trichotomy e₁ e₂ with less | rfl | more
  · rw [compare_lt_iff_lt.mpr less, compare_lt_iff_lt.mpr (lt_of_exponent_lt first second less)]
    rfl
  · have unit : (0 : ℚ) < 2 ^ e₁ := by positivity
    rw [Std.compare_self]
    rcases lt_trichotomy m₁ m₂ with less | rfl | more
    · rw [compare_lt_iff_lt.mpr less, compare_lt_iff_lt.mpr
        (mul_lt_mul_of_pos_right (by exact_mod_cast less) unit)]
      rfl
    · rw [Std.compare_self, Std.compare_self]
      rfl
    · rw [compare_gt_iff_gt.mpr more, compare_gt_iff_gt.mpr
        (mul_lt_mul_of_pos_right (by exact_mod_cast more) unit)]
      rfl
  · rw [compare_gt_iff_gt.mpr more, compare_gt_iff_gt.mpr (lt_of_exponent_lt second first more)]
    rfl

private theorem compare_coe (a b : ℚ) :
    compare ((a : WithTop ℚ) : Extent) ((b : WithTop ℚ) : Extent) = compare a b := by
  rcases lt_trichotomy a b with less | rfl | more
  · rw [compare_lt_iff_lt.mpr less, compare_lt_iff_lt]
    exact WithBot.coe_lt_coe.mpr (WithTop.coe_lt_coe.mpr less)
  · rw [Std.compare_self, Std.compare_self]
  · rw [compare_gt_iff_gt.mpr more, compare_gt_iff_gt]
    exact WithBot.coe_lt_coe.mpr (WithTop.coe_lt_coe.mpr more)

private theorem magnitude_pos {m : ℕ} (e : ℤ) (positive : 0 < m) : (0 : ℚ) < m * 2 ^ e := by
  have : (0 : ℚ) < m := by exact_mod_cast positive
  positivity

private theorem finite_lt_top (q : ℚ) : ((q : WithTop ℚ) : Extent) < ⊤ :=
  WithBot.coe_lt_coe.mpr (WithTop.coe_lt_top q)

private theorem bot_lt_finite (q : ℚ) : (⊥ : Extent) < (q : WithTop ℚ) := WithBot.bot_lt_coe _

private theorem bot_lt_top_extent : (⊥ : Extent) < ⊤ := bot_lt_top

private theorem compare_neg (a b : ℚ) : compare (-a) (-b) = (compare a b).swap := by
  rcases lt_trichotomy a b with less | rfl | more
  · rw [compare_lt_iff_lt.mpr less, compare_gt_iff_gt.mpr (neg_lt_neg less)]
    rfl
  · rw [Std.compare_self, Std.compare_self]
    rfl
  · rw [compare_gt_iff_gt.mpr more, compare_lt_iff_lt.mpr (neg_lt_neg more)]
    rfl

/-- Canonical numbers compare as their extents do, and not at all when one has none. -/
theorem compare_eq_extents {a b : UnpackedFloat} (first : IsCanonical a) (second : IsCanonical b) :
    a.compare b =
      (extentOf? a).bind fun x => (extentOf? b).map fun y => compare x y := by
  -- the infinities settle themselves; what is left are zeros and finite numbers by sign
  rcases a with ⟨_ | _⟩ | _ | s | ⟨_ | _, m, e, positive⟩ <;>
    rcases b with ⟨_ | _⟩ | _ | t | ⟨_ | _, n, f, positive'⟩ <;>
    simp only [UnpackedFloat.compare, extentOf?, withSign, Option.bind_some, Option.bind_none,
      Option.map_some, Option.map_none, Option.some.injEq, compare_coe, compare_neg,
      Std.compare_self, compare_lt_iff_lt.mpr bot_lt_top_extent,
      compare_gt_iff_gt.mpr bot_lt_top_extent, compare_lt_iff_lt.mpr (bot_lt_finite _),
      compare_gt_iff_gt.mpr (bot_lt_finite _), compare_lt_iff_lt.mpr (finite_lt_top _),
      compare_gt_iff_gt.mpr (finite_lt_top _)]
  case infinity.negative.infinity.negative => rfl
  case infinity.negative.infinity.positive => rfl
  case infinity.positive.infinity.negative => rfl
  case infinity.positive.infinity.positive => rfl
  case zero.finite.negative =>
    exact (compare_gt_iff_gt.mpr (neg_neg_of_pos (magnitude_pos f positive'))).symm
  case zero.finite.positive => exact (compare_lt_iff_lt.mpr (magnitude_pos f positive')).symm
  case finite.negative.zero =>
    exact (compare_lt_iff_lt.mpr (neg_neg_of_pos (magnitude_pos e positive))).symm
  case finite.negative.finite.negative => rw [compare_magnitudes first.1 second.1]
  case finite.negative.finite.positive =>
    have below := neg_neg_of_pos (magnitude_pos e positive)
    exact (compare_lt_iff_lt.mpr (below.trans (magnitude_pos f positive'))).symm
  case finite.positive.zero => exact (compare_gt_iff_gt.mpr (magnitude_pos e positive)).symm
  case finite.positive.finite.negative =>
    have below := neg_neg_of_pos (magnitude_pos f positive')
    exact (compare_gt_iff_gt.mpr (below.trans (magnitude_pos e positive))).symm
  case finite.positive.finite.positive => exact compare_magnitudes first.1 second.1

/-! ## Numbers -/

/-- The extent of a number; an undefined one has none. -/
def extent? (x : Float) : Option Extent := extentOf? x.toModel.unpack

/-- The number has the rational value. -/
def HasValue (x : Float) (q : ℚ) : Prop := extent? x = some ((q : WithTop ℚ) : Extent)

theorem compare_toModel (x y : Float) :
    x.toModel.unpack.compare y.toModel.unpack =
      (extent? x).bind fun a => (extent? y).map fun b => compare a b :=
  compare_eq_extents (isCanonical_unpack _) (isCanonical_unpack _)

theorem lt_iff_extents (x y : Float) :
    x < y ↔ ∃ a b, extent? x = some a ∧ extent? y = some b ∧ a < b := by
  have unfolded : x < y ↔ x.toModel.unpack.lt y.toModel.unpack = true := decide_eq_true_iff
  rw [unfolded, UnpackedFloat.lt, compare_toModel]
  cases extent? x <;> cases extent? y <;> simp [compare_lt_iff_lt]

theorem le_iff_extents (x y : Float) :
    x ≤ y ↔ ∃ a b, extent? x = some a ∧ extent? y = some b ∧ a ≤ b := by
  have unfolded : x ≤ y ↔ x.toModel.unpack.le y.toModel.unpack = true := decide_eq_true_iff
  rw [unfolded, UnpackedFloat.le, compare_toModel]
  cases extent? x <;> cases extent? y <;> simp [Ordering.isLE_iff_ne_gt, compare_le_iff_le]

theorem beq_iff_extents (x y : Float) :
    (x == y) = true ↔ ∃ a, extent? x = some a ∧ extent? y = some a := by
  change UnpackedFloat.beq _ _ = true ↔ _
  rw [UnpackedFloat.beq, compare_toModel]
  cases extent? x with
  | none => simp
  | some a =>
    cases extent? y with
    | none => simp
    | some b => simpa using eq_comm

theorem isNaN_iff (x : Float) : x.isNaN = true ↔ extent? x = none := by
  change x.toModel.unpack.isNaN = true ↔ extentOf? x.toModel.unpack = none
  rcases x.toModel.unpack with ⟨_ | _⟩ | _ | s | ⟨s, m, e, positive⟩ <;>
    simp [UnpackedFloat.isNaN, extentOf?]

theorem isNaN_eq_false_iff (x : Float) : x.isNaN = false ↔ ∃ a, extent? x = some a := by
  rw [Bool.eq_false_iff, Ne, isNaN_iff, ← Ne, Option.ne_none_iff_exists']

theorem isFinite_iff (x : Float) : x.isFinite = true ↔ ∃ q, HasValue x q := by
  change x.toModel.unpack.isFinite = true ↔
    ∃ q : ℚ, extentOf? x.toModel.unpack = some ((q : WithTop ℚ) : Extent)
  rcases x.toModel.unpack with ⟨_ | _⟩ | _ | s | ⟨s, m, e, positive⟩
  · simp [UnpackedFloat.isFinite, extentOf?]
  · simp only [UnpackedFloat.isFinite, extentOf?, Option.some.injEq, Bool.false_eq_true,
      false_iff, not_exists]
    exact fun q => (finite_lt_top q).ne'
  · simp [UnpackedFloat.isFinite, extentOf?]
  · simp [UnpackedFloat.isFinite, extentOf?]
  · simp [UnpackedFloat.isFinite, extentOf?]

variable {x y z : Float} {p q : ℚ}

theorem HasValue.le_iff (left : HasValue x p) (right : HasValue y q) : x ≤ y ↔ p ≤ q := by
  rw [HasValue] at left right
  simp [le_iff_extents, left, right]

theorem HasValue.lt_iff (left : HasValue x p) (right : HasValue y q) : x < y ↔ p < q := by
  rw [HasValue] at left right
  simp [lt_iff_extents, left, right]

theorem HasValue.beq_iff (left : HasValue x p) (right : HasValue y q) :
    (x == y) = true ↔ p = q := by
  rw [HasValue] at left right
  simp only [beq_iff_extents, left, right, Option.some.injEq, exists_eq_left', WithBot.coe_inj,
    WithTop.coe_inj]
  exact eq_comm

theorem lt_of_lt_of_le (first : x < y) (second : y ≤ z) : x < z := by
  obtain ⟨a, b, left, middle, low⟩ := (lt_iff_extents _ _).mp first
  obtain ⟨b', c, middle', right, high⟩ := (le_iff_extents _ _).mp second
  obtain rfl := Option.some.inj (middle.symm.trans middle')
  exact (lt_iff_extents _ _).mpr ⟨a, c, left, right, low.trans_le high⟩

theorem not_lt_of_le (le : x ≤ y) : ¬y < x := by
  intro less
  obtain ⟨a, b, left, right, low⟩ := (le_iff_extents _ _).mp le
  obtain ⟨b', a', right', left', high⟩ := (lt_iff_extents _ _).mp less
  obtain rfl := Option.some.inj (left.symm.trans left')
  obtain rfl := Option.some.inj (right.symm.trans right')
  exact low.not_gt high

/-- Of two defined numbers the first is below the second or not. -/
theorem le_of_not_lt (first : x.isNaN = false) (second : y.isNaN = false) (not : ¬x < y) :
    y ≤ x := by
  obtain ⟨a, left⟩ := (isNaN_eq_false_iff x).mp first
  obtain ⟨b, right⟩ := (isNaN_eq_false_iff y).mp second
  refine (le_iff_extents _ _).mpr ⟨b, a, right, left, le_of_not_gt fun less => not ?_⟩
  exact (lt_iff_extents _ _).mpr ⟨a, b, left, right, less⟩

theorem le_refl (defined : x.isNaN = false) : x ≤ x := by
  obtain ⟨a, extent⟩ := (isNaN_eq_false_iff x).mp defined
  exact (le_iff_extents _ _).mpr ⟨a, a, extent, extent, le_rfl⟩

theorem not_isNaN_of_le (le : x ≤ y) : x.isNaN = false ∧ y.isNaN = false := by
  obtain ⟨a, b, left, right, _⟩ := (le_iff_extents _ _).mp le
  exact ⟨(isNaN_eq_false_iff x).mpr ⟨a, left⟩, (isNaN_eq_false_iff y).mpr ⟨b, right⟩⟩

/-- Between two values lies a value. -/
theorem exists_value_of_between {low high : Float} (least : HasValue low p)
    (greatest : HasValue high q) (above : low ≤ x) (below : x ≤ high) :
    ∃ v, HasValue x v ∧ p ≤ v ∧ v ≤ q := by
  obtain ⟨a, b, left, middle, first⟩ := (le_iff_extents _ _).mp above
  obtain ⟨b', c, middle', right, second⟩ := (le_iff_extents _ _).mp below
  obtain rfl := Option.some.inj (middle.symm.trans middle')
  obtain rfl := Option.some.inj (left.symm.trans least)
  obtain rfl := Option.some.inj (right.symm.trans greatest)
  obtain ⟨b, rfl⟩ := WithBot.ne_bot_iff_exists.mp ((bot_lt_finite p).trans_le first).ne'
  obtain ⟨v, rfl⟩ := WithTop.ne_top_iff_exists.mp
    (WithBot.coe_lt_coe.mp (second.trans_lt (finite_lt_top q))).ne
  exact ⟨v, middle, by simpa using first, by simpa using second⟩

end SentimentTree.Numeric
