import SentimentTree.Proofs.Numeric.Order

/-! # Results of arithmetic

A result rounds to a rational number when it lies on the same side of every finite number as that
one does (`RoundsTo`). Sums, differences, products, quotients and counts made into numbers round to
the exact results, so a finite bound on an exact result is a bound on the computed one.
-/

namespace SentimentTree.Numeric

open Float.Model Float.Model.UnpackedFloat

/-- The number lies on the same side of every finite number as the rational one, or meets it. -/
def RoundsTo (r : Float) (q : ℚ) : Prop :=
  ∀ y v, HasValue y v → (v ≤ q → y ≤ r) ∧ (q ≤ v → r ≤ y)

variable {x y r : Float} {p q : ℚ}

private theorem HasValue.roundsTo (value : HasValue r q) : RoundsTo r q := fun _ _ bound =>
  ⟨(bound.le_iff value).mpr, (value.le_iff bound).mpr⟩

/-! ## Stored results -/

theorem hasValue_pack {u : UnpackedFloat} (stored : (Float.Model.pack u).unpack = u)
    (value : extentOf? u = some ((q : WithTop ℚ) : Extent)) :
    HasValue (.ofModel (.pack u)) q := by
  change extentOf? (Float.Model.pack u).unpack = _
  rw [stored, value]

/-- A stored number is read back as it was. -/
private theorem unpack_pack_of_isCanonical {u : UnpackedFloat} (canonical : IsCanonical u) :
    (Float.Model.pack u).unpack = u := by
  rcases u with ⟨_ | _⟩ | _ | ⟨_ | _⟩ | ⟨s, m, e, positive⟩
  · rfl
  · rfl
  · rfl
  · rfl
  · rfl
  · have stored := unpack_pack_signedNumber s canonical.1 canonical.2
    rwa [signedNumber_of_pos s e positive] at stored

private theorem abs_withSign (s : Sign) {v : ℚ} (nonneg : 0 ≤ v) : |withSign s v| = v := by
  cases s
  · exact (abs_neg v).trans (abs_of_nonneg nonneg)
  · exact abs_of_nonneg nonneg

private theorem IsNormalized.lt_limit {m : ℕ} {e : ℤ} (normalized : IsNormalized m e)
    (small : e ≤ 971) :
    (m : ℚ) * 2 ^ e < 2 ^ 52 * 2 ^ (972 : ℤ) := by
  calc (m : ℚ) * 2 ^ e < 2 ^ 53 * 2 ^ e :=
        mul_lt_mul_of_pos_right (by exact_mod_cast normalized.1) (by positivity)
    _ ≤ 2 ^ 53 * 2 ^ (971 : ℤ) :=
        mul_le_mul_of_nonneg_left (zpow_le_zpow_right₀ (by norm_num) small) (by norm_num)
    _ = 2 ^ 52 * 2 ^ (972 : ℤ) := by
        rw [show (972 : ℤ) = 1 + 971 by norm_num, zpow_add₀ (by norm_num), zpow_one]
        ring

/-- A number with a value is a zero or has a mantissa and an exponent. -/
theorem HasValue.zero_or_finite (value : HasValue x q) :
    (∃ s, x.toModel.unpack = .zero s ∧ q = 0) ∨
      ∃ s m e positive, x.toModel.unpack = .finite s m e positive ∧
        (IsNormalized m e ∧ e ≤ 971) ∧ q = withSign s (m * 2 ^ e) := by
  have canonical := isCanonical_unpack x.toModel
  rw [HasValue, extent?] at value
  generalize x.toModel.unpack = u at canonical value
  rcases u with ⟨_ | _⟩ | _ | s | ⟨s, m, e, positive⟩
  · simp [extentOf?] at value
  · simp [extentOf?] at value
  · simp [extentOf?] at value
  · exact .inl ⟨s, rfl, by simpa [extentOf?, eq_comm] using value⟩
  · exact .inr ⟨s, m, e, positive, rfl, canonical, by simpa [extentOf?, eq_comm] using value⟩

/-- Magnitudes of finite numbers are members of the format and below its limit. -/
theorem HasValue.fits (value : HasValue x q) : Fits |q| ∧ |q| < 2 ^ 52 * 2 ^ (972 : ℤ) := by
  rcases value.zero_or_finite with ⟨_, _, rfl⟩ | ⟨s, m, e, _, _, ⟨normalized, small⟩, rfl⟩
  · rw [abs_zero]
    exact ⟨⟨0, -1074, by norm_num, le_rfl, by simp⟩, by positivity⟩
  · rw [abs_withSign s (by positivity)]
    exact ⟨normalized.fits, normalized.lt_limit small⟩

/-- A bracketed magnitude brackets with its sign too. -/
private theorem Brackets.withSign {s : Sign} {exact rounded v : ℚ}
    (brackets : Brackets exact rounded)
    (nonneg : 0 ≤ exact) (rounded_nonneg : 0 ≤ rounded) (fits : Fits |v|) :
    (v ≤ withSign s exact → v ≤ withSign s rounded) ∧
      (withSign s exact ≤ v → withSign s rounded ≤ v) := by
  obtain ⟨low, high⟩ := brackets _ fits
  cases s
  · change (v ≤ -exact → v ≤ -rounded) ∧ (-exact ≤ v → -rounded ≤ v)
    rcases le_total 0 v with positive | negative
    · exact ⟨fun below => by rw [abs_of_nonneg positive] at high; linarith [high (by linarith)],
        fun _ => by linarith⟩
    · rw [abs_of_nonpos negative] at low high
      exact ⟨fun below => by linarith [high (by linarith)],
        fun above => by linarith [low (by linarith)]⟩
  · change (v ≤ exact → v ≤ rounded) ∧ (exact ≤ v → rounded ≤ v)
    rcases le_total 0 v with positive | negative
    · rw [abs_of_nonneg positive] at low high
      exact ⟨low, high⟩
    · exact ⟨fun _ => by linarith,
        fun above => by rw [abs_of_nonpos negative] at high; linarith [high (by linarith)]⟩

/-- What is stored for a rounded magnitude rounds to the exact one. -/
private theorem roundsTo_pack_signedNumber (s : Sign) {m : ℕ} {e : ℤ} {exact : ℚ}
    (normalized : IsNormalized m e) (nonneg : 0 ≤ exact) (brackets : Brackets exact (m * 2 ^ e)) :
    RoundsTo (.ofModel (.pack (signedNumber s m e))) (withSign s exact) := by
  intro y v bound
  obtain ⟨fits, limited⟩ := bound.fits
  by_cases small : e ≤ 971
  · have value := hasValue_pack (unpack_pack_signedNumber s normalized small)
      (extentOf?_signedNumber s m e)
    rw [bound.le_iff value, value.le_iff bound]
    exact brackets.withSign nonneg (by positivity) fits
  · have full : 2 ^ 52 ≤ m := normalized.2.2.resolve_right (by omega)
    have large : (2 : ℚ) ^ 52 * 2 ^ (972 : ℤ) ≤ m * 2 ^ e := by
      have power : (2 : ℚ) ^ (972 : ℤ) ≤ 2 ^ e := zpow_le_zpow_right₀ (by norm_num) (by omega)
      have mantissa : (2 : ℚ) ^ 52 ≤ m := by exact_mod_cast full
      exact mul_le_mul mantissa power (by positivity) (by positivity)
    have beyond : ¬exact ≤ |v| := fun above => by linarith [(brackets _ fits).2 above]
    have stored := unpack_pack_overflow s (by omega : 0 < m) (not_le.mp small)
    have extent : extent? (.ofModel (.pack (signedNumber s m e))) = extentOf? (.infinity s) :=
      congrArg extentOf? stored
    rw [le_iff_extents, le_iff_extents, extent, show extent? y = _ from bound]
    have outside := neg_abs_le v
    have inside := le_abs_self v
    cases s
    · refine ⟨fun below => (beyond ?_).elim, fun _ => ⟨⊥, _, rfl, rfl, bot_le⟩⟩
      change v ≤ -exact at below
      linarith
    · refine ⟨fun _ => ⟨_, ⊤, rfl, rfl, le_top⟩, fun above => (beyond ?_).elim⟩
      change exact ≤ v at above
      linarith

/-! ## Operations on finite numbers -/

private theorem roundsTo_normalize (n : ℤ) (e : ℤ) :
    RoundsTo (.ofModel (.pack (UnpackedFloat.normalize Format.binary64 n e .positive)))
      (n * 2 ^ e) := by
  rcases lt_trichotomy n 0 with negative | rfl | positive
  · obtain ⟨m', e', rounded, normalized, brackets⟩ :=
      round_spec .negative (show 0 < (-n).toNat by omega) e
    have magnitude : ((-n).toNat : ℚ) = -n := by exact_mod_cast (by omega : ((-n).toNat : ℤ) = -n)
    have stored := roundsTo_pack_signedNumber .negative normalized (by positivity) brackets
    rw [← rounded, magnitude] at stored
    simpa only [UnpackedFloat.normalize, compare_lt_iff_lt.mpr negative, withSign, neg_mul,
      neg_neg] using stored
  · have zero : HasValue (.ofModel (.pack (.zero .positive))) 0 := rfl
    rw [Int.cast_zero, zero_mul]
    exact zero.roundsTo
  · obtain ⟨m', e', rounded, normalized, brackets⟩ :=
      round_spec .positive (show 0 < n.toNat by omega) e
    have magnitude : (n.toNat : ℚ) = n := by exact_mod_cast (by omega : (n.toNat : ℤ) = n)
    have stored := roundsTo_pack_signedNumber .positive normalized (by positivity) brackets
    rw [← rounded, magnitude] at stored
    simpa only [UnpackedFloat.normalize, compare_gt_iff_gt.mpr positive, withSign] using stored

private theorem hasValue_pack_zero (s : Sign) : HasValue (.ofModel (.pack (.zero s))) 0 := by
  cases s <;> rfl

private theorem hasValue_pack_finite {s : Sign} {m : ℕ} {e : ℤ} {positive : 0 < m}
    (canonical : IsCanonical (.finite s m e positive)) :
    HasValue (.ofModel (.pack (.finite s m e positive))) (withSign s (m * 2 ^ e)) :=
  hasValue_pack (unpack_pack_of_isCanonical canonical) rfl

private theorem apply_mul (s : Sign) (m : ℕ) (v : ℚ) :
    (s.apply m : ℤ) * v = withSign s (m * v) := by
  cases s
  · change ((-(m : ℤ) : ℤ) : ℚ) * v = -(m * v)
    push_cast
    ring
  · rfl

private theorem decreaseExponent_eq (m : ℕ) {e least : ℤ} (above : least ≤ e) :
    ∃ m' : ℕ, (decreaseExponent m e least).1 = m' ∧ (m' : ℚ) * 2 ^ least = m * 2 ^ e := by
  obtain ⟨count, rfl⟩ := Int.le.dest above
  have amount : (least + (count : ℤ) - least).toNat = count := by omega
  refine ⟨m <<< count, by simp only [decreaseExponent, amount], ?_⟩
  rw [Nat.shiftLeft_eq, zpow_add₀ (by norm_num), zpow_natCast]
  push_cast
  ring

theorem HasValue.add (left : HasValue x p) (right : HasValue y q) : RoundsTo (x + y) (p + q) := by
  change RoundsTo (.ofModel (.pack (UnpackedFloat.add _ x.toModel.unpack y.toModel.unpack))) _
  rcases left.zero_or_finite with ⟨s₁, first, rfl⟩ | ⟨s₁, m₁, e₁, pos₁, first, canonical₁, rfl⟩ <;>
    rcases right.zero_or_finite with
      ⟨s₂, second, rfl⟩ | ⟨s₂, m₂, e₂, pos₂, second, canonical₂, rfl⟩ <;>
    rw [first, second]
  · refine HasValue.roundsTo ?_
    rw [add_zero]
    cases s₁ <;> cases s₂ <;> rfl
  · rw [zero_add]
    exact (hasValue_pack_finite canonical₂).roundsTo
  · rw [add_zero]
    exact (hasValue_pack_finite canonical₁).roundsTo
  · obtain ⟨n₁, moved₁, same₁⟩ := decreaseExponent_eq m₁ (min_le_left e₁ e₂)
    obtain ⟨n₂, moved₂, same₂⟩ := decreaseExponent_eq m₂ (min_le_right e₁ e₂)
    have sum := roundsTo_normalize (s₁.apply n₁ + s₂.apply n₂) (min e₁ e₂)
    rw [Int.cast_add, add_mul, apply_mul, apply_mul, same₁, same₂] at sum
    simp only [UnpackedFloat.add, moved₁, moved₂]
    exact sum

private theorem withSign_neg (s : Sign) (v : ℚ) : withSign (-s) v = -withSign s v := by
  cases s
  · exact (neg_neg v).symm
  · rfl

private theorem apply_neg (s : Sign) (n : ℤ) : (-s).apply n = -s.apply n := by
  cases s
  · exact (neg_neg n).symm
  · rfl

/-- A difference is the sum with the number of the other sign. -/
theorem unpacked_sub_eq (spec : Format) (a b : UnpackedFloat) :
    UnpackedFloat.sub spec a b = UnpackedFloat.add spec a b.neg := by
  rcases a with s₁ | _ | s₁ | ⟨s₁, m₁, e₁, pos₁⟩ <;>
    rcases b with s₂ | _ | s₂ | ⟨s₂, m₂, e₂, pos₂⟩ <;> try rfl
  simp only [UnpackedFloat.sub, UnpackedFloat.add, UnpackedFloat.neg, apply_neg, sub_eq_add_neg]

private theorem unpack_neg (y : Float) : (-y).toModel.unpack = y.toModel.unpack.neg := by
  refine unpack_pack_of_isCanonical ?_
  have canonical := isCanonical_unpack y.toModel
  generalize y.toModel.unpack = u at canonical ⊢
  cases u with
  | finite s m e positive => exact canonical
  | _ => trivial

theorem sub_eq_add (x y : Float) : x - y = x + -y := by
  have same : UnpackedFloat.sub Format.binary64 x.toModel.unpack y.toModel.unpack =
      UnpackedFloat.add Format.binary64 x.toModel.unpack (-y).toModel.unpack := by
    rw [unpacked_sub_eq, unpack_neg]
  exact congrArg (fun u => Float.ofModel (.pack u)) same

theorem HasValue.neg (value : HasValue y q) : HasValue (-y) (-q) := by
  change extentOf? (-y).toModel.unpack = _
  rw [unpack_neg]
  rcases value.zero_or_finite with ⟨s, stored, rfl⟩ | ⟨s, m, e, positive, stored, _, rfl⟩
  · rw [stored, neg_zero]
    rfl
  · rw [stored, ← withSign_neg]
    rfl

theorem HasValue.sub (left : HasValue x p) (right : HasValue y q) : RoundsTo (x - y) (p - q) := by
  rw [sub_eq_add, sub_eq_add_neg]
  exact left.add right.neg

theorem HasValue.abs (value : HasValue x q) : HasValue x.abs |q| := by
  change HasValue (.ofModel (.pack x.toModel.unpack.abs)) _
  rcases value.zero_or_finite with ⟨s, stored, rfl⟩ | ⟨s, m, e, positive, stored, canonical, rfl⟩
  · rw [stored, abs_zero]
    exact hasValue_pack_zero .positive
  · rw [stored, abs_withSign s (by positivity)]
    exact hasValue_pack_finite (s := .positive) canonical

private theorem withSign_mul (s₁ s₂ : Sign) (a b : ℚ) :
    withSign (s₁ * s₂) (a * b) = withSign s₁ a * withSign s₂ b := by
  cases s₁ <;> cases s₂
  · exact (neg_mul_neg a b).symm
  · exact (neg_mul a b).symm
  · exact (mul_neg a b).symm
  · rfl

private theorem withSign_div (s₁ s₂ : Sign) (a b : ℚ) :
    withSign (s₁ / s₂) (a / b) = withSign s₁ a / withSign s₂ b := by
  cases s₁ <;> cases s₂
  · exact (neg_div_neg_eq a b).symm
  · exact (neg_div' b a).symm ▸ rfl
  · exact (div_neg a).symm
  · rfl

theorem HasValue.mul (left : HasValue x p) (right : HasValue y q) : RoundsTo (x * y) (p * q) := by
  change RoundsTo (.ofModel (.pack (UnpackedFloat.mul _ x.toModel.unpack y.toModel.unpack))) _
  rcases left.zero_or_finite with ⟨s₁, first, rfl⟩ | ⟨s₁, m₁, e₁, pos₁, first, canonical₁, rfl⟩ <;>
    rcases right.zero_or_finite with
      ⟨s₂, second, rfl⟩ | ⟨s₂, m₂, e₂, pos₂, second, canonical₂, rfl⟩ <;>
    rw [first, second]
  · rw [zero_mul]
    exact (hasValue_pack_zero (s₁ * s₂)).roundsTo
  · rw [zero_mul]
    exact (hasValue_pack_zero (s₁ * s₂)).roundsTo
  · rw [mul_zero]
    exact (hasValue_pack_zero (s₁ * s₂)).roundsTo
  · have full : 2 ^ 52 ≤ m₁ * m₂ ∨ e₁ + e₂ ≤ -1074 := by
      rcases canonical₁.1.2.2 with large | least
      · exact .inl (large.trans (Nat.le_mul_of_pos_right m₁ pos₂))
      · rcases canonical₂.1.2.2 with large | least'
        · exact .inl (large.trans (Nat.le_mul_of_pos_left m₂ pos₁))
        · exact .inr (by omega)
    obtain ⟨m, e, rounded, normalized, brackets⟩ :=
      roundWithAccuracy_spec (s₁ * s₂) (describes_exact (m₁ * m₂)) full
    have product : ((m₁ * m₂ : ℕ) : ℚ) * 2 ^ (e₁ + e₂) = m₁ * 2 ^ e₁ * (m₂ * 2 ^ e₂) := by
      rw [zpow_add₀ (by norm_num)]
      push_cast
      ring
    have stored := roundsTo_pack_signedNumber (s₁ * s₂) normalized (by positivity) brackets
    rw [product, withSign_mul, ← rounded] at stored
    exact stored

/-- The quotient of mantissas is wide enough to be rounded. -/
private theorem divCore_spec {m₁ m₂ : ℕ} (pos₁ : 0 < m₁) (pos₂ : 0 < m₂) (e₁ e₂ : ℤ) :
    ∃ (m : ℕ) (e : ℤ) (accuracy : Accuracy) (v : ℚ),
      divCore Format.binary64 m₁ e₁ m₂ e₂ = (m, e, accuracy) ∧
      Describes (.ofMantissaAndAccuracy m accuracy) v ∧ (2 ^ 52 ≤ m ∨ e ≤ -1074) ∧
      0 ≤ v ∧ v * 2 ^ e = m₁ * 2 ^ e₁ / (m₂ * 2 ^ e₂) := by
  obtain ⟨target, targeted⟩ : ∃ target, target = min (e₁ - e₂)
      (Format.binary64.targetExponent (totalExponent m₁ e₁ - totalExponent m₂ e₂)) := ⟨_, rfl⟩
  obtain ⟨count, amount⟩ : ∃ count : ℕ, e₁ - e₂ = target + count :=
    ⟨(e₁ - e₂ - target).toNat, by omega⟩
  refine ⟨m₁ <<< count / m₂, target, accuracyOfFraction (m₁ <<< count % m₂) m₂,
    ((m₁ <<< count : ℕ) : ℚ) / m₂, ?_, describes_fraction pos₂, ?_, by positivity, ?_⟩
  · have shift : (e₁ - e₂ - target).toNat = count := by omega
    simp only [divCore, ← targeted, shift]
  · by_cases least : target ≤ -1074
    · exact .inr least
    · left
      simp only [Format.targetExponent, totalExponent, Format.mantissaBits,
        Format.minExponent] at targeted
      norm_num at targeted
      have bits : m₂.log2 + 1 + 52 ≤ m₁.log2 + count := by omega
      rw [Nat.le_div_iff_mul_le pos₂, Nat.shiftLeft_eq, mul_comm]
      calc m₂ * 2 ^ 52 ≤ 2 ^ (m₂.log2 + 1) * 2 ^ 52 := Nat.mul_le_mul_right _ Nat.lt_log2_self.le
        _ = 2 ^ (m₂.log2 + 1 + 52) := (pow_add _ _ _).symm
        _ ≤ 2 ^ (m₁.log2 + count) := Nat.pow_le_pow_right (by norm_num) bits
        _ = 2 ^ m₁.log2 * 2 ^ count := pow_add _ _ _
        _ ≤ m₁ * 2 ^ count := Nat.mul_le_mul_right _ (Nat.log2_self_le pos₁.ne')
  · have split : (2 : ℚ) ^ e₁ = 2 ^ target * 2 ^ count * 2 ^ e₂ := by
      rw [← zpow_natCast, ← zpow_add₀ (by norm_num), ← zpow_add₀ (by norm_num), ← amount,
        sub_add_cancel]
    rw [Nat.shiftLeft_eq, split]
    push_cast
    field_simp

theorem HasValue.div (left : HasValue x p) (right : HasValue y q) (nonzero : q ≠ 0) :
    RoundsTo (x / y) (p / q) := by
  change RoundsTo (.ofModel (.pack (UnpackedFloat.div _ x.toModel.unpack y.toModel.unpack))) _
  rcases right.zero_or_finite with ⟨_, _, rfl⟩ | ⟨s₂, m₂, e₂, pos₂, second, canonical₂, rfl⟩
  · exact (nonzero rfl).elim
  rcases left.zero_or_finite with ⟨s₁, first, rfl⟩ | ⟨s₁, m₁, e₁, pos₁, first, canonical₁, rfl⟩ <;>
    rw [first, second]
  · rw [zero_div]
    exact (hasValue_pack_zero (s₁ / s₂)).roundsTo
  · obtain ⟨wide, lower, accuracy, v, cut, describes, full, nonneg, quotient⟩ :=
      divCore_spec pos₁ pos₂ e₁ e₂
    obtain ⟨m, e, rounded, normalized, brackets⟩ :=
      roundWithAccuracy_spec (s₁ / s₂) describes full
    have stored := roundsTo_pack_signedNumber (s₁ / s₂) normalized (by positivity) brackets
    rw [quotient, withSign_div, ← rounded] at stored
    simp only [UnpackedFloat.div, cut]
    exact stored

/-- A count becomes the number it rounds to. -/
theorem roundsTo_toFloat (count : UInt64) : RoundsTo count.toFloat count.toNat := by
  have stored := roundsTo_normalize count.toNat 0
  rw [zpow_zero, mul_one] at stored
  exact stored

/-! ## Bounds on results -/

/-- Finite bounds on the exact result are bounds on the computed one, which is finite then. -/
theorem RoundsTo.exists_value {low high : Float} {a b : ℚ} (rounds : RoundsTo r q)
    (least : HasValue low a) (greatest : HasValue high b) (above : a ≤ q) (below : q ≤ b) :
    ∃ v, HasValue r v ∧ a ≤ v ∧ v ≤ b :=
  exists_value_of_between least greatest ((rounds _ _ least).1 above)
    ((rounds _ _ greatest).2 below)

theorem RoundsTo.isNaN_eq_false (rounds : RoundsTo r q) : r.isNaN = false := by
  have zero : HasValue 0.0 0 := rfl
  rcases le_total 0 q with positive | negative
  · exact (not_isNaN_of_le ((rounds _ _ zero).1 positive)).2
  · exact (not_isNaN_of_le ((rounds _ _ zero).2 negative)).1

end SentimentTree.Numeric
