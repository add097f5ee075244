import SentimentTree.Proofs.Aggregation.Validity
import SentimentTree.Proofs.Basic
import SentimentTree.Proofs.Hierarchy.RoundTrip
import SentimentTree.Proofs.Numeric.Logarithm

/-! # Stored trees of messages

The tree of any messages is read back from where it is stored, bit for bit, as long as none of its
months is in a negative year. The text of such a month starts with its sign, which the reader takes
for the hyphen between year and month, so the stored tree is rejected.
-/

namespace SentimentTree

open Calendar Numeric

variable {power : Float → Float → Float} {settings : AggregationSettings}
  {messages : List ScoredMessage} {tree : Hierarchy} {least greatest : Float}

/-! ## Valid trees -/

/-- Months in order are fewer than a count can hold, because years have thirty-two bits. -/
theorem Hierarchy.Valid.total_le (valid : tree.Valid least greatest) :
    tree.totalMonths ≤ Decimal.maxUnsigned64 := by
  have ordered : (tree.months.map fun group =>
      group.month.year * 12 + (group.month.month : ℤ)).Pairwise (· < ·) := by
    rw [List.pairwise_map]
    refine valid.ordered.imp ?_
    intro a b before
    have := a.month.month_le
    have := b.month.month_pos
    rw [YearMonth.lt_iff] at before
    omega
  have few := length_le_of_ordered (-2147483648 * 12 + 1)
    (show _ ≤ 2147483647 * 12 + 12 + 1 by omega) ordered ?_
  · rw [List.length_map] at few
    rw [valid.total, Decimal.maxUnsigned64, Nat.pow_eq]
    omega
  · intro n member
    obtain ⟨group, -, rfl⟩ := List.mem_map.mp member
    have := group.month.year_ge
    have := group.month.year_le
    have := group.month.month_pos
    have := group.month.month_le
    omega

/-- A valid tree can be stored if its years are not negative and its derived counts are finite. -/
theorem Hierarchy.Valid.storable (valid : tree.Valid least greatest)
    (years : ∀ group ∈ tree.months, 0 ≤ group.month.year)
    (counts : ∀ group ∈ tree.months, ∀ bucket ∈ group.buckets,
      ∀ x ∈ bucket.normalizedCount, x.isFinite = true) : tree.Storable := by
  have trunk : tree.trunkHeight.isFinite = true := by
    have fits := valid.trunk
    simp only [trunkFits, Bool.and_eq_true] at fits
    exact fits.1.1
  refine ⟨trunk, valid.total_le, ?_⟩
  intro group member
  refine ⟨years group member, ?_⟩
  intro bucket inside
  have sound := (valid.months group member).buckets bucket inside
  exact ⟨isFinite_of_inUnit sound.rawMean, isFinite_of_inUnit sound.contrastedMean,
    counts group member bucket inside⟩

/-! ## Trees of messages -/

/-- The normalized count of a total with a count is finite. -/
theorem BucketTotal.normalizedCount_isFinite {total : BucketTotal} (counted : total.count ≠ 0) :
    (logOnePlus total.count.toFloat * 5.0).isFinite = true := by
  obtain ⟨v, value, one_le, le⟩ := exists_value_toFloat counted
  have five : Within 3 5.0 := by
    have stored : HasValue 5.0 ((5 * 2 ^ 50 : ℕ) * 2 ^ (-50 : ℤ)) := rfl
    exact ⟨_, stored, by norm_num⟩
  exact ((logOnePlus_within value one_le le).mul five (by norm_num)).isFinite

/-- The tree of any messages can be stored if its years are not negative. -/
theorem storable_of_aggregate (keeps : KeepsUnit power)
    (aggregated : aggregate power settings messages = .ok tree)
    (years : ∀ group ∈ tree.months, 0 ≤ group.month.year) : tree.Storable := by
  refine (valid_of_aggregate keeps aggregated).storable years ?_
  obtain ⟨-, totals, -, months, -⟩ := aggregate_eq_ok_iff.mp aggregated
  rw [months]
  intro group member bucket inside x normalized
  obtain ⟨total, present, rfl⟩ := List.mem_map.mp (mem_of_mem_groupByMonth member inside)
  have counted : total.count ≠ 0 := by simpa using (List.mem_filter.mp present).2
  change x ∈ (if settings.normalizedCount then some (logOnePlus total.count.toFloat * 5.0)
    else none) at normalized
  split at normalized
  · obtain rfl := Option.some.inj normalized
    exact total.normalizedCount_isFinite counted
  · nomatch normalized

/-- The text of the tree of any messages gives the tree, unless it has a negative year. -/
theorem readTree_of_aggregate (keeps : KeepsUnit power)
    (aggregated : aggregate power settings messages = .ok tree) {reading : AggregationSettings}
    (least : reading.minTrunkHeight = settings.minTrunkHeight)
    (greatest : reading.maxTrunkHeight = settings.maxTrunkHeight) (path : String) :
    readTree reading path tree.documentText =
      if ∀ group ∈ tree.months, 0 ≤ group.month.year then .ok tree
      else .error (.badHierarchy path) := by
  split
  · rename_i years
    refine readTree_documentText (storable_of_aggregate keeps aggregated years) ?_ path
    rw [least, greatest, tree.validate_eq_ok_iff]
    exact valid_of_aggregate keeps aggregated
  · rename_i negative
    push Not at negative
    obtain ⟨group, member, negative⟩ := negative
    exact readTree_documentText_of_neg member negative path

/-- The tree of any messages is loaded from where it was stored, and yields its word, unless one of
its months is in a negative year; then the stored tree is rejected. -/
theorem loadTree_aggregated (keeps : KeepsUnit power)
    (aggregated : aggregate power settings messages = .ok tree) (reading : AggregationSettings)
    (least : reading.minTrunkHeight = settings.minTrunkHeight)
    (greatest : reading.maxTrunkHeight = settings.maxTrunkHeight) :
    ∀ path before after,
      (storeTree Host.recorded tree path).run.run before = (.ok (), after) →
      before.store.find path ≠ .ok .void →
      ((loadTree Host.recorded reading path).run.run after).1 =
        (if ∀ group ∈ tree.months, 0 ≤ group.month.year then .ok tree
          else .error (.badHierarchy path)) ∧
      ((∀ group ∈ tree.months, 0 ≤ group.month.year) →
        ∀ geometry, ((storedWord Host.recorded reading geometry path).run.run after).1 =
          (checkedWord geometry tree).mapError .pipeline) := by
  intro path before after stored kept
  have loaded : ((loadTree Host.recorded reading path).run.run after).1 = _ :=
    loadTree_of_storeTree stored kept
  rw [readTree_of_aggregate keeps aggregated least greatest path] at loaded
  refine ⟨loaded, ?_⟩
  intro years geometry
  rw [if_pos years] at loaded
  exact storedWord_of_loadTree geometry loaded

theorem loadTree_aggregated_twoWeeks :
    ∃ tree after, KeepsUnit (fun base _ => base) ∧
      aggregate (fun base _ => base) { contrastFactor := 1.0 } twoWeeks = .ok tree ∧
      tree.bucketCount = 2 ∧
      (storeTree Host.recorded tree "tree.json").run.run {} = (.ok (), after) ∧
      ((loadTree Host.recorded {} "tree.json").run.run after).1 = .ok tree ∧
      ∀ geometry, ((storedWord Host.recorded {} geometry "tree.json").run.run after).1 =
        (checkedWord geometry tree).mapError .pipeline := by
  have aggregated : ∃ tree,
      aggregate (fun base _ => base) { contrastFactor := 1.0 } twoWeeks = .ok tree ∧
        tree.bucketCount = 2 ∧ ∀ group ∈ tree.months, 0 ≤ group.month.year :=
    ⟨_, rfl, by decide +kernel, by decide +kernel⟩
  obtain ⟨tree, ok, count, years⟩ := aggregated
  have keeps : KeepsUnit (fun base _ => base) := fun _ _ unit _ => unit
  have stored : ∃ after,
      (storeTree Host.recorded tree "tree.json").run.run {} = (.ok (), after) := by
    rw [storeTree_recorded]
    exact ⟨_, rfl⟩
  obtain ⟨after, stored⟩ := stored
  obtain ⟨loaded, words⟩ :=
    loadTree_aggregated keeps ok {} rfl rfl "tree.json" {} after stored nofun
  rw [if_pos years] at loaded
  exact ⟨tree, after, keeps, ok, count, stored, loaded, words years⟩

/-- A message of the year `-90`. -/
def ancient : List ScoredMessage :=
  [.withScore (.midnight ⟨-32787, by decide, by decide⟩) "found" true 0.5]

theorem loadTree_aggregated_ancient :
    ∃ tree after, aggregate (fun base _ => base) {} ancient = .ok tree ∧
      (storeTree Host.recorded tree "tree.json").run.run {} = (.ok (), after) ∧
      ((loadTree Host.recorded {} "tree.json").run.run after).1 =
        .error (.badHierarchy "tree.json") := by
  have aggregated : ∃ tree, aggregate (fun base _ => base) {} ancient = .ok tree ∧
      ∃ group ∈ tree.months, group.month.year < 0 := ⟨_, rfl, by decide +kernel⟩
  obtain ⟨tree, ok, group, member, negative⟩ := aggregated
  have stored : ∃ after,
      (storeTree Host.recorded tree "tree.json").run.run {} = (.ok (), after) := by
    rw [storeTree_recorded]
    exact ⟨_, rfl⟩
  obtain ⟨after, stored⟩ := stored
  refine ⟨tree, after, ok, stored, ?_⟩
  rw [loadTree_of_storeTree stored nofun, readTree_documentText_of_neg member negative]

end SentimentTree
