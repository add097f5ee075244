import Mathlib.Tactic.SplitIfs
import SentimentTree.Hierarchy.Validity

/-! # What checking a tree establishes

The check compares neighbours and stops at the first broken rule. It accepts exactly the trees that
keep every rule (`Hierarchy.Valid`), where the order of months and of labels is that of any two of
them, not only of neighbours.
-/

namespace SentimentTree

open Calendar

/-- No two neighbours are out of order exactly when no two members are, for a transitive order. -/
theorem firstDisorder?_eq_none_iff {α : Type} (below : α → α → Prop) [DecidableRel below]
    (transitive : ∀ {a b c}, below a b → below b c → below a c) (members : List α) :
    firstDisorder? (fun a b => decide (below a b)) members = none ↔ members.Pairwise below := by
  induction members with
  | nil => simp [firstDisorder?]
  | cons first rest ih =>
    cases rest with
    | nil => simp [firstDisorder?]
    | cons second rest =>
      unfold firstDisorder?
      split
      · rename_i ordered
        replace ordered : below first second := by simpa using ordered
        rw [ih, List.pairwise_cons (a := first)]
        refine ⟨fun pairs => ⟨?_, pairs⟩, fun pairs => pairs.2⟩
        intro member present
        rcases List.mem_cons.mp present with rfl | present
        · exact ordered
        · exact transitive ordered ((List.pairwise_cons.mp pairs).1 member present)
      · rename_i disorder
        replace disorder : ¬below first second := by simpa using disorder
        refine ⟨nofun, fun pairs => (disorder ?_).elim⟩
        exact (List.pairwise_cons.mp pairs).1 second List.mem_cons_self

/-- The bucket is not empty, is named by a day of the month and has means in the unit interval. -/
structure Bucket.Valid (month : YearMonth) (bucket : Bucket) : Prop where
  counted : bucket.count ≠ 0
  filed : month.holds bucket.label = true
  rawMean : Numeric.inUnit bucket.rawMean = true
  contrastedMean : Numeric.inUnit bucket.contrastedMean = true

/-- The labels are in order and each bucket is valid by itself. -/
structure MonthGroup.Valid (group : MonthGroup) : Prop where
  ordered : group.buckets.Pairwise fun a b => a.label < b.label
  buckets : ∀ bucket ∈ group.buckets, bucket.Valid group.month

/-- The trunk's height is a number within the bounds, the months are as many as stated and in order,
and each is valid by itself. -/
structure Hierarchy.Valid (least greatest : Float) (tree : Hierarchy) : Prop where
  trunk : trunkFits least greatest tree.trunkHeight = true
  total : tree.totalMonths = tree.months.length
  ordered : tree.months.Pairwise fun a b => a.month < b.month
  months : ∀ group ∈ tree.months, group.Valid

theorem Bucket.problem?_eq_none_iff (month : YearMonth) (bucket : Bucket) :
    bucket.problem? month = none ↔ bucket.Valid month := by
  rw [problem?]
  split_ifs with empty misfiled raw contrasted
  · exact ⟨nofun, fun valid => (valid.counted empty).elim⟩
  · exact ⟨nofun, fun valid => by simp [valid.filed] at misfiled⟩
  · exact ⟨nofun, fun valid => by simp [valid.rawMean] at raw⟩
  · exact ⟨nofun, fun valid => by simp [valid.contrastedMean] at contrasted⟩
  · simp only [Bool.not_eq_true', Bool.not_eq_false] at misfiled raw contrasted
    exact ⟨fun _ => ⟨empty, misfiled, raw, contrasted⟩, fun _ => rfl⟩

theorem MonthGroup.problem?_eq_none_iff (group : MonthGroup) :
    group.problem? = none ↔ group.Valid := by
  have labels : firstDisorder? (fun a b => decide (a < b)) (group.buckets.map (·.label)) = none ↔
      group.buckets.Pairwise fun a b => a.label < b.label := by
    rw [firstDisorder?_eq_none_iff (fun a b : Date => a < b) Int.lt_trans, List.pairwise_map]
  rw [problem?]
  split
  · rename_i first second disorder
    exact ⟨nofun, fun valid => by simp [labels.mpr valid.ordered] at disorder⟩
  · rename_i ordered
    simp only [List.findSome?_eq_none_iff, Bucket.problem?_eq_none_iff]
    exact ⟨fun each => ⟨labels.mp ordered, each⟩, fun valid => valid.buckets⟩

theorem Calendar.YearMonth.lt_trans {a b c : YearMonth} (first : a < b) (second : b < c) :
    a < c := by
  change a.year < b.year ∨ a.year = b.year ∧ a.month < b.month at first
  change b.year < c.year ∨ b.year = c.year ∧ b.month < c.month at second
  change a.year < c.year ∨ a.year = c.year ∧ a.month < c.month
  omega

namespace Hierarchy

variable {least greatest : Float}

theorem problem?_eq_none_iff (tree : Hierarchy) :
    tree.problem? least greatest = none ↔ tree.Valid least greatest := by
  have months : firstDisorder? (fun a b => decide (a < b)) (tree.months.map (·.month)) = none ↔
      tree.months.Pairwise fun a b => a.month < b.month := by
    rw [firstDisorder?_eq_none_iff (fun a b : YearMonth => a < b) YearMonth.lt_trans,
      List.pairwise_map]
  rw [problem?]
  split_ifs with outside different
  · exact ⟨nofun, fun valid => by simp [valid.trunk] at outside⟩
  · exact ⟨nofun, fun valid => (different valid.total).elim⟩
  · rw [Bool.not_eq_true', Bool.not_eq_false] at outside
    split
    · rename_i first second disorder
      exact ⟨nofun, fun valid => by simp [months.mpr valid.ordered] at disorder⟩
    · rename_i ordered
      simp only [List.findSome?_eq_none_iff, MonthGroup.problem?_eq_none_iff]
      exact ⟨fun each => ⟨outside, Decidable.not_not.mp different, months.mp ordered, each⟩,
        fun valid => valid.months⟩

/-- The check accepts exactly the valid trees. -/
theorem validate_eq_ok_iff (tree : Hierarchy) :
    tree.validate least greatest = .ok () ↔ tree.Valid least greatest := by
  rw [← problem?_eq_none_iff, validate]
  split
  · rename_i problem broken
    simp [broken]
  · rename_i sound
    simp [sound]

end Hierarchy

end SentimentTree
