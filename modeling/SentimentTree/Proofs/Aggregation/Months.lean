import Mathlib.Data.List.Chain
import Mathlib.Data.List.Dedup
import Mathlib.Data.List.Forall2
import SentimentTree.Aggregation.Tree
import SentimentTree.Proofs.Calendar.Buckets

/-! # Grouping by month

Grouping loses and reorders no bucket, leaves no group empty and files each bucket under the month
of its label. It only looks at neighbours; that it never opens a month twice is a fact about ordered
labels, because the month of a later day is never an earlier month.
-/

namespace SentimentTree

open Calendar

namespace Calendar.YearMonth

theorem lt_iff (a b : YearMonth) :
    a < b ↔ a.year < b.year ∨ a.year = b.year ∧ a.month < b.month := Iff.rfl

theorem ne_of_lt {a b : YearMonth} (before : a < b) : a ≠ b := by
  rintro rfl
  rw [lt_iff] at before
  omega

theorem holds_iff (month : YearMonth) (date : Date) :
    month.holds date = true ↔ ofDate date = month := by
  rcases month with ⟨year, month⟩
  simp [holds, ofDate]

/-- A later day is never in an earlier month. -/
theorem ofDate_mono {a b : Date} (le : a ≤ b) : ofDate a = ofDate b ∨ ofDate a < ofDate b := by
  have earlier := a.number_inMonth
  have later := b.number_inMonth
  rw [Date.le_iff] at le
  rw [monthStart] at earlier later
  rw [monthEnd_eq _ a.one_le_month a.month_le] at earlier
  rw [monthEnd_eq _ b.one_le_month b.month_le] at later
  have years : a.year ≤ b.year := by
    have first := (yearOfDay_eq_iff a.number a.year).mp rfl
    have second := (yearOfDay_eq_iff b.number b.year).mp rfl
    by_contra after
    have := daysBeforeYear_mono (show b.year + 1 ≤ a.year by omega)
    omega
  have months : a.year = b.year → a.month ≤ b.month := by
    intro same
    by_contra after
    rw [same] at earlier
    have := daysBeforeMonth_mono (isLeap b.year) (show b.month + 1 ≤ a.month by omega)
    omega
  rw [lt_iff]
  by_cases sameYear : a.year = b.year
  · by_cases sameMonth : a.month = b.month
    · left
      simp only [ofDate, sameYear, sameMonth]
    · right
      have := months sameYear
      exact .inr ⟨sameYear, by change a.month < b.month; omega⟩
  · right
    exact .inl (by change a.year < b.year; omega)

/-- A day of an earlier month is an earlier day. -/
theorem lt_of_ofDate_lt {a b : Date} (less : ofDate a < ofDate b) : a < b := by
  by_contra notBefore
  have later : b ≤ a := Int.not_lt.mp notBefore
  rw [lt_iff] at less
  rcases ofDate_mono later with same | before
  · rw [same] at less
    omega
  · rw [lt_iff] at before
    omega

end Calendar.YearMonth

namespace MonthGroup

private theorem consBucket_flatMap (bucket : Bucket) (month : YearMonth)
    (groups : List MonthGroup) :
    (consBucket bucket month groups).flatMap (·.buckets) =
      bucket :: groups.flatMap (·.buckets) := by
  unfold consBucket
  split
  · split <;> simp
  · rfl

private theorem consBucket_nonempty {bucket : Bucket} {month : YearMonth} {groups : List MonthGroup}
    (nonempty : ∀ group ∈ groups, group.buckets ≠ []) :
    ∀ group ∈ consBucket bucket month groups, group.buckets ≠ [] := by
  unfold consBucket
  split
  · split <;> simp_all
  · simp

private theorem consBucket_filed {bucket : Bucket} {groups : List MonthGroup}
    (filed : ∀ group ∈ groups,
      ∀ bucket ∈ group.buckets, YearMonth.ofDate bucket.label = group.month) :
    ∀ group ∈ consBucket bucket (.ofDate bucket.label) groups,
      ∀ bucket ∈ group.buckets, YearMonth.ofDate bucket.label = group.month := by
  unfold consBucket
  split
  · split
    · rename_i head rest same
      intro group member
      rcases List.mem_cons.mp member with rfl | member
      · intro other present
        rcases List.mem_cons.mp present with rfl | present
        · rfl
        · exact (filed head List.mem_cons_self other present).trans same
      · exact filed group (List.mem_cons_of_mem _ member)
    · intro group member
      rcases List.mem_cons.mp member with rfl | member
      · simp
      · exact filed group member
  · simp

/-- A bucket that is not after the months already there keeps them in order. -/
theorem consBucket_ordered {bucket : Bucket} {month : YearMonth} {groups : List MonthGroup}
    (ordered : groups.Pairwise fun a b => a.month < b.month)
    (first : ∀ group ∈ groups, month = group.month ∨ month < group.month) :
    (consBucket bucket month groups).Pairwise fun a b => a.month < b.month := by
  unfold consBucket
  split
  · rename_i head rest
    obtain ⟨headFirst, restOrdered⟩ := List.pairwise_cons.mp ordered
    split
    · rename_i same
      exact List.pairwise_cons.mpr
        ⟨fun other member => same ▸ headFirst other member, restOrdered⟩
    · rename_i different
      have before : month < head.month :=
        (first head List.mem_cons_self).resolve_left (Ne.symm different)
      refine List.pairwise_cons.mpr ⟨?_, ordered⟩
      intro other member
      rcases List.mem_cons.mp member with rfl | member
      · exact before
      · have after := headFirst other member
        simp only [YearMonth.lt_iff] at before after ⊢
        omega
  · exact List.pairwise_singleton _ _

/-- A bucket opens a group of its own only in front of a group of another month. -/
theorem consBucket_apart {bucket : Bucket} {month : YearMonth} {groups : List MonthGroup}
    (apart : groups.IsChain fun a b => a.month ≠ b.month) :
    (consBucket bucket month groups).IsChain fun a b => a.month ≠ b.month := by
  unfold consBucket
  split
  · split
    · rename_i head rest same
      obtain ⟨first, rest⟩ := List.isChain_cons.mp apart
      refine List.isChain_cons.mpr ⟨?_, rest⟩
      intro next member
      exact same ▸ first next member
    · rename_i different
      exact List.isChain_cons_cons.mpr ⟨Ne.symm different, apart⟩
  · exact List.isChain_singleton _

/-- The groups have the same month and as many buckets, each related to the other's. -/
structure Alike (related : Bucket → Bucket → Prop) (group other : MonthGroup) : Prop where
  month : group.month = other.month
  buckets : List.Forall₂ related group.buckets other.buckets

private theorem consBucket_alike {related : Bucket → Bucket → Prop} {bucket other : Bucket}
    {month : YearMonth} {groups others : List MonthGroup} (first : related bucket other)
    (alike : List.Forall₂ (Alike related) groups others) :
    List.Forall₂ (Alike related) (consBucket bucket month groups)
      (consBucket other month others) := by
  cases alike with
  | nil => exact .cons ⟨rfl, .cons first .nil⟩ .nil
  | cons head rest =>
    rw [consBucket, consBucket, ← head.month]
    split
    · exact .cons ⟨rfl, .cons first head.buckets⟩ rest
    · exact .cons ⟨rfl, .cons first .nil⟩ (.cons head rest)

end MonthGroup

@[simp] theorem groupByMonth_nil : groupByMonth [] = [] := rfl

private theorem groupByMonth_cons (bucket : Bucket) (rest : List Bucket) :
    groupByMonth (bucket :: rest) =
      MonthGroup.consBucket bucket (.ofDate bucket.label) (groupByMonth rest) := rfl

/-- The grouping sees the months of the labels only: where these are the same, whatever relates the
buckets relates those of the groups. -/
theorem groupByMonth_alike {related : Bucket → Bucket → Prop} {buckets others : List Bucket}
    (pairs : List.Forall₂ (fun bucket other => related bucket other ∧
      YearMonth.ofDate bucket.label = .ofDate other.label) buckets others) :
    List.Forall₂ (MonthGroup.Alike related) (groupByMonth buckets) (groupByMonth others) := by
  induction pairs with
  | nil => exact .nil
  | cons first _ ih =>
    rw [groupByMonth_cons, groupByMonth_cons, first.2]
    exact MonthGroup.consBucket_alike first.1 ih

/-- The groups hold the buckets, all of them, in their order. -/
theorem groupByMonth_flatMap (buckets : List Bucket) :
    (groupByMonth buckets).flatMap (·.buckets) = buckets := by
  induction buckets with
  | nil => rfl
  | cons bucket rest ih => rw [groupByMonth_cons, MonthGroup.consBucket_flatMap, ih]

theorem groupByMonth_nonempty (buckets : List Bucket) :
    ∀ group ∈ groupByMonth buckets, group.buckets ≠ [] := by
  induction buckets with
  | nil => simp
  | cons bucket rest ih =>
    rw [groupByMonth_cons]
    exact MonthGroup.consBucket_nonempty ih

/-- The label of a bucket lies in the month of its group. -/
theorem groupByMonth_filed (buckets : List Bucket) :
    ∀ group ∈ groupByMonth buckets, ∀ bucket ∈ group.buckets,
      YearMonth.ofDate bucket.label = group.month := by
  induction buckets with
  | nil => simp
  | cons bucket rest ih =>
    rw [groupByMonth_cons]
    exact MonthGroup.consBucket_filed ih

/-- Groups that follow each other have different months. -/
theorem groupByMonth_apart (buckets : List Bucket) :
    (groupByMonth buckets).IsChain fun a b => a.month ≠ b.month := by
  induction buckets with
  | nil => exact List.isChain_nil
  | cons bucket rest ih =>
    rw [groupByMonth_cons]
    exact MonthGroup.consBucket_apart ih

theorem mem_of_mem_groupByMonth {buckets : List Bucket} {group : MonthGroup}
    (member : group ∈ groupByMonth buckets) {bucket : Bucket} (inside : bucket ∈ group.buckets) :
    bucket ∈ buckets := by
  rw [← groupByMonth_flatMap buckets]
  exact List.mem_flatMap.mpr ⟨group, member, inside⟩

/-- A group's month is the month of the label of one of the buckets. -/
private theorem exists_label_of_mem_groupByMonth {buckets : List Bucket} {group : MonthGroup}
    (member : group ∈ groupByMonth buckets) :
    ∃ bucket ∈ buckets, YearMonth.ofDate bucket.label = group.month := by
  obtain ⟨bucket, inside⟩ := List.exists_mem_of_ne_nil _ (groupByMonth_nonempty buckets _ member)
  exact ⟨bucket, mem_of_mem_groupByMonth member inside,
    groupByMonth_filed buckets group member bucket inside⟩

/-- Labels that never go back open each month once, in order of time. -/
theorem groupByMonth_ordered {buckets : List Bucket}
    (labels : buckets.Pairwise fun a b => a.label ≤ b.label) :
    (groupByMonth buckets).Pairwise fun a b => a.month < b.month := by
  induction buckets with
  | nil => exact List.Pairwise.nil
  | cons bucket rest ih =>
    obtain ⟨first, restLabels⟩ := List.pairwise_cons.mp labels
    rw [groupByMonth_cons]
    refine MonthGroup.consBucket_ordered (ih restLabels) ?_
    intro group member
    obtain ⟨other, present, month⟩ := exists_label_of_mem_groupByMonth member
    rw [← month]
    exact YearMonth.ofDate_mono (first other present)

/-- Every label has a group for its month. -/
private theorem exists_group_of_mem {buckets : List Bucket} {bucket : Bucket}
    (member : bucket ∈ buckets) :
    ∃ group ∈ groupByMonth buckets, group.month = .ofDate bucket.label := by
  rw [← groupByMonth_flatMap buckets] at member
  obtain ⟨group, present, inside⟩ := List.mem_flatMap.mp member
  exact ⟨group, present, (groupByMonth_filed buckets group present bucket inside).symm⟩

/-- Of labels that never go back the months of the groups are the months there are, each once. -/
theorem groupByMonth_months_perm {buckets : List Bucket}
    (labels : buckets.Pairwise fun a b => a.label ≤ b.label) :
    ((groupByMonth buckets).map (·.month)).Perm
      (buckets.map fun bucket => YearMonth.ofDate bucket.label).dedup := by
  have distinct : ((groupByMonth buckets).map (·.month)).Nodup := by
    rw [List.Nodup, List.pairwise_map]
    exact (groupByMonth_ordered labels).imp YearMonth.ne_of_lt
  refine (List.perm_ext_iff_of_nodup distinct (List.nodup_dedup _)).mpr fun month => ?_
  rw [List.mem_dedup, List.mem_map, List.mem_map]
  constructor
  · rintro ⟨group, member, rfl⟩
    exact exists_label_of_mem_groupByMonth member
  · rintro ⟨bucket, member, rfl⟩
    exact exists_group_of_mem member

/-- Of labels that never go back there are as many groups as months. -/
theorem groupByMonth_length {buckets : List Bucket}
    (labels : buckets.Pairwise fun a b => a.label ≤ b.label) :
    (groupByMonth buckets).length =
      (buckets.map fun bucket => YearMonth.ofDate bucket.label).dedup.length := by
  have months := (groupByMonth_months_perm labels).length_eq
  rwa [List.length_map] at months

/-- Buckets of one month in front of buckets that do not start with that month are one group. -/
private theorem groupByMonth_append_of_filed {run rest : List Bucket} {month : YearMonth}
    (nonempty : run ≠ []) (filed : ∀ bucket ∈ run, YearMonth.ofDate bucket.label = month)
    (apart : ∀ group ∈ (groupByMonth rest).head?, month ≠ group.month) :
    groupByMonth (run ++ rest) = ⟨month, run⟩ :: groupByMonth rest := by
  induction run with
  | nil => contradiction
  | cons bucket others ih =>
    obtain ⟨rfl, filed⟩ := List.forall_mem_cons.mp filed
    rw [List.cons_append, groupByMonth_cons]
    rcases eq_or_ne others [] with rfl | more
    · rw [List.nil_append]
      cases groups : groupByMonth rest with
      | nil => rfl
      | cons group later =>
        have different := apart group (by rw [groups]; rfl)
        rw [MonthGroup.consBucket, if_neg different.symm]
    · rw [ih more filed, MonthGroup.consBucket, if_pos rfl]

/-- Groups that are not empty, hold buckets of their month and differ in month from the next one
are the groups of their buckets. -/
theorem groupByMonth_of_groups {groups : List MonthGroup}
    (nonempty : ∀ group ∈ groups, group.buckets ≠ [])
    (filed : ∀ group ∈ groups, ∀ bucket ∈ group.buckets,
      YearMonth.ofDate bucket.label = group.month)
    (apart : groups.IsChain fun a b => a.month ≠ b.month) :
    groupByMonth (groups.flatMap (·.buckets)) = groups := by
  induction groups with
  | nil => rfl
  | cons group rest ih =>
    obtain ⟨some, others⟩ := List.forall_mem_cons.mp nonempty
    obtain ⟨own, filed⟩ := List.forall_mem_cons.mp filed
    obtain ⟨first, apart⟩ := List.isChain_cons.mp apart
    have grouped := ih others filed apart
    rw [List.flatMap_cons, groupByMonth_append_of_filed some own (grouped.symm ▸ first), grouped]

/-- The buckets of a group keep the order they had. -/
theorem groupByMonth_sublist (buckets : List Bucket) :
    ∀ group ∈ groupByMonth buckets, group.buckets.Sublist buckets := by
  intro group member
  have piece : group.buckets.Sublist ((groupByMonth buckets).flatMap (·.buckets)) :=
    List.sublist_flatten_of_mem (List.mem_map_of_mem (f := (·.buckets)) member)
  rwa [groupByMonth_flatMap] at piece

/-! ## Runs of a month -/

/-- The groups part the buckets into runs: all buckets in their order, each filed under the month of
its label, and a group goes on as long as its month does. -/
structure MonthRuns (buckets : List Bucket) (groups : List MonthGroup) : Prop where
  joined : groups.flatMap (·.buckets) = buckets
  nonempty : ∀ group ∈ groups, group.buckets ≠ []
  filed : ∀ group ∈ groups, ∀ bucket ∈ group.buckets, group.month.holds bucket.label = true
  apart : groups.IsChain fun a b => a.month ≠ b.month

private theorem monthRuns_groupByMonth (buckets : List Bucket) :
    MonthRuns buckets (groupByMonth buckets) where
  joined := groupByMonth_flatMap buckets
  nonempty := groupByMonth_nonempty buckets
  filed := by
    intro group member bucket inside
    rw [YearMonth.holds_iff]
    exact groupByMonth_filed buckets group member bucket inside
  apart := groupByMonth_apart buckets

private theorem MonthRuns.groupByMonth_eq {buckets : List Bucket} {groups : List MonthGroup}
    (runs : MonthRuns buckets groups) : groupByMonth buckets = groups := by
  rw [← runs.joined]
  refine groupByMonth_of_groups runs.nonempty ?_ runs.apart
  intro group member bucket inside
  exact (YearMonth.holds_iff _ _).mp (runs.filed group member bucket inside)

/-- Grouping finds the runs of buckets with labels in one month, whatever the order of the labels.
If the labels never go back, each group has a later month than the one before, so there are as many
groups as months that hold a label. -/
theorem groupByMonth_runs (buckets : List Bucket) :
    (∀ groups, groupByMonth buckets = groups ↔ MonthRuns buckets groups) ∧
    (buckets.Pairwise (fun a b => a.label ≤ b.label) →
      (groupByMonth buckets).Pairwise (fun a b => a.month < b.month) ∧
      (groupByMonth buckets).length =
        (buckets.map fun bucket => YearMonth.ofDate bucket.label).dedup.length) := by
  refine ⟨fun groups => ⟨?_, MonthRuns.groupByMonth_eq⟩, fun labels => ?_⟩
  · rintro rfl
    exact monthRuns_groupByMonth buckets
  · exact ⟨groupByMonth_ordered labels, groupByMonth_length labels⟩

/-- Buckets named by `2023-12-24`, twice by `2023-12-31`, and by the December day `2024-12-29`. -/
def twoDecembers : List Bucket :=
  [⟨739243, by decide, by decide⟩, ⟨739250, by decide, by decide⟩, ⟨739250, by decide, by decide⟩,
    ⟨739614, by decide, by decide⟩].map fun day => ⟨day, day, day, 1, 0.5, 0.5, none, none⟩

theorem groupByMonth_runs_twoDecembers :
    twoDecembers.Pairwise (fun a b => a.label ≤ b.label) ∧
    (groupByMonth twoDecembers).Pairwise (fun a b => a.month < b.month) ∧
    (groupByMonth twoDecembers).length = 2 := by
  have labels : twoDecembers.Pairwise fun a b => a.label ≤ b.label := by decide
  obtain ⟨ordered, length⟩ := (groupByMonth_runs twoDecembers).2 labels
  exact ⟨labels, ordered, length.trans (by decide +kernel)⟩

end SentimentTree
