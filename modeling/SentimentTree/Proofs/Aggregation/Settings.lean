import SentimentTree.Proofs.Aggregation.Summary
import SentimentTree.Proofs.Calendar.Edges
import SentimentTree.Proofs.Word.Decoding

/-! # What settings decide of a tree

Of its settings an aggregation looks at the frequency only to collect the messages. So under other
settings of the same frequency it stops over the same message, or it goes through with the same
buckets: their days, counts and raw means. The end that names a bucket decides its month, which
moves whole buckets from group to group and only for weeks, since a day and a month begin and end in
one month. A word shows no label, so for days and months it does not tell the ends apart either.
-/

namespace SentimentTree

open Calendar

variable {power : Float → Float → Float} {settings first second : AggregationSettings}
  {messages : List ScoredMessage} {totals : List BucketTotal}

/-! ## Buckets of the same totals -/

/-- The buckets sum up the same days, with the same count and the same mean. -/
structure Bucket.SameSummary (a b : Bucket) : Prop where
  start : a.start = b.start
  stop : a.stop = b.stop
  count : a.count = b.count
  rawMean : a.rawMean = b.rawMean

namespace BucketTotal

variable (total : BucketTotal)

private theorem toBucket_sameSummary :
    (total.toBucket power first).SameSummary (total.toBucket power second) :=
  ⟨rfl, rfl, rfl, rfl⟩

/-- The contrast factor is all that a fruit shows of the settings. -/
theorem toBucket_sameFruit (factor : first.contrastFactor = second.contrastFactor) :
    (total.toBucket power first).SameFruit (total.toBucket power second) := by
  refine ⟨rfl, congrArg (Decimal.fixedText 2) ?_⟩
  change contrast (.floating power) total.mean first.contrastFactor =
    contrast (.floating power) total.mean second.contrastFactor
  rw [factor]

end BucketTotal

private theorem bucketsOf_forall₂ {related : Bucket → Bucket → Prop}
    (each : ∀ total ∈ totals, related (total.toBucket power first) (total.toBucket power second)) :
    List.Forall₂ related (bucketsOf power first totals) (bucketsOf power second totals) := by
  rw [bucketsOf, bucketsOf, List.forall₂_map_left_iff, List.forall₂_map_right_iff,
    List.forall₂_same]
  exact fun total member => each total (List.mem_filter.mp member).1

/-- Buckets of days or of months are filed under the same months, whichever end names them. -/
theorem Tallies.ofDate_label_eq (tallies : Tallies settings.frequency messages totals)
    (within : settings.frequency = .daily ∨ settings.frequency = .monthly) {total : BucketTotal}
    (present : total ∈ totals) :
    YearMonth.ofDate (total.toBucket power first).label =
      .ofDate (total.toBucket power second).label := by
  obtain ⟨_, _, placed⟩ := tallies.occupied total present
  have same := Frequency.ofDate_first_eq_last within placed
  change YearMonth.ofDate (first.edge.pick total.start total.stop) =
    .ofDate (second.edge.pick total.start total.stop)
  cases first.edge <;> cases second.edge <;> simp only [BucketEdge.pick, same]

private theorem Tallies.groups_alike (tallies : Tallies settings.frequency messages totals)
    (within : settings.frequency = .daily ∨ settings.frequency = .monthly)
    {related : Bucket → Bucket → Prop}
    (each : ∀ total : BucketTotal,
      related (total.toBucket power first) (total.toBucket power second)) :
    List.Forall₂ (MonthGroup.Alike related) (groupByMonth (bucketsOf power first totals))
      (groupByMonth (bucketsOf power second totals)) :=
  groupByMonth_alike (bucketsOf_forall₂ fun total present =>
    ⟨each total, tallies.ofDate_label_eq within present⟩)

/-! ## Two runs -/

/-- Under accepted settings of the same frequency two aggregations of the same messages fail alike,
or yield trees whose buckets, taken in order, sum up the same days with the same counts and raw
means. Buckets of days and of months are also grouped alike, and show the same word if the contrast
is the same. -/
theorem aggregate_settings_agree (accepted : first.validate = .ok ())
    (accepted' : second.validate = .ok ()) (same : first.frequency = second.frequency) :
    (∃ problem, aggregate power first messages = .error problem ∧
      aggregate power second messages = .error problem) ∨
    ∃ tree other, aggregate power first messages = .ok tree ∧
      aggregate power second messages = .ok other ∧
      List.Forall₂ Bucket.SameSummary tree.buckets other.buckets ∧
      (first.frequency = .daily ∨ first.frequency = .monthly →
        List.Forall₂ (MonthGroup.Alike Bucket.SameSummary) tree.months other.months ∧
        (first.contrastFactor = second.contrastFactor →
          ∀ geometry, tree.word geometry = other.word geometry)) := by
  cases collected : collect first.frequency messages with
  | error problem =>
    exact .inl ⟨problem, aggregate_of_collect_error accepted collected,
      aggregate_of_collect_error accepted' (same ▸ collected)⟩
  | ok totals =>
    obtain ⟨tree, aggregated, months⟩ := exists_aggregate_of_collect accepted collected
    obtain ⟨other, aggregated', months'⟩ :=
      exists_aggregate_of_collect accepted' (same ▸ collected)
    have tallies := collect_tallies collected
    refine .inr ⟨tree, other, aggregated, aggregated', ?_, fun within => ⟨?_, fun factor => ?_⟩⟩
    · rw [buckets_of_months months, buckets_of_months months']
      exact bucketsOf_forall₂ fun total _ => total.toBucket_sameSummary
    · rw [months, months']
      exact tallies.groups_alike within fun total => total.toBucket_sameSummary
    · intro geometry
      have fruits : List.Forall₂ (MonthGroup.Alike Bucket.SameFruit) tree.months other.months := by
        rw [months, months']
        exact tallies.groups_alike within fun total => total.toBucket_sameFruit factor
      exact wordFrom_congr (fruits.imp fun _ _ alike => alike.buckets)

/-- Messages of two months, summed up by months and by weeks under either end: a week that begins in
one month and ends in the next is filed under either of them, its summary stays. -/
theorem aggregate_settings_agree_twoWeeks :
    (∃ tree other,
      aggregate (fun base _ => base) { frequency := .monthly, edge := .first } twoWeeks =
        .ok tree ∧
      aggregate (fun base _ => base) { frequency := .monthly, maxTreeHeight := 100.0 } twoWeeks =
        .ok other ∧
      tree.buckets ≠ other.buckets ∧ ∀ geometry, tree.word geometry = other.word geometry) ∧
    ∃ tree other, aggregate (fun base _ => base) { edge := .first } twoWeeks = .ok tree ∧
      aggregate (fun base _ => base) {} twoWeeks = .ok other ∧
      tree.months.length = 2 ∧ other.months.length = 1 ∧
      List.Forall₂ Bucket.SameSummary tree.buckets other.buckets := by
  constructor
  · have runs : ∃ tree other,
        aggregate (fun base _ => base) { frequency := .monthly, edge := .first } twoWeeks =
          .ok tree ∧
        aggregate (fun base _ => base) { frequency := .monthly, maxTreeHeight := 100.0 } twoWeeks =
          .ok other ∧ tree.buckets ≠ other.buckets := ⟨_, _, rfl, rfl, by decide +kernel⟩
    obtain ⟨tree, other, run, rerun, different⟩ := runs
    rcases @aggregate_settings_agree (fun base _ => base) { frequency := .monthly, edge := .first }
      { frequency := .monthly, maxTreeHeight := 100.0 } twoWeeks (by decide +kernel)
      (by decide +kernel) rfl with ⟨problem, failed, -⟩ | ⟨_, _, ok, again, -, alike⟩
    · nomatch run.symm.trans failed
    · obtain rfl := Except.ok.inj (run.symm.trans ok)
      obtain rfl := Except.ok.inj (rerun.symm.trans again)
      exact ⟨_, _, run, rerun, different, (alike (.inr rfl)).2 rfl⟩
  · have runs : ∃ tree other, aggregate (fun base _ => base) { edge := .first } twoWeeks =
          .ok tree ∧ aggregate (fun base _ => base) {} twoWeeks = .ok other ∧
        tree.months.length = 2 ∧ other.months.length = 1 :=
      ⟨_, _, rfl, rfl, by decide +kernel, by decide +kernel⟩
    obtain ⟨tree, other, run, rerun, two, one⟩ := runs
    rcases @aggregate_settings_agree (fun base _ => base) { edge := .first } {} twoWeeks
      (by decide +kernel) (by decide +kernel) rfl with
      ⟨problem, failed, -⟩ | ⟨_, _, ok, again, same, -⟩
    · nomatch run.symm.trans failed
    · obtain rfl := Except.ok.inj (run.symm.trans ok)
      obtain rfl := Except.ok.inj (rerun.symm.trans again)
      exact ⟨_, _, run, rerun, two, one, same⟩

end SentimentTree
