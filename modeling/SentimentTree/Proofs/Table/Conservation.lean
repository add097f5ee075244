import SentimentTree.Proofs.Aggregation.Validity
import SentimentTree.Proofs.Table.Row
import SentimentTree.Proofs.Word.Decoding
import SentimentTree.Proofs.Word.Nesting
import SentimentTree.Proofs.Word.Produce

/-! # Rows are conserved

Every row of a table that becomes a tree is counted in one fruit of the tree's word, and the word
shows nothing else: one fruit for each bucket that a date falls into, in order of time, with the
number of rows dated in it, and one trunk segment for each month that a bucket is filed under. Both
sides are read independently, one off the letters of the word and the other off the dates of the
rows, through validation, counting, grouping by month and drawing.
-/

namespace SentimentTree

open Calendar

variable {power : Float → Float → Float} {settings : AggregationSettings} {frequency : Frequency}
  {rows : List MessageRow} {messages : List ScoredMessage} {totals : List BucketTotal}
  {tree : Hierarchy} {geometry : Geometry}

/-! ## The buckets of dates -/

/-- The first and the last day of the bucket that a row's date falls into. -/
def MessageRow.period? (frequency : Frequency) (row : MessageRow) : Option (Date × Date) :=
  match row.timestamp with
  | .ok time => frequency.bounds? time.date
  | .error _ => none

/-- The buckets that the dates of the rows fall into, one for each row that has one. -/
def rowPeriods (frequency : Frequency) (rows : List MessageRow) : List (Date × Date) :=
  rows.filterMap (·.period? frequency)

/-- The month that a bucket between two days is filed under. -/
def Calendar.BucketEdge.month (edge : BucketEdge) (period : Date × Date) : YearMonth :=
  .ofDate (edge.pick period.1 period.2)

/-- The buckets of rows are those of the messages that the rows become. -/
theorem rowPeriods_eq (read : scoreRows rows = .ok messages) :
    rowPeriods frequency rows =
      messages.filterMap fun message => frequency.bounds? message.timestamp.date := by
  have related := scoreRows_eq_ok_iff.mp read
  clear read
  induction related with
  | nil => rfl
  | @cons row message rows messages scored _ ih =>
    have period : row.period? frequency = frequency.bounds? message.timestamp.date := by
      rw [MessageRow.period?, MessageRow.timestamp_of_scored scored]
    rw [rowPeriods] at ih ⊢
    rw [List.filterMap_cons, List.filterMap_cons, ih, period]

namespace Tallies

/-- The groups are as many as the months that the buckets are filed under. -/
theorem length_groupByMonth (tallies : Tallies settings.frequency messages totals)
    (short : messages.length < 2 ^ 64) :
    (groupByMonth (bucketsOf power settings totals)).length =
      ((totals.map (·.period)).map settings.edge.month).dedup.length := by
  have ordered : (bucketsOf power settings totals).Pairwise fun a b => a.label < b.label :=
    tallies.labels_ordered
  rw [groupByMonth_length (ordered.imp fun less => Int.le_of_lt less),
    tallies.bucketsOf_eq_map short, List.map_map, List.map_map]
  rfl

end Tallies

/-! ## The letters of the word -/

/-- All that a word shows is what the buckets of its tree show, one after the other. -/
theorem Hierarchy.flatten_readFruits_word (tree : Hierarchy) (geometry : Geometry) :
    (readFruits (tree.word geometry)).flatten = tree.buckets.map Bucket.shown := by
  rw [readFruits_word, buckets, List.map_flatMap, List.flatMap_def]

/-- The letters of a word of finite numbers: one for each bucket and one for each month. -/
theorem Hierarchy.RendersFinite.count_letters (finite : tree.RendersFinite geometry) :
    (tree.word geometry).count 'F' = tree.bucketCount ∧
      (tree.word geometry).count 'T' = tree.months.length := by
  obtain ⟨scan, ran, _, stats⟩ := checkWord_eq_ok_iff_run.mp finite.checkWord_eq
  have measures := (WordScan.tracks_of_run ran).stats
  rw [stats] at measures
  exact ⟨measures.fruits.symm, measures.segments.symm⟩

/-! ## From rows to fruits -/

/-- The fruits of the word count the rows by the buckets of their dates, in order of time, and none
is lost: the numbers in the fruits add up to the number of rows, as long as a count can hold it.
There is a fruit for each bucket that a date falls into and a trunk segment for each month that such
a bucket is filed under, and the check of the word reports these numbers. -/
theorem word_conserves_rows (short : rows.length < 2 ^ 64) (read : scoreRows rows = .ok messages)
    (aggregated : aggregate power settings messages = .ok tree)
    (finite : tree.RendersFinite geometry) :
    (∃ periods : List (Date × Date), periods.Perm (rowPeriods settings.frequency rows).dedup ∧
      periods.Pairwise (fun a b => a.2 < b.1) ∧
      (readFruits (tree.word geometry)).flatten.map (·.2) =
        periods.map fun period => (rowPeriods settings.frequency rows).count period) ∧
    ((readFruits (tree.word geometry)).flatten.map (·.2)).sum = rows.length ∧
    (tree.word geometry).count 'F' = (rowPeriods settings.frequency rows).dedup.length ∧
    (tree.word geometry).count 'T' =
      ((rowPeriods settings.frequency rows).map settings.edge.month).dedup.length ∧
    ∃ stats, checkWord (tree.word geometry) = .ok stats ∧
      stats.fruits = (rowPeriods settings.frequency rows).dedup.length ∧
      stats.segments =
        ((rowPeriods settings.frequency rows).map settings.edge.month).dedup.length := by
  obtain ⟨_, totals, collected, months, _⟩ := aggregate_eq_ok_iff.mp aggregated
  have tallies := collect_tallies collected
  have length := (scoreRows_eq_ok_iff.mp read).length_eq
  rw [length] at short
  have buckets : tree.buckets = totals.map (·.toBucket power settings) := by
    rw [buckets_of_months months, tallies.bucketsOf_eq_map short]
  have periods := tallies.periods_perm
  have placed := tallies.length_periods
  have counts := fun (total : BucketTotal) (present : total ∈ totals) =>
    tallies.count_eq short present
  rw [← rowPeriods_eq read] at periods placed
  simp only [← rowPeriods_eq read] at counts
  have shown : (readFruits (tree.word geometry)).flatten.map (·.2) =
      (totals.map (·.period)).map fun period =>
        (rowPeriods settings.frequency rows).count period := by
    rw [tree.flatten_readFruits_word, buckets, List.map_map, List.map_map, List.map_map]
    exact List.map_congr_left counts
  have fruits : tree.bucketCount = (rowPeriods settings.frequency rows).dedup.length := by
    rw [Hierarchy.bucketCount, buckets, List.length_map, ← periods.length_eq, List.length_map]
  have segments : tree.months.length =
      ((rowPeriods settings.frequency rows).map settings.edge.month).dedup.length := by
    rw [months, tallies.length_groupByMonth short]
    exact length_dedup_map_congr _ fun period => by rw [periods.mem_iff, List.mem_dedup]
  obtain ⟨f, t⟩ := finite.count_letters
  refine ⟨⟨_, periods, tallies.periods_ordered, shown⟩, ?_, f.trans fruits, t.trans segments,
    _, finite.checkWord_eq, fruits, segments⟩
  calc ((readFruits (tree.word geometry)).flatten.map (·.2)).sum
      = ((rowPeriods settings.frequency rows).dedup.map fun period =>
          (rowPeriods settings.frequency rows).count period).sum := by
        rw [shown, (periods.map _).sum_eq]
    _ = (rowPeriods settings.frequency rows).length := by
        -- the library compares members by deciding equality, which is the same for pairs of days
        convert List.sum_map_count_dedup_eq_length (rowPeriods settings.frequency rows)
        rfl
    _ = rows.length := placed.trans length.symm

/-- Rows of 2024-02-05, 2024-01-30 and 2024-02-01, the last without anything to analyze. -/
def threeRows : List MessageRow :=
  [{ sentAt := some (.millis 1707091200000), analyzable := some true, score := some 0.25 },
    { sentAt := some (.millis 1706572800000), analyzable := some true, sentiment := some "pos"
      certainty := some 0.75 },
    { sentAt := some (.millis 1706745600000), analyzable := some false }]

/-- The earlier week starts in one month and ends in the next. -/
theorem word_conserves_rows_threeRows : ∃ messages tree, threeRows.length < 2 ^ 64 ∧
    scoreRows threeRows = .ok messages ∧
    aggregate (fun base _ => base) { edge := .first } messages = .ok tree ∧
    tree.RendersFinite {} ∧
    (∃ periods : List (Date × Date), periods.Pairwise (fun a b => a.2 < b.1) ∧
      (readFruits (tree.word {})).flatten.map (·.2) =
        periods.map fun period => (rowPeriods (.weekly .sunday) threeRows).count period) ∧
    ((readFruits (tree.word {})).flatten.map (·.2)).sum = 3 ∧
    (tree.word {}).count 'F' = 2 ∧ (tree.word {}).count 'T' = 2 := by
  have grown : ∃ messages tree, scoreRows threeRows = .ok messages ∧
      aggregate (fun base _ => base) { edge := .first } messages = .ok tree ∧
      checkWord (tree.word {}) = .ok ⟨2, 2, 2, 2⟩ := ⟨_, _, rfl, rfl, by decide +kernel⟩
  obtain ⟨messages, tree, read, aggregated, checked⟩ := grown
  have finite := Hierarchy.rendersFinite_of_checkWord checked
  obtain ⟨⟨periods, _, ordered, shown⟩, sum, fruits, segments, _⟩ :=
    word_conserves_rows (by decide) read aggregated finite
  exact ⟨messages, tree, by decide, read, aggregated, finite, ⟨periods, ordered, shown⟩, sum,
    fruits.trans (by decide +kernel), segments.trans (by decide +kernel)⟩

end SentimentTree
