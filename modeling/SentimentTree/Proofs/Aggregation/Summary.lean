import SentimentTree.Proofs.Aggregation.Months
import SentimentTree.Proofs.Aggregation.Totals
import SentimentTree.Proofs.Hierarchy.Counts

/-! # A tree sums up its messages

The buckets of an aggregated tree, month after month, are the buckets that the dates of the messages
fall into, each once and in order of time, and each describes exactly the messages dated between its
ends. `Bucket.Summarizes` says what describing means, from the list of those messages alone. Every
message is counted once, whatever the order in which the messages come.
-/

namespace SentimentTree

open Calendar

variable {power : Float → Float → Float} {settings : AggregationSettings}
  {messages : List ScoredMessage} {tree : Hierarchy}

/-- The buckets of totals; a total that counts nothing has none. -/
def bucketsOf (power : Float → Float → Float) (settings : AggregationSettings)
    (totals : List BucketTotal) : List Bucket :=
  (totals.filter fun total => total.count != 0).map (·.toBucket power settings)

/-- Aggregation succeeds with the tree of the totals, once settings and messages are accepted. -/
theorem aggregate_eq_ok_iff :
    aggregate power settings messages = .ok tree ↔
      settings.validate = .ok () ∧ ∃ totals, collect settings.frequency messages = .ok totals ∧
        tree.months = groupByMonth (bucketsOf power settings totals) ∧
        tree.totalMonths = tree.months.length ∧
        tree.trunkHeight = trunkHeight (UInt64.ofNat tree.months.length) settings.maxTreeHeight
          settings.minTrunkHeight settings.maxTrunkHeight := by
  rcases tree with ⟨height, total, months⟩
  simp only [aggregate, bind, Except.bind, pure, Except.pure]
  cases settings.validate with
  | error problem => simp
  | ok _ =>
    cases collect settings.frequency messages with
    | error problem => simp
    | ok totals =>
      simp only [Except.ok.injEq, Hierarchy.mk.injEq, true_and, exists_eq_left', bucketsOf]
      constructor
      · rintro ⟨rfl, rfl, rfl⟩
        exact ⟨rfl, rfl, rfl⟩
      · rintro ⟨rfl, rfl, rfl⟩
        exact ⟨rfl, rfl, rfl⟩

theorem exists_aggregate_of_collect {totals : List BucketTotal}
    (accepted : settings.validate = .ok ())
    (collected : collect settings.frequency messages = .ok totals) :
    ∃ tree, aggregate power settings messages = .ok tree ∧
      tree.months = groupByMonth (bucketsOf power settings totals) := by
  simp only [aggregate, accepted, collected, bind, Except.bind, pure, Except.pure]
  exact ⟨_, rfl, rfl⟩

theorem aggregate_of_collect_error {problem : AggregationProblem}
    (accepted : settings.validate = .ok ())
    (stopped : collect settings.frequency messages = .error problem) :
    aggregate power settings messages = .error problem := by
  simp only [aggregate, accepted, stopped, bind, Except.bind]

theorem buckets_of_months {totals : List BucketTotal}
    (months : tree.months = groupByMonth (bucketsOf power settings totals)) :
    tree.buckets = bucketsOf power settings totals := by
  rw [Hierarchy.buckets, months, groupByMonth_flatMap]

/-! ## Counts -/

/-- With fewer than `2 ^ 64` messages every bucket that was opened counts at least one. -/
theorem Tallies.bucketsOf_eq_map {totals : List BucketTotal}
    (tallies : Tallies settings.frequency messages totals) (short : messages.length < 2 ^ 64) :
    bucketsOf power settings totals = totals.map (·.toBucket power settings) := by
  have counted : ∀ total ∈ totals, (total.count != 0) = true := by
    intro total present
    obtain ⟨size, positive⟩ := tallies.count_toNat short present
    simp only [bne_iff_ne, ne_eq, ← UInt64.toNat_inj, UInt64.toNat_zero]
    omega
  rw [bucketsOf, List.filter_eq_self.mpr counted]

/-- A tree that is grown from messages has as many. -/
theorem messageTotal_of_aggregate (short : messages.length < 2 ^ 64)
    (aggregated : aggregate power settings messages = .ok tree) :
    tree.messageTotal = messages.length := by
  obtain ⟨_, totals, collected, months, _⟩ := aggregate_eq_ok_iff.mp aggregated
  have tallies := collect_tallies collected
  rw [Hierarchy.messageTotal, buckets_of_months months, tallies.bucketsOf_eq_map short,
    List.map_map]
  exact tallies.sum_count short

theorem messageCount?_of_aggregate (short : messages.length < 2 ^ 64)
    (aggregated : aggregate power settings messages = .ok tree) :
    tree.messageCount?.map UInt64.toNat = some messages.length := by
  have fits : (UInt64.ofNat messages.length).toNat = messages.length :=
    UInt64.toNat_ofNat_of_lt' short
  rw [Hierarchy.messageCount?_eq_some_iff.mpr
    (fits.trans (messageTotal_of_aggregate short aggregated).symm), Option.map_some, fits]

/-! ## Summaries -/

/-- The bucket describes the messages: they are some, it is the bucket of each, and its numbers are
their number, the mean of their scores added up one after another, and what the settings make of
these. -/
structure Bucket.Summarizes (power : Float → Float → Float) (settings : AggregationSettings)
    (members : List ScoredMessage) (bucket : Bucket) : Prop where
  inhabited : members ≠ []
  bounds : ∀ member ∈ members,
    settings.frequency.bounds? member.timestamp.date = some (bucket.start, bucket.stop)
  label : bucket.label = settings.edge.pick bucket.start bucket.stop
  count : bucket.count.toNat = members.length
  rawMean : bucket.rawMean = Numeric.clampUnit
    ((members.map (·.score)).foldl (· + ·) 0.0 / bucket.count.toFloat)
  contrastedMean : bucket.contrastedMean =
    contrast (.floating power) bucket.rawMean settings.contrastFactor
  normalizedCount : bucket.normalizedCount = if settings.normalizedCount then
    some (Numeric.logOnePlus bucket.count.toFloat * 5.0) else none
  rawCount : bucket.rawCount = if settings.rawCount then some bucket.count else none

private theorem Tallies.summarizes {totals : List BucketTotal}
    (tallies : Tallies settings.frequency messages totals) (short : messages.length < 2 ^ 64)
    {total : BucketTotal} (present : total ∈ totals) :
    (total.toBucket power settings).Summarizes power settings
      (messagesBetween total.start total.stop messages) where
  inhabited := tallies.between_ne_nil present
  bounds := fun _ member =>
    (tallies.bounds?_iff present _).mpr (mem_messagesBetween.mp member).2
  label := rfl
  count := (tallies.count_toNat short present).1
  rawMean := by
    have sum := congrArg BucketTotal.sum (tallies.scores total present)
    change Numeric.clampUnit (total.sum / total.count.toFloat) = _
    rw [sum]
    rfl
  contrastedMean := rfl
  normalizedCount := rfl
  rawCount := rfl

/-- The buckets of an aggregated tree are one for each bucket that a message falls into, in order of
time; each describes the messages between its ends, and no message is lost or counted twice. -/
theorem aggregate_summarizes (short : messages.length < 2 ^ 64)
    (aggregated : aggregate power settings messages = .ok tree) :
    tree.buckets.Pairwise (fun a b => a.start < b.start) ∧
    (∀ first last, (∃ bucket ∈ tree.buckets, bucket.start = first ∧ bucket.stop = last) ↔
      ∃ message ∈ messages,
        settings.frequency.bounds? message.timestamp.date = some (first, last)) ∧
    (∀ bucket ∈ tree.buckets,
      bucket.Summarizes power settings (messagesBetween bucket.start bucket.stop messages)) ∧
    tree.messageCount?.map UInt64.toNat = some messages.length := by
  obtain ⟨_, totals, collected, months, _⟩ := aggregate_eq_ok_iff.mp aggregated
  have tallies := collect_tallies collected
  have buckets : tree.buckets = totals.map (·.toBucket power settings) := by
    rw [buckets_of_months months, tallies.bucketsOf_eq_map short]
  refine ⟨?_, ?_, ?_, messageCount?_of_aggregate short aggregated⟩
  · rw [buckets, List.pairwise_map]
    exact tallies.ordered
  · intro first last
    simp only [buckets, List.mem_map, exists_exists_and_eq_and]
    constructor
    · rintro ⟨total, present, rfl, rfl⟩
      exact tallies.occupied total present
    · rintro ⟨message, member, bounds⟩
      obtain ⟨total, present, own⟩ := tallies.placed message member
      obtain ⟨same, sameLast⟩ := Prod.mk.inj (Option.some.inj (own.symm.trans bounds))
      exact ⟨total, present, same, sameLast⟩
  · intro bucket member
    rw [buckets] at member
    obtain ⟨total, present, rfl⟩ := List.mem_map.mp member
    exact tallies.summarizes short present

/-- Three messages of two weeks, the later week first: of 2024-02-05, 2024-01-30 and 2024-02-01. -/
def twoWeeks : List ScoredMessage :=
  [.withScore (.midnight ⟨739286, by decide, by decide⟩) "late" true 0.25,
    .withScore (.midnight ⟨739280, by decide, by decide⟩) "early" true 0.75,
    .withScore (.midnight ⟨739282, by decide, by decide⟩) "soon after" false 0.9]

theorem aggregate_summarizes_twoWeeks :
    ∃ tree, twoWeeks.length < 2 ^ 64 ∧
      aggregate (fun base _ => base) { contrastFactor := 1.0 } twoWeeks = .ok tree ∧
      tree.buckets.map (·.count) = [2, 1] ∧ tree.buckets.map (·.rawMean) = [0.625, 0.25] ∧
      (∀ bucket ∈ tree.buckets, bucket.Summarizes (fun base _ => base) { contrastFactor := 1.0 }
        (messagesBetween bucket.start bucket.stop twoWeeks)) ∧
      tree.messageCount?.map UInt64.toNat = some twoWeeks.length := by
  have aggregated : ∃ tree,
      aggregate (fun base _ => base) { contrastFactor := 1.0 } twoWeeks = .ok tree ∧
      tree.buckets.map (·.count) = [2, 1] ∧ tree.buckets.map (·.rawMean) = [0.625, 0.25] :=
    ⟨_, rfl, by decide +kernel, by decide +kernel⟩
  obtain ⟨tree, ok, counts, means⟩ := aggregated
  obtain ⟨_, _, summaries, total⟩ := aggregate_summarizes (by decide) ok
  exact ⟨tree, by decide, ok, counts, means, summaries, total⟩

end SentimentTree
