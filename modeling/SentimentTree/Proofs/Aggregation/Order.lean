import Mathlib.Data.List.Rotate
import Mathlib.Logic.Equiv.Fin.Rotate
import SentimentTree.Proofs.Aggregation.Refusals
import SentimentTree.Proofs.Basic
import SentimentTree.Word.Produce

/-! # Messages in another order

Which messages come first decides nothing but the order in which the scores of a bucket are added
up, and rounding makes that order count. Everything else about a tree is the same for every order
of the messages. Where messages of one bucket keep their order among themselves, whatever messages
of other buckets come between them, the sums are added up alike and the trees are the same.
-/

namespace SentimentTree

open Calendar

variable {power : Float → Float → Float} {settings : AggregationSettings} {frequency : Frequency}
  {messages others : List ScoredMessage} {totals totals' : List BucketTotal}

/-! ## Trees without their means -/

/-- The total without the sum of its scores. -/
def BucketTotal.withoutSum (total : BucketTotal) : BucketTotal := { total with sum := 0.0 }

/-- The bucket without the two numbers that are made from the sum of its scores. -/
def Bucket.withoutMeans (bucket : Bucket) : Bucket :=
  { bucket with rawMean := 0.0, contrastedMean := 0.0 }

def MonthGroup.withoutMeans (group : MonthGroup) : MonthGroup :=
  { group with buckets := group.buckets.map (·.withoutMeans) }

def Hierarchy.withoutMeans (tree : Hierarchy) : Hierarchy :=
  { tree with months := tree.months.map (·.withoutMeans) }

/-- Means have no part in the grouping. -/
theorem map_withoutMeans_groupByMonth (buckets : List Bucket) :
    (groupByMonth buckets).map (·.withoutMeans) =
      groupByMonth (buckets.map (·.withoutMeans)) := by
  have pairs : List.Forall₂ (fun bucket other => bucket.withoutMeans = other ∧
      YearMonth.ofDate bucket.label = .ofDate other.label) buckets
      (buckets.map (·.withoutMeans)) := by
    rw [List.forall₂_map_right_iff, List.forall₂_same]
    exact fun _ _ => ⟨rfl, rfl⟩
  rw [← List.forall₂_eq_eq_eq, List.forall₂_map_left_iff]
  refine (groupByMonth_alike pairs).imp fun group other alike => ?_
  have same : group.buckets.map (·.withoutMeans) = other.buckets := by
    rw [← List.forall₂_eq_eq_eq, List.forall₂_map_left_iff]
    exact alike.buckets
  rw [MonthGroup.withoutMeans, same, alike.month]

private theorem map_withoutMeans_bucketsOf (totals : List BucketTotal) :
    (bucketsOf power settings totals).map (·.withoutMeans) =
      (bucketsOf power settings (totals.map (·.withoutSum))).map (·.withoutMeans) := by
  rw [bucketsOf, bucketsOf, List.filter_map, List.map_map, List.map_map, List.map_map]
  rfl

/-! ## Totals in another order -/

namespace Tallies

/-- The buckets that messages fall into do not depend on the order of the messages. -/
theorem periods_eq_of_perm (tallies : Tallies frequency messages totals)
    (tallies' : Tallies frequency others totals') (perm : messages.Perm others) :
    totals.map (·.period) = totals'.map (·.period) := by
  have ordered : (totals.map (·.period)).Pairwise fun a b => a.1 < b.1 :=
    List.pairwise_map.mpr tallies.ordered
  have ordered' : (totals'.map (·.period)).Pairwise fun a b => a.1 < b.1 :=
    List.pairwise_map.mpr tallies'.ordered
  refine List.Perm.eq_of_pairwise ?_ ordered ordered' ?_
  · exact fun a b _ _ before after => (Int.lt_asymm before after).elim
  · exact tallies.periods_perm.trans ((perm.filterMap _).dedup.trans tallies'.periods_perm.symm)

/-- The totals are told by their buckets and the messages in these. -/
theorem map_eq {β : Type} (tallies : Tallies frequency messages totals) (f : BucketTotal → β) :
    totals.map f = (totals.map (·.period)).map fun period => f (.ofScores period.1 period.2
      ((messagesBetween period.1 period.2 messages).map (·.score))) := by
  rw [List.map_map]
  exact List.map_congr_left fun total present => congrArg f (tallies.scores total present)

/-- Counts do not depend on the order of the messages. -/
theorem withoutSum_eq_of_perm (tallies : Tallies frequency messages totals)
    (tallies' : Tallies frequency others totals') (perm : messages.Perm others) :
    totals.map (·.withoutSum) = totals'.map (·.withoutSum) := by
  rw [tallies.map_eq, tallies'.map_eq, tallies.periods_eq_of_perm tallies' perm]
  refine List.map_congr_left fun period _ => ?_
  have lengths : (messagesBetween period.1 period.2 messages).length =
      (messagesBetween period.1 period.2 others).length := (perm.filter _).length_eq
  simp only [BucketTotal.withoutSum, BucketTotal.ofScores, List.length_map, lengths]

/-- Totals of messages that come in the same order within each bucket are the same. -/
theorem eq_of_perm (tallies : Tallies frequency messages totals)
    (tallies' : Tallies frequency others totals') (perm : messages.Perm others)
    (within : ∀ period ∈ totals.map (·.period),
      messagesBetween period.1 period.2 messages = messagesBetween period.1 period.2 others) :
    totals = totals' := by
  rw [← List.map_id totals, ← List.map_id totals', tallies.map_eq, tallies'.map_eq,
    ← tallies.periods_eq_of_perm tallies' perm]
  exact List.map_congr_left fun period present => by rw [within period present]

end Tallies

/-! ## Places in the order -/

/-- The messages fall into one bucket. -/
def ScoredMessage.SharesBucket (frequency : Frequency) (message other : ScoredMessage) : Prop :=
  ∃ bounds, frequency.bounds? message.timestamp.date = some bounds ∧
    frequency.bounds? other.timestamp.date = some bounds

instance (frequency : Frequency) (message other : ScoredMessage) :
    Decidable (message.SharesBucket frequency other) :=
  decidable_of_iff (∃ bounds ∈ frequency.bounds? message.timestamp.date,
    frequency.bounds? other.timestamp.date = some bounds) Iff.rfl

/-- The messages are moved to other places, but of two messages in one bucket the earlier one stays
before the later one. -/
structure KeepsBucketOrder (frequency : Frequency) (messages others : List ScoredMessage)
    (place : Fin messages.length ≃ Fin others.length) : Prop where
  moved : ∀ i, others.get (place i) = messages.get i
  kept : ∀ i j, i < j → (messages.get i).SharesBucket frequency (messages.get j) →
    place i < place j

private theorem KeepsBucketOrder.messagesBetween_eq
    {place : Fin messages.length ≃ Fin others.length}
    (keeps : KeepsBucketOrder frequency messages others place)
    (tallies : Tallies frequency messages totals) {total : BucketTotal} (present : total ∈ totals) :
    messagesBetween total.start total.stop messages =
      messagesBetween total.start total.stop others := by
  have shared {message : ScoredMessage}
      (inside : (total.start ≤ message.timestamp.date &&
        message.timestamp.date ≤ total.stop) = true) :
      frequency.bounds? message.timestamp.date = some (total.start, total.stop) := by
    rw [Bool.and_eq_true, decide_eq_true_eq, decide_eq_true_eq] at inside
    exact (tallies.bounds?_iff present _).mpr inside
  exact filter_eq_of_place place keeps.moved fun i j before first second =>
    keeps.kept i j before ⟨_, shared first, shared second⟩

/-! ## Trees -/

/-- In every order of the messages an aggregation succeeds or fails alike, and the trees differ in
the means of their buckets at most. In an order that keeps the messages of each bucket in order, the
trees are the same, and so are their words. -/
theorem aggregate_perm (perm : messages.Perm others) :
    ((∃ tree, aggregate power settings messages = .ok tree) ↔
      ∃ tree, aggregate power settings others = .ok tree) ∧
    ∀ tree tree', aggregate power settings messages = .ok tree →
      aggregate power settings others = .ok tree' →
      tree.withoutMeans = tree'.withoutMeans ∧
      ∀ place, KeepsBucketOrder settings.frequency messages others place →
        tree = tree' ∧ ∀ geometry, tree.word geometry = tree'.word geometry := by
  refine ⟨?_, fun tree tree' aggregated aggregated' => ⟨?_, fun place keeps => ?_⟩⟩
  · rw [exists_aggregate_iff, exists_aggregate_iff]
    simp only [perm.mem_iff]
  all_goals
    obtain ⟨accepted, totals, collected, months, total, height⟩ :=
      aggregate_eq_ok_iff.mp aggregated
    obtain ⟨_, totals', collected', months', total', height'⟩ :=
      aggregate_eq_ok_iff.mp aggregated'
    have tallies := collect_tallies collected
    have tallies' := collect_tallies collected'
  · have same : tree.months.map (·.withoutMeans) = tree'.months.map (·.withoutMeans) := by
      rw [months, months', map_withoutMeans_groupByMonth, map_withoutMeans_groupByMonth,
        map_withoutMeans_bucketsOf totals, map_withoutMeans_bucketsOf totals',
        tallies.withoutSum_eq_of_perm tallies' perm]
    have length : tree.months.length = tree'.months.length := by
      rw [← List.length_map (·.withoutMeans), same, List.length_map]
    simp only [Hierarchy.withoutMeans, same, total, total', height, height', length]
  · have same : totals = totals' := by
      refine tallies.eq_of_perm tallies' perm fun period member => ?_
      obtain ⟨total, present, rfl⟩ := List.mem_map.mp member
      exact keeps.messagesBetween_eq tallies present
    have runs : aggregate power settings messages = aggregate power settings others := by
      rw [aggregate, aggregate, collected, collected', same]
    obtain rfl := Except.ok.inj (aggregated.symm.trans (runs.trans aggregated'))
    exact ⟨rfl, fun _ => rfl⟩

/-- Three messages of one week, with scores that add up differently in another order, and one of the
next week: of 2024-02-27, 2024-02-28, 2024-02-29 and 2024-03-04. -/
def unevenWeek : List ScoredMessage :=
  [.withScore (.midnight ⟨739308, by decide, by decide⟩) "first" true 0.1,
    .withScore (.midnight ⟨739309, by decide, by decide⟩) "second" true 0.2,
    .withScore (.midnight ⟨739310, by decide, by decide⟩) "third" true 0.3,
    .withScore (.midnight ⟨739314, by decide, by decide⟩) "next week" true 0.75]

/-- Read backwards, the messages have another mean. With the last one moved to the front they have
the same tree. -/
theorem aggregate_perm_unevenWeek :
    (∃ tree tree', aggregate (fun base _ => base) {} unevenWeek = .ok tree ∧
      aggregate (fun base _ => base) {} unevenWeek.reverse = .ok tree' ∧
      tree.withoutMeans = tree'.withoutMeans ∧
      tree.buckets.map (·.rawMean) ≠ tree'.buckets.map (·.rawMean)) ∧
    ∃ tree, aggregate (fun base _ => base) {} unevenWeek = .ok tree ∧
      aggregate (fun base _ => base) {} (unevenWeek.rotate 3) = .ok tree := by
  have aggregated : ∃ tree tree' tree'', aggregate (fun base _ => base) {} unevenWeek = .ok tree ∧
      aggregate (fun base _ => base) {} unevenWeek.reverse = .ok tree' ∧
      aggregate (fun base _ => base) {} (unevenWeek.rotate 3) = .ok tree'' ∧
      tree.buckets.map (·.rawMean) ≠ tree'.buckets.map (·.rawMean) :=
    ⟨_, _, _, rfl, rfl, rfl, by decide +kernel⟩
  obtain ⟨tree, tree', tree'', forward, backward, rotated, different⟩ := aggregated
  have place : KeepsBucketOrder (.weekly .sunday) unevenWeek (unevenWeek.rotate 3) (finRotate 4) :=
    ⟨by decide, by decide⟩
  obtain ⟨same, -⟩ := (aggregate_perm (List.reverse_perm _).symm).2 _ _ forward backward
  obtain ⟨-, whole⟩ := (aggregate_perm (List.rotate_perm _ _).symm).2 _ _ forward rotated
  obtain ⟨rfl, -⟩ := whole _ place
  exact ⟨⟨_, _, forward, backward, same, different⟩, _, forward, rotated⟩

end SentimentTree
