import SentimentTree.Proofs.Aggregation.Summary
import SentimentTree.Proofs.Numeric.UnitInterval

/-! # Messages that cannot be aggregated

A pass over the messages stops at the first one that cannot be placed and tells what is wrong with
that one. So an aggregation fails in two ways only: its settings are refused, whatever the messages
are, or else a message is, and every message before it is in order. `AggregationSettings.Refuses`
says so without the pass, with the score of a message looked at before its date.
-/

namespace SentimentTree

open Calendar

variable {frequency : Frequency} {position : Nat} {messages : List ScoredMessage}
  {problem : AggregationProblem}

/-! ## One message -/

/-- The message can be counted: its score is in the unit interval and its date has a bucket. -/
def ScoredMessage.Placed (frequency : Frequency) (message : ScoredMessage) : Prop :=
  Numeric.inUnit message.score = true ∧
    ∃ bounds, frequency.bounds? message.timestamp.date = some bounds

theorem ScoredMessage.exists_place_iff (frequency : Frequency) (position : Nat)
    (message : ScoredMessage) :
    (∃ bounds, message.place frequency position = .ok bounds) ↔ message.Placed frequency := by
  simp only [place_eq_ok_iff, exists_and_left, Placed]

/-- A message with a score in the unit interval is refused only for its date. -/
theorem ScoredMessage.place_eq_error_iff {message : ScoredMessage}
    (unit : Numeric.inUnit message.score = true) :
    message.place frequency position = .error problem ↔
      frequency.bounds? message.timestamp.date = none ∧
        problem = .unplaceable message.timestamp.date frequency := by
  unfold place
  cases frequency.bounds? message.timestamp.date <;> simp [unit, eq_comm (b := problem)]

/-- The score is not in the unit interval, or not a number at all. -/
def ScoredMessage.OffScale (message : ScoredMessage) : Prop :=
  message.score.isNaN = true ∨ message.score < 0.0 ∨ 1.0 < message.score

theorem ScoredMessage.inUnit_iff_not_offScale (message : ScoredMessage) :
    Numeric.inUnit message.score = true ↔ ¬message.OffScale := by
  rw [Numeric.inUnit_iff_le]
  constructor
  · rintro ⟨low, high⟩ (undefined | below | above)
    · rw [(Numeric.not_isNaN_of_le low).2] at undefined
      nomatch undefined
    · exact Numeric.not_lt_of_le low below
    · exact Numeric.not_lt_of_le high above
  · intro onScale
    simp only [OffScale, not_or, Bool.not_eq_true] at onScale
    obtain ⟨defined, low, high⟩ := onScale
    exact ⟨Numeric.le_of_not_lt defined rfl low, Numeric.le_of_not_lt rfl defined high⟩

/-- The message cannot be counted. -/
def ScoredMessage.Offends (frequency : Frequency) (message : ScoredMessage) : Prop :=
  message.OffScale ∨ frequency.bounds? message.timestamp.date = none

theorem ScoredMessage.placed_iff_not_offends (frequency : Frequency) (message : ScoredMessage) :
    message.Placed frequency ↔ ¬message.Offends frequency := by
  rw [Placed, Offends, not_or, inUnit_iff_not_offScale, ← ne_eq, Option.ne_none_iff_exists']

/-- A message is refused for its score, or else for its date. -/
theorem ScoredMessage.place_eq_error_cases {message : ScoredMessage} :
    message.place frequency position = .error problem ↔
      message.OffScale ∧ problem = .scoreOutside position message.timestamp message.score ∨
      ¬message.OffScale ∧ frequency.bounds? message.timestamp.date = none ∧
        problem = .unplaceable message.timestamp.date frequency := by
  have scale := message.inUnit_iff_not_offScale
  cases unit : Numeric.inUnit message.score with
  | false =>
    have off : message.OffScale := by simpa [unit] using scale
    have refused : message.place frequency position =
        .error (.scoreOutside position message.timestamp message.score) := by
      rw [place, unit]
      rfl
    rw [refused, Except.error.injEq, eq_comm]
    simp only [off, not_true_eq_false, true_and, false_and, or_false]
  | true =>
    have on : ¬message.OffScale := scale.mp unit
    rw [place_eq_error_iff unit]
    simp only [on, not_false_eq_true, true_and, false_and, false_or]

/-! ## A pass -/

/-- A pass fails with the problem of the first message that cannot be placed. -/
theorem collectFrom_eq_error_iff {totals : List BucketTotal} :
    collectFrom frequency position totals messages = .error problem ↔
      ∃ before message after, messages = before ++ message :: after ∧
        (∀ earlier ∈ before, earlier.Placed frequency) ∧
        message.place frequency (position + before.length) = .error problem := by
  induction messages generalizing position totals with
  | nil => simp [collectFrom]
  | cons message rest ih =>
    rw [collectFrom]
    cases placing : message.place frequency position with
    | error refusal =>
      have unplaced : ¬message.Placed frequency := by
        rw [← message.exists_place_iff frequency position, placing]
        rintro ⟨_, ⟨⟩⟩
      simp only [Except.error.injEq]
      constructor
      · rintro rfl
        exact ⟨[], message, rest, rfl, List.forall_mem_nil _, placing⟩
      · rintro ⟨_ | ⟨first, before⟩, refused, after, split, placed, refusal'⟩
        · obtain ⟨rfl, -⟩ := List.cons.inj split
          exact Except.error.inj (placing.symm.trans refusal')
        · obtain ⟨rfl, -⟩ := List.cons.inj split
          exact (unplaced (placed _ List.mem_cons_self)).elim
    | ok bounds =>
      have placed := (message.exists_place_iff frequency position).mp ⟨bounds, placing⟩
      simp only [ih]
      constructor
      · rintro ⟨before, refused, after, rfl, earlier, refusal⟩
        rw [Nat.add_right_comm, Nat.add_assoc] at refusal
        exact ⟨message :: before, refused, after, rfl, List.forall_mem_cons.mpr ⟨placed, earlier⟩,
          refusal⟩
      · rintro ⟨_ | ⟨first, before⟩, refused, after, split, earlier, refusal⟩
        · obtain ⟨rfl, -⟩ := List.cons.inj split
          cases placing.symm.trans refusal
        · obtain ⟨rfl, rfl⟩ := List.cons.inj split
          rw [List.length_cons, ← Nat.add_assoc, Nat.add_right_comm] at refusal
          exact ⟨before, refused, after, rfl, (List.forall_mem_cons.mp earlier).2, refusal⟩

/-- A pass goes through when every message can be placed. -/
theorem exists_collect_iff :
    (∃ totals, collect frequency messages = .ok totals) ↔
      ∀ message ∈ messages, message.Placed frequency := by
  constructor
  · rintro ⟨totals, collected⟩ message member
    obtain ⟨total, _, placed⟩ := (collect_tallies collected).placed message member
    exact ⟨collect_inUnit collected message member, _, placed⟩
  · intro placed
    cases collected : collect frequency messages with
    | ok totals => exact ⟨totals, rfl⟩
    | error problem =>
      obtain ⟨before, message, after, rfl, _, refused⟩ := collectFrom_eq_error_iff.mp collected
      obtain ⟨bounds, accepted⟩ := (message.exists_place_iff frequency _).mpr
        (placed message (List.mem_append_right _ List.mem_cons_self))
      nomatch accepted.symm.trans refused

/-! ## An aggregation -/

/-- An aggregation fails over its settings, or under accepted settings over the first message that
cannot be placed. -/
theorem aggregate_eq_error_iff {power : Float → Float → Float} {settings : AggregationSettings} :
    aggregate power settings messages = .error problem ↔
      settings.validate = .error problem ∨ settings.validate = .ok () ∧
        ∃ before message after, messages = before ++ message :: after ∧
          (∀ earlier ∈ before, earlier.Placed settings.frequency) ∧
          message.place settings.frequency (before.length + 1) = .error problem := by
  have passes : collect settings.frequency messages = .error problem ↔ _ := collectFrom_eq_error_iff
  simp only [Nat.add_comm 1] at passes
  rw [← passes]
  simp only [aggregate, bind, Except.bind]
  cases settings.validate with
  | error refusal => simp
  | ok _ => cases collect settings.frequency messages <;> simp [pure, Except.pure]

/-- An aggregation succeeds when its settings are accepted and every message can be placed. -/
theorem exists_aggregate_iff {power : Float → Float → Float} {settings : AggregationSettings} :
    (∃ tree, aggregate power settings messages = .ok tree) ↔
      settings.validate = .ok () ∧ ∀ message ∈ messages, message.Placed settings.frequency := by
  rw [← exists_collect_iff]
  constructor
  · rintro ⟨tree, aggregated⟩
    obtain ⟨accepted, totals, collected, _⟩ := aggregate_eq_ok_iff.mp aggregated
    exact ⟨accepted, totals, collected⟩
  · rintro ⟨accepted, totals, collected⟩
    obtain ⟨tree, aggregated, _⟩ := exists_aggregate_of_collect accepted collected
    exact ⟨tree, aggregated⟩

/-- What stops an aggregation: settings that are rejected, whatever the messages are; else the first
message that offends, for its score, even if its date has no bucket either, or for its date. -/
inductive AggregationSettings.Refuses (settings : AggregationSettings)
    (messages : List ScoredMessage) : AggregationProblem → Prop
  | settings {problem : AggregationProblem} (rejected : settings.validate = .error problem) :
      Refuses settings messages problem
  | score {before : List ScoredMessage} {message : ScoredMessage} {after : List ScoredMessage}
      (accepted : settings.validate = .ok ()) (split : messages = before ++ message :: after)
      (inOrder : ∀ earlier ∈ before, ¬earlier.Offends settings.frequency)
      (off : message.OffScale) :
      Refuses settings messages
        (.scoreOutside (before.length + 1) message.timestamp message.score)
  | date {before : List ScoredMessage} {message : ScoredMessage} {after : List ScoredMessage}
      (accepted : settings.validate = .ok ()) (split : messages = before ++ message :: after)
      (inOrder : ∀ earlier ∈ before, ¬earlier.Offends settings.frequency)
      (on : ¬message.OffScale)
      (unplaced : settings.frequency.bounds? message.timestamp.date = none) :
      Refuses settings messages (.unplaceable message.timestamp.date settings.frequency)

theorem aggregate_eq_error_iff_refuses {power : Float → Float → Float}
    {settings : AggregationSettings} :
    aggregate power settings messages = .error problem ↔ settings.Refuses messages problem := by
  simp only [aggregate_eq_error_iff, ScoredMessage.placed_iff_not_offends,
    ScoredMessage.place_eq_error_cases]
  constructor
  · rintro (rejected | ⟨accepted, before, message, after, split, inOrder,
      ⟨off, rfl⟩ | ⟨on, unplaced, rfl⟩⟩)
    · exact .settings rejected
    · exact .score accepted split inOrder off
    · exact .date accepted split inOrder on unplaced
  · intro refuses
    cases refuses with
    | settings rejected => exact .inl rejected
    | score accepted split inOrder off =>
      exact .inr ⟨accepted, _, _, _, split, inOrder, .inl ⟨off, rfl⟩⟩
    | date accepted split inOrder on unplaced =>
      exact .inr ⟨accepted, _, _, _, split, inOrder, .inr ⟨on, unplaced, rfl⟩⟩

/-- An aggregation fails exactly when its settings are rejected, some score is not in the unit
interval or some date has no bucket. Which of these it is told follows the order of the checks, and
the text names the position of a bad score, counted from 1, or the date and the frequency. -/
theorem aggregate_refused (power : Float → Float → Float) (settings : AggregationSettings)
    (messages : List ScoredMessage) :
    ((∃ problem, aggregate power settings messages = .error problem) ↔
      (∃ problem, settings.validate = .error problem) ∨
      (∃ message ∈ messages, message.OffScale) ∨
      ∃ message ∈ messages, settings.frequency.bounds? message.timestamp.date = none) ∧
    (∀ problem, aggregate power settings messages = .error problem ↔
      settings.Refuses messages problem) ∧
    (∀ position time score, (AggregationProblem.scoreOutside position time score).message =
      "message " ++ toString position ++ " at " ++ String.ofList time.text ++
        " has sentiment score " ++ String.ofList (Decimal.plainText score) ++ ", outside [0,1]") ∧
    ∀ date frequency, (AggregationProblem.unplaceable date frequency).message =
      "cannot place " ++ String.ofList date.text ++ " in a " ++ String.ofList frequency.code ++
        " bucket" := by
  refine ⟨⟨?_, fun fault => ?_⟩, fun problem => aggregate_eq_error_iff_refuses, fun _ _ _ => rfl,
    fun _ _ => rfl⟩
  · rintro ⟨problem, failed⟩
    cases aggregate_eq_error_iff_refuses.mp failed with
    | settings rejected => exact .inl ⟨problem, rejected⟩
    | score _ split _ off => exact .inr (.inl ⟨_, by simp [split], off⟩)
    | date _ split _ _ unplaced => exact .inr (.inr ⟨_, by simp [split], unplaced⟩)
  · cases run : aggregate power settings messages with
    | error problem => exact ⟨problem, rfl⟩
    | ok tree =>
      obtain ⟨accepted, placed⟩ := exists_aggregate_iff.mp ⟨tree, run⟩
      have sound : ∀ message ∈ messages, ¬message.Offends settings.frequency :=
        fun message member => (message.placed_iff_not_offends _).mp (placed message member)
      rcases fault with ⟨problem, rejected⟩ | ⟨message, member, off⟩ | ⟨message, member, unplaced⟩
      · nomatch accepted.symm.trans rejected
      · exact (sound message member (.inl off)).elim
      · exact (sound message member (.inr unplaced)).elim

/-- A score that is no number is told, though its day, in the last month, has no bucket either. -/
example : aggregate (fun base _ => base) { frequency := .monthly }
    [.withScore (.midnight ⟨0, by decide, by decide⟩) "fair" true 0.5,
      .withScore (.midnight ⟨lastDay, by decide, by decide⟩) "last" true (0.0 / 0.0),
      .withScore (.midnight ⟨1, by decide, by decide⟩) "later" true 2.0] =
    .error (.scoreOutside 2 (.midnight ⟨lastDay, by decide, by decide⟩) (0.0 / 0.0)) := by
  decide +kernel

end SentimentTree
