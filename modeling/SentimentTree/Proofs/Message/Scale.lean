import SentimentTree.Proofs.Aggregation.Refusals
import SentimentTree.Proofs.Classifier.Scoring
import SentimentTree.Proofs.Numeric.UnitInterval

/-! # Messages stay on the scale

Whatever way a message is made, out of a row by its own columns or by a verdict, out of a whole
table or by a scoring run, its score and its certainty are in the unit interval, and a message that
cannot be analyzed sits in the middle. Numbers from outside are checked before they are used, and
the numbers made from them, `1 - x` above all, do not leave the interval. An aggregation of such
messages can only fail over a date.
-/

namespace SentimentTree

open Calendar Numeric

variable {row : MessageRow} {message : ScoredMessage} {time : Timestamp} {text : String}
  {analyzable : Bool} {score certainty : Float}

/-- Score and certainty are in the unit interval, and the score is the middle of the scale where
there was nothing to analyze. -/
structure ScoredMessage.OnScale (message : ScoredMessage) : Prop where
  score : inUnit message.score = true
  certainty : inUnit message.certainty = true
  middle : message.analyzable = false → message.score = 0.5

/-! ## Numbers -/

theorem neutralScore_inUnit : inUnit neutralScore = true := by decide

theorem one_sub_inUnit (unit : inUnit certainty = true) : inUnit (1.0 - certainty) = true := by
  obtain ⟨v, value, low, high⟩ := inUnit_iff.mp unit
  apply inUnit_iff.mpr
  exact (hasValue_one.sub value).exists_value hasValue_zero hasValue_one (by linarith) (by linarith)

theorem sentimentScore_inUnit (label : Label) (unit : inUnit certainty = true)
    (analyzable : Bool) : inUnit (sentimentScore label certainty analyzable) = true := by
  cases analyzable with
  | false => exact neutralScore_inUnit
  | true =>
    cases label with
    | positive => exact unit
    | negative => exact one_sub_inUnit unit
    | neutral => exact neutralScore_inUnit

/-- A score amounts to a verdict that one can be as sure of. -/
theorem verdictOfScore_inUnit (unit : inUnit score = true) :
    inUnit (ScoredMessage.verdictOfScore score).confidence = true := by
  unfold ScoredMessage.verdictOfScore
  split
  · exact unit
  · split
    · exact one_sub_inUnit unit
    · rfl

/-! ## Ways to make a message -/

theorem ScoredMessage.classified_onScale {verdict : Classification}
    (unit : inUnit verdict.confidence = true) :
    (classified time text analyzable verdict).OnScale where
  score := sentimentScore_inUnit verdict.label unit analyzable
  certainty := unit
  middle := by
    rintro rfl
    rfl

theorem ScoredMessage.withScore_onScale (unit : inUnit score = true) :
    (withScore time text analyzable score).OnScale := by
  have kept : inUnit (if analyzable then score else neutralScore) = true := by
    cases analyzable
    · exact neutralScore_inUnit
    · exact unit
  refine ⟨kept, verdictOfScore_inUnit kept, ?_⟩
  rintro rfl
  rfl

/-- A verdict from the columns leaves the score as it is. -/
theorem ScoredMessage.OnScale.withVerdict (onScale : message.OnScale) (label : Option Label)
    {certainty : Option Float} (sure : ∀ number, certainty = some number → inUnit number = true) :
    (message.withVerdict label certainty).OnScale := by
  cases label with
  | none => exact onScale
  | some label =>
    cases certainty with
    | none => exact onScale
    | some number => exact ⟨onScale.score, sure number rfl, onScale.middle⟩

theorem MessageRow.Makes.onScale (made : row.Makes time message) : message.OnScale := by
  cases made with
  | neutral flag => exact ScoredMessage.withScore_onScale neutralScore_inUnit
  | score flag named sure filled unit =>
    exact (ScoredMessage.withScore_onScale unit).withVerdict _ sure
  | verdict flag named filled unit empty => exact ScoredMessage.classified_onScale unit

/-- A row becomes a message on the scale, with a verdict and without one. -/
theorem MessageRow.scored_onScale {verdict : Option Classification}
    (scored : row.scored verdict = .ok message) : message.OnScale := by
  cases verdict with
  | some verdict =>
    obtain ⟨_, _, _, _, unit, rfl⟩ := scored_some_eq_ok_iff.mp scored
    exact ScoredMessage.classified_onScale unit
  | none =>
    obtain ⟨_, _, made⟩ := scored_none_eq_ok_iff_makes.mp scored
    exact made.onScale

/-! ## Tables and runs -/

/-- The messages of rows that were joined with verdicts come from these rows, each with a verdict or
without one. -/
private theorem exists_scored_of_joinVerdicts {number : Nat} {verdicts : List Classification}
    {rows : List MessageRow} {messages : List ScoredMessage}
    (joined : joinVerdicts number verdicts rows = .ok messages) :
    ∀ message ∈ messages, ∃ row ∈ rows, ∃ verdict, row.scored verdict = .ok message := by
  induction rows generalizing number verdicts messages with
  | nil =>
    cases joined
    exact List.forall_mem_nil _
  | cons row rest ih =>
    simp only [joinVerdicts, except_bind_eq_ok_iff, atRow_eq_ok_iff, pure, Except.pure,
      Except.ok.injEq] at joined
    obtain ⟨_, _, first, scored, later, others, rfl⟩ := joined
    intro message member
    rcases List.mem_cons.mp member with rfl | member
    · exact ⟨row, List.mem_cons_self, _, scored⟩
    · obtain ⟨other, present, verdict, own⟩ := ih others message member
      exact ⟨other, List.mem_cons_of_mem _ present, verdict, own⟩

/-- The messages that there are: of single rows with a verdict or without one, of tables, and of
scoring runs with any classifier. -/
inductive ScoredMessage.Made : ScoredMessage → Prop
  | row {row : MessageRow} {verdict : Option Classification} {message : ScoredMessage}
      (scored : row.scored verdict = .ok message) : Made message
  | table {rows : List MessageRow} {messages : List ScoredMessage}
      (read : scoreRows rows = .ok messages) {message : ScoredMessage}
      (member : message ∈ messages) : Made message
  | run {σ : Type} (report : ScoringEvent → StateM σ Unit)
      (classify : Nat → List String → StateM σ BatchOutcome) (pick : List Nat → Nat)
      {rows : List MessageRow} {batchSize width : Nat} {messages : List ScoredMessage}
      {start last : σ}
      (scored : scoreWith report classify pick rows batchSize width start = (.ok messages, last))
      {message : ScoredMessage} (member : message ∈ messages) : Made message

theorem ScoredMessage.Made.onScale (made : message.Made) : message.OnScale := by
  cases made with
  | row scored => exact MessageRow.scored_onScale scored
  | table read member =>
    have each := (scoreRows_eq_ok_iff.mp read).flip.imp fun _ _ scored =>
      And.intro (MessageRow.scored_onScale scored) scored
    exact ((List.forall₂_and_left _ _).mp each).1 _ member
  | run report classify pick scored member =>
    obtain ⟨_, _, _, _, joined, _⟩ := (scoreWith_eq_ok_iff report classify pick _ _).mp scored
    obtain ⟨row, _, verdict, own⟩ := exists_scored_of_joinVerdicts joined _ member
    exact MessageRow.scored_onScale own

/-- Every message there is lies on the scale, its numbers defined. So under accepted settings an
aggregation of such messages fails exactly when some date has no bucket, and then over the first
date that has none. -/
theorem made_onScale {messages : List ScoredMessage} (made : ∀ message ∈ messages, message.Made) :
    (∀ message ∈ messages, message.OnScale ∧
      message.score.isNaN = false ∧ message.certainty.isNaN = false) ∧
    ∀ (power : Float → Float → Float) (settings : AggregationSettings)
      (problem : AggregationProblem), settings.validate = .ok () →
      (aggregate power settings messages = .error problem ↔
        ∃ before message after, messages = before ++ message :: after ∧
          (∀ earlier ∈ before, ∃ bounds,
            settings.frequency.bounds? earlier.timestamp.date = some bounds) ∧
          settings.frequency.bounds? message.timestamp.date = none ∧
          problem = .unplaceable message.timestamp.date settings.frequency) := by
  have onScale : ∀ message ∈ messages, message.OnScale := fun message member =>
    (made message member).onScale
  refine ⟨fun message member => ⟨onScale message member, ?_, ?_⟩, ?_⟩
  · exact (not_isNaN_of_le (inUnit_iff_le.mp (onScale message member).score).1).2
  · exact (not_isNaN_of_le (inUnit_iff_le.mp (onScale message member).certainty).1).2
  · intro power settings problem accepted
    rw [aggregate_eq_error_iff, accepted]
    simp only [reduceCtorEq, false_or, true_and]
    constructor
    · rintro ⟨before, message, after, rfl, placed, refused⟩
      have unit := (onScale message (by simp)).score
      exact ⟨before, message, after, rfl, fun earlier member => (placed earlier member).2,
        (ScoredMessage.place_eq_error_iff unit).mp refused⟩
    · rintro ⟨before, message, after, rfl, placed, refused⟩
      have unit := (onScale message (by simp)).score
      exact ⟨before, message, after, rfl,
        fun earlier member => ⟨(onScale earlier (by simp [member])).score, placed earlier member⟩,
        (ScoredMessage.place_eq_error_iff unit).mpr refused⟩

/-- Rows with a score, with a score and a verdict, with a verdict, and with nothing to analyze, the
last on the last day of the calendar. -/
def fourWays : List MessageRow :=
  [{ sentAt := some (.millis 0), analyzable := some true, score := some 0.25 },
    { sentAt := some (.millis 1), analyzable := some true, sentiment := some "neg"
      certainty := some 1.0, score := some 0.75 },
    { sentAt := some (.millis 2), analyzable := some true, sentiment := some "negative"
      certainty := some 0.75 },
    { sentAt := some (.millis 8210266876799999), analyzable := some false
      sentiment := some "none", certainty := some (-1.0), score := some 7.0 }]

/-- No month follows the last one, so it has no bucket. -/
theorem made_onScale_fourWays : ∃ messages, scoreRows fourWays = .ok messages ∧
    messages.map (·.score) = [0.25, 0.75, 0.25, 0.5] ∧
    messages.map (·.certainty) = [0.75, 1.0, 0.75, 0.0] ∧
    (∀ message ∈ messages, message.Made) ∧ (∀ message ∈ messages, message.OnScale) ∧
    ∃ message ∈ messages,
      aggregate (fun base _ => base) { frequency := .monthly } messages =
        .error (.unplaceable message.timestamp.date .monthly) := by
  have read : ∃ messages, scoreRows fourWays = .ok messages ∧
      messages.map (·.score) = [0.25, 0.75, 0.25, 0.5] ∧
      messages.map (·.certainty) = [0.75, 1.0, 0.75, 0.0] ∧
      ∃ problem, aggregate (fun base _ => base) { frequency := .monthly } messages =
        .error problem :=
    ⟨_, rfl, by decide +kernel, by decide +kernel, _, rfl⟩
  obtain ⟨messages, read, scores, certainties, problem, failed⟩ := read
  have made : ∀ message ∈ messages, message.Made := fun message member => .table read member
  obtain ⟨onScale, failures⟩ := made_onScale made
  obtain ⟨before, message, after, rfl, _, _, rfl⟩ :=
    (failures _ { frequency := .monthly } problem (by decide)).mp failed
  exact ⟨_, read, scores, certainties, made, fun message member => (onScale message member).1,
    message, by simp, failed⟩

end SentimentTree
