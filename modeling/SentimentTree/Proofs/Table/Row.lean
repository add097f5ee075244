import SentimentTree.Proofs.Basic
import SentimentTree.Table.Row

/-! # Judging rows

What it takes for a row to become a message: a readable timestamp, a flag, and a verdict where the
flag asks for one. A table becomes a list of messages when each of its rows becomes one.
-/

namespace SentimentTree

open Calendar

theorem atRow_eq_ok_iff {α : Type} {number : Nat} {result : Except RowProblem α} {value : α} :
    atRow number result = .ok value ↔ result = .ok value := by
  cases result <;> simp [atRow]

theorem checkUnit_eq_ok_iff {quantity : String} {value : Float} {done : Unit} :
    checkUnit quantity value = .ok done ↔ Numeric.inUnit value = true := by
  unfold checkUnit
  cases Numeric.inUnit value <;> simp

theorem checkUnit_eq_error_iff {quantity : String} {value : Float} {problem : RowProblem} :
    checkUnit quantity value = .error problem ↔
      Numeric.inUnit value = false ∧ problem = .outsideUnit quantity value := by
  unfold checkUnit
  cases Numeric.inUnit value <;> simp [eq_comm (b := problem)]

namespace MessageRow

def Readable (row : MessageRow) : Prop :=
  (∃ time, row.timestamp = .ok time) ∧ ∃ flag, row.analyzable = some flag

/-- Timestamp or flag of the row cannot be read, and what is wrong with it: the timestamp counts
first. -/
inductive Unreadable : MessageRow → RowProblem → Prop
  | noTimestamp {row : MessageRow} (empty : row.sentAt = none) : Unreadable row .noTimestamp
  | unreadableTimestamp {row : MessageRow} {raw : RawTimestamp} (given : row.sentAt = some raw)
      (refused : raw.read? = none) : Unreadable row (.unreadableTimestamp raw)
  | noFlag {row : MessageRow} {time : Timestamp} (read : row.timestamp = .ok time)
      (empty : row.analyzable = none) : Unreadable row .noFlag

theorem readable_or_unreadable (row : MessageRow) :
    row.Readable ∨ ∃ problem, row.Unreadable problem := by
  cases read : row.timestamp with
  | error problem =>
    unfold timestamp at read
    split at read
    · rename_i empty
      exact .inr ⟨_, .noTimestamp empty⟩
    · rename_i raw given
      split at read
      · cases read
      · rename_i refused
        exact .inr ⟨_, .unreadableTimestamp given refused⟩
  | ok time =>
    cases flag : row.analyzable with
    | none => exact .inr ⟨_, .noFlag read flag⟩
    | some known => exact .inl ⟨⟨time, read⟩, known, flag⟩

theorem Unreadable.not_readable {row : MessageRow} {problem : RowProblem}
    (unreadable : row.Unreadable problem) : ¬row.Readable := by
  rintro ⟨⟨time, read⟩, flag, known⟩
  cases unreadable with
  | noTimestamp empty => simp [timestamp, empty] at read
  | unreadableTimestamp given refused => simp [timestamp, given, refused] at read
  | noFlag _ empty => exact Option.some_ne_none flag (known.symm.trans empty)

/-- Whether the row is flagged as one that can be analyzed. -/
def isAnalyzable (row : MessageRow) : Bool := row.analyzable == some true

theorem flag_eq_ok_iff {row : MessageRow} {flag : Bool} :
    row.flag = .ok flag ↔ row.analyzable = some flag := by
  unfold MessageRow.flag
  cases row.analyzable <;> simp

theorem isAnalyzable_eq {row : MessageRow} {flag : Bool} (known : row.analyzable = some flag) :
    row.isAnalyzable = flag := by
  rw [isAnalyzable, known]
  cases flag <;> rfl

variable {row : MessageRow} {message : ScoredMessage}

/-- A verdict decides the message of a row; its confidence must be in the unit interval. -/
theorem scored_some_eq_ok_iff {verdict : Classification} :
    row.scored (some verdict) = .ok message ↔ ∃ time, row.timestamp = .ok time ∧
      ∃ flag, row.analyzable = some flag ∧ Numeric.inUnit verdict.confidence = true ∧
        message = .classified time row.text flag verdict := by
  simp only [scored, judged, except_bind_eq_ok_iff, flag_eq_ok_iff, checkUnit_eq_ok_iff,
    exists_const, pure, Except.pure, Except.ok.injEq, eq_comm (b := message)]

/-- A row that cannot be analyzed is neutral. -/
theorem scored_none_eq_ok_iff (skipped : row.analyzable = some false) :
    row.scored none = .ok message ↔ ∃ time, row.timestamp = .ok time ∧
      message = .withScore time row.text false neutralScore := by
  simp only [scored, except_bind_eq_ok_iff, flag_eq_ok_iff, skipped, Option.some.injEq,
    exists_eq_left', Bool.false_eq_true, if_false, pure, Except.pure, Except.ok.injEq]
  simp only [eq_comm]

/-- A row that can be analyzed speaks for itself. -/
theorem scored_none_eq_ok_iff_selfScored (flag : row.analyzable = some true) :
    row.scored none = .ok message ↔ ∃ time, row.timestamp = .ok time ∧
      row.selfScored time = .ok message := by
  simp only [scored, except_bind_eq_ok_iff, flag_eq_ok_iff, flag, Option.some.injEq,
    exists_eq_left', if_true]

/-- The columns of a row make a message in one of two ways: by a score, to which label and certainty
add their verdict where both are filled, or without a score by label and certainty alone. -/
theorem selfScored_eq_ok_iff {time : Timestamp} : row.selfScored time = .ok message ↔
    ∃ label, row.label? = .ok label ∧
      (∀ certainty, row.certainty = some certainty → Numeric.inUnit certainty = true) ∧
      ((∃ score, row.score = some score ∧ Numeric.inUnit score = true ∧
          message = (ScoredMessage.withScore time row.text true score).withVerdict label
            row.certainty) ∨
        (row.score = none ∧ ∃ name certainty, label = some name ∧ row.certainty = some certainty ∧
          message = .classified time row.text true ⟨name, certainty⟩)) := by
  simp only [selfScored, except_bind_eq_ok_iff]
  refine exists_congr fun label => and_congr_right fun _ => ?_
  cases row.certainty <;> cases row.score <;> cases label <;>
    simp [except_bind_eq_ok_iff, checkUnit_eq_ok_iff, pure, Except.pure, eq_comm (b := message)]

/-- The messages that the own columns of a row make. -/
inductive Makes (row : MessageRow) (time : Timestamp) : ScoredMessage → Prop
  /-- A row that cannot be analyzed is neutral. -/
  | neutral (flag : row.analyzable = some false) :
      Makes row time (.withScore time row.text false neutralScore)
  /-- The score counts first, with the verdict of label and certainty where both are filled. -/
  | score {label : Option Label} {score : Float} (flag : row.analyzable = some true)
      (named : row.label? = .ok label)
      (sure : ∀ certainty, row.certainty = some certainty → Numeric.inUnit certainty = true)
      (filled : row.score = some score) (unit : Numeric.inUnit score = true) :
      Makes row time
        ((ScoredMessage.withScore time row.text true score).withVerdict label row.certainty)
  /-- Without a score label and certainty count together. -/
  | verdict {label : Label} {certainty : Float} (flag : row.analyzable = some true)
      (named : row.label? = .ok (some label)) (filled : row.certainty = some certainty)
      (unit : Numeric.inUnit certainty = true) (empty : row.score = none) :
      Makes row time (.classified time row.text true ⟨label, certainty⟩)

/-- A row becomes what its columns make of it at its own time. -/
theorem scored_none_eq_ok_iff_makes :
    row.scored none = .ok message ↔
      ∃ time, row.timestamp = .ok time ∧ row.Makes time message := by
  constructor
  · intro scored
    obtain ⟨flag, known⟩ : ∃ flag, row.analyzable = some flag := by
      simp only [MessageRow.scored, except_bind_eq_ok_iff, flag_eq_ok_iff] at scored
      obtain ⟨_, _, flag, known, _⟩ := scored
      exact ⟨flag, known⟩
    cases flag with
    | false =>
      obtain ⟨time, read, rfl⟩ := (scored_none_eq_ok_iff known).mp scored
      exact ⟨time, read, .neutral known⟩
    | true =>
      obtain ⟨time, read, own⟩ := (scored_none_eq_ok_iff_selfScored known).mp scored
      refine ⟨time, read, ?_⟩
      obtain ⟨label, named, sure, ⟨score, filled, unit, rfl⟩ | ⟨empty, name, certainty, rfl, filled,
        rfl⟩⟩ := selfScored_eq_ok_iff.mp own
      · exact .score known named sure filled unit
      · exact .verdict known named filled (sure certainty filled) empty
  · rintro ⟨time, read, made⟩
    cases made with
    | neutral flag => exact (scored_none_eq_ok_iff flag).mpr ⟨time, read, rfl⟩
    | score flag named sure filled unit =>
      exact (scored_none_eq_ok_iff_selfScored flag).mpr ⟨time, read, selfScored_eq_ok_iff.mpr
        ⟨_, named, sure, .inl ⟨_, filled, unit, rfl⟩⟩⟩
    | verdict flag named filled unit empty =>
      refine (scored_none_eq_ok_iff_selfScored flag).mpr ⟨time, read, selfScored_eq_ok_iff.mpr
        ⟨_, named, fun certainty given => ?_, .inr ⟨empty, _, _, rfl, filled, rfl⟩⟩⟩
      obtain rfl := Option.some.inj (filled.symm.trans given)
      exact unit

end MessageRow

namespace ScoredMessage

variable {message : ScoredMessage}

@[simp] theorem withVerdict_timestamp (label : Option Label) (certainty : Option Float) :
    (message.withVerdict label certainty).timestamp = message.timestamp := by
  cases label <;> cases certainty <;> rfl

@[simp] theorem withVerdict_score (label : Option Label) (certainty : Option Float) :
    (message.withVerdict label certainty).score = message.score := by
  cases label <;> cases certainty <;> rfl

end ScoredMessage

theorem MessageRow.Makes.timestamp_eq {row : MessageRow} {time : Timestamp}
    {message : ScoredMessage} (made : row.Makes time message) : message.timestamp = time := by
  cases made with
  | neutral => rfl
  | score => rw [ScoredMessage.withVerdict_timestamp]; rfl
  | verdict => rfl

/-- A message is of the time that its row gives. -/
theorem MessageRow.timestamp_of_scored {row : MessageRow} {message : ScoredMessage}
    (scored : row.scored none = .ok message) : row.timestamp = .ok message.timestamp := by
  obtain ⟨time, read, made⟩ := scored_none_eq_ok_iff_makes.mp scored
  rw [made.timestamp_eq, read]

/-! ## Tables -/

variable {number : Nat} {row : MessageRow} {rows : List MessageRow} {message : ScoredMessage}
  {messages : List ScoredMessage} {problem : RowProblem}

theorem scoreRowsFrom_cons_ok (scored : row.scored none = .ok message) :
    scoreRowsFrom number (row :: rows) =
      (scoreRowsFrom (number + 1) rows).map (message :: ·) := by
  simp only [scoreRowsFrom, scored, atRow]
  cases scoreRowsFrom (number + 1) rows <;> rfl

theorem scoreRowsFrom_cons_error (refused : row.scored none = .error problem) :
    scoreRowsFrom number (row :: rows) = .error ⟨number, problem⟩ := by
  simp only [scoreRowsFrom, refused, atRow]

theorem scoreRowsFrom_eq_ok_iff : scoreRowsFrom number rows = .ok messages ↔
    List.Forall₂ (fun row message => row.scored none = .ok message) rows messages := by
  induction rows generalizing number messages with
  | nil => simp [scoreRowsFrom, eq_comm]
  | cons row rest ih =>
    have sequence : scoreRowsFrom number (row :: rest) = (do
        let message ← atRow number (row.scored none)
        let later ← scoreRowsFrom (number + 1) rest
        pure (message :: later)) := by
      rw [scoreRowsFrom]
      cases atRow number (row.scored none) with
      | error problem => rfl
      | ok message => cases scoreRowsFrom (number + 1) rest <;> rfl
    simp only [sequence, except_bind_eq_ok_iff, atRow_eq_ok_iff, ih, pure, Except.pure,
      Except.ok.injEq, List.forall₂_cons_left_iff]
    constructor
    · rintro ⟨message, scored, later, all, rfl⟩
      exact ⟨message, later, scored, all, rfl⟩
    · rintro ⟨message, later, scored, all, rfl⟩
      exact ⟨message, scored, later, all, rfl⟩

/-- A table becomes the messages that its rows become one by one. -/
theorem scoreRows_eq_ok_iff : scoreRows rows = .ok messages ↔
    List.Forall₂ (fun row message => row.scored none = .ok message) rows messages :=
  scoreRowsFrom_eq_ok_iff

end SentimentTree
