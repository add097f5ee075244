import SentimentTree.Proofs.Classifier.Scoring

/-! # Verdicts in a table's own columns

A table in which the classifier's verdicts have been filled into label and certainty is read by
itself as the classifier scored it: the same messages, or a failure at the same row. The two ways
differ only in what they call a number outside the unit interval.
-/

namespace SentimentTree

open Calendar

variable {number batchSize width : Nat} {row : MessageRow} {rows : List MessageRow}
  {verdicts : List Classification} {time : Timestamp}

/-! ## Filling in -/

/-- The row with a verdict in its label and certainty columns and without a score. -/
def MessageRow.filled (row : MessageRow) (verdict : Classification) : MessageRow :=
  { row with sentiment := some verdict.label.name, certainty := some verdict.confidence
             score := none }

/-- The rows with verdicts filled in, each analyzable row taking the next one. -/
def fillVerdicts : List Classification → List MessageRow → List MessageRow
  | _, [] => []
  | verdicts, row :: rest =>
    match row.isAnalyzable, verdicts with
    | true, verdict :: later => row.filled verdict :: fillVerdicts later rest
    | _, _ => row :: fillVerdicts verdicts rest

theorem Label.read_name (label : Label) : Label.read label.name.toList = .ok label := by
  cases label <;> decide

/-- An analyzable row that is judged becomes the message of its verdict, unless the confidence is
outside the unit interval. -/
theorem MessageRow.scored_judged (read : row.timestamp = .ok time)
    (flag : row.analyzable = some true) (verdict : Classification) : row.scored (some verdict) =
      if Numeric.inUnit verdict.confidence = true then .ok (.classified time row.text true verdict)
      else .error (.outsideUnit "classifier confidence" verdict.confidence) := by
  have flagged : row.flag = .ok true := flag_eq_ok_iff.mpr flag
  simp only [scored, read, flagged, judged, checkUnit, bind, Except.bind]
  cases Numeric.inUnit verdict.confidence <;> rfl

/-- The same row with the verdict filled in becomes the same message under the same condition. -/
theorem MessageRow.scored_filled (read : row.timestamp = .ok time)
    (flag : row.analyzable = some true) (verdict : Classification) :
    (row.filled verdict).scored none =
      if Numeric.inUnit verdict.confidence = true then .ok (.classified time row.text true verdict)
      else .error (.outsideUnit "certainty" verdict.confidence) := by
  have flagged : (row.filled verdict).flag = .ok true := flag_eq_ok_iff.mpr flag
  have stamped : (row.filled verdict).timestamp = .ok time := read
  have label : (row.filled verdict).label? = .ok (some verdict.label) := by
    simp only [label?, filled, Label.read_name]
  simp only [scored, stamped, flagged, selfScored, label, bind, Except.bind, if_true]
  simp only [filled, checkUnit]
  cases Numeric.inUnit verdict.confidence <;> rfl

/-! ## Reading the filled table -/

variable {message : ScoredMessage} {problem : RowProblem} {flag : Bool}

theorem joinVerdicts_cons_ok (verdicts : List Classification)
    (known : row.analyzable = some flag)
    (scored : row.scored (if flag then verdicts.head? else none) = .ok message) :
    joinVerdicts number verdicts (row :: rows) =
      (joinVerdicts (number + 1) (if flag then verdicts.tail else verdicts) rows).map
        (message :: ·) := by
  have flagged := MessageRow.flag_eq_ok_iff.mpr known
  simp only [joinVerdicts, flagged, scored, atRow, bind, Except.bind]
  cases joinVerdicts (number + 1) (if flag then verdicts.tail else verdicts) rows <;> rfl

theorem joinVerdicts_cons_error (verdicts : List Classification)
    (known : row.analyzable = some flag)
    (refused : row.scored (if flag then verdicts.head? else none) = .error problem) :
    joinVerdicts number verdicts (row :: rows) = .error ⟨number, problem⟩ := by
  have flagged := MessageRow.flag_eq_ok_iff.mpr known
  simp only [joinVerdicts, flagged, refused, atRow, bind, Except.bind]

/-- The two ways to score rows from a number on agree: they give the same messages, or they fail at
the same row, the first one of the table that cannot be used, over the same number. -/
def AgreeFrom (number : Nat) (table : List MessageRow)
    (judged read : Except RowError (List ScoredMessage)) : Prop :=
  (∃ messages, judged = .ok messages ∧ read = .ok messages) ∨
    ∃ before refused after value, table = before ++ refused :: after ∧
      (∀ row ∈ before, ∃ message, row.scored none = .ok message) ∧
      judged = .error ⟨number + before.length, .outsideUnit "classifier confidence" value⟩ ∧
      read = .error ⟨number + before.length, .outsideUnit "certainty" value⟩

/-- A message in front leaves the agreement as it is. -/
private theorem AgreeFrom.cons {judged read : Except RowError (List ScoredMessage)}
    {table : List MessageRow}
    (others : AgreeFrom (number + 1) table judged read) (scored : row.scored none = .ok message) :
    AgreeFrom number (row :: table) (judged.map (message :: ·)) (read.map (message :: ·)) := by
  rcases others with ⟨messages, rfl, rfl⟩ | ⟨before, refused, after, value, rfl, usable, rfl, rfl⟩
  · exact .inl ⟨message :: messages, rfl, rfl⟩
  · have place : number + 1 + before.length = number + (row :: before).length := by
      rw [List.length_cons, Nat.add_right_comm]
      rfl
    rw [place]
    exact .inr ⟨row :: before, refused, after, value, rfl,
      List.forall_mem_cons.mpr ⟨⟨message, scored⟩, usable⟩, rfl, rfl⟩

/-- With one verdict for each analyzable row, rows that are judged agree with the filled table. -/
theorem joinVerdicts_agree (number : Nat)
    (readable : ∀ row ∈ rows, (∃ time, row.timestamp = .ok time) ∧ ∃ flag, row.analyzable = some flag)
    (enough : verdicts.length = (rows.filter (·.isAnalyzable)).length) :
    AgreeFrom number (fillVerdicts verdicts rows) (joinVerdicts number verdicts rows)
      (scoreRowsFrom number (fillVerdicts verdicts rows)) := by
  induction rows generalizing number verdicts with
  | nil => exact .inl ⟨[], by simp [joinVerdicts], by simp [fillVerdicts, scoreRowsFrom]⟩
  | cons row rest ih =>
    obtain ⟨⟨⟨time, read⟩, flag, known⟩, readable⟩ := List.forall_mem_cons.mp readable
    have flagged := MessageRow.isAnalyzable_eq known
    rw [List.filter_cons, flagged] at enough
    cases flag with
    | false =>
      have scored := (MessageRow.scored_none_eq_ok_iff known).mpr ⟨time, read, rfl⟩
      have table : fillVerdicts verdicts (row :: rest) = row :: fillVerdicts verdicts rest := by
        simp only [fillVerdicts, flagged]
      rw [table, joinVerdicts_cons_ok verdicts known scored, scoreRowsFrom_cons_ok scored]
      exact (ih (number + 1) readable enough).cons scored
    | true =>
      obtain ⟨verdict, later, rfl⟩ := List.exists_cons_of_length_eq_add_one enough
      have judged := MessageRow.scored_judged read known verdict
      have filled := MessageRow.scored_filled read known verdict
      have table : fillVerdicts (verdict :: later) (row :: rest) =
          row.filled verdict :: fillVerdicts later rest := by
        simp only [fillVerdicts, flagged]
      rw [table]
      by_cases unit : Numeric.inUnit verdict.confidence = true
      · rw [if_pos unit] at judged filled
        rw [joinVerdicts_cons_ok (verdict :: later) known judged,
          scoreRowsFrom_cons_ok filled]
        exact (ih (number + 1) readable (Nat.succ.inj enough)).cons filled
      · rw [if_neg unit] at judged filled
        rw [joinVerdicts_cons_error (verdict :: later) known judged,
          scoreRowsFrom_cons_error filled]
        exact .inr ⟨[], _, _, verdict.confidence, rfl, List.forall_mem_nil _, rfl, rfl⟩

/-! ## Runs -/

variable {σ : Type}

/-- The batch came back with one verdict for each of its texts. -/
def BatchCall.isAnswered (call : ClassifierCall) : Bool :=
  match call.outcome with
  | .ok verdicts => verdicts.length == call.batch.length
  | .error _ => false

private theorem exists_answers {calls : List ClassifierCall}
    (answered : ∀ call ∈ calls, call.isAnswered = true) :
    ∃ answers : List (List Classification), calls.map (·.outcome) = answers.map .ok ∧
      answers.map List.length = (calls.map (·.batch)).map List.length := by
  induction calls with
  | nil => exact ⟨[], rfl, rfl⟩
  | cons call rest ih =>
    obtain ⟨first, others⟩ := List.forall_mem_cons.mp answered
    obtain ⟨answers, outcomes, lengths⟩ := ih others
    rw [BatchCall.isAnswered] at first
    split at first
    · rename_i verdicts outcome
      refine ⟨verdicts :: answers, ?_, ?_⟩
      · rw [List.map_cons, List.map_cons, outcome, outcomes]
      · rw [List.map_cons, List.map_cons, List.map_cons, eq_of_beq first, lengths]
    · cases first

/-- Scoring with a classifier and reading a table that holds its verdicts agree. In a run in which
all rows are readable and every batch is answered in full, the answers are brought into the order of
the batches and filled into the analyzable rows: label and certainty are set, and the score is
cleared. Read by its own columns, that table gives the messages of the run, or both fail at the same
row, which is the first of the table that cannot be used. -/
theorem scoreWith_agrees_fillVerdicts (report : ScoringEvent → StateM σ Unit)
    (classify : Nat → List String → StateM σ BatchOutcome) (pick : List Nat → Nat) {start last : σ}
    {result : Except ScoringProblem (List ScoredMessage)} {log : List ClassifierCall}
    (positive : 0 < batchSize) (room : 0 < width)
    (readable : ∀ row ∈ rows, (∃ time, row.timestamp = .ok time) ∧ ∃ flag, row.analyzable = some flag)
    (ran : scoreWith (fun event => besideLog (report event)) (recorded classify) pick rows batchSize
      width (start, []) = (result, last, log))
    (answered : ∀ call ∈ log, call.isAnswered = true) :
    scoreWith report classify pick rows batchSize width start = (result, last) ∧
    ∃ (calls : List ClassifierCall) (answers : List (List Classification)),
      log.Perm calls ∧ calls.map (·.number) = List.range calls.length ∧
      calls.flatMap (·.batch) =
        (rows.filter (·.isAnalyzable)).map (fun row => flatText row.text) ∧
      calls.map (·.outcome) = answers.map .ok ∧
      answers.map List.length = calls.map (·.batch.length) ∧
      ((∃ messages, result = .ok messages ∧
          scoreRows (fillVerdicts answers.flatten rows) = .ok messages) ∨
        ∃ before refused after value,
          fillVerdicts answers.flatten rows = before ++ refused :: after ∧
          (∀ row ∈ before, ∃ message, row.scored none = .ok message) ∧
          result = .error
            (.row ⟨before.length + 1, .outsideUnit "classifier confidence" value⟩) ∧
          scoreRows (fillVerdicts answers.flatten rows) =
            .error ⟨before.length + 1, .outsideUnit "certainty" value⟩) := by
  obtain ⟨texts, sent⟩ : ∃ texts, textsFrom 1 rows = .ok texts :=
    ⟨_, textsFrom_eq_ok_iff.mpr ⟨readable, rfl⟩⟩
  have checked := scoringTexts_eq_ok_iff.mpr ⟨positive, room, sent⟩
  obtain ⟨_, own⟩ := textsFrom_eq_ok_iff.mp sent
  obtain ⟨noted, stopped, plain, again, perm⟩ :=
    sentBatches_recorded report classify pick room rows.length batchSize texts start
  rw [scoreWith_eq checked, again] at ran
  rw [scoreWith_eq checked, plain]
  dsimp only at ran ⊢
  have same : noted = log := by
    split at ran
    · exact (Prod.mk.inj (Prod.mk.inj ran).2).2
    · exact (Prod.mk.inj (Prod.mk.inj ran).2).2
  subst same
  -- in order of their numbers the calls are the pieces of the texts, all of them answered
  obtain ⟨calls, order, numbers, batches, outcomes⟩ := exists_calls_inOrder perm
  obtain ⟨answers, all, lengths⟩ :=
    exists_answers fun call member => answered call (order.mem_iff.mpr member)
  have calledAll : calls.length = (chunks batchSize texts).length := by
    rw [← batches, List.length_map]
  have whole := (chunks_spec positive texts).2
  have usable : verdictsFrom 1 (chunks batchSize texts) (calls.map (·.outcome)) =
      .ok answers.flatten := by
    refine (verdictsFrom_eq_ok_iff (by rw [List.length_map, calledAll])).mpr
      ⟨answers, all, ?_, rfl⟩
    rw [lengths, batches]
  have enough : answers.flatten.length = (rows.filter (·.isAnalyzable)).length := by
    rw [List.length_flatten, lengths, batches, ← List.length_flatten, whole, own, List.length_map]
  rw [outcomes, usable] at ran ⊢
  obtain ⟨rfl, rest⟩ := Prod.mk.inj ran
  obtain ⟨rfl, -⟩ := Prod.mk.inj rest
  refine ⟨rfl, calls, answers, order, by rw [calledAll, numbers], ?_, all, ?_, ?_⟩
  · rw [List.flatMap_def, batches, whole, own]
  · rw [lengths, List.map_map]
    rfl
  · rcases joinVerdicts_agree 1 readable enough with
      ⟨messages, judged, read⟩ | ⟨before, refused, after, value, table, usable, judged, read⟩
    · exact .inl ⟨messages, by rw [judged]; rfl, read⟩
    · rw [Nat.add_comm 1] at judged read
      exact .inr ⟨before, refused, after, value, table, usable, by rw [judged]; rfl, read⟩

/-- A classifier that at first is surer than it can be. -/
def overconfident (_ : Nat) (texts : List String) : StateM Nat BatchOutcome := fun calls =>
  (.ok (texts.map fun _ => ⟨.negative, if calls = 0 then 1.5 else 0.75⟩), calls + 1)

/-- The second batch completes first here, so the last row is the one that is refused. -/
theorem scoreWith_agrees_fillVerdicts_fourRows :
    ∃ last, ∃ answers : List (List Classification),
      scoreWith (fun _ => pure ()) overconfident (fun _ => 1) fourRows 2 2 0 =
        (.error (.row ⟨4, .outsideUnit "classifier confidence" 1.5⟩), last) ∧
      scoreRows (fillVerdicts answers.flatten fourRows) =
        .error ⟨4, .outsideUnit "certainty" 1.5⟩ := by
  have readable := (textsFrom_eq_ok_iff.mp (rfl : textsFrom 1 fourRows = .ok _)).1
  have ran : ∃ result last, ∃ log : List ClassifierCall,
      scoreWith (fun _ => besideLog (pure ())) (recorded overconfident) (fun _ => 1) fourRows 2 2
        (0, []) = (result, last, log) ∧ (∀ call ∈ log, call.isAnswered = true) ∧
      result = .error (.row ⟨4, .outsideUnit "classifier confidence" 1.5⟩) :=
    ⟨_, _, _, rfl, by decide +kernel, by decide +kernel⟩
  obtain ⟨result, last, log, ran, answered, refused⟩ := ran
  obtain ⟨plain, _, answers, _, _, _, _, _, agree⟩ := scoreWith_agrees_fillVerdicts _ _ _
    (by decide) (by decide) readable ran answered
  refine ⟨last, answers, refused ▸ plain, ?_⟩
  rcases agree with ⟨messages, scored, _⟩ | ⟨before, _, _, value, _, _, judged, read⟩
  · nomatch scored.symm.trans refused
  · rw [refused] at judged
    injection judged with judged
    injection judged with judged
    injection judged with row problem
    injection problem with _ number
    rw [read, ← row, ← number]

end SentimentTree
