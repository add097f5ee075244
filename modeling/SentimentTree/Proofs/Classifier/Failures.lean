import SentimentTree.Proofs.Classifier.Columns

/-! # How a scoring run can fail

A run checks its sizes, then timestamp and flag of every row, and only then calls the classifier.
After the last call it looks at what came back for the batches, in the order of their numbers, and
at last at the confidences, in the order of the rows. `ScoringEnd` lists these ends of a run, each
with all that has to be in order before it, so that the first thing that is wrong decides. Timestamps
and flags that were checked once are in order when rows and verdicts are joined.
-/

namespace SentimentTree

open Calendar Numeric

variable {number batchSize width : Nat} {row : MessageRow} {rows before after : List MessageRow}
  {problem : RowProblem} {verdicts : List Classification} {calls : List ClassifierCall}

/-! ## Rows that cannot be read -/

private theorem textsFrom_cons_unreadable (unreadable : row.Unreadable problem) :
    textsFrom number (row :: rows) = .error ⟨number, problem⟩ := by
  cases unreadable with
  | noTimestamp empty => simp [textsFrom, MessageRow.timestamp, empty, atRow, bind, Except.bind]
  | unreadableTimestamp given refused =>
    simp [textsFrom, MessageRow.timestamp, given, refused, atRow, bind, Except.bind]
  | noFlag read empty =>
    simp [textsFrom, read, MessageRow.flag, empty, atRow, bind, Except.bind]

/-- The first row that cannot be read is refused. -/
theorem textsFrom_refused (number : Nat) (readable : ∀ earlier ∈ before, earlier.Readable)
    (unreadable : row.Unreadable problem) (after : List MessageRow) :
    textsFrom number (before ++ row :: after) = .error ⟨number + before.length, problem⟩ := by
  induction before generalizing number with
  | nil => exact textsFrom_cons_unreadable unreadable
  | cons first before ih =>
    obtain ⟨⟨⟨time, read⟩, flag, known⟩, readable⟩ := List.forall_mem_cons.mp readable
    have flagged := MessageRow.flag_eq_ok_iff.mpr known
    rw [List.cons_append, textsFrom, read, flagged]
    simp only [atRow, bind, Except.bind]
    rw [ih (number + 1) readable, List.length_cons, Nat.add_right_comm, Nat.add_assoc]

/-! ## Batches that cannot be used -/

/-- What is wrong with what came back for a batch. -/
def BatchCall.problem? (call : ClassifierCall) : Option BatchProblem :=
  match call.outcome with
  | .error chain => some (.failed chain)
  | .ok verdicts =>
    if verdicts.length = call.batch.length then none
    else some (.wrongCount verdicts.length call.batch.length)

/-- The verdicts that came back for a batch, none if it failed. -/
def BatchCall.answers (call : ClassifierCall) : List Classification :=
  match call.outcome with
  | .error _ => []
  | .ok verdicts => verdicts

private theorem BatchCall.length_answers {call : ClassifierCall} (usable : call.problem? = none) :
    call.answers.length = call.batch.length := by
  obtain ⟨number, batch, chain | verdicts⟩ := call
  · cases usable
  · simpa [problem?, answers] using usable

/-- What came back is looked at batch by batch. -/
private theorem verdictsFrom_cons (number : Nat) (call : ClassifierCall)
    (batches : List (List String)) (outcomes : List BatchOutcome) :
    verdictsFrom number (call.batch :: batches) (call.outcome :: outcomes) =
      match call.problem? with
      | some problem => .error (.batch number problem)
      | none => (verdictsFrom (number + 1) batches outcomes).map (call.answers ++ ·) := by
  obtain ⟨_, batch, chain | verdicts⟩ := call
  · rfl
  · simp only [verdictsFrom, BatchCall.problem?, BatchCall.answers]
    split
    · cases verdictsFrom (number + 1) batches outcomes <;> rfl
    · rfl

private theorem verdictsFrom_usable (usable : ∀ call ∈ calls, call.problem? = none) :
    verdictsFrom number (calls.map (·.batch)) (calls.map (·.outcome)) =
      .ok (calls.flatMap (·.answers)) := by
  induction calls generalizing number with
  | nil => rfl
  | cons call rest ih =>
    obtain ⟨own, usable⟩ := List.forall_mem_cons.mp usable
    rw [List.map_cons, List.map_cons, verdictsFrom_cons, own]
    simp only [ih usable]
    rfl

/-- The batch with the lowest number that cannot be used is reported. -/
private theorem verdictsFrom_refused {earlier : List ClassifierCall} {call : ClassifierCall}
    {trouble : BatchProblem} (number : Nat) (usable : ∀ other ∈ earlier, other.problem? = none)
    (unusable : call.problem? = some trouble) (later : List ClassifierCall) :
    verdictsFrom number ((earlier ++ call :: later).map (·.batch))
      ((earlier ++ call :: later).map (·.outcome)) =
        .error (.batch (number + earlier.length) trouble) := by
  induction earlier generalizing number with
  | nil =>
    rw [List.nil_append, List.map_cons, List.map_cons, verdictsFrom_cons, unusable]
    rfl
  | cons first earlier ih =>
    obtain ⟨own, usable⟩ := List.forall_mem_cons.mp usable
    rw [List.cons_append, List.map_cons, List.map_cons, verdictsFrom_cons, own, List.length_cons,
      Nat.add_comm earlier.length, ← Nat.add_assoc]
    simp only [ih (number + 1) usable]
    rfl

/-! ## Confidences outside the unit interval -/

/-- With verdicts for all rows before it, the row whose verdict cannot be is reported. -/
theorem joinVerdicts_refused {earlier : List Classification} {verdict : Classification}
    (number : Nat) (readable : ∀ other ∈ before, other.Readable) (own : row.Readable)
    (flag : row.analyzable = some true)
    (enough : earlier.length = (before.filter (·.isAnalyzable)).length)
    (units : ∀ other ∈ earlier, inUnit other.confidence = true)
    (outside : inUnit verdict.confidence = false) (later : List Classification)
    (after : List MessageRow) :
    joinVerdicts number (earlier ++ verdict :: later) (before ++ row :: after) =
      .error ⟨number + before.length, .outsideUnit "classifier confidence" verdict.confidence⟩ := by
  induction before generalizing number earlier with
  | nil =>
    obtain rfl := List.length_eq_zero_iff.mp enough
    obtain ⟨⟨time, read⟩, _⟩ := own
    have judged := MessageRow.scored_judged read flag verdict
    rw [outside] at judged
    exact joinVerdicts_cons_error _ flag judged
  | cons first before ih =>
    obtain ⟨⟨⟨time, read⟩, flag', known⟩, readable⟩ := List.forall_mem_cons.mp readable
    rw [List.filter_cons, MessageRow.isAnalyzable_eq known] at enough
    rw [List.cons_append, List.length_cons, Nat.add_comm before.length, ← Nat.add_assoc]
    cases flag' with
    | false =>
      have scored := (MessageRow.scored_none_eq_ok_iff known).mpr ⟨time, read, rfl⟩
      rw [joinVerdicts_cons_ok _ known scored]
      simp only [Bool.false_eq_true, if_false]
      rw [ih (number + 1) readable enough units]
      rfl
    | true =>
      obtain ⟨mine, earlier, rfl⟩ := List.exists_cons_of_length_eq_add_one enough
      obtain ⟨unit, units⟩ := List.forall_mem_cons.mp units
      have judged := MessageRow.scored_judged read known mine
      rw [if_pos unit] at judged
      rw [joinVerdicts_cons_ok (mine :: earlier ++ verdict :: later) known judged]
      simp only [if_true, List.cons_append, List.tail_cons]
      rw [ih (number + 1) readable (Nat.succ.inj enough) units]
      rfl

/-- Where all rows are readable and all confidences are in the unit interval, every row is
judged. -/
theorem exists_judged (readable : ∀ row ∈ rows, row.Readable)
    (enough : verdicts.length = (rows.filter (·.isAnalyzable)).length)
    (units : ∀ verdict ∈ verdicts, inUnit verdict.confidence = true) :
    ∃ messages, Judged verdicts rows messages := by
  induction rows generalizing verdicts with
  | nil =>
    obtain rfl := List.length_eq_zero_iff.mp enough
    exact ⟨[], .nil⟩
  | cons row rest ih =>
    obtain ⟨⟨⟨time, read⟩, flag, known⟩, readable⟩ := List.forall_mem_cons.mp readable
    rw [List.filter_cons, MessageRow.isAnalyzable_eq known] at enough
    cases flag with
    | false =>
      obtain ⟨messages, judged⟩ := ih readable enough units
      exact ⟨_, .skipped known read judged⟩
    | true =>
      obtain ⟨verdict, verdicts, rfl⟩ := List.exists_cons_of_length_eq_add_one enough
      obtain ⟨unit, units⟩ := List.forall_mem_cons.mp units
      obtain ⟨messages, judged⟩ := ih readable (Nat.succ.inj enough) units
      exact ⟨_, .analyzable known read unit judged⟩

/-! ## Ends of a run -/

/-- The sizes are positive, all rows are readable, and the calls are the texts of the analyzable
rows in batches. -/
structure SentInBatches (batchSize width : Nat) (rows : List MessageRow)
    (calls : List ClassifierCall) : Prop where
  positive : 0 < batchSize
  room : 0 < width
  readable : ∀ row ∈ rows, row.Readable
  numbers : calls.map (·.number) = List.range calls.length
  batches : calls.map (·.batch) =
    chunks batchSize ((rows.filter (·.isAnalyzable)).map fun row => flatText row.text)

/-- How a run ends, beside the calls of its classifier in the order of the batches. -/
inductive ScoringEnd (batchSize width : Nat) (rows : List MessageRow) :
    List ClassifierCall → Except ScoringProblem (List ScoredMessage) → Prop
  /-- A size is zero. Nothing is sent. -/
  | noBatches (zero : batchSize = 0 ∨ width = 0) :
      ScoringEnd batchSize width rows [] (.error .noBatches)
  /-- The first row that cannot be read. Nothing is sent. -/
  | unreadable {before : List MessageRow} {row : MessageRow} {after : List MessageRow}
      {problem : RowProblem} (positive : 0 < batchSize) (room : 0 < width)
      (table : rows = before ++ row :: after) (readable : ∀ earlier ∈ before, earlier.Readable)
      (unreadable : row.Unreadable problem) :
      ScoringEnd batchSize width rows [] (.error (.row ⟨before.length + 1, problem⟩))
  /-- The batch with the lowest number that failed or has a wrong number of answers. -/
  | unusable {before : List ClassifierCall} {call : ClassifierCall} {after : List ClassifierCall}
      {problem : BatchProblem} (sent : SentInBatches batchSize width rows (before ++ call :: after))
      (usable : ∀ earlier ∈ before, earlier.problem? = none)
      (unusable : call.problem? = some problem) :
      ScoringEnd batchSize width rows (before ++ call :: after)
        (.error (.batch (before.length + 1) problem))
  /-- The first row with a confidence outside the unit interval. -/
  | outside {calls : List ClassifierCall} {before : List MessageRow} {row : MessageRow}
      {after : List MessageRow} {earlier : List Classification} {verdict : Classification}
      {later : List Classification} (sent : SentInBatches batchSize width rows calls)
      (usable : ∀ call ∈ calls, call.problem? = none)
      (answers : calls.flatMap (·.answers) = earlier ++ verdict :: later)
      (table : rows = before ++ row :: after) (flag : row.analyzable = some true)
      (place : earlier.length = (before.filter (·.isAnalyzable)).length)
      (units : ∀ other ∈ earlier, inUnit other.confidence = true)
      (outside : inUnit verdict.confidence = false) :
      ScoringEnd batchSize width rows calls (.error (.row
        ⟨before.length + 1, .outsideUnit "classifier confidence" verdict.confidence⟩))
  /-- Every row is judged. -/
  | scored {calls : List ClassifierCall} {messages : List ScoredMessage}
      (sent : SentInBatches batchSize width rows calls)
      (usable : ∀ call ∈ calls, call.problem? = none)
      (judged : Judged (calls.flatMap (·.answers)) rows messages) :
      ScoringEnd batchSize width rows calls (.ok messages)

/-- Sizes and rows are in order, or the run has met a size that is zero or a row that cannot be
read. -/
theorem ScoringEnd.sent_or_refused (ended : ScoringEnd batchSize width rows calls result) :
    SentInBatches batchSize width rows calls ∨
    (batchSize = 0 ∨ width = 0) ∧ result = .error .noBatches ∨
    ∃ row ∈ rows, ∃ number problem, row.Unreadable problem ∧
      result = .error (.row ⟨number, problem⟩) := by
  cases ended with
  | noBatches zero => exact .inr (.inl ⟨zero, rfl⟩)
  | @unreadable before row after problem _ _ table _ unreadable =>
    exact .inr (.inr ⟨row, by simp [table], _, problem, unreadable, rfl⟩)
  | unusable sent _ _ => exact .inl sent
  | outside sent _ _ _ _ _ _ _ => exact .inl sent
  | scored sent _ _ => exact .inl sent

namespace SentInBatches

variable (sent : SentInBatches batchSize width rows calls)

include sent

private theorem scoringTexts_eq : scoringTexts rows batchSize width =
    .ok ((rows.filter (·.isAnalyzable)).map fun row => flatText row.text) :=
  scoringTexts_eq_ok_iff.mpr
    ⟨sent.positive, sent.room, textsFrom_eq_ok_iff.mpr ⟨sent.readable, rfl⟩⟩

/-- Answers of the right number are one for each analyzable row. -/
theorem length_answers (usable : ∀ call ∈ calls, call.problem? = none) :
    (calls.flatMap (·.answers)).length = (rows.filter (·.isAnalyzable)).length := by
  have whole := congrArg List.length (chunks_spec sent.positive
    ((rows.filter (·.isAnalyzable)).map fun row => flatText row.text)).2
  rw [← sent.batches, List.length_map, List.length_flatten, List.map_map] at whole
  rw [List.length_flatMap, ← whole]
  exact congrArg List.sum (List.map_congr_left fun call member =>
    BatchCall.length_answers (usable call member))

/-- Calls that have been sent lead to some end. -/
theorem exists_end : ∃ result, ScoringEnd batchSize width rows calls result := by
  rcases forall_or_exists_first (BatchCall.problem? · = none) calls with
    usable | ⟨before, call, after, rfl, usable, troubled⟩
  · have enough := sent.length_answers usable
    rcases forall_or_exists_first (inUnit ·.confidence = true) (calls.flatMap (·.answers)) with
      units | ⟨earlier, verdict, later, answers, units, outside⟩
    · obtain ⟨messages, judged⟩ := exists_judged sent.readable enough units
      exact ⟨_, .scored sent usable judged⟩
    · have inside : earlier.length < (rows.filter (·.isAnalyzable)).length := by
        rw [← enough, answers, List.length_append, List.length_cons]
        omega
      obtain ⟨before, row, after, table, flag, place⟩ := exists_split_of_lt_filter _ inside
      exact ⟨_, .outside sent usable answers table (eq_of_beq flag) place.symm units
        (Bool.eq_false_iff.mpr outside)⟩
  · obtain ⟨problem, unusable⟩ := Option.ne_none_iff_exists'.mp troubled
    exact ⟨_, .unusable sent usable unusable⟩

end SentInBatches

/-! ## Runs -/

/-- What a run makes of its rows and of what its calls have brought back. -/
def scoringResult (batchSize width : Nat) (rows : List MessageRow) (calls : List ClassifierCall) :
    Except ScoringProblem (List ScoredMessage) := do
  let texts ← scoringTexts rows batchSize width
  let verdicts ← verdictsFrom 1 (chunks batchSize texts) (calls.map (·.outcome))
  (joinVerdicts 1 verdicts rows).mapError .row

/-- The end is what the rows and the calls make it. -/
theorem ScoringEnd.eq_scoringResult {result : Except ScoringProblem (List ScoredMessage)}
    (ended : ScoringEnd batchSize width rows calls result) :
    result = scoringResult batchSize width rows calls := by
  cases ended with
  | noBatches zero => simp [scoringResult, scoringTexts, zero, bind, Except.bind]
  | @unreadable before row after problem positive room table readable unreadable =>
    have sizes : ¬(batchSize = 0 ∨ width = 0) := by omega
    have refused := textsFrom_refused 1 readable unreadable after
    rw [← table, Nat.add_comm] at refused
    simp [scoringResult, scoringTexts, sizes, refused, bind, Except.bind]
  | @unusable before call after problem sent usable unusable =>
    have refused := verdictsFrom_refused 1 usable unusable after
    rw [Nat.add_comm] at refused
    simp only [scoringResult, sent.scoringTexts_eq, ← sent.batches, refused, bind, Except.bind]
  | @outside _ before row after earlier verdict later sent usable answers table flag place units
      outside =>
    have readable := sent.readable
    rw [table, List.forall_mem_append, List.forall_mem_cons] at readable
    have refused := joinVerdicts_refused 1 readable.1 readable.2.1 flag place units outside later after
    rw [← table, ← answers, Nat.add_comm] at refused
    simp only [scoringResult, sent.scoringTexts_eq, ← sent.batches, verdictsFrom_usable usable,
      refused, bind, Except.bind, Except.mapError]
  | @scored _ messages sent usable judged =>
    have joined : joinVerdicts 1 _ rows = .ok messages :=
      (joinVerdicts_eq_ok_iff (sent.length_answers usable)).mpr judged
    simp only [scoringResult, sent.scoringTexts_eq, ← sent.batches, verdictsFrom_usable usable,
      joined, bind, Except.bind, Except.mapError]

/-- Sizes or rows that are refused are an end of their own. -/
private theorem exists_end_of_refused {problem : ScoringProblem}
    (refused : scoringTexts rows batchSize width = .error problem) :
    ∃ result, ScoringEnd batchSize width rows [] result := by
  by_cases zero : batchSize = 0 ∨ width = 0
  · exact ⟨_, .noBatches zero⟩
  · have positive : 0 < batchSize := by omega
    have room : 0 < width := by omega
    rcases forall_or_exists_first MessageRow.Readable rows with
      readable | ⟨before, row, after, table, earlier, not⟩
    · have checked := scoringTexts_eq_ok_iff.mpr
        ⟨positive, room, textsFrom_eq_ok_iff.mpr ⟨readable, rfl⟩⟩
      cases checked.symm.trans refused
    · obtain ⟨problem, unreadable⟩ := row.readable_or_unreadable.resolve_left not
      exact ⟨_, .unreadable positive room table earlier unreadable⟩

private theorem scoreWith_refused {τ : Type} {problem : ScoringProblem}
    (refused : scoringTexts rows batchSize width = .error problem)
    (report : ScoringEvent → StateM τ Unit)
    (classify : Nat → List String → StateM τ BatchOutcome) (pick : List Nat → Nat) (start : τ) :
    scoreWith report classify pick rows batchSize width start = (.error problem, start) := by
  rw [scoreWith, refused]
  rfl

variable {σ : Type}

theorem scoreWith_madeBy (report : ScoringEvent → StateM σ Unit)
    (classify : Nat → List String → StateM σ BatchOutcome) (pick : List Nat → Nat)
    (rows : List MessageRow) (batchSize width : Nat) (start : σ) :
    ∀ call ∈ (scoreWith (fun event => besideLog (report event)) (recorded classify) pick rows
      batchSize width (start, [])).2.2, call.MadeBy classify := by
  cases checked : scoringTexts rows batchSize width with
  | error problem =>
    rw [scoreWith_refused checked]
    exact List.forall_mem_nil _
  | ok texts =>
    have made := completions_madeBy classify pick width (chunks batchSize texts).length
      (numbered (chunks batchSize texts))
      (report (.sending texts.length rows.length batchSize width) start).2
      (List.forall_mem_nil _)
    rw [scoreWith_eq checked]
    -- reports leave the log as it is, so after either end it is the log of the batches
    dsimp only
    split <;> exact made

/-- The calls of a run, observed with a log, lead to an end, and its result is made of them. -/
theorem exists_calls_scoringResult (report : ScoringEvent → StateM σ Unit)
    (classify : Nat → List String → StateM σ BatchOutcome) (pick : List Nat → Nat)
    (rows : List MessageRow) (batchSize width : Nat) (start : σ) :
    let run := scoreWith report classify pick rows batchSize width start
    ∃ log calls : List ClassifierCall,
      scoreWith (fun event => besideLog (report event)) (recorded classify) pick rows batchSize
        width (start, []) = (run.1, run.2, log) ∧ log.Perm calls ∧
      run.1 = scoringResult batchSize width rows calls ∧
      ∃ result, ScoringEnd batchSize width rows calls result := by
  intro run
  cases checked : scoringTexts rows batchSize width with
  | error problem =>
    have stopped : run = (.error problem, start) := scoreWith_refused checked report classify pick _
    refine ⟨[], [], ?_, .nil, ?_, exists_end_of_refused checked⟩
    · rw [stopped, scoreWith_refused checked]
    · simp [stopped, scoringResult, checked, bind, Except.bind]
  | ok texts =>
    obtain ⟨positive, room, read⟩ := scoringTexts_eq_ok_iff.mp checked
    obtain ⟨readable, own⟩ := textsFrom_eq_ok_iff.mp read
    obtain ⟨log, last, plain, noted, perm⟩ :=
      sentBatches_recorded report classify pick room rows.length batchSize texts start
    obtain ⟨calls, same, numbers, batches, outcomes⟩ := exists_calls_inOrder perm
    have count : calls.length = (chunks batchSize texts).length := by
      rw [← batches, List.length_map]
    have sent : SentInBatches batchSize width rows calls :=
      ⟨positive, room, readable, by rw [count, numbers], own ▸ batches⟩
    have ran : run = _ := scoreWith_eq checked report classify pick start
    rw [plain] at ran
    simp only [outcomes] at ran
    refine ⟨log, calls, ?_, same, ?_, sent.exists_end⟩
    · rw [scoreWith_eq checked, noted, ran]
      simp only [outcomes]
      cases verdictsFrom 1 (chunks batchSize texts) (calls.map (·.outcome)) <;> rfl
    · rw [ran, scoringResult, checked]
      simp only [bind, Except.bind]
      cases verdictsFrom 1 (chunks batchSize texts) (calls.map (·.outcome)) <;> rfl

/-- A run ends as the first thing that is wrong with its sizes, its rows, its batches or its
confidences makes it end, or else with a message for every row. Its calls, put in the order of the
batches, are all that decides: the order in which batches complete has no say in it. They are
observed by running it again with a log, and a run over refused sizes or rows has none. -/
theorem scoreWith_ends (report : ScoringEvent → StateM σ Unit)
    (classify : Nat → List String → StateM σ BatchOutcome) (pick : List Nat → Nat)
    (rows : List MessageRow) (batchSize width : Nat) (start : σ) :
    let run := scoreWith report classify pick rows batchSize width start
    (∃ log calls : List ClassifierCall,
      scoreWith (fun event => besideLog (report event)) (recorded classify) pick rows batchSize
        width (start, []) = (run.1, run.2, log) ∧ log.Perm calls ∧
      ∀ result, ScoringEnd batchSize width rows calls result ↔ run.1 = result) ∧
    ∀ messages, run.1 = .ok messages → messages.length = rows.length := by
  intro run
  obtain ⟨log, calls, again, same, own, result, ended⟩ :=
    exists_calls_scoringResult report classify pick rows batchSize width start
  have finish : ScoringEnd batchSize width rows calls run.1 := by
    rw [own, ← ended.eq_scoringResult]
    exact ended
  refine ⟨⟨log, calls, again, same, fun other => ?_⟩, fun messages scored => ?_⟩
  · constructor
    · intro ended
      rw [own, ended.eq_scoringResult]
    · rintro rfl
      exact finish
  · rw [scored] at finish
    cases finish with
    | scored _ _ judged => exact judged.length_eq

/-- A classifier that always fails. -/
def unreachableService (number : Nat) (_ : List String) : StateM Nat BatchOutcome := fun calls =>
  (.error ["no route to host", "request " ++ toString number], calls + 1)

-- the second batch completes first, and both are sent
example : scoreWith (fun _ => pure ()) unreachableService (fun _ => 1) fourRows 2 2 0 =
    (.error (.batch 1 (.failed ["no route to host", "request 0"])), 2) := rfl

end SentimentTree
