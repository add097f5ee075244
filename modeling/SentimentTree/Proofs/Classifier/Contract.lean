import SentimentTree.Classifier.Exchange
import SentimentTree.Proofs.Classifier.Answers
import SentimentTree.Proofs.Numeric.UnitInterval

/-! # What a model server cannot spoil

Whatever a server replies, verdicts that an attempt brings are one for each text, and their
confidences are in the unit interval. Attempts that fail are repeated and change nothing about that,
so it holds of all that comes back for a batch (`Wire.classify_keepsContract`). Of the ends of a
scoring run only two are left then for rows that are readable: every row is judged, or a batch has
failed.
-/

namespace SentimentTree

open Numeric

variable {σ : Type} {texts : List String} {batchSize width : Nat} {rows : List MessageRow}
  {calls : List ClassifierCall} {result : Except ScoringProblem (List ScoredMessage)}

/-- What is asked of the verdicts on texts: one for each, with a confidence in the unit interval. -/
structure Fits (texts : List String) (verdicts : List Classification) : Prop where
  length : verdicts.length = texts.length
  units : ∀ verdict ∈ verdicts, inUnit verdict.confidence = true

/-- What comes back for texts is a failure or verdicts that fit. -/
def KeepsContract (texts : List String) (outcome : BatchOutcome) : Prop :=
  ∀ verdicts, outcome = .ok verdicts → Fits texts verdicts

/-! ## Attempts -/

/-- A finite number is in the unit interval once it is moved there. -/
theorem inUnit_clampUnit_of_isFinite {x : Float} (finite : x.isFinite = true) :
    inUnit (clampUnit x) = true := by
  obtain ⟨q, value⟩ := (isFinite_iff x).mp finite
  exact clampUnit_inUnit ((isNaN_eq_false_iff x).mpr ⟨_, value⟩)

/-- Verdicts that are read from an answer fit, whatever its lines are. -/
theorem readAnswer_fits {answer : List Char} {verdicts : List Classification}
    (read : (readAnswer texts.length answer).2 = .ok verdicts) : Fits texts verdicts := by
  cases readAnswer_eq_iff_end.mp read with
  | answered _ length last =>
    refine ⟨length, fun verdict member => ?_⟩
    obtain ⟨place, inside, rfl⟩ := List.getElem_of_mem member
    obtain ⟨hit, label, final, -, given⟩ := last (place + 1) (by omega) (by omega)
    rw [Nat.add_sub_cancel, List.getElem?_eq_getElem inside] at given
    rw [Option.some.inj given]
    obtain ⟨-, -, line, -, found⟩ :=
      mem_hitsOf (List.mem_filter.mp (List.mem_of_getLast? final)).1
    exact inUnit_clampUnit_of_isFinite (AnswerRecord.confidence_isFinite found)

private theorem ServerSettings.verdictsOf_fits {settings : ServerSettings} {outcome : HttpOutcome}
    {verdicts : List Classification}
    (usable : (settings.verdictsOf texts.length outcome).2 = .ok verdicts) :
    Fits texts verdicts := by
  unfold verdictsOf at usable
  split at usable
  · nomatch usable
  · split at usable
    · rename_i remarks found read
      obtain rfl := Except.ok.inj usable
      exact readAnswer_fits (congrArg Prod.snd read)
    · nomatch usable

namespace Wire

variable (wire : Wire (StateM σ)) (settings : ServerSettings)

/-- One attempt: some outcome comes back, which brings verdicts or leads to the next attempt. -/
private theorem tryFrom_succ (texts : List String) (attempt : Nat) (last : Option AttemptProblem)
    (more : Nat) (start : σ) :
    ∃ outcome next, wire.tryFrom settings texts attempt last (more + 1) start =
      match (settings.verdictsOf texts.length outcome).2 with
      | .ok verdicts => (.ok verdicts, next)
      | .error problem => wire.tryFrom settings texts (attempt + 1) (some problem) more next := by
  rw [tryFrom]
  simp only [bind, StateT.bind]
  generalize wire.log _ start = announced
  obtain ⟨_, announced⟩ := announced
  dsimp only
  generalize wire.send settings (settings.chatRequest texts) announced = sent
  obtain ⟨outcome, sent⟩ := sent
  dsimp only
  refine ⟨outcome, ?_⟩
  rcases settings.verdictsOf texts.length outcome with ⟨remarks, problem | verdicts⟩
  · exact ⟨_, rfl⟩
  · exact ⟨_, rfl⟩

/-- No number of attempts brings verdicts that do not fit. -/
private theorem tryFrom_keepsContract (texts : List String) (attempt : Nat)
    (last : Option AttemptProblem) (more : Nat) (start : σ) :
    KeepsContract texts (wire.tryFrom settings texts attempt last more start).1 := by
  induction more generalizing attempt last start with
  | zero => exact nofun
  | succ more ih =>
    obtain ⟨outcome, next, step⟩ := wire.tryFrom_succ settings texts attempt last more start
    rw [step]
    cases usable : (settings.verdictsOf texts.length outcome).2 with
    | ok verdicts =>
      rintro _ ⟨⟩
      exact ServerSettings.verdictsOf_fits usable
    | error problem => exact ih _ _ _

private theorem classify_keepsContract (texts : List String) (start : σ) :
    KeepsContract texts (wire.classify settings texts start).1 := by
  unfold classify
  split
  · rename_i empty
    obtain rfl := List.isEmpty_iff.mp empty
    rintro _ ⟨⟩
    exact ⟨rfl, List.forall_mem_nil _⟩
  · exact wire.tryFrom_keepsContract settings texts _ _ _ _

end Wire

/-! ## Ends of a run -/

/-- How a run over readable rows ends if no failure but that of a batch can stop it. -/
inductive ServedEnd (rows : List MessageRow) :
    List ClassifierCall → Except ScoringProblem (List ScoredMessage) → Prop
  /-- All batches have come back, and every row is judged. -/
  | scored {calls : List ClassifierCall} {messages : List ScoredMessage}
      (answered : ∀ call ∈ calls, call.outcome.isOk = true)
      (judged : Judged (calls.flatMap (·.answers)) rows messages) :
      ServedEnd rows calls (.ok messages)
  /-- The batch with the lowest number that has failed. -/
  | failed {before : List ClassifierCall} {call : ClassifierCall} {after : List ClassifierCall}
      {chain : List String} (answered : ∀ earlier ∈ before, earlier.outcome.isOk = true)
      (failed : call.outcome = .error chain) :
      ServedEnd rows (before ++ call :: after)
        (.error (.batch (before.length + 1) (.failed chain)))

/-- A call with verdicts that fit can be used. -/
theorem BatchCall.problem?_eq_none_iff {call : ClassifierCall}
    (keeps : KeepsContract call.batch call.outcome) :
    call.problem? = none ↔ call.outcome.isOk = true := by
  obtain ⟨number, batch, chain | verdicts⟩ := call
  · exact iff_of_false nofun nofun
  · exact iff_of_true (if_pos (keeps verdicts rfl).length) rfl

section
variable (keeps : ∀ call ∈ calls, KeepsContract call.batch call.outcome)
include keeps

/-- Verdicts of calls that keep the contract are in the unit interval. -/
private theorem units_of_keepsContract :
    ∀ verdict ∈ calls.flatMap (·.answers), inUnit verdict.confidence = true := by
  intro verdict member
  obtain ⟨⟨number, batch, chain | verdicts⟩, called, answer⟩ := List.mem_flatMap.mp member
  · nomatch answer
  · exact (keeps _ called verdicts rfl).units verdict answer

private theorem usable_of_isOk (answered : ∀ call ∈ calls, call.outcome.isOk = true) :
    ∀ call ∈ calls, call.problem? = none :=
  fun call member => (BatchCall.problem?_eq_none_iff (keeps call member)).mpr (answered call member)

/-- An end over readable rows is one of the ends that a run has. -/
theorem ServedEnd.scoringEnd (sent : SentInBatches batchSize width rows calls)
    (ended : ServedEnd rows calls result) : ScoringEnd batchSize width rows calls result := by
  cases ended with
  | scored answered judged => exact .scored sent (usable_of_isOk keeps answered) judged
  | failed answered failed =>
    have usable := usable_of_isOk (fun call member => keeps call (List.mem_append_left _ member))
      answered
    exact .unusable sent usable (by rw [BatchCall.problem?, failed])

/-- Calls that keep the contract lead to such an end. -/
theorem SentInBatches.exists_servedEnd (sent : SentInBatches batchSize width rows calls) :
    ∃ result, ServedEnd rows calls result := by
  rcases forall_or_exists_first (fun call => call.outcome.isOk = true) calls with
    answered | ⟨before, call, after, rfl, answered, failed⟩
  · have enough := sent.length_answers (usable_of_isOk keeps answered)
    obtain ⟨messages, judged⟩ := exists_judged sent.readable enough (units_of_keepsContract keeps)
    exact ⟨_, .scored answered judged⟩
  · cases outcome : call.outcome with
    | ok verdicts => exact (failed (by rw [outcome]; rfl)).elim
    | error chain => exact ⟨_, .failed answered outcome⟩

end

/-! ## Runs -/

/-- A run whose classifier keeps the contract ends in one of the two ways, once it makes calls. -/
theorem scoreWith_servedEnd (report : ScoringEvent → StateM σ Unit)
    {classify : Nat → List String → StateM σ BatchOutcome}
    (trusted : ∀ number texts state, KeepsContract texts (classify number texts state).1)
    (pick : List Nat → Nat) (rows : List MessageRow) (batchSize width : Nat) (start : σ) :
    let run := scoreWith report classify pick rows batchSize width start
    ∃ log calls : List ClassifierCall,
      scoreWith (fun event => besideLog (report event)) (recorded classify) pick rows batchSize
        width (start, []) = (run.1, run.2, log) ∧ log.Perm calls ∧
      (∀ call ∈ calls, call.MadeBy classify) ∧
      ScoringEnd batchSize width rows calls run.1 ∧
      (SentInBatches batchSize width rows calls →
        ∀ result, ServedEnd rows calls result ↔ run.1 = result) := by
  intro run
  obtain ⟨log, calls, again, same, own, last, ended⟩ :=
    exists_calls_scoringResult report classify pick rows batchSize width start
  obtain rfl : last = run.1 := by rw [ended.eq_scoringResult, own]
  have made : ∀ call ∈ calls, call.MadeBy classify := by
    have noted := scoreWith_madeBy report classify pick rows batchSize width start
    rw [again] at noted
    exact fun call member => noted call (same.mem_iff.mpr member)
  have keeps : ∀ call ∈ calls, KeepsContract call.batch call.outcome := by
    intro call member
    obtain ⟨state, outcome⟩ := made call member
    rw [outcome]
    exact trusted call.number call.batch state
  refine ⟨log, calls, again, same, made, ended, fun sent result => ?_⟩
  have only {result} (reached : ServedEnd rows calls result) : run.1 = result := by
    rw [own, (reached.scoringEnd keeps sent).eq_scoringResult]
  constructor
  · exact only
  · rintro rfl
    obtain ⟨other, reached⟩ := sent.exists_servedEnd keeps
    rwa [only reached]

/-- Whatever a server replies, and however often it is asked, verdicts that come back for texts are
one for each, with confidences in the unit interval. So no run with a model server stops at a wrong
number of verdicts or at a confidence. Once its sizes and rows are in order, it is the failure of the
first batch that fails, or else a message for every row. -/
theorem Wire.classify_fits (wire : Wire (StateM σ)) (settings : ServerSettings) :
    (∀ texts start verdicts, (wire.classify settings texts start).1 = .ok verdicts →
      verdicts.length = texts.length ∧
      ∀ verdict ∈ verdicts, inUnit verdict.confidence = true) ∧
    ∀ (report : ScoringEvent → StateM σ Unit) (pick : List Nat → Nat) (rows : List MessageRow)
      (batchSize width : Nat) (start : σ),
      let classify (_ : Nat) (texts : List String) := wire.classify settings texts
      let run := scoreWith report classify pick rows batchSize width start
      (∀ number got expected, run.1 ≠ .error (.batch number (.wrongCount got expected))) ∧
      (∀ number field value, run.1 ≠ .error (.row ⟨number, .outsideUnit field value⟩)) ∧
      (0 < batchSize → 0 < width → (∀ row ∈ rows, row.Readable) →
        ∃ log calls : List ClassifierCall,
          scoreWith (fun event => besideLog (report event)) (recorded classify) pick rows batchSize
            width (start, []) = (run.1, run.2, log) ∧ log.Perm calls ∧
          SentInBatches batchSize width rows calls ∧ (∀ call ∈ calls, call.MadeBy classify) ∧
          ∀ result, ServedEnd rows calls result ↔ run.1 = result) := by
  refine ⟨fun texts start verdicts classified => ?_, ?_⟩
  · obtain ⟨length, units⟩ := wire.classify_keepsContract settings texts start verdicts classified
    exact ⟨length, units⟩
  · intro report pick rows batchSize width start classify run
    obtain ⟨log, calls, again, same, made, ended, served⟩ := scoreWith_servedEnd report
      (fun _ => wire.classify_keepsContract settings) pick rows batchSize width start
    refine ⟨fun number got expected wrong => ?_, fun number field value outside => ?_,
      fun positive room readable => ⟨log, calls, again, same, ?_⟩⟩
    · rcases ended.sent_or_refused with sent | ⟨-, refused⟩ | ⟨_, -, _, _, -, refused⟩
      · nomatch (served sent _).mpr wrong
      · nomatch wrong.symm.trans refused
      · nomatch wrong.symm.trans refused
    · rcases ended.sent_or_refused with sent | ⟨-, refused⟩ | ⟨_, -, _, _, unreadable, refused⟩
      · nomatch (served sent _).mpr outside
      · nomatch outside.symm.trans refused
      · obtain ⟨⟩ := outside.symm.trans refused
        nomatch unreadable
    · have sent : SentInBatches batchSize width rows calls := by
        rcases ended.sent_or_refused with sent | ⟨zero, -⟩ | ⟨row, member, _, _, unreadable, -⟩
        · exact sent
        · omega
        · exact (unreadable.not_readable (readable row member)).elim
      exact ⟨sent, made, served sent⟩

/-- A server that gives one reply after another and is out of reach when there are no more. -/
def scripted : Wire (StateM (List HttpOutcome)) where
  post _ _ := fun
    | [] => (.unreachable, [])
    | reply :: replies => (reply, replies)
  log _ := pure ()

/-- A server that is asked twice at most. -/
def patient : ServerSettings where
  model := "llama3"
  url := "http://[::1]:11434"
  temperature := 0.0
  timeoutSeconds := 60
  retries := 1

/-- No answer at first, then one with a confidence above one and a text behind it, and after that
the server is gone. -/
def slowReplies : List HttpOutcome :=
  [.reply 503 "loading",
    .reply 200 ("\x7b\"message\":\x7b\"role\":\"assistant\",\"content\":\"\x7b\\\"index\\\":1," ++
      "\\\"label\\\":\\\"pos\\\",\\\"confidence\\\":7\x7d\\nThat is all.\"\x7d\x7d")]

/-- The first of three batches is answered at the second attempt, and the others never are. -/
theorem Wire.classify_fits_fourRows :
    (∃ verdicts, (scripted.classify patient ["good news"] slowReplies).1 = .ok verdicts ∧
      verdicts.length = 1 ∧ ∀ verdict ∈ verdicts, inUnit verdict.confidence = true) ∧
    ∃ calls, SentInBatches 1 2 fourRows calls ∧ ServedEnd fourRows calls (.error (.batch 2 (.failed
      ["giving up after 2 attempts",
        "Cannot connect to Ollama at http://[::1]:11434. Is Ollama running?"]))) := by
  obtain ⟨contract, runs⟩ := Wire.classify_fits scripted patient
  have classified : (scripted.classify patient ["good news"] slowReplies).1 =
      .ok [⟨.positive, 1.0⟩] := by decide +kernel
  have failed : (scoreWith (fun _ => pure ()) (fun _ => scripted.classify patient) (fun _ => 0)
      fourRows 1 2 slowReplies).1 = .error (.batch 2 (.failed ["giving up after 2 attempts",
        "Cannot connect to Ollama at http://[::1]:11434. Is Ollama running?"])) := by
    decide +kernel
  have readable : ∀ row ∈ fourRows, row.Readable := by
    intro row member
    fin_cases member <;> exact ⟨⟨_, rfl⟩, _, rfl⟩
  obtain ⟨-, -, served⟩ := runs (fun _ => pure ()) (fun _ => 0) fourRows 1 2 slowReplies
  obtain ⟨log, calls, -, -, sent, -, ends⟩ := served (by decide) (by decide) readable
  exact ⟨⟨_, classified, contract _ _ _ classified⟩, calls, sent, (ends _).mpr failed⟩

end SentimentTree
