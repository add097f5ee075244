import SentimentTree.Proofs.Classifier.Chunks
import SentimentTree.Proofs.Classifier.Completions
import SentimentTree.Proofs.Table.Row

/-! # Every row gets its own verdict

A scoring run that succeeds has sent the texts of the analyzable rows, each once and in order, and
has given each of these rows the verdict that came back for its own text, in whatever order the
batches completed. The classifier may keep a state of its own, so nothing is assumed of its answers.
-/

namespace SentimentTree

open Calendar

variable {number batchSize width : Nat} {rows : List MessageRow} {texts : List String}
  {messages : List ScoredMessage} {verdicts : List Classification}

/-! ## Texts -/

/-- The texts of rows that are all readable are those of the analyzable ones. -/
theorem textsFrom_eq_ok_iff :
    textsFrom number rows = .ok texts ↔
      (∀ row ∈ rows, (∃ time, row.timestamp = .ok time) ∧ ∃ flag, row.analyzable = some flag) ∧
      texts = (rows.filter (·.isAnalyzable)).map fun row => flatText row.text := by
  induction rows generalizing number texts with
  | nil => simp [textsFrom, eq_comm]
  | cons row rest ih =>
    simp only [textsFrom, except_bind_eq_ok_iff, atRow_eq_ok_iff, MessageRow.flag_eq_ok_iff, ih,
      pure, Except.pure, Except.ok.injEq, List.forall_mem_cons]
    constructor
    · rintro ⟨time, read, flag, known, later, ⟨readable, rfl⟩, rfl⟩
      refine ⟨⟨⟨⟨time, read⟩, flag, known⟩, readable⟩, ?_⟩
      rw [List.filter_cons, MessageRow.isAnalyzable_eq known]
      cases flag <;> rfl
    · rintro ⟨⟨⟨⟨time, read⟩, flag, known⟩, readable⟩, rfl⟩
      refine ⟨time, read, flag, known, _, ⟨readable, rfl⟩, ?_⟩
      rw [List.filter_cons, MessageRow.isAnalyzable_eq known]
      cases flag <;> rfl

theorem scoringTexts_eq_ok_iff :
    scoringTexts rows batchSize width = .ok texts ↔
      0 < batchSize ∧ 0 < width ∧ textsFrom 1 rows = .ok texts := by
  unfold scoringTexts
  split
  · rename_i none
    refine iff_of_false nofun ?_
    rintro ⟨batch, room, _⟩
    omega
  · rename_i some
    rw [not_or] at some
    have batch := Nat.pos_of_ne_zero some.1
    have room := Nat.pos_of_ne_zero some.2
    cases textsFrom 1 rows <;> simp [batch, room]

/-! ## Verdicts -/

/-- Verdicts can be used when every batch came back with one for each of its texts. -/
theorem verdictsFrom_eq_ok_iff {batches : List (List String)} {outcomes : List BatchOutcome}
    (complete : outcomes.length = batches.length) :
    verdictsFrom number batches outcomes = .ok verdicts ↔
      ∃ answers : List (List Classification), outcomes = answers.map .ok ∧
        answers.map List.length = batches.map List.length ∧ verdicts = answers.flatten := by
  induction batches generalizing number outcomes verdicts with
  | nil =>
    obtain rfl := List.length_eq_zero_iff.mp complete
    simp [verdictsFrom, eq_comm]
  | cons texts batches ih =>
    obtain ⟨outcome, outcomes, rfl⟩ := List.exists_cons_of_length_eq_add_one complete
    have shorter : outcomes.length = batches.length := Nat.succ.inj complete
    simp only [verdictsFrom]
    cases outcome with
    | error chain =>
      refine iff_of_false nofun ?_
      rintro ⟨answers, all, _⟩
      cases answers <;> simp at all
    | ok answer =>
      dsimp only
      split
      · rename_i same
        simp only [except_bind_eq_ok_iff, ih shorter, pure, Except.pure, Except.ok.injEq]
        constructor
        · rintro ⟨later, ⟨answers, rfl, lengths, rfl⟩, rfl⟩
          exact ⟨answer :: answers, rfl, by rw [List.map_cons, List.map_cons, same, lengths], rfl⟩
        · rintro ⟨answers, all, lengths, rfl⟩
          obtain ⟨first, answers, rfl, head, tail⟩ := List.map_eq_cons_iff.mp all.symm
          obtain rfl := Except.ok.inj head
          exact ⟨_, ⟨answers, tail.symm, (List.cons.inj lengths).2, rfl⟩, rfl⟩
      · rename_i different
        refine iff_of_false nofun ?_
        rintro ⟨answers, all, lengths, _⟩
        obtain ⟨first, answers, rfl, head, _⟩ := List.map_eq_cons_iff.mp all.symm
        obtain rfl := Except.ok.inj head
        exact different (List.cons.inj lengths).1

/-! ## Rows and verdicts -/

/-- Rows judged in order: an analyzable row takes the next verdict, any other row is neutral. -/
inductive Judged : List Classification → List MessageRow → List ScoredMessage → Prop
  | nil : Judged [] [] []
  | analyzable {row rows time verdict verdicts messages} (flag : row.analyzable = some true)
      (read : row.timestamp = .ok time) (unit : Numeric.inUnit verdict.confidence = true)
      (others : Judged verdicts rows messages) :
      Judged (verdict :: verdicts) (row :: rows)
        (.classified time row.text true verdict :: messages)
  | skipped {row rows time verdicts messages} (flag : row.analyzable = some false)
      (read : row.timestamp = .ok time) (others : Judged verdicts rows messages) :
      Judged verdicts (row :: rows) (.withScore time row.text false neutralScore :: messages)

/-- With one verdict for each analyzable row no row falls back to its own columns. -/
theorem joinVerdicts_eq_ok_iff
    (enough : verdicts.length = (rows.filter (·.isAnalyzable)).length) :
    joinVerdicts number verdicts rows = .ok messages ↔ Judged verdicts rows messages := by
  induction rows generalizing number verdicts messages with
  | nil =>
    obtain rfl := List.length_eq_zero_iff.mp enough
    constructor
    · rintro ⟨⟩
      exact .nil
    · rintro ⟨⟩
      rfl
  | cons row rest ih =>
    simp only [joinVerdicts, except_bind_eq_ok_iff, atRow_eq_ok_iff, MessageRow.flag_eq_ok_iff,
      pure, Except.pure, Except.ok.injEq]
    constructor
    · rintro ⟨flag, known, message, scored, later, others, rfl⟩
      rw [List.filter_cons, MessageRow.isAnalyzable_eq known] at enough
      cases flag with
      | false =>
        obtain ⟨time, read, rfl⟩ := (MessageRow.scored_none_eq_ok_iff known).mp scored
        exact .skipped known read ((ih enough).mp others)
      | true =>
        obtain ⟨verdict, verdicts, rfl⟩ := List.exists_cons_of_length_eq_add_one enough
        obtain ⟨time, read, flag, flagged, unit, rfl⟩ := MessageRow.scored_some_eq_ok_iff.mp scored
        obtain rfl := Option.some.inj (known.symm.trans flagged)
        exact .analyzable known read unit ((ih (Nat.succ.inj enough)).mp others)
    · intro judged
      cases judged with
      | analyzable known read unit others =>
        rw [List.filter_cons, MessageRow.isAnalyzable_eq known] at enough
        exact ⟨true, known, _, MessageRow.scored_some_eq_ok_iff.mpr
          ⟨_, read, true, known, unit, rfl⟩, _, (ih (Nat.succ.inj enough)).mpr others, rfl⟩
      | skipped known read others =>
        rw [List.filter_cons, MessageRow.isAnalyzable_eq known] at enough
        exact ⟨false, known, _, (MessageRow.scored_none_eq_ok_iff known).mpr ⟨_, read, rfl⟩,
          _, (ih enough).mpr others, rfl⟩

namespace Judged

theorem length_eq (judged : Judged verdicts rows messages) : messages.length = rows.length := by
  induction judged with
  | nil => rfl
  | analyzable _ _ _ _ ih => exact congrArg Nat.succ ih
  | skipped _ _ _ ih => exact congrArg Nat.succ ih

end Judged

/-! ## Runs -/

abbrev ClassifierCall : Type := BatchCall (List String) BatchOutcome

variable {σ : Type}

/-- What the batches of the texts bring back, in order of completion, and the state after them. -/
def sentBatches (report : ScoringEvent → StateM σ Unit)
    (classify : Nat → List String → StateM σ BatchOutcome) (pick : List Nat → Nat)
    (rows batchSize width : Nat) (texts : List String) (start : σ) :
    List (Nat × BatchOutcome) × σ :=
  let sent := (report (.sending texts.length rows batchSize width) start).2
  let batches := chunks batchSize texts
  completions classify pick width batches.length (numbered batches) sent

/-- Once its rows are checked, a run is made of its batches and of what their outcomes make of the
rows. -/
theorem scoreWith_eq {texts : List String} (checked : scoringTexts rows batchSize width = .ok texts)
    (report : ScoringEvent → StateM σ Unit)
    (classify : Nat → List String → StateM σ BatchOutcome) (pick : List Nat → Nat) (start : σ) :
    scoreWith report classify pick rows batchSize width start =
      let run := sentBatches report classify pick rows.length batchSize width texts start
      match verdictsFrom 1 (chunks batchSize texts)
          (inOrder (chunks batchSize texts).length run.1) with
      | .error problem => (.error problem, run.2)
      | .ok verdicts =>
        ((joinVerdicts 1 verdicts rows).mapError .row,
          (report (.received verdicts.length) run.2).2) := by
  unfold scoreWith
  simp only [checked, sentBatches, bind, StateT.bind]
  obtain ⟨_, sent⟩ := report (.sending texts.length rows.length batchSize width) start
  dsimp only
  obtain ⟨completed, next⟩ := completions classify pick width (chunks batchSize texts).length
    (numbered (chunks batchSize texts)) sent
  dsimp only
  cases verdictsFrom 1 (chunks batchSize texts)
      (inOrder (chunks batchSize texts).length completed) with
  | error problem => rfl
  | ok verdicts =>
    simp only [StateT.bind]
    obtain ⟨_, received⟩ := report (.received verdicts.length) next
    cases joinVerdicts 1 verdicts rows <;> rfl

/-- A run succeeds when rows, batches and verdicts all do, and it ends in the state after its last
report. -/
theorem scoreWith_eq_ok_iff (report : ScoringEvent → StateM σ Unit)
    (classify : Nat → List String → StateM σ BatchOutcome) (pick : List Nat → Nat)
    (start last : σ) :
    scoreWith report classify pick rows batchSize width start = (.ok messages, last) ↔
      ∃ texts, scoringTexts rows batchSize width = .ok texts ∧
        let run := sentBatches report classify pick rows.length batchSize width texts start
        ∃ verdicts, verdictsFrom 1 (chunks batchSize texts)
            (inOrder (chunks batchSize texts).length run.1) = .ok verdicts ∧
          joinVerdicts 1 verdicts rows = .ok messages ∧
          (report (.received verdicts.length) run.2).2 = last := by
  cases checked : scoringTexts rows batchSize width with
  | error problem =>
    have stopped : scoreWith report classify pick rows batchSize width start =
        (.error problem, start) := by
      simp only [scoreWith, checked]
      rfl
    rw [stopped]
    refine iff_of_false nofun ?_
    rintro ⟨_, ⟨⟩, _⟩
  | ok texts =>
    rw [scoreWith_eq checked]
    simp only [Except.ok.injEq, exists_eq_left']
    cases verdictsFrom 1 (chunks batchSize texts) (inOrder (chunks batchSize texts).length
        (sentBatches report classify pick rows.length batchSize width texts start).1) with
    | error problem =>
      refine iff_of_false nofun ?_
      rintro ⟨_, ⟨⟩, _⟩
    | ok verdicts =>
      simp only [Except.ok.injEq, exists_eq_left']
      cases joinVerdicts 1 verdicts rows with
      | error error =>
        refine iff_of_false nofun ?_
        rintro ⟨⟨⟩, _⟩
      | ok joined =>
        constructor
        · rintro ⟨⟩
          exact ⟨rfl, rfl⟩
        · rintro ⟨⟨⟩, rfl⟩
          rfl

/-- Noting the calls of a run changes nothing, and they are the batches, each once. -/
theorem sentBatches_recorded (report : ScoringEvent → StateM σ Unit)
    (classify : Nat → List String → StateM σ BatchOutcome) (pick : List Nat → Nat)
    (room : 0 < width) (count batchSize : Nat) (texts : List String) (start : σ) :
    ∃ log : List ClassifierCall, ∃ last : σ,
      sentBatches report classify pick count batchSize width texts start =
        (log.map fun call => (call.number, call.outcome), last) ∧
      sentBatches (fun event => besideLog (report event)) (recorded classify) pick count batchSize
        width texts (start, []) = (log.map fun call => (call.number, call.outcome), last, log) ∧
      (log.map fun call => (call.number, call.batch)).Perm (numbered (chunks batchSize texts)) := by
  have length : (numbered (chunks batchSize texts)).length = (chunks batchSize texts).length := by
    simp [numbered]
  obtain ⟨log, last, plain, noted, perm⟩ := completions_recorded room pick classify
    (numbered (chunks batchSize texts))
    (report (.sending texts.length count batchSize width) start).2 []
  rw [length] at plain noted
  exact ⟨log, last, plain, noted, perm⟩

/-- Four rows, the second of which cannot be analyzed. -/
def fourRows : List MessageRow :=
  [{ sentAt := some (.millis 0), message := some "good\nnews", analyzable := some true },
    { sentAt := some (.millis 1), message := some "a picture", analyzable := some false },
    { sentAt := some (.millis 2), message := some "more of it", analyzable := some true },
    { sentAt := some (.millis 3), message := some "bad news", analyzable := some true }]

/-- A classifier that likes what it is sent first. -/
def firstImpression (_ : Nat) (texts : List String) : StateM Nat BatchOutcome := fun calls =>
  (.ok (texts.map fun _ => ⟨if calls = 0 then .positive else .negative, 0.75⟩), calls + 1)

end SentimentTree
