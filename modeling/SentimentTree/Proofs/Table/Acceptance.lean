import SentimentTree.Proofs.Table.Row

/-! # Which rows become messages

`MessageRow.Acceptable` is what a row needs to become a message by its own columns, and
`MessageRow.Yields` what message it becomes, both told from the columns. A row is looked at column by
column, and `MessageRow.Refused` says which complaint comes first. The rows of a table are looked at
one after the other, so a table becomes messages when all of its rows are acceptable, and otherwise
the first row that is not decides the complaint.
-/

namespace SentimentTree

open Calendar Numeric

variable {row : MessageRow} {message : ScoredMessage} {problem : RowProblem} {time : Timestamp}

namespace MessageRow

/-! ## Conditions on the columns -/

/-- The sentiment column names a label if it is filled. -/
def KnowsLabel (row : MessageRow) : Prop :=
  ∀ name, row.sentiment = some name → ∃ label, Label.read name.toList = .ok label

def SureInUnit (row : MessageRow) : Prop :=
  ∀ certainty, row.certainty = some certainty → inUnit certainty = true

/-- Label, certainty and score suffice for a message: what is filled is a known label and numbers of
the unit interval, and a missing score can be made up from the other two. -/
structure Scorable (row : MessageRow) : Prop where
  label : row.KnowsLabel
  certainty : row.SureInUnit
  score : ∀ score, row.score = some score → inUnit score = true
  complete : row.score = none → row.sentiment ≠ none ∧ row.certainty ≠ none

/-- What is wrong with label, certainty and score, which are looked at in this order: one of them, or
at last that they do not suffice. -/
inductive Unscorable : MessageRow → RowProblem → Prop
  | label {row : MessageRow} {name : String} {unknown : UnknownLabel}
      (named : row.sentiment = some name) (refused : Label.read name.toList = .error unknown) :
      Unscorable row (.unknownLabel unknown)
  | certainty {row : MessageRow} {certainty : Float} (known : row.KnowsLabel)
      (filled : row.certainty = some certainty) (outside : inUnit certainty = false) :
      Unscorable row (.outsideUnit "certainty" certainty)
  | score {row : MessageRow} {score : Float} (known : row.KnowsLabel) (sure : row.SureInUnit)
      (filled : row.score = some score) (outside : inUnit score = false) :
      Unscorable row (.outsideUnit "sentiment_score" score)
  | incomplete {row : MessageRow} (known : row.KnowsLabel) (sure : row.SureInUnit)
      (empty : row.score = none) (missing : row.sentiment = none ∨ row.certainty = none) :
      Unscorable row .noSentiment

/-- Time and flag can be read, and a row with something to analyze tells its sentiment. -/
structure Acceptable (row : MessageRow) : Prop where
  time : ∃ time raw, row.sentAt = some raw ∧ raw.read? = some time
  flag : ∃ flag, row.analyzable = some flag
  sentiment : row.analyzable = some true → row.Scorable

/-- What is wrong with a row first: its time or flag, or else its sentiment if there is something to
analyze. -/
def Refused (row : MessageRow) (problem : RowProblem) : Prop :=
  row.Unreadable problem ∨ row.Readable ∧ row.analyzable = some true ∧ row.Unscorable problem

/-- Label and certainty that a score amounts to: how far it is on a side of the middle, which is not
sure at all of being neutral. -/
inductive Infers (score : Float) : Label → Float → Prop
  | positive (above : neutralScore < score) : Infers score .positive score
  | negative (above : ¬neutralScore < score) (below : score < neutralScore) :
      Infers score .negative (1.0 - score)
  | neutral (above : ¬neutralScore < score) (below : ¬score < neutralScore) :
      Infers score .neutral 0.0

/-- The message of a row. With nothing to analyze it is neutral whatever the other columns hold.
Otherwise the score column counts, or else label and certainty decide the score; and label and
certainty count where both are filled, or else are inferred from the score. -/
structure Yields (row : MessageRow) (message : ScoredMessage) : Prop where
  time : ∃ raw, row.sentAt = some raw ∧ raw.read? = some message.timestamp
  text : message.text = row.message.getD ""
  flag : row.analyzable = some message.analyzable
  neutral : message.analyzable = false →
    message.label = .neutral ∧ message.score = 0.5 ∧ message.certainty = 0.0
  score : message.analyzable = true → ∀ score, row.score = some score → message.score = score
  derived : message.analyzable = true → row.score = none →
    message.score = sentimentScore message.label message.certainty true
  verdict : message.analyzable = true → ∀ name certainty, row.sentiment = some name →
    row.certainty = some certainty →
    Label.read name.toList = .ok message.label ∧ message.certainty = certainty
  inferred : message.analyzable = true → row.sentiment = none ∨ row.certainty = none →
    Infers message.score message.label message.certainty

/-! ## Reading the columns -/

theorem timestamp_eq_ok_iff :
    row.timestamp = .ok time ↔ ∃ raw, row.sentAt = some raw ∧ raw.read? = some time := by
  unfold timestamp
  cases row.sentAt with
  | none => simp
  | some raw => cases read : raw.read? <;> simp [read]

theorem label?_eq_none_iff : row.label? = .ok none ↔ row.sentiment = none := by
  unfold label?
  cases row.sentiment with
  | none => simp
  | some name => cases read : Label.read name.toList <;> simp [read]

theorem label?_eq_some_iff {label : Label} : row.label? = .ok (some label) ↔
    ∃ name, row.sentiment = some name ∧ Label.read name.toList = .ok label := by
  unfold label?
  cases row.sentiment with
  | none => simp
  | some name => cases read : Label.read name.toList <;> simp [read]

theorem label?_eq_error_iff : row.label? = .error problem ↔
    ∃ name unknown, row.sentiment = some name ∧ Label.read name.toList = .error unknown ∧
      problem = .unknownLabel unknown := by
  unfold label?
  cases row.sentiment with
  | none => simp
  | some name => cases read : Label.read name.toList <;> simp [read, eq_comm (b := problem)]

/-- The label column is read as a label where it is filled. -/
private theorem KnowsLabel.exists_label? (known : row.KnowsLabel) :
    ∃ label, row.label? = .ok label ∧ (label = none ↔ row.sentiment = none) := by
  cases filled : row.sentiment with
  | none => exact ⟨none, label?_eq_none_iff.mpr filled, iff_of_true rfl rfl⟩
  | some name =>
    obtain ⟨label, read⟩ := known name filled
    exact ⟨some label, label?_eq_some_iff.mpr ⟨name, filled, read⟩, iff_of_false nofun nofun⟩

private theorem knowsLabel_of_label? {label : Option Label} (named : row.label? = .ok label) :
    row.KnowsLabel ∧ (label = none ↔ row.sentiment = none) := by
  cases label with
  | none =>
    have empty := label?_eq_none_iff.mp named
    exact ⟨fun _ filled => (nomatch empty.symm.trans filled), iff_of_true rfl empty⟩
  | some label =>
    obtain ⟨name, filled, read⟩ := label?_eq_some_iff.mp named
    refine ⟨fun other same => ?_, iff_of_false nofun fun empty => (nomatch filled.symm.trans empty)⟩
    obtain rfl := Option.some.inj (filled.symm.trans same)
    exact ⟨label, read⟩

/-- A row that can be analyzed is refused by its own columns for what is wrong with them first. -/
theorem selfScored_eq_error_iff :
    row.selfScored time = .error problem ↔ row.Unscorable problem := by
  -- which check fails, in the order in which they are made
  have columns : row.selfScored time = .error problem ↔
      row.label? = .error problem ∨ ∃ label, row.label? = .ok label ∧
        ((∃ certainty, row.certainty = some certainty ∧ inUnit certainty = false ∧
            problem = .outsideUnit "certainty" certainty) ∨
          row.SureInUnit ∧
            ((∃ score, row.score = some score ∧ inUnit score = false ∧
                problem = .outsideUnit "sentiment_score" score) ∨
              row.score = none ∧ (label = none ∨ row.certainty = none) ∧
                problem = .noSentiment)) := by
    simp only [selfScored, except_bind_eq_error_iff]
    refine or_congr_right (exists_congr fun label => and_congr_right fun _ => ?_)
    cases filled : row.certainty <;> cases row.score <;> cases label <;>
      simp [SureInUnit, filled, except_bind_eq_error_iff, checkUnit_eq_ok_iff,
        checkUnit_eq_error_iff, pure, Except.pure, eq_comm (b := problem)]
  rw [columns]
  constructor
  · rintro (unknown | ⟨label, named, outside | ⟨sure, outside | ⟨empty, missing, rfl⟩⟩⟩)
    · obtain ⟨name, unknown, filled, refused, rfl⟩ := label?_eq_error_iff.mp unknown
      exact .label filled refused
    · obtain ⟨certainty, filled, outside, rfl⟩ := outside
      exact .certainty (knowsLabel_of_label? named).1 filled outside
    · obtain ⟨score, filled, outside, rfl⟩ := outside
      exact .score (knowsLabel_of_label? named).1 sure filled outside
    · obtain ⟨known, same⟩ := knowsLabel_of_label? named
      exact .incomplete known sure empty (missing.imp_left same.mp)
  · rintro (⟨named, refused⟩ | ⟨known, filled, outside⟩ | ⟨known, sure, filled, outside⟩ |
      ⟨known, sure, empty, missing⟩)
    · exact .inl (label?_eq_error_iff.mpr ⟨_, _, named, refused, rfl⟩)
    all_goals obtain ⟨label, named, same⟩ := known.exists_label?
    · exact .inr ⟨label, named, .inl ⟨_, filled, outside, rfl⟩⟩
    · exact .inr ⟨label, named, .inr ⟨sure, .inl ⟨_, filled, outside, rfl⟩⟩⟩
    · exact .inr ⟨label, named, .inr ⟨sure, .inr ⟨empty, missing.imp_left same.mpr, rfl⟩⟩⟩

theorem timestamp_eq_error_iff : row.timestamp = .error problem ↔
    (row.sentAt = none ∧ problem = .noTimestamp) ∨
      ∃ raw, row.sentAt = some raw ∧ raw.read? = none ∧ problem = .unreadableTimestamp raw := by
  unfold timestamp
  cases row.sentAt with
  | none => simp [eq_comm (b := problem)]
  | some raw => cases read : raw.read? <;> simp [read, eq_comm (b := problem)]

theorem flag_eq_error_iff :
    row.flag = .error problem ↔ row.analyzable = none ∧ problem = .noFlag := by
  unfold MessageRow.flag
  cases row.analyzable <;> simp [eq_comm (b := problem)]

/-- Time and flag are refused for what is wrong with them first. -/
theorem unreadable_iff : row.Unreadable problem ↔ row.timestamp = .error problem ∨
    ∃ time, row.timestamp = .ok time ∧ row.flag = .error problem := by
  rw [timestamp_eq_error_iff, flag_eq_error_iff]
  constructor
  · rintro (empty | ⟨given, refused⟩ | ⟨read, empty⟩)
    · exact .inl (.inl ⟨empty, rfl⟩)
    · exact .inl (.inr ⟨_, given, refused, rfl⟩)
    · exact .inr ⟨_, read, empty, rfl⟩
  · rintro ((⟨empty, rfl⟩ | ⟨raw, given, refused, rfl⟩) | ⟨time, read, empty, rfl⟩)
    · exact .noTimestamp empty
    · exact .unreadableTimestamp given refused
    · exact .noFlag read empty

/-- A row is refused for what is wrong with it first. -/
theorem scored_none_eq_error_iff : row.scored none = .error problem ↔ row.Refused problem := by
  rw [Refused, unreadable_iff]
  simp only [scored, except_bind_eq_error_iff, flag_eq_ok_iff]
  constructor
  · rintro (refused | ⟨time, read, refused | ⟨flag, known, own⟩⟩)
    · exact .inl (.inl refused)
    · exact .inl (.inr ⟨time, read, refused⟩)
    · cases flag with
      | false => cases own
      | true => exact .inr ⟨⟨⟨time, read⟩, true, known⟩, known, selfScored_eq_error_iff.mp own⟩
  · rintro ((refused | ⟨time, read, refused⟩) | ⟨⟨⟨time, read⟩, -⟩, known, own⟩)
    · exact .inl refused
    · exact .inr ⟨time, read, .inl refused⟩
    · exact .inr ⟨time, read, .inr ⟨true, known, selfScored_eq_error_iff.mpr own⟩⟩

/-! ## Messages of rows -/

private theorem Makes.acceptable (read : row.timestamp = .ok time) (made : row.Makes time message) :
    row.Acceptable := by
  have stamped : ∃ time raw, row.sentAt = some raw ∧ raw.read? = some time :=
    ⟨time, timestamp_eq_ok_iff.mp read⟩
  cases made with
  | neutral flag => exact ⟨stamped, ⟨_, flag⟩, fun yes => nomatch flag.symm.trans yes⟩
  | score flag named sure filled unit =>
    refine ⟨stamped, ⟨_, flag⟩, fun _ => ⟨(knowsLabel_of_label? named).1, sure, ?_, ?_⟩⟩
    · rintro _ same
      rwa [← Option.some.inj (filled.symm.trans same)]
    · exact fun empty => nomatch filled.symm.trans empty
  | verdict flag named filled unit empty =>
    obtain ⟨known, same⟩ := knowsLabel_of_label? named
    refine ⟨stamped, ⟨_, flag⟩, fun _ => ⟨known, ?_, ?_, fun _ => ⟨?_, ?_⟩⟩⟩
    · rintro _ given
      rwa [← Option.some.inj (filled.symm.trans given)]
    · exact fun score given => nomatch empty.symm.trans given
    · exact fun none => nomatch same.mpr none
    · exact fun none => nomatch filled.symm.trans none

private theorem Acceptable.exists_makes (acceptable : row.Acceptable) (time : Timestamp) :
    ∃ message, row.Makes time message := by
  obtain ⟨-, ⟨flag, known⟩, sentiment⟩ := acceptable
  cases flag with
  | false => exact ⟨_, .neutral known⟩
  | true =>
    obtain ⟨named, sure, unit, complete⟩ := sentiment known
    obtain ⟨label, read, same⟩ := named.exists_label?
    cases filled : row.score with
    | some score => exact ⟨_, .score known read sure filled (unit score filled)⟩
    | none =>
      obtain ⟨labelled, certain⟩ := complete filled
      obtain ⟨label, rfl⟩ := Option.ne_none_iff_exists'.mp (mt same.mp labelled)
      obtain ⟨certainty, given⟩ := Option.ne_none_iff_exists'.mp certain
      exact ⟨_, .verdict known read given (sure certainty given) filled⟩

/-- A row becomes a message when it is acceptable. -/
theorem exists_scored_iff : (∃ message, row.scored none = .ok message) ↔ row.Acceptable := by
  simp only [scored_none_eq_ok_iff_makes]
  constructor
  · rintro ⟨message, time, read, made⟩
    exact made.acceptable read
  · intro acceptable
    obtain ⟨time, given⟩ := acceptable.time
    obtain ⟨message, made⟩ := acceptable.exists_makes time
    exact ⟨message, time, timestamp_eq_ok_iff.mpr given, made⟩

private theorem Infers.of_verdictOfScore (score : Float) :
    Infers score (ScoredMessage.verdictOfScore score).label
      (ScoredMessage.verdictOfScore score).confidence := by
  unfold ScoredMessage.verdictOfScore
  split
  · rename_i above
    exact .positive above
  · rename_i above
    split
    · rename_i below
      exact .negative above below
    · rename_i below
      exact .neutral above below

/-- Where label or certainty is missing, a score keeps the verdict inferred from it. -/
private theorem withVerdict_of_missing {label : Option Label} {certainty : Option Float}
    (missing : label = none ∨ certainty = none) :
    message.withVerdict label certainty = message := by
  rcases missing with rfl | rfl
  · rfl
  · cases label <;> rfl

/-- Label and certainty that are both filled are the verdict of the columns. -/
private theorem verdict_of_columns {label : Label} {certainty : Float}
    (named : row.label? = .ok (some label)) (given : row.certainty = some certainty) :
    (∀ name sureness, row.sentiment = some name → row.certainty = some sureness →
      Label.read name.toList = .ok label ∧ certainty = sureness) ∧
    ¬(row.sentiment = none ∨ row.certainty = none) := by
  obtain ⟨name, filled, read⟩ := label?_eq_some_iff.mp named
  constructor
  · intro other sureness same same'
    obtain rfl := Option.some.inj (filled.symm.trans same)
    exact ⟨read, Option.some.inj (given.symm.trans same')⟩
  · rintro (empty | empty)
    · nomatch filled.symm.trans empty
    · nomatch given.symm.trans empty

private theorem Makes.yields (read : row.timestamp = .ok time) (made : row.Makes time message) :
    row.Yields message := by
  have stamped := timestamp_eq_ok_iff.mp read
  cases made with
  | neutral flag =>
    exact ⟨stamped, rfl, flag, fun _ => ⟨rfl, rfl, rfl⟩, nofun, nofun, nofun, nofun⟩
  | @score label score flag named sure filled unit =>
    have own (_ : true = true) (other : Float) (same : row.score = some other) : score = other :=
      Option.some.inj (filled.symm.trans same)
    by_cases missing : label = none ∨ row.certainty = none
    · rw [withVerdict_of_missing missing]
      rw [(knowsLabel_of_label? named).2] at missing
      refine ⟨stamped, rfl, flag, nofun, own, ?_, ?_, ?_⟩
      · exact fun _ empty => nomatch filled.symm.trans empty
      · intro _ name certainty given given'
        rw [given, given'] at missing
        nomatch missing
      · exact fun _ _ => .of_verdictOfScore score
    · obtain ⟨labelled, certain⟩ := not_or.mp missing
      obtain ⟨label, rfl⟩ := Option.ne_none_iff_exists'.mp labelled
      obtain ⟨certainty, given⟩ := Option.ne_none_iff_exists'.mp certain
      obtain ⟨verdict, both⟩ := verdict_of_columns named given
      rw [given]
      exact ⟨stamped, rfl, flag, nofun, own, fun _ empty => (nomatch filled.symm.trans empty),
        fun _ => verdict, fun _ missing => (both missing).elim⟩
  | verdict flag named given unit empty =>
    obtain ⟨verdict, both⟩ := verdict_of_columns named given
    exact ⟨stamped, rfl, flag, nofun, fun _ _ filled => (nomatch empty.symm.trans filled),
      fun _ _ => rfl, fun _ => verdict, fun _ missing => (both missing).elim⟩

private theorem yields_of_scored (scored : row.scored none = .ok message) : row.Yields message := by
  obtain ⟨time, read, made⟩ := scored_none_eq_ok_iff_makes.mp scored
  exact made.yields read

end MessageRow

/-! ## Tables -/

variable {rows : List MessageRow}

/-- A table becomes messages when each of its rows is acceptable. -/
theorem exists_scoreRows_iff :
    (∃ messages, scoreRows rows = .ok messages) ↔ ∀ row ∈ rows, row.Acceptable := by
  simp only [scoreRows_eq_ok_iff, ← MessageRow.exists_scored_iff]
  induction rows with
  | nil => exact iff_of_true ⟨[], .nil⟩ (List.forall_mem_nil _)
  | cons row rest ih =>
    rw [List.forall_mem_cons, ← ih]
    simp only [List.forall₂_cons_left_iff]
    constructor
    · rintro ⟨_, message, later, scored, others, rfl⟩
      exact ⟨⟨message, scored⟩, later, others⟩
    · rintro ⟨⟨message, scored⟩, later, others⟩
      exact ⟨_, message, later, scored, others, rfl⟩

/-- Rows that become messages leave the complaint to the first row that does not. -/
theorem scoreRowsFrom_refused {number : Nat} {before : List MessageRow}
    (usable : ∀ earlier ∈ before, ∃ message, earlier.scored none = .ok message)
    (refused : row.scored none = .error problem) (after : List MessageRow) :
    scoreRowsFrom number (before ++ row :: after) = .error ⟨number + before.length, problem⟩ := by
  induction before generalizing number with
  | nil => exact scoreRowsFrom_cons_error refused
  | cons first before ih =>
    obtain ⟨⟨message, scored⟩, usable⟩ := List.forall_mem_cons.mp usable
    rw [List.cons_append, scoreRowsFrom_cons_ok scored, ih usable, List.length_cons,
      Nat.add_right_comm, Nat.add_assoc]
    rfl

/-- A table is refused for what is wrong with its first row that is not acceptable. -/
theorem scoreRows_eq_error_iff {error : RowError} : scoreRows rows = .error error ↔
    ∃ before row after, rows = before ++ row :: after ∧
      (∀ earlier ∈ before, earlier.Acceptable) ∧ ¬row.Acceptable ∧
      row.Refused error.problem ∧ error.row = before.length + 1 := by
  have refusal {before : List MessageRow} {row : MessageRow} {problem : RowProblem}
      (usable : ∀ earlier ∈ before, earlier.Acceptable) (refused : row.scored none = .error problem)
      (after : List MessageRow) :
      scoreRows (before ++ row :: after) = .error ⟨before.length + 1, problem⟩ := by
    rw [Nat.add_comm before.length]
    exact scoreRowsFrom_refused
      (fun earlier member => MessageRow.exists_scored_iff.mpr (usable earlier member)) refused after
  constructor
  · intro failed
    rcases forall_or_exists_first MessageRow.Acceptable rows with
      all | ⟨before, row, after, rfl, usable, unacceptable⟩
    · obtain ⟨messages, read⟩ := exists_scoreRows_iff.mpr all
      nomatch read.symm.trans failed
    · cases refused : row.scored none with
      | ok message => exact (unacceptable (MessageRow.exists_scored_iff.mp ⟨message, refused⟩)).elim
      | error problem =>
        obtain rfl := Except.error.inj ((refusal usable refused after).symm.trans failed)
        exact ⟨before, row, after, rfl, usable, unacceptable,
          MessageRow.scored_none_eq_error_iff.mp refused, rfl⟩
  · rintro ⟨before, row, after, rfl, usable, -, refused, number⟩
    rw [refusal usable (MessageRow.scored_none_eq_error_iff.mpr refused) after, ← number]

/-- A table becomes messages exactly when each of its rows is acceptable, one for each row in order,
and what these are is told by the columns. Otherwise the first row that is not acceptable is refused
by its number, for what is wrong with it first. -/
theorem scoreRows_acceptable (rows : List MessageRow) :
    ((∃ messages, scoreRows rows = .ok messages) ↔ ∀ row ∈ rows, row.Acceptable) ∧
    (∀ messages, scoreRows rows = .ok messages → List.Forall₂ MessageRow.Yields rows messages) ∧
    ∀ error, scoreRows rows = .error error ↔ ∃ before row after, rows = before ++ row :: after ∧
      (∀ earlier ∈ before, earlier.Acceptable) ∧ ¬row.Acceptable ∧
      row.Refused error.problem ∧ error.row = before.length + 1 :=
  ⟨exists_scoreRows_iff,
    fun _ read => (scoreRows_eq_ok_iff.mp read).imp fun _ _ => MessageRow.yields_of_scored,
    fun _ => scoreRows_eq_error_iff⟩

/-- A row whose score tells label and certainty, one told the other way round, one with nothing to
analyze, and one whose certainty alone tells nothing. -/
def fourKinds : List MessageRow :=
  [{ sentAt := some (.text "2024-02-05"), analyzable := some true, certainty := some 1.0
     score := some 0.25 },
    { sentAt := some (.millis 0), analyzable := some true, sentiment := some "pos"
      certainty := some 0.75 },
    { sentAt := some (.millis 0), analyzable := some false, sentiment := some "?"
      score := some 7.0 },
    { sentAt := some (.millis 0), analyzable := some true, certainty := some 0.75 }]

theorem scoreRows_acceptable_fourKinds :
    (∀ row ∈ fourKinds.take 3, row.Acceptable) ∧
    (∃ messages, scoreRows (fourKinds.take 3) = .ok messages ∧
      List.Forall₂ MessageRow.Yields (fourKinds.take 3) messages) ∧
    ∃ before row after, fourKinds = before ++ row :: after ∧
      (∀ earlier ∈ before, earlier.Acceptable) ∧ ¬row.Acceptable ∧
      row.Refused .noSentiment ∧ before.length = 3 := by
  have read : ∃ messages, scoreRows (fourKinds.take 3) = .ok messages := ⟨_, rfl⟩
  obtain ⟨accepted, yields, -⟩ := scoreRows_acceptable (fourKinds.take 3)
  obtain ⟨-, -, refused⟩ := scoreRows_acceptable fourKinds
  obtain ⟨before, row, after, split, usable, unacceptable, reason, number⟩ :=
    (refused ⟨4, .noSentiment⟩).mp rfl
  obtain ⟨messages, made⟩ := read
  exact ⟨accepted.mp ⟨messages, made⟩, ⟨messages, made, yields messages made⟩, before, row, after,
    split, usable, unacceptable, reason, (Nat.succ_inj.mp number).symm⟩

end SentimentTree
