import Mathlib.Logic.Relation
import SentimentTree.Proofs.Message.Scale
import SentimentTree.Proofs.Numeric.Accumulation
import SentimentTree.Word.Produce

/-! # What a tree can tell of a row

A tree knows the day of each message and its score, and nothing else. Two runs over messages that
agree in these go through the same totals or stop over the same date; the sums do not even tell the
two zeros apart. So the text of a row, its time within the day and the way in which its score was
given leave no trace, and neither does anything in the sentiment columns of a row that cannot be
analyzed.
-/

namespace SentimentTree

open Calendar Numeric

variable {frequency : Frequency} {messages others : List ScoredMessage}

/-! ## Two runs over messages -/

/-- Two messages of the same day with equal scores of the scale. -/
structure ScoredMessage.Twins (message other : ScoredMessage) : Prop where
  day : message.timestamp.date = other.timestamp.date
  score : (message.score == other.score) = true
  unit : inUnit message.score = true
  unit' : inUnit other.score = true

private theorem ScoredMessage.Twins.place_eq {message other : ScoredMessage}
    (twins : message.Twins other)
    (position : Nat) : message.place frequency position = other.place frequency position := by
  simp only [place, twins.day, twins.unit, twins.unit', Bool.not_true, Bool.false_eq_true, if_false]

namespace BucketTotal

/-- All sums have been added up from zero. -/
def Grown (totals : List BucketTotal) : Prop := ∀ total ∈ totals, Accumulated total.sum

variable {start stop : Date} {score other : Float} {totals : List BucketTotal}

private theorem grown_insert (grown : Grown totals) (nonneg : 0.0 ≤ score) :
    Grown (insert start stop score totals) := by
  have opened : Accumulated (single start stop score).sum := accumulated_zero.add nonneg
  induction totals with
  | nil => exact List.forall_mem_singleton.mpr opened
  | cons total rest ih =>
    obtain ⟨first, later⟩ := List.forall_mem_cons.mp grown
    unfold insert
    split
    · exact List.forall_mem_cons.mpr ⟨first.add nonneg, later⟩
    · split
      · exact List.forall_mem_cons.mpr ⟨opened, grown⟩
      · exact List.forall_mem_cons.mpr ⟨first, ih later⟩

private theorem insert_congr (grown : Grown totals) (same : (score == other) = true) :
    insert start stop score totals = insert start stop other totals := by
  have opened : single start stop score = single start stop other :=
    congrArg (BucketTotal.mk start stop 1) (add_congr accumulated_zero.2 same)
  induction totals with
  | nil => exact congrArg (· :: []) opened
  | cons total rest ih =>
    obtain ⟨first, later⟩ := List.forall_mem_cons.mp grown
    have added : total.add score = total.add other :=
      congrArg (BucketTotal.mk total.start total.stop (total.count + 1)) (add_congr first.2 same)
    rw [insert, insert, opened, added, ih later]

end BucketTotal

/-- Passes over twins go in step. -/
private theorem collectFrom_congr {position : Nat} {totals : List BucketTotal}
    (grown : BucketTotal.Grown totals)
    (twins : List.Forall₂ ScoredMessage.Twins messages others) :
    collectFrom frequency position totals messages =
      collectFrom frequency position totals others := by
  induction twins generalizing position totals with
  | nil => rfl
  | cons same _ ih =>
    rw [collectFrom, collectFrom, same.place_eq]
    split
    · rfl
    · rw [BucketTotal.insert_congr grown same.score]
      exact ih (BucketTotal.grown_insert grown (inUnit_iff_le.mp same.unit').1)

private theorem aggregate_congr (twins : List.Forall₂ ScoredMessage.Twins messages others)
    (power : Float → Float → Float) (settings : AggregationSettings) :
    aggregate power settings messages = aggregate power settings others := by
  have collected : collect settings.frequency messages = collect settings.frequency others :=
    collectFrom_congr (List.forall_mem_nil _) twins
  rw [aggregate, aggregate, collected]

def treeAndWord (power : Float → Float → Float) (settings : AggregationSettings)
    (geometry : Geometry) (messages : List ScoredMessage) :
    Except AggregationProblem (Hierarchy × List Char) := do
  let tree ← aggregate power settings messages
  pure (tree, tree.word geometry)

/-! ## Rows -/

namespace MessageRow

/-- Both timestamps are readable and on the same day. -/
def SameDay (row other : MessageRow) : Prop :=
  ∃ time time', row.timestamp = .ok time ∧ other.timestamp = .ok time' ∧ time.date = time'.date

variable {row other : MessageRow} {message : ScoredMessage} {score : Float}

/-- The score that flag and sentiment columns of a row amount to, if they make a message. -/
def Scores (row : MessageRow) (score : Float) : Prop :=
  (row.analyzable = some false ∧ score = neutralScore) ∨
    (row.analyzable = some true ∧ (∃ label, row.label? = .ok label) ∧
      (∀ certainty, row.certainty = some certainty → inUnit certainty = true) ∧
      row.score = some score ∧ inUnit score = true) ∨
    (row.analyzable = some true ∧ row.score = none ∧ ∃ label certainty,
      row.label? = .ok (some label) ∧ row.certainty = some certainty ∧ inUnit certainty = true ∧
      score = sentimentScore label certainty true)

private theorem Makes.scores {time : Timestamp} (made : row.Makes time message) :
    row.Scores message.score := by
  cases made with
  | neutral flag => exact .inl ⟨flag, rfl⟩
  | score flag named sure filled unit =>
    rw [ScoredMessage.withVerdict_score]
    exact .inr (.inl ⟨flag, ⟨_, named⟩, sure, filled, unit⟩)
  | verdict flag named filled unit empty =>
    exact .inr (.inr ⟨flag, empty, _, _, named, filled, unit, rfl⟩)

private theorem Scores.exists_makes (scores : row.Scores score) (time : Timestamp) :
    ∃ message, row.Makes time message ∧ message.score = score := by
  rcases scores with ⟨flag, rfl⟩ | ⟨flag, ⟨label, named⟩, sure, filled, unit⟩ |
    ⟨flag, empty, label, certainty, named, filled, unit, rfl⟩
  · exact ⟨_, .neutral flag, rfl⟩
  · exact ⟨_, .score flag named sure filled unit, ScoredMessage.withVerdict_score _ _⟩
  · exact ⟨_, .verdict flag named filled unit empty, rfl⟩

/-- What a tree can tell of a row: the day and the score of its message, if it becomes one. -/
def seen? (row : MessageRow) : Option (Date × Float) :=
  (row.scored none).toOption.map fun message => (message.timestamp.date, message.score)

theorem seen?_eq_some_iff {day : Date} :
    row.seen? = some (day, score) ↔ ∃ message, row.scored none = .ok message ∧
      message.timestamp.date = day ∧ message.score = score := by
  unfold seen?
  cases row.scored none <;> simp [Except.toOption]

/-- Text and time of the day have no part in what a tree can tell. -/
theorem seen?_eq_some_iff_scores {day : Date} :
    row.seen? = some (day, score) ↔
      (∃ time, row.timestamp = .ok time ∧ time.date = day) ∧ row.Scores score := by
  rw [seen?_eq_some_iff]
  constructor
  · rintro ⟨message, scored, rfl, rfl⟩
    obtain ⟨time, read, made⟩ := scored_none_eq_ok_iff_makes.mp scored
    exact ⟨⟨time, read, by rw [made.timestamp_eq]⟩, made.scores⟩
  · rintro ⟨⟨time, read, rfl⟩, scores⟩
    obtain ⟨message, made, rfl⟩ := scores.exists_makes time
    exact ⟨message, scored_none_eq_ok_iff_makes.mpr ⟨time, read, made⟩, by rw [made.timestamp_eq],
      rfl⟩

/-- Changes to a row that leave no trace. -/
inductive Change : MessageRow → MessageRow → Prop
  /-- Another text. -/
  | text (row : MessageRow) (message : Option String) : Change row { row with message }
  /-- Another time of the day. -/
  | time (row : MessageRow) {sentAt : Option RawTimestamp}
      (day : row.SameDay { row with sentAt }) : Change row { row with sentAt }
  /-- The score of a label and a certainty in the score column, whatever label and certainty are
  next to it. -/
  | score (row : MessageRow) {name : String} {label : Label} {certainty : Float}
      {sentiment : Option String} {beside : Option Label} {sureness : Option Float}
      (flag : row.analyzable = some true)
      (read : Label.read name.toList = .ok label) (unit : inUnit certainty = true)
      (named : { row with sentiment }.label? = .ok beside)
      (sure : ∀ number, sureness = some number → inUnit number = true) :
      Change { row with sentiment := some name, certainty := some certainty, score := none }
        { row with
            sentiment, certainty := sureness
            score := some (sentimentScore label certainty true) }
  /-- Other sentiment columns where there is nothing to analyze. -/
  | columns (row : MessageRow) (sentiment : Option String) (certainty score : Option Float)
      (flag : row.analyzable = some false) : Change row { row with sentiment, certainty, score }

/-- A row that cannot be analyzed is judged without a look at its sentiment columns. -/
theorem scored_columns (flag : row.analyzable = some false) (sentiment : Option String)
    (certainty score : Option Float) (verdict : Option Classification) :
    { row with sentiment, certainty, score }.scored verdict = row.scored verdict := by
  have known : row.flag = .ok false := flag_eq_ok_iff.mpr flag
  have known' : { row with sentiment, certainty, score }.flag = .ok false := known
  simp only [scored, known, known']
  rfl

private theorem seen?_congr
    (days : ∀ day, (∃ time, row.timestamp = .ok time ∧ time.date = day) ↔
      ∃ time, other.timestamp = .ok time ∧ time.date = day)
    (scores : ∀ score, row.Scores score ↔ other.Scores score) : row.seen? = other.seen? := by
  apply Option.ext
  rintro ⟨day, score⟩
  rw [seen?_eq_some_iff_scores, seen?_eq_some_iff_scores, days, scores]

theorem SameDay.exists_iff (same : row.SameDay other) (day : Date) :
    (∃ time, row.timestamp = .ok time ∧ time.date = day) ↔
      ∃ time, other.timestamp = .ok time ∧ time.date = day := by
  obtain ⟨time, time', read, read', same⟩ := same
  simp only [read, read', Except.ok.injEq, exists_eq_left', same]

private theorem scores_of_verdict {name : String} {label : Label} {certainty : Float}
    (flag : row.analyzable = some true) (read : Label.read name.toList = .ok label)
    (unit : inUnit certainty = true) :
    { row with sentiment := some name, certainty := some certainty, score := none }.Scores score ↔
      score = sentimentScore label certainty true := by
  simp [Scores, label?, flag, read, unit]

private theorem scores_of_score {number : Float} {sentiment : Option String} {label : Option Label}
    {certainty : Option Float} (flag : row.analyzable = some true) (unit : inUnit number = true)
    (read : { row with sentiment }.label? = .ok label)
    (sure : ∀ number, certainty = some number → inUnit number = true) :
    { row with sentiment, certainty, score := some number }.Scores score ↔ score = number := by
  constructor
  · rintro (⟨skipped, _⟩ | ⟨_, _, _, filled, _⟩ | ⟨_, empty, _⟩)
    · cases flag.symm.trans skipped
    · exact (Option.some.inj filled).symm
    · cases empty
  · rintro rfl
    exact .inr (.inl ⟨flag, ⟨label, read⟩, sure, rfl, unit⟩)

private theorem Change.seen?_eq (change : row.Change other) : row.seen? = other.seen? := by
  cases change with
  | text _ _ => exact seen?_congr (fun _ => Iff.rfl) fun _ => Iff.rfl
  | time _ same => exact seen?_congr same.exists_iff fun _ => Iff.rfl
  | score row flag read unit named sure =>
    refine seen?_congr (fun _ => Iff.rfl) fun score => ?_
    rw [scores_of_verdict flag read unit,
      scores_of_score flag (sentimentScore_inUnit _ unit true) named sure]
  | columns _ sentiment certainty score flag =>
    rw [seen?, ← scored_columns flag sentiment certainty score]
    rfl

private theorem seen?_eq_of_changes (changes : Relation.EqvGen Change row other) :
    row.seen? = other.seen? := by
  induction changes with
  | rel _ _ change => exact change.seen?_eq
  | refl _ => rfl
  | symm _ _ _ same => exact same.symm
  | trans _ _ _ _ _ first second => exact first.trans second

/-- Rows of which a tree can tell the same become twins. -/
private theorem exists_twin (same : row.seen? = other.seen?)
    (scored : row.scored none = .ok message) :
    ∃ twin, other.scored none = .ok twin ∧ message.Twins twin := by
  have seen := seen?_eq_some_iff.mpr ⟨message, scored, rfl, rfl⟩
  obtain ⟨twin, scored', day, score⟩ := seen?_eq_some_iff.mp (same.symm.trans seen)
  have unit := (scored_onScale scored).score
  obtain ⟨v, value, _⟩ := inUnit_iff.mp unit
  refine ⟨twin, scored', day.symm, ?_, unit, (scored_onScale scored').score⟩
  rw [score]
  exact (value.beq_iff value).mpr rfl

end MessageRow

/-! ## Tables -/

variable {rows rows' : List MessageRow}

private theorem forall₂_twins_of_scored
    (read : List.Forall₂ (fun row message => row.scored none = .ok message) rows messages)
    (read' : List.Forall₂ (fun row message => row.scored none = .ok message) rows' others)
    (days : List.Forall₂ MessageRow.SameDay rows rows')
    (scores : List.Forall₂ (fun message other => (message.score == other.score) = true)
      messages others) :
    List.Forall₂ ScoredMessage.Twins messages others := by
  induction read generalizing rows' others with
  | nil =>
    cases scores
    exact .nil
  | cons scored _ ih =>
    cases scores with
    | cons score scores =>
      cases read' with
      | cons scored' read' =>
        cases days with
        | cons day days =>
          obtain ⟨time, time', first, second, same⟩ := day
          obtain rfl := Except.ok.inj (first.symm.trans (MessageRow.timestamp_of_scored scored))
          obtain rfl := Except.ok.inj (second.symm.trans (MessageRow.timestamp_of_scored scored'))
          exact .cons ⟨same, score, (MessageRow.scored_onScale scored).score,
            (MessageRow.scored_onScale scored').score⟩ (ih read' days scores)

private theorem exists_twins
    (same : List.Forall₂ (fun row other => row.seen? = other.seen?) rows rows')
    (read : List.Forall₂ (fun row message => row.scored none = .ok message) rows messages) :
    ∃ others, List.Forall₂ (fun row message => row.scored none = .ok message) rows' others ∧
      List.Forall₂ ScoredMessage.Twins messages others := by
  induction same generalizing messages with
  | nil =>
    cases read
    exact ⟨[], .nil, .nil⟩
  | cons first _ ih =>
    cases read with
    | cons scored read =>
      obtain ⟨twin, scored', twins⟩ := MessageRow.exists_twin first scored
      obtain ⟨others, read', rest⟩ := ih read
      exact ⟨twin :: others, .cons scored' read', .cons twins rest⟩

/-- Tree and word depend on the days of the rows and on the scores of their messages alone. So rows
may change in ways that leave no trace, and are still accepted and lead to the same tree and word.
In a row that cannot be analyzed the sentiment columns do not even matter to its message or to what
is wrong with it. -/
theorem treeAndWord_sees_days_and_scores :
    (∀ {rows rows' : List MessageRow} {messages others : List ScoredMessage},
      scoreRows rows = .ok messages → scoreRows rows' = .ok others →
      List.Forall₂ MessageRow.SameDay rows rows' →
      List.Forall₂ (fun message other => (message.score == other.score) = true) messages others →
      ∀ power settings geometry, treeAndWord power settings geometry messages =
        treeAndWord power settings geometry others) ∧
    (∀ {rows rows' : List MessageRow} {messages : List ScoredMessage},
      List.Forall₂ (Relation.EqvGen MessageRow.Change) rows rows' → scoreRows rows = .ok messages →
      ∃ others, scoreRows rows' = .ok others ∧
        ∀ power settings geometry, treeAndWord power settings geometry messages =
          treeAndWord power settings geometry others) ∧
    ∀ row : MessageRow, row.analyzable = some false →
      ∀ sentiment certainty score verdict,
        { row with sentiment, certainty, score }.scored verdict = row.scored verdict := by
  have grown : ∀ {messages others : List ScoredMessage},
      List.Forall₂ ScoredMessage.Twins messages others → ∀ power settings geometry,
      treeAndWord power settings geometry messages = treeAndWord power settings geometry others :=
    fun twins power settings geometry => by
      rw [treeAndWord, treeAndWord, aggregate_congr twins]
  refine ⟨fun read read' days scores => ?_, fun changes read => ?_,
    fun _ => MessageRow.scored_columns⟩
  · exact grown (forall₂_twins_of_scored (scoreRows_eq_ok_iff.mp read)
      (scoreRows_eq_ok_iff.mp read') days scores)
  · have same := changes.imp fun _ _ => MessageRow.seen?_eq_of_changes
    obtain ⟨others, read', twins⟩ := exists_twins same (scoreRows_eq_ok_iff.mp read)
    exact ⟨others, scoreRows_eq_ok_iff.mpr read', grown twins⟩

def plainRows : List MessageRow :=
  [{ sentAt := some (.millis 0), message := some "fine", analyzable := some true
     score := some 0.75 },
    { sentAt := some (.millis 86400000), analyzable := some false }]

/-- The same rows, later on the same days, the score as a verdict and the columns filled with what
no row that can be analyzed may have. -/
def retoldRows : List MessageRow :=
  [{ sentAt := some (.millis 86399999), message := some "good", analyzable := some true
     sentiment := some "Pos", certainty := some 0.75 },
    { sentAt := some (.text "1970-01-02 12:30:00"), analyzable := some false
      sentiment := some "none", certainty := some (-1.0), score := some 7.0 }]

theorem treeAndWord_sees_days_and_scores_retold :
    (∃ messages others, scoreRows plainRows = .ok messages ∧ scoreRows retoldRows = .ok others ∧
      List.Forall₂ MessageRow.SameDay plainRows retoldRows ∧
      List.Forall₂ (fun message other => (message.score == other.score) = true) messages others ∧
      ∀ power settings geometry, treeAndWord power settings geometry messages =
        treeAndWord power settings geometry others) ∧
    (∃ messages others, scoreRows plainRows = .ok messages ∧
      scoreRows (plainRows.map fun row => { row with message := none }) = .ok others ∧
      ∀ power settings geometry, treeAndWord power settings geometry messages =
        treeAndWord power settings geometry others) ∧
    ({ analyzable := some false, score := some 7.0 } : MessageRow).scored none =
      .error .noTimestamp := by
  obtain ⟨sameTrees, changed, columns⟩ := treeAndWord_sees_days_and_scores
  have days : List.Forall₂ MessageRow.SameDay plainRows retoldRows :=
    .cons ⟨_, _, rfl, rfl, rfl⟩ (.cons ⟨_, _, rfl, rfl, rfl⟩ .nil)
  have accepted : ∃ messages others, scoreRows plainRows = .ok messages ∧
      scoreRows retoldRows = .ok others ∧
      List.Forall₂ (fun message other => (message.score == other.score) = true) messages others :=
    ⟨_, _, rfl, rfl, .cons (by decide) (.cons (by decide) .nil)⟩
  obtain ⟨messages, others, read, read', scores⟩ := accepted
  have silent : List.Forall₂ (Relation.EqvGen MessageRow.Change) plainRows
      (plainRows.map fun row => { row with message := none }) :=
    .cons (.rel _ _ (.text _ none)) (.cons (.rel _ _ (.text _ none)) .nil)
  refine ⟨⟨messages, others, read, read', days, scores, sameTrees read read' days scores⟩, ?_, ?_⟩
  · obtain ⟨others, read', same⟩ := changed silent read
    exact ⟨messages, others, read, read', same⟩
  · exact columns { analyzable := some false } rfl none none (some 7.0) none

end SentimentTree
