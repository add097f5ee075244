import Mathlib.Data.List.Basic
import SentimentTree.Classifier.Answer
import SentimentTree.Proofs.Classifier.Failures
import SentimentTree.Proofs.Decimal.DataText

/-! # What an answer comes to

Of an answer only its hits matter: the lines with a record about a message that was asked about. The
first hit whose label is none decides; with good labels, the first message without a hit; and else
each message has the verdict of its last hit. `AnswerEnd` lists these ends, and an answer comes to the
one end that its hits have (`readAnswer_eq_iff_end`). So lines that are no hits and the order of hits
on different messages do not matter.
-/

namespace SentimentTree

open Numeric

variable {expected index : Nat} {answer : List Char} {records before after : List AnswerRecord}
  {record : AnswerRecord} {slots : VerdictSlots} {verdicts : List Classification}

/-! ## Hits -/

/-- The record that a line of an answer holds, if it holds one. -/
def AnswerRecord.ofLine? (line : List Char) : Option AnswerRecord :=
  if (AnswerLine.bare line).head? = some '\x7b' then
    (Json.parse? (AnswerLine.bare line)).bind AnswerRecord.ofJson?
  else none

/-- The records among the lines that are about one of the messages asked about. -/
def hitsOf (expected : Nat) (lines : List (List Char)) : List AnswerRecord :=
  (lines.filterMap AnswerRecord.ofLine?).filter fun record =>
    1 ≤ record.index && record.index ≤ expected

/-- The label of the record is one. -/
def AnswerRecord.HasLabel (record : AnswerRecord) : Prop :=
  ∃ label, Label.read record.label.toList = .ok label

/-- What the hits of an answer make of it. -/
inductive AnswerEnd (expected : Nat) (hits : List AnswerRecord) :
    Except AnswerProblem (List Classification) → Prop
  /-- The first hit whose label is none, whatever follows it. -/
  | unknownLabel {before : List AnswerRecord} {hit : AnswerRecord} {after : List AnswerRecord}
      {problem : UnknownLabel} (split : hits = before ++ hit :: after)
      (known : ∀ earlier ∈ before, earlier.HasLabel)
      (unknown : Label.read hit.label.toList = .error problem) :
      AnswerEnd expected hits (.error (.unknownLabel hit.index problem))
  /-- The first message that no hit is about. -/
  | missing {index : Nat} (known : ∀ hit ∈ hits, hit.HasLabel) (positive : 1 ≤ index)
      (bound : index ≤ expected) (absent : ∀ hit ∈ hits, hit.index ≠ index)
      (present : ∀ earlier, 1 ≤ earlier → earlier < index → ∃ hit ∈ hits, hit.index = earlier) :
      AnswerEnd expected hits (.error (.missing index))
  /-- Every message has the verdict of the last hit on it. -/
  | answered {verdicts : List Classification} (known : ∀ hit ∈ hits, hit.HasLabel)
      (length : verdicts.length = expected)
      (last : ∀ index, 1 ≤ index → index ≤ expected → ∃ hit label,
        (hits.filter (·.index == index)).getLast? = some hit ∧
        Label.read hit.label.toList = .ok label ∧
        verdicts[index - 1]? = some ⟨label, clampUnit hit.confidence⟩) :
      AnswerEnd expected hits (.ok verdicts)

theorem mem_hitsOf {lines : List (List Char)} (member : record ∈ hitsOf expected lines) :
    1 ≤ record.index ∧ record.index ≤ expected ∧
      ∃ line ∈ lines, AnswerRecord.ofLine? line = some record := by
  obtain ⟨found, range⟩ := List.mem_filter.mp member
  simp only [Bool.and_eq_true, decide_eq_true_eq] at range
  exact ⟨range.1, range.2, List.mem_filterMap.mp found⟩

private theorem hitsOf_append (expected : Nat) (first second : List (List Char)) :
    hitsOf expected (first ++ second) = hitsOf expected first ++ hitsOf expected second := by
  rw [hitsOf, List.filterMap_append, List.filter_append]
  rfl

/-- The confidence in a record is a finite number. -/
theorem AnswerRecord.confidence_isFinite {line : List Char}
    (found : ofLine? line = some record) : record.confidence.isFinite = true := by
  unfold ofLine? at found
  split at found
  · obtain ⟨value, -, reads⟩ := Option.bind_eq_some_iff.mp found
    unfold ofJson? at reads
    simp only [Option.bind_eq_bind, Option.pure_def, Option.bind_eq_some_iff] at reads
    obtain ⟨fields, -, reads⟩ := reads
    split at reads
    · simp only [Option.bind_eq_some_iff, Option.some.injEq] at reads
      obtain ⟨_, -, _, -, confidence, number, rfl⟩ := reads
      exact Json.isFinite_of_float? number
    · nomatch reads
  · nomatch found

/-! ## Filling the slots -/

def AnswerLine.hit? : AnswerLine → Option AnswerRecord
  | hit record => some record
  | _ => none

private theorem AnswerLine.hit?_read (expected : Nat) (line : List Char) :
    (AnswerLine.read expected line).hit? = (AnswerRecord.ofLine? line).filter fun record =>
      1 ≤ record.index && record.index ≤ expected := by
  unfold AnswerLine.read AnswerRecord.ofLine?
  by_cases brace : (bare line).head? = some '\x7b'
  · simp only [brace, ne_eq, not_true_eq_false, if_false, if_true]
    cases (Json.parse? (bare line)).bind AnswerRecord.ofJson? with
    | none => rfl
    | some record =>
      by_cases outside : record.index = 0 ∨ expected < record.index
      · have range : ¬(1 ≤ record.index ∧ record.index ≤ expected) := by omega
        simp [hit?, outside, Option.filter_some, range]
      · have range : 1 ≤ record.index ∧ record.index ≤ expected := by omega
        simp [hit?, outside, Option.filter_some, range]
  · simp [hit?, brace]

private theorem hitsOf_cons (expected : Nat) (line : List Char) (rest : List (List Char)) :
    hitsOf expected (line :: rest) =
      (AnswerLine.read expected line).hit?.toList ++ hitsOf expected rest := by
  rw [← List.singleton_append, hitsOf_append, AnswerLine.hit?_read]
  congr 1
  cases found : AnswerRecord.ofLine? line with
  | none => simp [hitsOf, found]
  | some record => cases range : (1 ≤ record.index && record.index ≤ expected) <;>
      simp [hitsOf, found, Option.filter, range]

def AnswerRecord.verdict? (record : AnswerRecord) : Option Classification :=
  match Label.read record.label.toList with
  | .ok label => some ⟨label, clampUnit record.confidence⟩
  | .error _ => none

/-- The slots after hits, or the first unknown label. -/
def fillHits (slots : VerdictSlots) : List AnswerRecord → Except AnswerProblem VerdictSlots
  | [] => .ok slots
  | record :: rest =>
    match Label.read record.label.toList with
    | .error problem => .error (.unknownLabel record.index problem)
    | .ok label =>
      fillHits (slots.set (record.index - 1) (some ⟨label, clampUnit record.confidence⟩)) rest

/-- Only hits fill slots. -/
private theorem fillSlots_snd (slots : VerdictSlots) (expected : Nat) (lines : List (List Char)) :
    (fillSlots slots (lines.map (AnswerLine.read expected))).2 =
      fillHits slots (hitsOf expected lines) := by
  induction lines generalizing slots with
  | nil => rfl
  | cons line rest ih =>
    rw [List.map_cons, hitsOf_cons]
    cases AnswerLine.read expected line with
    | hit record =>
      change _ = fillHits slots (record :: hitsOf expected rest)
      rw [fillSlots, fillHits]
      cases Label.read record.label.toList with
      | error problem => rfl
      | ok label => exact ih _
    | other => exact ih slots
    | unreadable line => exact ih slots
    | outOfRange index => exact ih slots

private theorem fillHits_refused {problem : UnknownLabel} (slots : VerdictSlots)
    (known : ∀ earlier ∈ before, earlier.HasLabel)
    (unknown : Label.read record.label.toList = .error problem) (after : List AnswerRecord) :
    fillHits slots (before ++ record :: after) = .error (.unknownLabel record.index problem) := by
  induction before generalizing slots with
  | nil => rw [List.nil_append, fillHits, unknown]
  | cons first before ih =>
    obtain ⟨⟨label, reads⟩, known⟩ := List.forall_mem_cons.mp known
    rw [List.cons_append, fillHits, reads]
    exact ih _ known

/-- The verdict of the last record about a message. -/
def lastVerdict? (records : List AnswerRecord) (index : Nat) : Option Classification :=
  (records.filter (·.index == index)).getLast?.bind AnswerRecord.verdict?

/-- With good labels the first record counts only where no later one does. -/
private theorem lastVerdict?_cons (known : ∀ later ∈ records, later.HasLabel)
    (record : AnswerRecord) (index : Nat) :
    lastVerdict? (record :: records) index =
      (lastVerdict? records index).or (if record.index = index then record.verdict? else none) := by
  unfold lastVerdict?
  cases found : (records.filter (·.index == index)).getLast? with
  | none =>
    rw [List.getLast?_eq_none_iff] at found
    by_cases same : record.index = index <;> simp [same, found]
  | some last =>
    obtain ⟨label, reads⟩ := known last (List.mem_filter.mp (List.mem_of_getLast? found)).1
    have verdict : last.verdict? = some ⟨label, clampUnit last.confidence⟩ := by
      rw [AnswerRecord.verdict?, reads]
    by_cases same : record.index = index <;> simp [same, found, verdict, List.getLast?_cons]

/-- After records with good labels each slot holds the last verdict on its message, if there is one,
and else what it held before. -/
private theorem fillHits_known (slots : VerdictSlots) (known : ∀ record ∈ records, record.HasLabel)
    (positive : ∀ record ∈ records, 1 ≤ record.index) :
    ∃ filled, fillHits slots records = .ok filled ∧ ∀ place,
      filled[place]? = slots[place]?.map fun slot => (lastVerdict? records (place + 1)).or slot := by
  induction records generalizing slots with
  | nil => exact ⟨slots, rfl, fun place => by simp [lastVerdict?]⟩
  | cons record rest ih =>
    obtain ⟨⟨label, reads⟩, known⟩ := List.forall_mem_cons.mp known
    obtain ⟨first, positive⟩ := List.forall_mem_cons.mp positive
    have verdict : record.verdict? = some ⟨label, clampUnit record.confidence⟩ := by
      rw [AnswerRecord.verdict?, reads]
    obtain ⟨filled, ran, holds⟩ :=
      ih (slots.set (record.index - 1) (some ⟨label, clampUnit record.confidence⟩)) known positive
    refine ⟨filled, by rw [fillHits, reads]; exact ran, fun place => ?_⟩
    rw [holds, List.getElem?_set, lastVerdict?_cons known, verdict]
    by_cases same : record.index = place + 1
    · have here : record.index - 1 = place := by omega
      rw [if_pos here, if_pos same]
      split
      · rename_i inside
        rw [here] at inside
        simp [List.getElem?_eq_getElem inside]
      · rename_i outside
        rw [here] at outside
        simp [List.getElem?_eq_none (Nat.le_of_not_lt outside)]
    · have elsewhere : record.index - 1 ≠ place := by omega
      simp [same, elsewhere]

/-! ## Slots that are all filled -/

private theorem exists_eq_map_some {values : List (Option Classification)}
    (filled : ∀ slot ∈ values, slot.isSome = true) :
    ∃ verdicts : List Classification, values = verdicts.map some := by
  induction values with
  | nil => exact ⟨[], rfl⟩
  | cons slot rest ih =>
    obtain ⟨own, others⟩ := List.forall_mem_cons.mp filled
    obtain ⟨verdict, rfl⟩ := Option.isSome_iff_exists.mp own
    obtain ⟨verdicts, rfl⟩ := ih others
    exact ⟨verdict :: verdicts, rfl⟩

private theorem allFilled_map_some (index : Nat) (verdicts : List Classification) :
    allFilled index (verdicts.map some) = .ok verdicts := by
  induction verdicts generalizing index with
  | nil => rfl
  | cons verdict rest ih => rw [List.map_cons, allFilled, ih]

/-- The first empty slot is reported. -/
theorem allFilled_missing (index place : Nat) (empty : slots[place]? = some none)
    (filled : ∀ earlier < place, ∃ verdict, slots[earlier]? = some (some verdict)) :
    allFilled index slots = .error (.missing (index + place)) := by
  induction slots generalizing index place with
  | nil => nomatch empty
  | cons slot rest ih =>
    cases place with
    | zero =>
      obtain rfl := Option.some.inj empty
      rfl
    | succ place =>
      obtain ⟨verdict, first⟩ := filled 0 (Nat.zero_lt_succ place)
      obtain rfl := Option.some.inj first
      rw [allFilled, ih (index + 1) place empty fun earlier less => filled (earlier + 1) (by omega)]
      dsimp only
      rw [Nat.add_right_comm, Nat.add_assoc]

/-! ## Ends -/

/-- What hits make of an answer. -/
def answerOf (expected : Nat) (hits : List AnswerRecord) :
    Except AnswerProblem (List Classification) :=
  match fillHits (List.replicate expected none) hits with
  | .ok slots => allFilled 1 slots
  | .error problem => .error problem

private theorem readAnswer_snd (expected : Nat) (answer : List Char) :
    (readAnswer expected answer).2 = answerOf expected (hitsOf expected (Text.lines answer)) := by
  rw [readAnswer, answerOf, ← fillSlots_snd]
  rcases fillSlots (List.replicate expected none)
    ((Text.lines answer).map (AnswerLine.read expected)) with ⟨remarks, _ | slots⟩ <;> rfl

section
variable {hits : List AnswerRecord} (known : ∀ hit ∈ hits, hit.HasLabel)

include known in
/-- With good labels there is an answer if every message has a last verdict. -/
theorem answerOf_known (positive : ∀ hit ∈ hits, 1 ≤ hit.index) (expected : Nat) :
    answerOf expected hits =
      allFilled 1 ((List.range expected).map fun place => lastVerdict? hits (place + 1)) := by
  obtain ⟨filled, ran, holds⟩ := fillHits_known (List.replicate expected none) known positive
  have same : filled = (List.range expected).map fun place => lastVerdict? hits (place + 1) := by
    refine List.ext_getElem? fun place => ?_
    rw [holds, List.getElem?_replicate, List.getElem?_map]
    by_cases inside : place < expected <;> simp [inside]
  rw [answerOf, ran, same]

/-- The last verdict on a message is that of the last hit on it. -/
private theorem lastVerdict?_eq {hit : AnswerRecord} {label : Label}
    (last : (hits.filter (·.index == index)).getLast? = some hit)
    (reads : Label.read hit.label.toList = .ok label) :
    lastVerdict? hits index = some ⟨label, clampUnit hit.confidence⟩ := by
  rw [lastVerdict?, last, Option.bind_some, AnswerRecord.verdict?, reads]

include known in
/-- A message with a hit has a last one. -/
private theorem exists_last_hit (present : ∃ hit ∈ hits, hit.index = index) :
    ∃ hit label, (hits.filter (·.index == index)).getLast? = some hit ∧
      Label.read hit.label.toList = .ok label := by
  obtain ⟨hit, member, same⟩ := present
  have nonempty : hits.filter (·.index == index) ≠ [] :=
    List.ne_nil_of_mem (List.mem_filter.mpr ⟨member, beq_iff_eq.mpr same⟩)
  have last := List.getLast?_eq_some_getLast nonempty
  obtain ⟨label, reads⟩ := known _ (List.mem_filter.mp (List.mem_of_getLast? last)).1
  exact ⟨_, label, last, reads⟩

end

namespace AnswerEnd

variable {hits : List AnswerRecord} {result : Except AnswerProblem (List Classification)}

/-- The end of the hits is what they make of the answer. -/
theorem eq_answerOf (positive : ∀ hit ∈ hits, 1 ≤ hit.index)
    (ended : AnswerEnd expected hits result) : answerOf expected hits = result := by
  cases ended with
  | @unknownLabel before hit after problem split known unknown =>
    rw [answerOf, split, fillHits_refused _ known unknown]
  | @missing index known first bound absent present =>
    have place (earlier : Nat) (inside : earlier < expected) :
        ((List.range expected).map fun place => lastVerdict? hits (place + 1))[earlier]? =
          some (lastVerdict? hits (earlier + 1)) := by
      simp [inside]
    have none : lastVerdict? hits (index - 1 + 1) = none := by
      rw [Nat.sub_add_cancel first, lastVerdict?, List.filter_eq_nil_iff.mpr]
      · rfl
      · simpa using absent
    rw [answerOf_known known positive, allFilled_missing 1 (index - 1)]
    · rw [Nat.add_sub_cancel' first]
    · rw [place _ (by omega), none]
    · intro earlier less
      obtain ⟨hit, label, last, reads⟩ :=
        exists_last_hit known (present (earlier + 1) (by omega) (by omega))
      exact ⟨_, by rw [place _ (by omega), lastVerdict?_eq last reads]⟩
  | @answered verdicts known length last =>
    have same : ((List.range expected).map fun place => lastVerdict? hits (place + 1)) =
        verdicts.map some := by
      refine List.ext_getElem (by simp [length]) fun place inside _ => ?_
      rw [List.length_map, List.length_range] at inside
      obtain ⟨hit, label, final, reads, given⟩ := last (place + 1) (by omega) inside
      obtain ⟨within, given⟩ := List.getElem?_eq_some_iff.mp given
      simp only [List.getElem_map, List.getElem_range, lastVerdict?_eq final reads, ← given,
        Nat.add_sub_cancel]
    rw [answerOf_known known positive, same, allFilled_map_some]

/-- Hits of any kind have an end. -/
theorem exists_end (expected : Nat) (hits : List AnswerRecord) :
    ∃ result, AnswerEnd expected hits result := by
  rcases forall_or_exists_first AnswerRecord.HasLabel hits with
    known | ⟨before, hit, after, split, known, unknown⟩
  · by_cases complete : ∀ index, 1 ≤ index → index ≤ expected → ∃ hit ∈ hits, hit.index = index
    · have filled : ∀ slot ∈ (List.range expected).map fun place => lastVerdict? hits (place + 1),
          slot.isSome = true := by
        intro slot member
        obtain ⟨place, inside, rfl⟩ := List.mem_map.mp member
        obtain ⟨hit, label, last, reads⟩ := exists_last_hit known
          (complete (place + 1) (by omega) (List.mem_range.mp inside))
        rw [lastVerdict?_eq last reads]
        rfl
      obtain ⟨verdicts, same⟩ := exists_eq_map_some filled
      have length : verdicts.length = expected := by simpa using (congrArg List.length same).symm
      refine ⟨.ok verdicts, .answered known length fun index positive bound => ?_⟩
      obtain ⟨hit, label, last, reads⟩ := exists_last_hit known (complete index positive bound)
      refine ⟨hit, label, last, reads, ?_⟩
      have place := congrArg (·[index - 1]?) same
      simp only [List.getElem?_map, List.getElem?_range (show index - 1 < expected by omega),
        Option.map_some, Nat.sub_add_cancel positive, lastVerdict?_eq last reads] at place
      obtain ⟨verdict, given, own⟩ := Option.map_eq_some_iff.mp place.symm
      rw [given, Option.some.inj own]
    · classical
      simp only [not_forall] at complete
      obtain ⟨positive, bound, absent⟩ := Nat.find_spec complete
      refine ⟨_, .missing known positive bound (by simpa using absent) fun earlier first less => ?_⟩
      by_contra none
      exact Nat.find_min complete less ⟨first, by omega, none⟩
  · cases reads : Label.read hit.label.toList with
    | ok label => exact (unknown ⟨label, reads⟩).elim
    | error problem => exact ⟨_, .unknownLabel split known reads⟩

/-- Hits whose order differs only between messages have the same verdicts. -/
theorem of_filter_eq {others : List AnswerRecord} (ended : AnswerEnd expected hits (.ok verdicts))
    (same : ∀ index, hits.filter (·.index == index) = others.filter (·.index == index)) :
    AnswerEnd expected others (.ok verdicts) := by
  cases ended with
  | answered known length last =>
    refine .answered (fun hit member => known hit ?_) length fun index positive bound => ?_
    · have own : hit ∈ others.filter (·.index == hit.index) :=
        List.mem_filter.mpr ⟨member, beq_self_eq_true _⟩
      rw [← same] at own
      exact (List.mem_filter.mp own).1
    · rw [← same]
      exact last index positive bound

end AnswerEnd

theorem readAnswer_eq_iff_end {result : Except AnswerProblem (List Classification)} :
    (readAnswer expected answer).2 = result ↔
      AnswerEnd expected (hitsOf expected (Text.lines answer)) result := by
  have positive : ∀ hit ∈ hitsOf expected (Text.lines answer), 1 ≤ hit.index :=
    fun hit member => (mem_hitsOf member).1
  rw [readAnswer_snd]
  constructor
  · rintro rfl
    obtain ⟨result, ended⟩ := AnswerEnd.exists_end expected (hitsOf expected (Text.lines answer))
    rwa [ended.eq_answerOf positive]
  · exact AnswerEnd.eq_answerOf positive

/-- An answer comes to what its hits make of it, all of them finite numbers. Lines that are no hits
make no difference, and neither does the order of hits on different messages to an answer that can be
used. -/
theorem readAnswer_of_hits (expected : Nat) (answer : List Char) :
    (∀ result, (readAnswer expected answer).2 = result ↔
      AnswerEnd expected (hitsOf expected (Text.lines answer)) result) ∧
    (∀ hit ∈ hitsOf expected (Text.lines answer), hit.confidence.isFinite = true) ∧
    (∀ other before inserted after, Text.lines answer = before ++ after →
      Text.lines other = before ++ inserted ++ after → hitsOf expected inserted = [] →
      (readAnswer expected other).2 = (readAnswer expected answer).2) ∧
    ∀ other verdicts, (∀ index,
        (hitsOf expected (Text.lines answer)).filter (·.index == index) =
          (hitsOf expected (Text.lines other)).filter (·.index == index)) →
      (readAnswer expected answer).2 = .ok verdicts →
      (readAnswer expected other).2 = .ok verdicts := by
  refine ⟨fun result => readAnswer_eq_iff_end, fun hit member => ?_, ?_, ?_⟩
  · obtain ⟨-, -, line, -, found⟩ := mem_hitsOf member
    exact AnswerRecord.confidence_isFinite found
  · intro other before inserted after lines more none
    simp only [readAnswer_snd, lines, more, hitsOf_append, none, List.append_nil]
  · intro other verdicts same answered
    exact readAnswer_eq_iff_end.mpr ((readAnswer_eq_iff_end.mp answered).of_filter_eq same)

/-- A line about the first of two messages. -/
def firstLine : List Char :=
  "\x7b\"index\": 1, \"label\": \"Positive\", \"confidence\": 1.5\x7d,".toList

/-- A line about the second of two messages. -/
def secondLine : List Char :=
  " \x7b\"index\": 2, \"label\": \"neg\", \"confidence\": 0.75\x7d".toList

/-- Two lines in either order, and with a line between them that is no hit, say the same. -/
theorem readAnswer_of_hits_eitherOrder :
    (readAnswer 2 (secondLine ++ '\n' :: firstLine)).2 = .ok [⟨.positive, 1.0⟩, ⟨.negative, 0.75⟩] ∧
    (readAnswer 2 (firstLine ++ '\n' :: secondLine)).2 = .ok [⟨.positive, 1.0⟩, ⟨.negative, 0.75⟩] ∧
    (readAnswer 2 (secondLine ++ '\n' :: "And now:".toList ++ '\n' :: firstLine)).2 =
      .ok [⟨.positive, 1.0⟩, ⟨.negative, 0.75⟩] := by
  have answered : (readAnswer 2 (secondLine ++ '\n' :: firstLine)).2 =
      .ok [⟨.positive, 1.0⟩, ⟨.negative, 0.75⟩] := by decide +kernel
  have hits : hitsOf 2 (Text.lines (secondLine ++ '\n' :: firstLine)) =
      [⟨2, "neg", 0.75⟩, ⟨1, "Positive", 1.5⟩] := by decide +kernel
  have swapped : hitsOf 2 (Text.lines (firstLine ++ '\n' :: secondLine)) =
      [⟨1, "Positive", 1.5⟩, ⟨2, "neg", 0.75⟩] := by decide +kernel
  obtain ⟨-, -, chatty, orders⟩ := readAnswer_of_hits 2 (secondLine ++ '\n' :: firstLine)
  refine ⟨answered, orders _ _ (fun index => ?_) answered, ?_⟩
  · rw [hits, swapped]
    obtain rfl | other := eq_or_ne 2 index
    · rfl
    · simp [List.filter_cons, other]
  · rw [chatty _ [secondLine] ["And now:".toList] [firstLine] (by decide +kernel)
      (by decide +kernel) (by decide +kernel), answered]

end SentimentTree
