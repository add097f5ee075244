import SentimentTree.Proofs.Basic
import SentimentTree.Proofs.Word.Nesting

/-! # Where a word fails the check

A fault is told here without the check and its stack. A symbol is at fault when words that pass begin
with what stands before it, and none with the symbol behind that. An opener is at fault when words
that pass begin with the whole word, but the opener has no closer in it, while all openers behind it
have theirs. No word has two faults, and the check reports the one there is (`checkWord_eq_error_iff`).
-/

namespace SentimentTree

variable {word text piece before after inner rest : List Char} {c opener closer : Char}
  {offset : Nat} {stack : List Char}

/-! ## Faults -/

def IsBeginning (text : List Char) : Prop := ∃ rest stats, checkWord (text ++ rest) = .ok stats

/-- The word has the symbol at the offset in bytes. Words that pass begin with what stands before it,
and none with the symbol behind that. -/
def FailsAt (word : List Char) (symbol : Char) (offset : Nat) : Prop :=
  ∃ before after, word = before ++ symbol :: after ∧
    (String.ofList before).utf8ByteSize = offset ∧
    IsBeginning before ∧ ¬IsBeginning (before ++ [symbol])

/-- One of the two opening brackets. -/
def IsOpener (c : Char) : Prop := ∃ closer, IsPair c closer

/-- The text behind an opener has the closer that matches it. -/
def IsClosedIn (text : List Char) (opener : Char) : Prop :=
  ∃ inner closer rest, IsPair opener closer ∧ text = inner ++ closer :: rest ∧
    WellNested (inner.filter isBracket)

/-- The word has the opener at the offset in bytes, without a closer that matches it, and it is the
last opener of this kind. -/
def LeavesOpen (word : List Char) (opener : Char) (offset : Nat) : Prop :=
  ∃ before after, word = before ++ opener :: after ∧
    (String.ofList before).utf8ByteSize = offset ∧ IsOpener opener ∧ ¬IsClosedIn after opener ∧
    ∀ between other later, after = between ++ other :: later → IsOpener other →
      IsClosedIn later other

/-- The problem is what is wrong with the word. -/
def WordProblem.IsFaultOf (word : List Char) : WordProblem → Prop
  | unexpectedSymbol symbol offset => FailsAt word symbol offset ∧ isWordSymbol symbol = false
  | unmatchedClose closer offset => FailsAt word closer offset ∧ isWordSymbol closer = true
  | unclosedScope opener offset => IsBeginning word ∧ (∀ stats, checkWord word ≠ .ok stats) ∧
      LeavesOpen word opener offset

/-! ## No word has two faults -/

private theorem IsBeginning.of_append (begins : IsBeginning (before ++ after)) :
    IsBeginning before := by
  obtain ⟨rest, stats, passes⟩ := begins
  exact ⟨after ++ rest, stats, by rw [← List.append_assoc, passes]⟩

/-- Behind a symbol at fault nothing is the beginning of a word that passes. -/
theorem FailsAt.not_isBeginning (fails : FailsAt word c offset) : ¬IsBeginning word := by
  obtain ⟨before, after, rfl, -, -, stops⟩ := fails
  intro begins
  rw [List.append_cons] at begins
  exact stops begins.of_append

theorem FailsAt.unique {c' : Char} {offset' : Nat} (first : FailsAt word c offset)
    (second : FailsAt word c' offset') : c = c' ∧ offset = offset' := by
  obtain ⟨before, after, rfl, rfl, begins, stops⟩ := first
  obtain ⟨before', after', same, rfl, begins', stops'⟩ := second
  rcases split_cases same with ⟨rfl, rfl, -⟩ | ⟨between, rfl, -⟩ | ⟨between, rfl, -⟩
  · exact ⟨rfl, rfl⟩
  · rw [List.append_cons] at begins'
    exact (stops begins'.of_append).elim
  · rw [List.append_cons] at begins
    exact (stops' begins.of_append).elim

theorem LeavesOpen.unique {opener' : Char} {offset' : Nat} (first : LeavesOpen word opener offset)
    (second : LeavesOpen word opener' offset') : opener = opener' ∧ offset = offset' := by
  obtain ⟨before, after, rfl, rfl, opens, unclosed, later⟩ := first
  obtain ⟨before', after', same, rfl, opens', unclosed', later'⟩ := second
  rcases split_cases same with ⟨rfl, rfl, -⟩ | ⟨between, -, rfl⟩ | ⟨between, -, rfl⟩
  · exact ⟨rfl, rfl⟩
  · exact (unclosed' (later _ _ _ rfl opens')).elim
  · exact (unclosed (later' _ _ _ rfl opens)).elim

namespace WordProblem.IsFaultOf

variable {problem other : WordProblem}

private theorem rejects (fault : problem.IsFaultOf word) (stats : WordStats) :
    checkWord word ≠ .ok stats := by
  have passes (checked : checkWord word = .ok stats) : IsBeginning word :=
    ⟨[], stats, by rw [List.append_nil, checked]⟩
  cases problem with
  | unexpectedSymbol symbol offset => exact fun checked => fault.1.not_isBeginning (passes checked)
  | unmatchedClose closer offset => exact fun checked => fault.1.not_isBeginning (passes checked)
  | unclosedScope opener offset => exact fault.2.1 stats

theorem unique (first : problem.IsFaultOf word) (second : other.IsFaultOf word) :
    problem = other := by
  cases problem with
  | unexpectedSymbol symbol offset =>
    cases other with
    | unexpectedSymbol symbol' offset' =>
      obtain ⟨rfl, rfl⟩ := first.1.unique second.1
      rfl
    | unmatchedClose closer offset' =>
      obtain ⟨rfl, rfl⟩ := first.1.unique second.1
      exact (Bool.false_ne_true (first.2.symm.trans second.2)).elim
    | unclosedScope opener offset' => exact (first.1.not_isBeginning second.1).elim
  | unmatchedClose closer offset =>
    cases other with
    | unexpectedSymbol symbol offset' =>
      obtain ⟨rfl, rfl⟩ := first.1.unique second.1
      exact (Bool.false_ne_true (second.2.symm.trans first.2)).elim
    | unmatchedClose closer' offset' =>
      obtain ⟨rfl, rfl⟩ := first.1.unique second.1
      rfl
    | unclosedScope opener offset' => exact (first.1.not_isBeginning second.1).elim
  | unclosedScope opener offset =>
    cases other with
    | unexpectedSymbol symbol offset' => exact (second.1.not_isBeginning first.1).elim
    | unmatchedClose closer offset' => exact (second.1.not_isBeginning first.1).elim
    | unclosedScope opener' offset' =>
      obtain ⟨rfl, rfl⟩ := first.2.2.unique second.2.2
      rfl

end WordProblem.IsFaultOf

/-! ## Closing what is open -/

private theorem WellNested.append {first second : List Char} (left : WellNested first)
    (right : WellNested second) : WellNested (first ++ second) := by
  induction left with
  | nil => exact right
  | @pair opener closer inner rest pair inside _ _ ih =>
    rw [List.append_assoc, List.cons_append]
    exact .pair pair inside ih

/-- Well-nested brackets in front change nothing. -/
theorem ClosesAll.append_iff (nested : WellNested inner) :
    ClosesAll stack (inner ++ rest) ↔ ClosesAll stack rest := by
  induction nested generalizing stack rest with
  | nil => rfl
  | @pair opener closer inside later pair _ _ ihInside ihLater =>
    rw [List.append_assoc, List.cons_append, List.cons_append, ClosesAll.cons_opener_iff pair,
      ihInside, ClosesAll.cons_closer_iff pair]
    simp only [List.cons.injEq, true_and, exists_eq_left', ihLater]

/-- What closes a stack closes a stack of its own behind every bracket. -/
private theorem ClosesAll.exists_of_append (brackets : ∀ c ∈ before, isBracket c = true)
    (closes : ClosesAll stack (before ++ rest)) : ∃ remaining, ClosesAll remaining rest := by
  induction before generalizing stack with
  | nil => exact ⟨stack, closes⟩
  | cons c before ih =>
    obtain ⟨own, brackets⟩ := List.forall_mem_cons.mp brackets
    change ClosesAll stack (c :: (before ++ rest)) at closes
    rcases bracket_cases c with ⟨closer, pair⟩ | ⟨opener, pair⟩ | other
    · have opened : ClosesAll (c :: stack) (before ++ rest) :=
        (ClosesAll.cons_opener_iff pair).mp closes
      exact ih brackets opened
    · obtain ⟨outer, -, others⟩ := (ClosesAll.cons_closer_iff pair).mp closes
      exact ih brackets others
    · simp [own] at other

/-- Every stack of openers can be closed. -/
private theorem exists_closesAll (openers : ∀ opener ∈ stack, IsOpener opener) :
    ∃ rest : List Char,
      (∀ c ∈ rest, isWordSymbol c = true) ∧ ClosesAll stack (rest.filter isBracket) := by
  induction stack with
  | nil => exact ⟨[], List.forall_mem_nil _, .nil⟩
  | cons opener outer ih =>
    obtain ⟨⟨closer, pair⟩, openers⟩ := List.forall_mem_cons.mp openers
    obtain ⟨rest, symbols, closes⟩ := ih openers
    have symbol : isWordSymbol closer = true := by cases pair <;> rfl
    refine ⟨closer :: rest, List.forall_mem_cons.mpr ⟨symbol, symbols⟩, ?_⟩
    rw [List.filter_cons_of_pos pair.isBracket_closer]
    exact ⟨[], closer, _, pair, rfl, .nil, closes⟩

/-- An opener on top of the stack has its closer in the text that closes the stack. -/
theorem ClosesAll.isClosedIn (closes : ClosesAll (opener :: stack) (text.filter isBracket)) :
    IsClosedIn text opener := by
  obtain ⟨inner, closer, rest, pair, split, nested, -⟩ := closes
  obtain ⟨front, back, rfl, rfl, behind⟩ := List.filter_eq_append_iff.mp split
  obtain ⟨plain, later, rfl, none, -, rfl⟩ := List.filter_eq_cons_iff.mp behind
  refine ⟨front ++ plain, closer, later, pair, (List.append_assoc _ _ _).symm, ?_⟩
  rw [List.filter_append, List.filter_eq_nil_iff.mpr none, List.append_nil]
  exact nested

namespace WellNested

variable (nested : WellNested (text.filter isBracket))
include nested

/-- Well-nested brackets leave none of their openers open. -/
private theorem isClosedIn_of_split (split : text = before ++ opener :: after)
    (opens : IsOpener opener) :
    IsClosedIn after opener := by
  obtain ⟨closer, pair⟩ := opens
  have closes : ClosesAll [] (text.filter isBracket) := nested
  rw [split, List.filter_append, List.filter_cons_of_pos pair.isBracket_opener] at closes
  obtain ⟨stack, closes⟩ := closes.exists_of_append fun c member => (List.mem_filter.mp member).2
  exact ((ClosesAll.cons_opener_iff pair).mp closes).isClosedIn

/-- Well-nested brackets hold no closer for an opener in front of them. -/
theorem not_isClosedIn : ¬IsClosedIn text opener := by
  rintro ⟨inner, closer, rest, pair, rfl, inside⟩
  have closes : ClosesAll [] ((inner ++ closer :: rest).filter isBracket) := nested
  rw [List.filter_append, ClosesAll.append_iff inside,
    List.filter_cons_of_pos pair.isBracket_closer, ClosesAll.cons_closer_iff pair] at closes
  obtain ⟨_, none, -⟩ := closes
  nomatch none

end WellNested

/-! ## What the check has open -/

/-- The openers of the stack, innermost first, stand in the text at their offsets in bytes, and what
stands behind each of them, up to the next, is well nested. -/
def StandOpen : List (Char × Nat) → List Char → Prop
  | [], text => WellNested (text.filter isBracket)
  | (opener, offset) :: outer, text => ∃ before after, text = before ++ opener :: after ∧
      (String.ofList before).utf8ByteSize = offset ∧ IsOpener opener ∧ StandOpen outer before ∧
      WellNested (after.filter isBracket)

namespace StandOpen

variable {openers : List (Char × Nat)}

private theorem append (stands : StandOpen openers text)
    (nested : WellNested (piece.filter isBracket)) :
    StandOpen openers (text ++ piece) := by
  cases openers with
  | nil =>
    rw [StandOpen, List.filter_append]
    exact WellNested.append stands nested
  | cons top outer =>
    obtain ⟨before, after, rfl, place, opens, outside, behind⟩ := stands
    refine ⟨before, after ++ piece, by simp, place, opens, outside, ?_⟩
    rw [List.filter_append]
    exact behind.append nested

private theorem isOpener (stands : StandOpen openers text) :
    ∀ opener ∈ openers.map (·.1), IsOpener opener := by
  induction openers generalizing text with
  | nil => exact List.forall_mem_nil _
  | cons top outer ih =>
    obtain ⟨before, after, -, -, opens, outside, -⟩ := stands
    exact List.forall_mem_cons.mpr ⟨opens, ih outside⟩

/-- The innermost opener of the stack is the last one without a closer. -/
private theorem leavesOpen (stands : StandOpen ((opener, offset) :: openers) text) :
    LeavesOpen text opener offset := by
  obtain ⟨before, after, split, place, opens, -, nested⟩ := stands
  exact ⟨before, after, split, place, opens, nested.not_isClosedIn,
    fun between other later behind opens => nested.isClosedIn_of_split behind opens⟩

end StandOpen

namespace WordScan

variable {scan next : WordScan} {problem : WordProblem}

/-- What the check knows of the text behind it: how long it is and what it leaves open. -/
structure Stands (text : List Char) (scan : WordScan) : Prop where
  offset : scan.offset = (String.ofList text).utf8ByteSize
  openers : StandOpen scan.openers text

private theorem offset_of_step (stepped : scan.step c = .ok next) :
    next.offset = scan.offset + c.utf8Size := by
  rcases bracket_cases c with ⟨closer, pair⟩ | ⟨opener, pair⟩ | other
  · cases pair <;> obtain rfl := Except.ok.inj stepped <;> rfl
  · obtain ⟨_, _, -, rfl⟩ := (step_closer_eq_ok_iff pair).mp stepped
    rfl
  · obtain ⟨-, rfl⟩ := (step_other_eq_ok_iff other).mp stepped
    rfl

theorem Stands.step (stands : Stands text scan) (stepped : scan.step c = .ok next) :
    Stands (text ++ [c]) next := by
  refine ⟨?_, ?_⟩
  · rw [offset_of_step stepped, stands.offset]
    simp
  · rcases bracket_cases c with ⟨closer, pair⟩ | ⟨opener, pair⟩ | other
    · obtain ⟨_, accepted, openers⟩ := scan.step_opener pair
      obtain rfl := Except.ok.inj (accepted.symm.trans stepped)
      rw [openers]
      exact ⟨text, [], rfl, stands.offset.symm, ⟨closer, pair⟩, stands.openers, .nil⟩
    · obtain ⟨offset, outer, top, rfl⟩ := (step_closer_eq_ok_iff pair).mp stepped
      have opened := stands.openers
      rw [top] at opened
      obtain ⟨before, after, rfl, -, -, outside, nested⟩ := opened
      rw [List.append_assoc]
      refine outside.append ?_
      rw [List.cons_append, List.filter_cons_of_pos pair.isBracket_opener, List.filter_append,
        List.filter_cons_of_pos pair.isBracket_closer]
      exact .pair pair nested .nil
    · obtain ⟨-, rfl⟩ := (step_other_eq_ok_iff other).mp stepped
      refine stands.openers.append ?_
      rw [List.filter_cons_of_neg (by simp [other])]
      exact .nil

private theorem stands_of_run (ran : run {} text = .ok scan) : Stands text scan :=
  run_induction ⟨rfl, .nil⟩ (fun _ _ _ _ stands stepped => stands.step stepped) ran

/-- The check gets through a text exactly when words that pass begin with it. -/
theorem isBeginning_iff_run : IsBeginning text ↔ ∃ scan, run {} text = .ok scan := by
  constructor
  · rintro ⟨rest, stats, passes⟩
    obtain ⟨last, ran, -⟩ := checkWord_eq_ok_iff_run.mp passes
    rw [run_append] at ran
    cases reached : run {} text with
    | error problem => simp [reached] at ran
    | ok scan => exact ⟨scan, rfl⟩
  · rintro ⟨scan, ran⟩
    obtain ⟨rest, symbols, closes⟩ := exists_closesAll (stands_of_run ran).openers.isOpener
    obtain ⟨last, finished, closed⟩ := (scan.run_closes_iff rest).mpr ⟨symbols, closes⟩
    refine ⟨rest, last.stats, checkWord_eq_ok_iff_run.mpr ⟨last, ?_, closed, rfl⟩⟩
    rw [run_append, ran]
    exact finished

/-- A step fails over a symbol that is foreign or closes nothing, where the check stands. -/
private theorem step_eq_error (failed : scan.step c = .error problem) :
    (problem = .unexpectedSymbol c scan.offset ∧ isWordSymbol c = false) ∨
      (problem = .unmatchedClose c scan.offset ∧ isWordSymbol c = true) := by
  unfold step at failed
  cases known : isWordSymbol c with
  | false => grind
  | true => grind

/-- A check that fails has got to some symbol and fails over it. -/
private theorem exists_step_of_run_error (failed : scan.run word = .error problem) :
    ∃ before c after next, word = before ++ c :: after ∧ scan.run before = .ok next ∧
      next.step c = .error problem := by
  induction word generalizing scan with
  | nil => nomatch failed
  | cons c rest ih =>
    rw [run] at failed
    cases stepped : scan.step c with
    | error first =>
      rw [stepped] at failed
      obtain rfl := Except.error.inj failed
      exact ⟨[], c, rest, scan, rfl, rfl, stepped⟩
    | ok next =>
      rw [stepped] at failed
      obtain ⟨before, other, after, last, rfl, ran, stops⟩ := ih failed
      refine ⟨c :: before, other, after, last, rfl, ?_, stops⟩
      rw [run, stepped]
      exact ran

end WordScan

/-! ## Reports -/

/-- A check fails on the way or with openers left at the end. -/
theorem checkWord_eq_error_iff_run {problem : WordProblem} :
    checkWord word = .error problem ↔ WordScan.run {} word = .error problem ∨
      ∃ scan opener offset outer, WordScan.run {} word = .ok scan ∧
        scan.openers = (opener, offset) :: outer ∧ problem = .unclosedScope opener offset := by
  unfold checkWord
  cases WordScan.run {} word with
  | error first => simp
  | ok scan =>
    simp only [reduceCtorEq, false_or, Except.ok.injEq, WordScan.finish]
    cases openers : scan.openers with
    | nil => simp [openers]
    | cons top outer =>
      constructor
      · rintro ⟨⟩
        exact ⟨scan, top.1, top.2, outer, rfl, openers, rfl⟩
      · rintro ⟨_, _, _, _, rfl, same, rfl⟩
        obtain ⟨rfl, -⟩ := List.cons.inj (openers.symm.trans same)
        rfl

private theorem failsAt_of_run {problem : WordProblem}
    (failed : WordScan.run {} word = .error problem) :
    problem.IsFaultOf word := by
  obtain ⟨before, c, after, scan, rfl, reached, stopped⟩ := WordScan.exists_step_of_run_error failed
  have fails : FailsAt (before ++ c :: after) c scan.offset := by
    refine ⟨before, after, rfl, (WordScan.stands_of_run reached).offset.symm,
      WordScan.isBeginning_iff_run.mpr ⟨scan, reached⟩, ?_⟩
    rw [WordScan.isBeginning_iff_run]
    rintro ⟨last, ran⟩
    obtain ⟨middle, again, stepped⟩ := WordScan.run_concat_eq_ok_iff.mp ran
    obtain rfl := Except.ok.inj (reached.symm.trans again)
    cases stopped.symm.trans stepped
  rcases WordScan.step_eq_error stopped with ⟨rfl, foreign⟩ | ⟨rfl, known⟩
  · exact ⟨fails, foreign⟩
  · exact ⟨fails, known⟩

private theorem isFaultOf_of_checkWord {problem : WordProblem}
    (rejected : checkWord word = .error problem) :
    problem.IsFaultOf word := by
  rcases checkWord_eq_error_iff_run.mp rejected with
    failed | ⟨scan, opener, offset, outer, ran, openers, rfl⟩
  · exact failsAt_of_run failed
  · have stands := (WordScan.stands_of_run ran).openers
    rw [openers] at stands
    refine ⟨WordScan.isBeginning_iff_run.mpr ⟨scan, ran⟩, fun stats passes => ?_, stands.leavesOpen⟩
    cases rejected.symm.trans passes

/-- A word is rejected with the one fault that it has: with the symbol past which no word that passes
goes on, foreign to the alphabet or not, or with the last opener that is left without its closer. -/
theorem checkWord_eq_error_iff (word : List Char) (problem : WordProblem) :
    checkWord word = .error problem ↔ problem.IsFaultOf word := by
  constructor
  · exact isFaultOf_of_checkWord
  · intro fault
    cases checked : checkWord word with
    | ok stats => exact (fault.rejects stats checked).elim
    | error other => rw [(isFaultOf_of_checkWord checked).unique fault]

-- the second of the two brackets is closed, so the first is the one that is left
example : checkWord "T(20)[+M(8)".toList = .error (.unclosedScope '[' 5) := by decide

end SentimentTree
