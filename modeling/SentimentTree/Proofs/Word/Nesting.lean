import Mathlib.Order.Bounds.Basic
import SentimentTree.Proofs.Word.Scan

/-! # The words that pass the check

The check is a machine with a stack. What it accepts is said here without one: the words over the
alphabet whose brackets are well nested (`WellNested`), and the statistics it gives are the numbers
of certain symbols and the greatest excess of opening over closing square brackets in a first part
of the word (`WordStats.Measures`). What is left to read when openers are on the stack is described
by recursion on the stack (`ClosesAll`).
-/

namespace SentimentTree

/-! ## Well-nested brackets -/

/-- An opening bracket and the closing one that belongs to it. -/
inductive IsPair : Char → Char → Prop
  | square : IsPair '[' ']'
  | round : IsPair '(' ')'

def isBracket (c : Char) : Bool := ['[', ']', '(', ')'].contains c

/-- Brackets that are well nested: none at all, or a pair around well-nested brackets with
well-nested brackets behind it. -/
inductive WellNested : List Char → Prop
  | nil : WellNested []
  | pair {opener closer : Char} {inner rest : List Char} (pair : IsPair opener closer)
      (inside : WellNested inner) (after : WellNested rest) :
      WellNested (opener :: inner ++ closer :: rest)

/-- The brackets close all openers of a stack, innermost first, with well-nested brackets before
each closer and after the last. -/
def ClosesAll : List Char → List Char → Prop
  | [], word => WellNested word
  | opener :: outer, word => ∃ inner closer rest, IsPair opener closer ∧
      word = inner ++ closer :: rest ∧ WellNested inner ∧ ClosesAll outer rest

variable {opener closer c : Char} {stack word inner rest : List Char}

private theorem IsPair.closer_ne (pair : IsPair opener closer) {other : Char}
    (own : IsPair closer other) :
    False := by
  cases pair <;> cases own

theorem IsPair.opener_unique {other : Char} (pair : IsPair opener closer)
    (same : IsPair other closer) : opener = other := by
  cases pair <;> cases same <;> rfl

/-- Every character is an opener, a closer or no bracket. -/
theorem bracket_cases (c : Char) :
    (∃ closer, IsPair c closer) ∨ (∃ opener, IsPair opener c) ∨ isBracket c = false := by
  by_cases bracket : isBracket c = true
  · simp only [isBracket, List.contains_iff_mem, List.mem_cons, List.not_mem_nil,
      or_false] at bracket
    rcases bracket with rfl | rfl | rfl | rfl
    · exact .inl ⟨_, .square⟩
    · exact .inr (.inl ⟨_, .square⟩)
    · exact .inl ⟨_, .round⟩
    · exact .inr (.inl ⟨_, .round⟩)
  · exact .inr (.inr (Bool.eq_false_iff.mpr bracket))

theorem IsPair.isBracket_opener (pair : IsPair opener closer) : isBracket opener = true := by
  cases pair <;> rfl

theorem IsPair.isBracket_closer (pair : IsPair opener closer) : isBracket closer = true := by
  cases pair <;> rfl

/-- Well-nested brackets start with an opener. -/
theorem WellNested.cons_cases (nested : WellNested (c :: word)) :
    ∃ closer inner rest, IsPair c closer ∧ word = inner ++ closer :: rest ∧ WellNested inner ∧
      WellNested rest := by
  cases nested with
  | pair pair inside after => exact ⟨_, _, _, pair, rfl, inside, after⟩

theorem ClosesAll.nil_iff : ClosesAll stack [] ↔ stack = [] := by
  cases stack with
  | nil => exact iff_of_true .nil rfl
  | cons opener outer => simp [ClosesAll]

/-- A pair in front changes nothing. -/
private theorem ClosesAll.pair (pair : IsPair opener closer) (inside : WellNested inner)
    (closes : ClosesAll stack rest) : ClosesAll stack (opener :: inner ++ closer :: rest) := by
  cases stack with
  | nil => exact .pair pair inside closes
  | cons next outer =>
    obtain ⟨before, other, after, own, rfl, nested, others⟩ := closes
    refine ⟨opener :: inner ++ closer :: before, other, after, own, ?_, .pair pair inside nested,
      others⟩
    simp

/-- An opener goes onto the stack. -/
theorem ClosesAll.cons_opener_iff (pair : IsPair c closer) :
    ClosesAll stack (c :: word) ↔ ClosesAll (c :: stack) word := by
  constructor
  · intro closes
    cases stack with
    | nil =>
      obtain ⟨closer, inner, rest, own, rfl, inside, after⟩ := WellNested.cons_cases closes
      exact ⟨inner, closer, rest, own, rfl, inside, after⟩
    | cons opener outer =>
      obtain ⟨before, other, after, own, split, nested, others⟩ := closes
      cases before with
      | nil =>
        obtain ⟨rfl, rfl⟩ := List.cons.inj split
        exact (own.closer_ne pair).elim
      | cons head before =>
        obtain ⟨rfl, rfl⟩ := List.cons.inj split
        obtain ⟨closer, inner, rest, first, rfl, inside, following⟩ := nested.cons_cases
        refine ⟨inner, closer, rest ++ other :: after, first, ?_, inside, ?_⟩
        · simp
        · exact ⟨rest, other, after, own, rfl, following, others⟩
  · rintro ⟨inner, closer, rest, own, rfl, inside, closes⟩
    exact closes.pair own inside

/-- A closer takes its opener from the stack. -/
theorem ClosesAll.cons_closer_iff (pair : IsPair opener c) :
    ClosesAll stack (c :: word) ↔ ∃ outer, stack = opener :: outer ∧ ClosesAll outer word := by
  constructor
  · intro closes
    cases stack with
    | nil =>
      obtain ⟨closer, _, _, own, _⟩ := WellNested.cons_cases closes
      exact (pair.closer_ne own).elim
    | cons innermost outer =>
      obtain ⟨before, other, after, own, split, nested, others⟩ := closes
      cases before with
      | nil =>
        obtain ⟨rfl, rfl⟩ := List.cons.inj split
        exact ⟨outer, by rw [own.opener_unique pair], others⟩
      | cons head before =>
        obtain ⟨rfl, rfl⟩ := List.cons.inj split
        obtain ⟨closer, _, _, first, _⟩ := nested.cons_cases
        exact (pair.closer_ne first).elim
  · rintro ⟨outer, rfl, closes⟩
    exact ⟨[], c, word, pair, rfl, .nil, closes⟩

/-! ## Steps -/

namespace WordScan

variable {scan next : WordScan}

/-- An opener is put on the stack. -/
theorem step_opener (scan : WordScan) (pair : IsPair c closer) :
    ∃ next, scan.step c = .ok next ∧ next.openers = (c, scan.offset) :: scan.openers := by
  cases pair with
  | square => exact ⟨_, rfl, rfl⟩
  | round => exact ⟨_, rfl, rfl⟩

/-- A closer is accepted exactly when its opener is on top of the stack. -/
theorem step_closer_eq_ok_iff (pair : IsPair opener c) :
    scan.step c = .ok next ↔ ∃ offset outer, scan.openers = (opener, offset) :: outer ∧
      next = { scan with
        offset := scan.offset + c.utf8Size, openers := outer
        depth := if c = ']' then scan.depth - 1 else scan.depth } := by
  have known : isWordSymbol c = true ∧ c ≠ '[' ∧ c ≠ '(' ∧ opener? c = some opener := by
    cases pair <;> decide
  obtain ⟨symbol, notSquare, notRound, own⟩ := known
  simp only [step, symbol, notSquare, notRound, own, Bool.not_true, Bool.false_eq_true, if_false]
  cases scan.openers with
  | nil => simp
  | cons top outer =>
    obtain ⟨innermost, offset⟩ := top
    by_cases same : innermost = opener
    · subst same
      simp [eq_comm]
    · simp [same]

/-- A symbol that is no bracket only counts. -/
theorem step_other_eq_ok_iff (other : isBracket c = false) :
    scan.step c = .ok next ↔ isWordSymbol c = true ∧
      next = { scan with offset := scan.offset + c.utf8Size, stats := count scan.stats c } := by
  have distinct : ∀ bracket, isBracket bracket = true → c ≠ bracket := by
    rintro bracket yes rfl
    simp [yes] at other
  simp only [step, distinct '[' rfl, distinct '(' rfl, opener?, distinct ']' rfl,
    distinct ')' rfl, if_false]
  cases isWordSymbol c <;> simp [eq_comm]

/-! ## Acceptance -/

/-- The check reaches the end of the word with nothing left open exactly when the word keeps to the
alphabet and its brackets close what is open. -/
theorem run_closes_iff (scan : WordScan) (word : List Char) :
    (∃ last, scan.run word = .ok last ∧ last.openers = []) ↔
      (∀ c ∈ word, isWordSymbol c = true) ∧
        ClosesAll (scan.openers.map (·.1)) (word.filter isBracket) := by
  induction word generalizing scan with
  | nil => simp [run, ClosesAll.nil_iff]
  | cons c rest ih =>
    have stepped : (∃ last, scan.run (c :: rest) = .ok last ∧ last.openers = []) ↔
        ∃ next, scan.step c = .ok next ∧ (∀ c ∈ rest, isWordSymbol c = true) ∧
          ClosesAll (next.openers.map (·.1)) (rest.filter isBracket) := by
      rw [run]
      cases scan.step c with
      | error problem => simp
      | ok next => simp [ih]
    rw [stepped, List.forall_mem_cons]
    rcases bracket_cases c with ⟨closer, pair⟩ | ⟨opener, pair⟩ | other
    · obtain ⟨next, accepted, openers⟩ := scan.step_opener pair
      rw [List.filter_cons_of_pos pair.isBracket_opener, ClosesAll.cons_opener_iff pair, accepted]
      simp [openers, isWordSymbol_of_step accepted]
    · have symbol : isWordSymbol c = true := by cases pair <;> rfl
      rw [List.filter_cons_of_pos pair.isBracket_closer, ClosesAll.cons_closer_iff pair]
      simp only [step_closer_eq_ok_iff pair, symbol, true_and, List.map_eq_cons_iff]
      constructor
      · rintro ⟨_, ⟨offset, outer, top, rfl⟩, symbols, closes⟩
        exact ⟨symbols, _, ⟨_, _, top, rfl, rfl⟩, closes⟩
      · rintro ⟨symbols, _, ⟨⟨_, offset⟩, outer, top, rfl, rfl⟩, closes⟩
        exact ⟨_, ⟨offset, outer, top, rfl⟩, symbols, closes⟩
    · rw [List.filter_cons_of_neg (by simp [other])]
      simp only [step_other_eq_ok_iff other]
      constructor
      · rintro ⟨_, ⟨symbol, rfl⟩, symbols, closes⟩
        exact ⟨⟨symbol, symbols⟩, closes⟩
      · rintro ⟨⟨symbol, symbols⟩, closes⟩
        exact ⟨_, ⟨symbol, rfl⟩, symbols, closes⟩

end WordScan

theorem checkWord_eq_ok_iff_run {stats : WordStats} :
    checkWord word = .ok stats ↔
      ∃ scan, WordScan.run {} word = .ok scan ∧ scan.openers = [] ∧ scan.stats = stats := by
  unfold checkWord
  cases WordScan.run {} word with
  | error problem => simp
  | ok scan =>
    cases openers : scan.openers <;> simp [WordScan.finish, openers]

/-! ## Statistics -/

/-- How many square brackets are open at the end of a piece, if all of them match. -/
def squareDepth (word : List Char) : Int := word.count '[' - word.count ']'

/-- The depths at the ends of the first parts of a word. -/
def depthsReached (word : List Char) : Set Int :=
  { depth | ∃ part, part <+: word ∧ squareDepth part = depth }

/-- The statistics are the numbers of segments, steps and fruits of the word and the greatest depth
at the end of a first part of it. -/
structure WordStats.Measures (stats : WordStats) (word : List Char) : Prop where
  segments : stats.segments = word.count 'T'
  steps : stats.steps = word.count 'M'
  fruits : stats.fruits = word.count 'F'
  maxDepth : IsGreatest (depthsReached word) stats.maxDepth

theorem WordStats.Measures.unique {a b : WordStats} (first : a.Measures word)
    (second : b.Measures word) : a = b := by
  obtain ⟨segments, steps, fruits, deepest⟩ := first
  obtain ⟨segments', steps', fruits', deepest'⟩ := second
  have depth : a.maxDepth = b.maxDepth := by exact_mod_cast deepest.unique deepest'
  cases a
  cases b
  simp_all

private theorem squareDepth_concat (word : List Char) (c : Char) :
    squareDepth (word ++ [c]) =
      squareDepth word + ((if c = '[' then 1 else 0) - if c = ']' then 1 else 0) := by
  simp only [squareDepth, List.count_append, List.count_singleton, beq_iff_eq]
  split <;> split <;> omega

private theorem squareDepth_concat_other (other : isBracket c = false) :
    squareDepth (word ++ [c]) = squareDepth word := by
  have distinct : ∀ bracket, isBracket bracket = true → c ≠ bracket := by
    rintro bracket yes rfl
    simp [yes] at other
  rw [squareDepth_concat, if_neg (distinct '[' rfl), if_neg (distinct ']' rfl), Int.sub_self,
    Int.add_zero]

private theorem isGreatest_depthsReached_concat {deepest : Int}
    (greatest : IsGreatest (depthsReached word) deepest) (c : Char) :
    IsGreatest (depthsReached (word ++ [c])) (max deepest (squareDepth (word ++ [c]))) := by
  obtain ⟨⟨part, first, reached⟩, bound⟩ := greatest
  constructor
  · rcases le_total deepest (squareDepth (word ++ [c])) with deeper | higher
    · exact ⟨word ++ [c], List.prefix_rfl, (max_eq_right deeper).symm⟩
    · exact ⟨part, first.trans (List.prefix_append _ _), by rw [max_eq_left higher, reached]⟩
  · rintro _ ⟨other, start, rfl⟩
    rcases List.prefix_concat_iff.mp start with rfl | start
    · exact le_max_right _ _
    · exact (bound ⟨other, start, rfl⟩).trans (le_max_left _ _)

namespace WordScan

/-- What the check knows after a piece of a word: its statistics and its depth, and that the depth
counts the square brackets on the stack. -/
structure Tracks (word : List Char) (scan : WordScan) : Prop where
  stats : scan.stats.Measures word
  depth : (scan.depth : Int) = squareDepth word
  openers : (scan.openers.map (·.1)).count '[' = scan.depth

variable {scan next : WordScan}

private theorem Tracks.start : Tracks [] {} where
  stats := by
    refine ⟨rfl, rfl, rfl, ⟨[], List.prefix_rfl, rfl⟩, ?_⟩
    rintro _ ⟨part, empty, rfl⟩
    rw [List.prefix_nil.mp empty]
    rfl
  depth := rfl
  openers := rfl

/-- The depth at hand is among those on record. -/
private theorem Tracks.depth_le (tracks : Tracks word scan) : scan.depth ≤ scan.stats.maxDepth := by
  have reached := tracks.stats.maxDepth.2 ⟨word, List.prefix_rfl, tracks.depth.symm⟩
  exact_mod_cast reached

/-- A bracket changes the greatest depth only. -/
private theorem Tracks.measures_bracket (tracks : Tracks word scan) (bracket : isBracket c = true)
    {deepest : Nat} (deeper : (deepest : Int) = max (scan.stats.maxDepth : Int)
      (squareDepth (word ++ [c]))) :
    { scan.stats with maxDepth := deepest }.Measures (word ++ [c]) := by
  have distinct : ∀ counted, isBracket counted = false → c ≠ counted := by
    rintro counted no rfl
    simp [no] at bracket
  obtain ⟨segments, steps, fruits, greatest⟩ := tracks.stats
  refine ⟨?_, ?_, ?_, deeper ▸ isGreatest_depthsReached_concat greatest c⟩
  · simp [List.count_append, segments, distinct 'T' rfl]
  · simp [List.count_append, steps, distinct 'M' rfl]
  · simp [List.count_append, fruits, distinct 'F' rfl]

/-- A bracket that leads no deeper changes no statistics. -/
private theorem Tracks.measures_shallow (tracks : Tracks word scan) (bracket : isBracket c = true)
    (shallow : squareDepth (word ++ [c]) ≤ squareDepth word) :
    scan.stats.Measures (word ++ [c]) := by
  have recorded : squareDepth (word ++ [c]) ≤ scan.stats.maxDepth := by
    have record := tracks.depth_le
    have reached := tracks.depth
    omega
  exact tracks.measures_bracket bracket (max_eq_left recorded).symm

/-- Any other symbol changes the counts only. -/
private theorem Tracks.measures_other (tracks : Tracks word scan) (other : isBracket c = false) :
    (count scan.stats c).Measures (word ++ [c]) := by
  obtain ⟨segments, steps, fruits, greatest⟩ := tracks.stats
  have deepest := isGreatest_depthsReached_concat greatest c
  rw [squareDepth_concat_other other, ← tracks.depth,
    max_eq_left (by exact_mod_cast tracks.depth_le)] at deepest
  have symbols : (count scan.stats c).segments = scan.stats.segments + [c].count 'T' ∧
      (count scan.stats c).steps = scan.stats.steps + [c].count 'M' ∧
      (count scan.stats c).fruits = scan.stats.fruits + [c].count 'F' ∧
      (count scan.stats c).maxDepth = scan.stats.maxDepth := by
    unfold count
    split_ifs with segment step fruit
    · simp [segment]
    · simp [step]
    · simp [fruit]
    · simp [segment, step, fruit]
  obtain ⟨more, moreSteps, moreFruits, depth⟩ := symbols
  refine ⟨?_, ?_, ?_, depth ▸ deepest⟩
  · rw [more, List.count_append, segments]
  · rw [moreSteps, List.count_append, steps]
  · rw [moreFruits, List.count_append, fruits]

/-- Each step of the check keeps track. -/
theorem Tracks.step (tracks : Tracks word scan) (stepped : scan.step c = .ok next) :
    Tracks (word ++ [c]) next := by
  have recorded := tracks.depth_le
  have reached := tracks.depth
  have counted := tracks.openers
  rcases bracket_cases c with ⟨closer, pair⟩ | ⟨opener, pair⟩ | other
  · cases pair with
    | square =>
      obtain rfl := Except.ok.inj stepped
      have deeper : squareDepth (word ++ ['[']) = squareDepth word + 1 := squareDepth_concat _ _
      refine ⟨tracks.measures_bracket rfl ?_, ?_, ?_⟩
      · omega
      · change ((scan.depth + 1 : Nat) : Int) = _
        omega
      · rw [List.map_cons, List.count_cons_self, counted]
    | round =>
      obtain rfl := Except.ok.inj stepped
      have same : squareDepth (word ++ ['(']) = squareDepth word :=
        (squareDepth_concat _ _).trans (Int.add_zero _)
      exact ⟨tracks.measures_shallow rfl same.le, same ▸ reached, counted⟩
  · obtain ⟨offset, outer, top, rfl⟩ := (step_closer_eq_ok_iff pair).mp stepped
    rw [top, List.map_cons] at counted
    cases pair with
    | square =>
      have higher : squareDepth (word ++ [']']) = squareDepth word - 1 := squareDepth_concat _ _
      rw [List.count_cons_self] at counted
      refine ⟨tracks.measures_shallow rfl (by omega), ?_, ?_⟩
      · change ((scan.depth - 1 : Nat) : Int) = _
        omega
      · exact Nat.eq_sub_of_add_eq counted
    | round =>
      have same : squareDepth (word ++ [')']) = squareDepth word :=
        (squareDepth_concat _ _).trans (Int.add_zero _)
      exact ⟨tracks.measures_shallow rfl same.le, same ▸ reached, counted⟩
  · obtain ⟨symbol, rfl⟩ := (step_other_eq_ok_iff other).mp stepped
    exact ⟨tracks.measures_other other, (squareDepth_concat_other other).symm ▸ reached, counted⟩

/-- The check keeps track of what it has read. -/
theorem tracks_of_run (ran : run {} word = .ok scan) : Tracks word scan :=
  run_induction .start (fun _ _ _ _ tracks stepped => tracks.step stepped) ran

end WordScan

/-- The check accepts exactly the words over the alphabet with well-nested brackets, and measures
them. Wherever it gets to, a closing square bracket that it accepts takes it from a depth above zero
to the one below. -/
theorem checkWord_eq_ok_iff_wellNested (word : List Char) :
    (∀ stats, checkWord word = .ok stats ↔ (∀ c ∈ word, isWordSymbol c = true) ∧
      WellNested (word.filter isBracket) ∧ stats.Measures word) ∧
    ∀ before after scan next, word = before ++ ']' :: after → WordScan.run {} before = .ok scan →
      scan.step ']' = .ok next → scan.depth = next.depth + 1 := by
  constructor
  · intro stats
    have accepted := WordScan.run_closes_iff {} word
    constructor
    · intro checked
      obtain ⟨scan, ran, closed, rfl⟩ := checkWord_eq_ok_iff_run.mp checked
      obtain ⟨symbols, nested⟩ := accepted.mp ⟨scan, ran, closed⟩
      exact ⟨symbols, nested, (WordScan.tracks_of_run ran).stats⟩
    · rintro ⟨symbols, nested, measures⟩
      obtain ⟨scan, ran, closed⟩ := accepted.mpr ⟨symbols, nested⟩
      refine checkWord_eq_ok_iff_run.mpr ⟨scan, ran, closed, ?_⟩
      exact (WordScan.tracks_of_run ran).stats.unique measures
  · rintro before after scan next - ran stepped
    have first := WordScan.tracks_of_run ran
    have second := first.step stepped
    have depth : squareDepth (before ++ [']']) = squareDepth before - 1 := squareDepth_concat _ _
    rw [← first.depth, ← second.depth] at depth
    omega

/-- The word of a month with one bucket. -/
theorem checkWord_eq_ok_iff_wellNested_branch :
    WellNested ("T(20)[+M(8)[+W(11.0)F(0.82,2)]]".toList.filter isBracket) ∧
    ∃ scan next, WordScan.run {} "T(20)[+M(8)[+W(11.0)F(0.82,2)".toList = .ok scan ∧
      scan.step ']' = .ok next ∧ scan.depth = next.depth + 1 ∧ scan.depth = 2 := by
  constructor
  · have accepted : checkWord "T(20)[+M(8)[+W(11.0)F(0.82,2)]]".toList = .ok ⟨1, 1, 1, 2⟩ := by
      decide
    exact (((checkWord_eq_ok_iff_wellNested _).1 _).mp accepted).2.1
  · have ran : ∃ scan next,
        WordScan.run {} "T(20)[+M(8)[+W(11.0)F(0.82,2)".toList = .ok scan ∧
          scan.step ']' = .ok next ∧ scan.depth = 2 := ⟨_, _, rfl, rfl, rfl⟩
    obtain ⟨scan, next, reached, stepped, deep⟩ := ran
    exact ⟨scan, next, reached, stepped, (checkWord_eq_ok_iff_wellNested _).2 _ [] scan next rfl
      reached stepped, deep⟩

example : checkWord "([)]".toList = .error (.unmatchedClose ')' 2) := by decide

end SentimentTree
