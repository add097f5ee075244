import Mathlib.Data.List.Induction
import Mathlib.Tactic.ByContra
import Mathlib.Tactic.Tauto
import SentimentTree.Word.Check

/-! # Checking a word piece by piece

A piece of a word is balanced when checking it, from wherever the check stands, ends with the same
openers and depth and only adds the piece's own counts (`Adds`). Balanced pieces are closed under
concatenation and under both kinds of brackets, so the statistics of a word are read off the way it
is built. A check that goes through has seen symbols of the alphabet only.
-/

namespace SentimentTree

namespace WordStats

/-- The statistics of two pieces side by side. -/
def join (a b : WordStats) : WordStats where
  segments := a.segments + b.segments
  steps := a.steps + b.steps
  fruits := a.fruits + b.fruits
  maxDepth := max a.maxDepth b.maxDepth

def atDepth (stats : WordStats) (depth : Nat) : WordStats :=
  { stats with maxDepth := depth + stats.maxDepth }

@[simp] theorem join_empty (stats : WordStats) : stats.join {} = stats := by
  cases stats
  simp [join]

@[simp] theorem empty_join (stats : WordStats) : join {} stats = stats := by
  cases stats
  simp [join]

@[simp] theorem atDepth_zero (stats : WordStats) : stats.atDepth 0 = stats := by
  cases stats
  simp [atDepth]

private theorem join_assoc (a b c : WordStats) : (a.join b).join c = a.join (b.join c) := by
  simp [join, Nat.add_assoc, Nat.max_assoc]

private theorem join_atDepth (a b : WordStats) (depth : Nat) :
    (a.join b).atDepth depth = (a.atDepth depth).join (b.atDepth depth) := by
  simp [join, atDepth, Nat.add_max_add_left]

/-- Entering square brackets first records the greater depth. -/
private theorem join_atDepth_succ (stats gain : WordStats) (depth : Nat) :
    { stats with maxDepth := max stats.maxDepth (depth + 1) }.join (gain.atDepth (depth + 1)) =
      stats.join ((gain.atDepth 1).atDepth depth) := by
  simp only [join, atDepth, mk.injEq, true_and]
  omega

end WordStats

namespace WordScan

theorem run_append (scan : WordScan) (first second : List Char) :
    scan.run (first ++ second) = match scan.run first with
      | .ok next => next.run second
      | .error problem => .error problem := by
  induction first generalizing scan with
  | nil => rfl
  | cons c rest ih =>
    rw [List.cons_append, run, run]
    cases scan.step c with
    | error problem => rfl
    | ok next => exact ih next

theorem run_concat_eq_ok_iff {scan last : WordScan} {word : List Char} {c : Char} :
    scan.run (word ++ [c]) = .ok last ↔
      ∃ middle, scan.run word = .ok middle ∧ middle.step c = .ok last := by
  rw [run_append]
  cases scan.run word with
  | error problem => simp
  | ok middle => cases stepped : middle.step c <;> simp [run, stepped]

/-- What holds at the start and is kept by every step holds wherever the check gets to. -/
theorem run_induction {motive : List Char → WordScan → Prop} (start : motive [] {})
    (kept : ∀ text scan c next, motive text scan → scan.step c = .ok next → motive (text ++ [c]) next)
    {word : List Char} {scan : WordScan} (ran : run {} word = .ok scan) : motive word scan := by
  induction word using List.reverseRecOn generalizing scan with
  | nil =>
    obtain rfl := Except.ok.inj ran
    exact start
  | append_singleton before c ih =>
    obtain ⟨middle, reached, stepped⟩ := run_concat_eq_ok_iff.mp ran
    exact kept before middle c scan (ih reached) stepped

/-- A step goes through only over a symbol of the alphabet. -/
theorem isWordSymbol_of_step {scan next : WordScan} {c : Char} (stepped : scan.step c = .ok next) :
    isWordSymbol c = true := by
  by_contra foreign
  rw [Bool.not_eq_true] at foreign
  simp [step, foreign] at stepped

theorem isWordSymbol_of_run {scan next : WordScan} {word : List Char}
    (ran : scan.run word = .ok next) : ∀ c ∈ word, isWordSymbol c = true := by
  induction word generalizing scan with
  | nil => simp
  | cons c rest ih =>
    rw [run] at ran
    cases stepped : scan.step c with
    | error problem => simp [stepped] at ran
    | ok after =>
      rw [stepped] at ran
      intro other member
      rcases List.mem_cons.mp member with rfl | member
      · exact isWordSymbol_of_step stepped
      · exact ih ran other member

/-! ## Balanced pieces -/

/-- Checking the piece leaves openers and depth as they were and adds the statistics, at the depth
where the piece stands. No depth was ever greater than the greatest one on record. -/
def Adds (piece : List Char) (gain : WordStats) : Prop :=
  ∀ scan : WordScan, scan.depth ≤ scan.stats.maxDepth → ∃ offset,
    scan.run piece = .ok { scan with offset, stats := scan.stats.join (gain.atDepth scan.depth) }

variable {first second piece : List Char} {a b gain : WordStats}

theorem Adds.nil : Adds [] {} := by
  intro scan recorded
  refine ⟨scan.offset, ?_⟩
  rcases scan with ⟨offset, openers, depth, stats⟩
  cases stats
  simp_all [run, WordStats.join, WordStats.atDepth]

theorem Adds.append (left : Adds first a) (right : Adds second b) :
    Adds (first ++ second) (a.join b) := by
  intro scan recorded
  obtain ⟨middle, ran⟩ := left scan recorded
  obtain ⟨last, ran'⟩ := right
    { scan with offset := middle, stats := scan.stats.join (a.atDepth scan.depth) }
    (Nat.le_trans recorded (Nat.le_max_left _ _))
  refine ⟨last, ?_⟩
  rw [run_append, ran]
  simp only [ran', WordStats.join_assoc, WordStats.join_atDepth]

/-- A symbol that is neither a bracket nor counted. -/
def isNeutral (c : Char) : Bool := c.isDigit || ['+', '-', '.', ',', 'W'].contains c

private theorem step_neutral (scan : WordScan) {c : Char} (neutral : isNeutral c = true) :
    scan.step c = .ok { scan with offset := scan.offset + c.utf8Size } := by
  have symbol : isWordSymbol c = true := by
    simp only [isNeutral, isWordSymbol, Bool.or_eq_true, List.contains_iff_mem, List.mem_cons,
      List.not_mem_nil, or_false] at neutral ⊢
    tauto
  have distinct : ∀ other, isNeutral other = false → c ≠ other := by
    rintro other reserved rfl
    simp [neutral] at reserved
  simp only [step, symbol, distinct '[' rfl, distinct '(' rfl, opener?, distinct ']' rfl,
    distinct ')' rfl, count, distinct 'T' rfl, distinct 'M' rfl, distinct 'F' rfl]
  rfl

theorem adds_neutral (neutral : ∀ c ∈ piece, isNeutral c = true) : Adds piece {} := by
  induction piece with
  | nil => exact .nil
  | cons c rest ih =>
    intro scan recorded
    obtain ⟨offset, ran⟩ := ih (fun other member => neutral other (List.mem_cons_of_mem _ member))
      { scan with offset := scan.offset + c.utf8Size } recorded
    refine ⟨offset, ?_⟩
    rw [run, scan.step_neutral (neutral c List.mem_cons_self)]
    exact ran

/-- One of the symbols that are counted. -/
theorem adds_counted {c : Char} (counted : c = 'T' ∨ c = 'M' ∨ c = 'F') :
    Adds [c] (count {} c) := by
  intro scan recorded
  refine ⟨scan.offset + c.utf8Size, ?_⟩
  rcases scan with ⟨offset, openers, depth, ⟨segments, steps, fruits, maxDepth⟩⟩
  have kept : max maxDepth depth = maxDepth := Nat.max_eq_left recorded
  rcases counted with rfl | rfl | rfl <;>
    simp [run, step, opener?, isWordSymbol, count, WordStats.join, WordStats.atDepth, kept]

theorem Adds.round (inner : Adds piece gain) : Adds ('(' :: piece ++ [')']) gain := by
  intro scan recorded
  have opened : scan.step '(' = .ok { scan with
      offset := scan.offset + 1, openers := ('(', scan.offset) :: scan.openers } := rfl
  obtain ⟨offset, ran⟩ := inner
    { scan with offset := scan.offset + 1, openers := ('(', scan.offset) :: scan.openers } recorded
  refine ⟨offset + 1, ?_⟩
  rw [List.cons_append, run, opened]
  dsimp only
  rw [run_append, ran]
  rfl

/-- Square brackets raise the depth of what they enclose by one. -/
theorem Adds.square (inner : Adds piece gain) :
    Adds ('[' :: piece ++ [']']) (gain.atDepth 1) := by
  intro scan recorded
  let entered : WordScan := {
    offset := scan.offset + 1, openers := ('[', scan.offset) :: scan.openers
    depth := scan.depth + 1
    stats := { scan.stats with maxDepth := max scan.stats.maxDepth (scan.depth + 1) } }
  have opened : scan.step '[' = .ok entered := rfl
  obtain ⟨offset, ran⟩ := inner entered (Nat.le_max_right _ _)
  refine ⟨offset + 1, ?_⟩
  rw [List.cons_append, run, opened]
  dsimp only
  rw [run_append, ran, ← WordStats.join_atDepth_succ]
  rfl

end WordScan

end SentimentTree
