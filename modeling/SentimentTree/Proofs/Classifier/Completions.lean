import Mathlib.Data.List.Perm.Basic
import SentimentTree.Classifier.Batches
import SentimentTree.Proofs.Basic
import SentimentTree.Proofs.Lookup

/-! # Batches in flight

Whichever batch in flight completes next, each batch is run exactly once, and putting what came back
in order undoes the order of completion. To speak of the calls a run makes, a run is also given with
a log of them (`recorded`); the log changes neither results nor states.
-/

namespace SentimentTree

variable {σ α β γ : Type}

/-- A batch that was run and what came back for it. -/
structure BatchCall (α β : Type) where
  number : Nat
  batch : α
  outcome : β

/-- A run that notes each call at the end of a log. -/
def recorded (run : Nat → α → StateM σ β) (number : Nat) (batch : α) :
    StateM (σ × List (BatchCall α β)) β := fun (state, log) =>
  let (outcome, next) := run number batch state
  (outcome, next, log ++ [⟨number, batch, outcome⟩])

private theorem recorded_apply (run : Nat → α → StateM σ β) (number : Nat) (batch : α) (state : σ)
    (log : List (BatchCall α β)) :
    recorded run number batch (state, log) = ((run number batch state).1,
      (run number batch state).2, log ++ [⟨number, batch, (run number batch state).1⟩]) := rfl

/-- The call has come about by running its batch in some state. -/
def BatchCall.MadeBy (run : Nat → α → StateM σ β) (call : BatchCall α β) : Prop :=
  ∃ state, call.outcome = (run call.number call.batch state).1

def besideLog (action : StateM σ γ) : StateM (σ × List (BatchCall α β)) γ := fun (state, log) =>
  let (value, next) := action state
  (value, next, log)

/-! ## Order of completion -/

/-- With room for one batch the first that waits is in flight. -/
theorem inFlight_length {width : Nat} (positive : 0 < width) {waiting : List (Nat × α)}
    (some : waiting ≠ []) :
    0 < (inFlight width waiting).length ∧
      (inFlight width waiting).length ≤ waiting.length := by
  cases waiting with
  | nil => exact (some rfl).elim
  | cons first rest =>
    refine ⟨?_, (List.takeWhile_sublist _).length_le⟩
    have room : first.1 < first.1 + width := by omega
    simp [inFlight, room]

/-- One step of a run: some batch that waits is run, and then the others. Which one it is does not
depend on how batches are run. -/
theorem completions_succ {width : Nat} (positive : 0 < width) (pick : List Nat → Nat)
    {waiting : List (Nat × α)} (some : waiting ≠ []) :
    ∃ place, ∃ inside : place < waiting.length,
      ∀ {τ : Type} (run : Nat → α → StateM τ β) (steps : Nat) (state : τ),
        completions run pick width (steps + 1) waiting state =
          let now := run waiting[place].1 waiting[place].2 state
          let later := completions run pick width steps (waiting.eraseIdx place) now.2
          ((waiting[place].1, now.1) :: later.1, later.2) := by
  obtain ⟨room, bound⟩ := inFlight_length positive some
  have inside := Nat.lt_of_lt_of_le
    (Nat.mod_lt (pick ((inFlight width waiting).map (·.1))) room) bound
  refine ⟨_, inside, fun run steps state => ?_⟩
  rw [completions]
  simp only [List.getElem?_eq_getElem inside]
  rfl

/-- The calls of a run are the batches that waited, each once, and they are what it lists. Noting
them changes nothing. -/
theorem completions_recorded {width : Nat} (positive : 0 < width) (pick : List Nat → Nat)
    (run : Nat → α → StateM σ β) (waiting : List (Nat × α)) (state : σ)
    (log : List (BatchCall α β)) :
    ∃ calls : List (BatchCall α β), ∃ last : σ,
      completions run pick width waiting.length waiting state =
        (calls.map fun call => (call.number, call.outcome), last) ∧
      completions (recorded run) pick width waiting.length waiting (state, log) =
        (calls.map fun call => (call.number, call.outcome), last, log ++ calls) ∧
      (calls.map fun call => (call.number, call.batch)).Perm waiting := by
  induction count : waiting.length generalizing waiting state log with
  | zero =>
    obtain rfl := List.length_eq_zero_iff.mp count
    exact ⟨[], state, rfl, by rw [List.append_nil]; rfl, List.Perm.nil⟩
  | succ steps ih =>
    obtain ⟨place, inside, step⟩ := completions_succ (β := β) positive pick
      (List.ne_nil_of_length_eq_add_one count)
    have fewer : (waiting.eraseIdx place).length = steps := by
      rw [List.length_eraseIdx_of_lt inside, count, Nat.add_sub_cancel]
    let first : BatchCall α β :=
      ⟨waiting[place].1, waiting[place].2, (run waiting[place].1 waiting[place].2 state).1⟩
    obtain ⟨calls, last, plain, noted, perm⟩ := ih (waiting.eraseIdx place)
      (run waiting[place].1 waiting[place].2 state).2 (log ++ [first]) fewer
    refine ⟨first :: calls, last, ?_, ?_, ?_⟩
    · rw [step]
      dsimp only
      rw [plain]
      rfl
    · rw [step, recorded_apply]
      dsimp only
      rw [noted, List.append_assoc]
      rfl
    · exact (perm.cons _).trans (List.getElem_cons_eraseIdx_perm inside)

/-- A run notes no calls but those it makes. -/
theorem completions_madeBy (run : Nat → α → StateM σ β) (pick : List Nat → Nat)
    (width steps : Nat) (waiting : List (Nat × α)) (state : σ) {log : List (BatchCall α β)}
    (made : ∀ call ∈ log, call.MadeBy run) :
    ∀ call ∈ (completions (recorded run) pick width steps waiting (state, log)).2.2,
      call.MadeBy run := by
  induction steps generalizing waiting state log with
  | zero => exact made
  | succ steps ih =>
    unfold completions
    dsimp only
    rcases waiting[pick ((inFlight width waiting).map (·.1)) % (inFlight width waiting).length]? with
      _ | ⟨number, batch⟩
    · exact made
    · exact ih _ _ (List.forall_mem_append.mpr
        ⟨made, List.forall_mem_singleton.mpr ⟨state, rfl⟩⟩)

/-! ## Putting in order -/

private theorem map_fst_numbered (batches : List α) :
    (numbered batches).map (·.1) = List.range batches.length :=
  List.map_fst_zip (Nat.le_of_eq List.length_range)

/-- Putting in order only changes the order. -/
theorem inOrder_perm {count : Nat} {entries : List (Nat × β)}
    (keys : (entries.map (·.1)).Perm (List.range count)) :
    (inOrder count entries).Perm (entries.map (·.2)) := by
  have nodup : (entries.map (·.1)).Nodup := keys.nodup_iff.mpr List.nodup_range
  have found : ((entries.map (·.1)).filterMap fun number => List.lookup number entries) =
      entries.map (·.2) := by
    rw [List.filterMap_map, ← List.filterMap_eq_map]
    exact List.filterMap_congr fun entry member => lookup_eq_some_of_mem nodup member
  rw [← found]
  exact (keys.filterMap _).symm

/-- Numbered values in any order are put back into theirs. -/
theorem inOrder_of_perm {entries : List (Nat × β)} {values : List β}
    (perm : entries.Perm (numbered values)) : inOrder values.length entries = values := by
  have keys := perm.map (·.1)
  rw [map_fst_numbered] at keys
  have nodup : (entries.map (·.1)).Nodup := keys.nodup_iff.mpr List.nodup_range
  have found : ∀ number ∈ List.range values.length,
      List.lookup number entries = values[number]? := by
    intro number member
    have inside := List.mem_range.mp member
    rw [List.getElem?_eq_getElem inside]
    have present : (number, values[number]) ∈ entries := by
      rw [perm.mem_iff, numbered, List.mem_iff_getElem]
      exact ⟨number, by simpa using inside, by simp⟩
    exact lookup_eq_some_of_mem nodup present
  rw [inOrder, List.filterMap_congr found, filterMap_range_getElem?]

private theorem inOrder_map (f : β → γ) (count : Nat) (entries : List (Nat × β)) :
    inOrder count (entries.map fun entry => (entry.1, f entry.2)) =
      (inOrder count entries).map f := by
  simp only [inOrder, lookup_map fun _ => f, List.map_filterMap]

/-- The calls of a run, in the order of the batches: they are the batches, and what came back for
them is what the run's results are put in order to. -/
theorem exists_calls_inOrder {batches : List α} {log : List (BatchCall α β)}
    (perm : (log.map fun call => (call.number, call.batch)).Perm (numbered batches)) :
    ∃ calls : List (BatchCall α β), log.Perm calls ∧
      calls.map (·.number) = List.range batches.length ∧ calls.map (·.batch) = batches ∧
      inOrder batches.length (log.map fun call => (call.number, call.outcome)) =
        calls.map (·.outcome) := by
  have keys := perm.map (·.1)
  rw [map_fst_numbered, List.map_map] at keys
  let entries := log.map fun call => (call.number, call)
  have view : ∀ {δ : Type} (f : BatchCall α β → δ),
      inOrder batches.length (log.map fun call => (call.number, f call)) =
        (inOrder batches.length entries).map f := by
    intro δ f
    rw [← inOrder_map, List.map_map]
    rfl
  refine ⟨inOrder batches.length entries, ?_, ?_, ?_, view _⟩
  · have keyed : (entries.map (·.1)).Perm (List.range batches.length) := by
      rw [List.map_map]
      exact keys
    have ordered := inOrder_perm keyed
    have same : entries.map (·.2) = log := by
      rw [List.map_map]
      exact List.map_id log
    rw [same] at ordered
    exact ordered.symm
  · have numbers : (log.map fun call => (call.number, call.number)).Perm
        (numbered (List.range batches.length)) := by
      have same : numbered (List.range batches.length) =
          (List.range batches.length).map fun number => (number, number) := by
        rw [List.map_prod_left_eq_zip, List.map_id', numbered, List.length_range]
      have pairs := keys.map fun number => (number, number)
      rw [List.map_map] at pairs
      rw [same]
      exact pairs
    rw [← view, ← inOrder_of_perm numbers, List.length_range]
  · rw [← view]
    exact inOrder_of_perm perm

end SentimentTree
