import SentimentTree.Proofs.Classifier.Scoring

/-! # Batches leave no trace

A classifier that judges each text by itself gives the same result however the texts are cut into
batches, however many batches are in flight and in whatever order they complete: the messages, or
the complaint, are those of `scoreEach`, which knows of no batches. States that the classifier or
the reports keep do not matter either.

A run is told which batch completes next by a function of the numbers in flight. No window occurs
twice in a run, so such functions give every order of completion (`CompletionOrder.exists_pick`).
-/

namespace SentimentTree

variable {σ τ α β : Type} {width : Nat}

/-! ## Orders of completion -/

/-- The waiting batches can complete in the order of these numbers: each time one of those in
flight. -/
inductive CompletionOrder (width : Nat) : List (Nat × α) → List Nat → Prop
  | nil : CompletionOrder width [] []
  | next {waiting : List (Nat × α)} {order : List Nat} (place : Nat)
      (flying : place < (inFlight width waiting).length) (inside : place < waiting.length)
      (later : CompletionOrder width (waiting.eraseIdx place) order) :
      CompletionOrder width waiting (waiting[place].1 :: order)

private theorem inFlight_take (width : Nat) (waiting : List (Nat × α)) :
    inFlight width waiting <+: waiting := by
  cases waiting with
  | nil => exact List.prefix_rfl
  | cons first rest => exact List.takeWhile_prefix _

/-- A run asks only about windows of batches that still wait. -/
theorem completions_congr_pick {pick other : List Nat → Nat} {number : Nat}
    (run : Nat → α → StateM σ β) (agree : ∀ window, number ∉ window → pick window = other window)
    (steps : Nat) {waiting : List (Nat × α)} (gone : number ∉ waiting.map (·.1)) (state : σ) :
    completions run pick width steps waiting state =
      completions run other width steps waiting state := by
  induction steps generalizing waiting state with
  | zero => rfl
  | succ steps ih =>
    have window : number ∉ (inFlight width waiting).map (·.1) := fun member =>
      gone (((inFlight_take width waiting).sublist.map _).subset member)
    have fewer : ∀ place, number ∉ (waiting.eraseIdx place).map (·.1) := fun place member =>
      gone (((List.eraseIdx_sublist waiting place).map _).subset member)
    rw [completions, completions, agree _ window]
    generalize other _ % _ = place
    cases waiting[place]? with
    | none => rfl
    | some batch => simp only [bind, StateT.bind, ih (fewer place)]

/-- Every order in which the waiting batches can complete is the order of a run. -/
theorem CompletionOrder.exists_pick {waiting : List (Nat × α)} {order : List Nat}
    (possible : CompletionOrder width waiting order) (nodup : (waiting.map (·.1)).Nodup) :
    ∃ pick : List Nat → Nat, ∀ (run : Nat → α → StateM σ β) (state : σ),
      (completions run pick width waiting.length waiting state).1.map (·.1) = order := by
  induction possible with
  | nil => exact ⟨fun _ => 0, fun _ _ => rfl⟩
  | @next waiting order place flying inside _ ih =>
    obtain ⟨rest, later⟩ := ih (nodup.sublist ((List.eraseIdx_sublist waiting place).map _))
    -- the choice is changed for the present window only, which holds a number that is gone later
    let pick (window : List Nat) : Nat :=
      if waiting[place].1 ∈ window then place else rest window
    refine ⟨pick, fun run state => ?_⟩
    have present : waiting[place].1 ∈ (inFlight width waiting).map (·.1) := by
      rw [← (inFlight_take width waiting).getElem flying]
      exact List.mem_map_of_mem (List.getElem_mem flying)
    have gone : waiting[place].1 ∉ (waiting.eraseIdx place).map (·.1) := by
      have order := (List.getElem_cons_eraseIdx_perm inside).map (·.1)
      exact (List.nodup_cons.mp (order.nodup_iff.mpr nodup)).1
    have chosen : pick ((inFlight width waiting).map (·.1)) % (inFlight width waiting).length =
        place := by
      rw [show pick _ = place from if_pos present, Nat.mod_eq_of_lt flying]
    have length : waiting.length = (waiting.eraseIdx place).length + 1 := by
      rw [List.length_eraseIdx_of_lt inside]
      omega
    rw [length, completions]
    simp only [chosen, List.getElem?_eq_getElem inside, bind, StateT.bind]
    have same : ∀ window, waiting[place].1 ∉ window → pick window = rest window :=
      fun window absent => if_neg absent
    obtain ⟨outcome, next⟩ := run waiting[place].1 waiting[place].2 state
    have listed := later run next
    rw [← completions_congr_pick run same _ gone next] at listed
    exact congrArg (waiting[place].1 :: ·) listed

/-! ## Pointwise answers -/

/-- When what comes back for a batch does not depend on the state, a run lists it for every
batch. -/
theorem completions_perm (room : 0 < width) (pick : List Nat → Nat) {run : Nat → α → StateM σ β}
    {answer : α → β} (answers : ∀ number batch state, (run number batch state).1 = answer batch)
    (waiting : List (Nat × α)) (state : σ) :
    (completions run pick width waiting.length waiting state).1.Perm
      (waiting.map fun batch => (batch.1, answer batch.2)) := by
  induction count : waiting.length generalizing waiting state with
  | zero =>
    obtain rfl := List.length_eq_zero_iff.mp count
    exact List.Perm.nil
  | succ steps ih =>
    obtain ⟨place, inside, step⟩ := completions_succ (β := β) room pick
      (List.ne_nil_of_length_eq_add_one count)
    have fewer : (waiting.eraseIdx place).length = steps := by
      rw [List.length_eraseIdx_of_lt inside, count, Nat.add_sub_cancel]
    rw [step]
    dsimp only
    rw [answers]
    refine ((ih _ _ fewer).cons _).trans ?_
    exact (List.getElem_cons_eraseIdx_perm inside).map fun batch => (batch.1, answer batch.2)

private theorem map_numbered (answer : α → β) (batches : List α) :
    (numbered batches).map (fun batch => (batch.1, answer batch.2)) =
      numbered (batches.map answer) := by
  rw [numbered, numbered, List.length_map, List.zip_map_right]
  rfl

/-- Put in order, the answers are those of the batches. -/
theorem inOrder_completions (room : 0 < width) (pick : List Nat → Nat)
    {run : Nat → α → StateM σ β} {answer : α → β}
    (answers : ∀ number batch state, (run number batch state).1 = answer batch)
    (batches : List α) (state : σ) :
    inOrder batches.length
        (completions run pick width batches.length (numbered batches) state).1 =
      batches.map answer := by
  have perm := completions_perm room pick answers (numbered batches) state
  have length : (numbered batches).length = batches.length := by simp [numbered]
  rw [length, map_numbered] at perm
  rw [← inOrder_of_perm perm, List.length_map]

variable {judge : String → Classification}

/-- The verdicts of batches that are answered text by text are those of the texts. -/
private theorem verdictsFrom_map (number : Nat) (batches : List (List String)) :
    verdictsFrom number batches (batches.map fun texts => .ok (texts.map judge)) =
      .ok (batches.flatten.map judge) := by
  induction batches generalizing number with
  | nil => rfl
  | cons texts rest ih =>
    rw [List.map_cons, verdictsFrom]
    simp only [List.length_map, if_true, ih, bind, Except.bind, pure, Except.pure,
      List.flatten_cons, List.map_append]

/-- The classifier answers each batch with the verdicts of its texts, each judged by itself. -/
def JudgesEach (judge : String → Classification)
    (classify : Nat → List String → StateM σ BatchOutcome) : Prop :=
  ∀ number texts state, (classify number texts state).1 = .ok (texts.map judge)

/-- The messages of rows whose texts are judged one by one, without batches. -/
def scoreEach (judge : String → Classification) (rows : List MessageRow) :
    Except ScoringProblem (List ScoredMessage) :=
  match textsFrom 1 rows with
  | .error error => .error (.row error)
  | .ok texts =>
    match joinVerdicts 1 (texts.map judge) rows with
    | .error error => .error (.row error)
    | .ok messages => .ok messages

variable {rows : List MessageRow} {batchSize : Nat}

/-- A run with a pointwise classifier ends as if there were no batches. -/
theorem scoreWith_eq_scoreEach (report : ScoringEvent → StateM σ Unit)
    {classify : Nat → List String → StateM σ BatchOutcome} (judges : JudgesEach judge classify)
    (pick : List Nat → Nat) (positive : 0 < batchSize) (room : 0 < width) (start : σ) :
    (scoreWith report classify pick rows batchSize width start).1 = scoreEach judge rows := by
  have sizes : ¬(batchSize = 0 ∨ width = 0) := by omega
  cases sent : textsFrom 1 rows with
  | error error =>
    simp only [scoreWith, scoringTexts, if_neg sizes, scoreEach, sent]
    rfl
  | ok texts =>
    have answers := inOrder_completions room pick judges (chunks batchSize texts)
      (report (.sending texts.length rows.length batchSize width) start).2
    rw [scoreWith_eq (scoringTexts_eq_ok_iff.mpr ⟨positive, room, sent⟩)]
    simp only [sentBatches, answers, verdictsFrom_map, (chunks_spec positive texts).2, scoreEach,
      sent]
    cases joinVerdicts 1 (texts.map judge) rows <;> rfl

/-- Two runs with the same pointwise classifier give the same messages or fail alike, whatever their
batch sizes, their numbers of batches in flight and the orders in which the batches complete. -/
theorem scoreWith_batches_irrelevant (report : ScoringEvent → StateM σ Unit)
    (report' : ScoringEvent → StateM τ Unit)
    {classify : Nat → List String → StateM σ BatchOutcome}
    {classify' : Nat → List String → StateM τ BatchOutcome}
    (judges : JudgesEach judge classify) (judges' : JudgesEach judge classify')
    (pick pick' : List Nat → Nat) (rows : List MessageRow) {batchSize width batchSize' width' : Nat}
    (positive : 0 < batchSize) (room : 0 < width) (positive' : 0 < batchSize')
    (room' : 0 < width') (start : σ) (start' : τ) :
    (scoreWith report classify pick rows batchSize width start).1 =
      (scoreWith report' classify' pick' rows batchSize' width' start').1 := by
  rw [scoreWith_eq_scoreEach report judges pick positive room start,
    scoreWith_eq_scoreEach report' judges' pick' positive' room' start']

/-- A judge that likes short texts. -/
def briefly (text : String) : Classification :=
  ⟨if text.length ≤ 9 then .positive else .negative, 0.75⟩

/-- A classifier that judges each text by itself and counts its calls. -/
def countingCalls (judge : String → Classification) (_ : Nat) (texts : List String) :
    StateM Nat BatchOutcome := fun calls => (.ok (texts.map judge), calls + 1)

/-- Three texts in batches of two, the second of which completes first, and one by one. -/
theorem scoreWith_batches_irrelevant_fourRows :
    JudgesEach briefly (countingCalls briefly) ∧
    (scoreWith (fun _ => pure ()) (countingCalls briefly) (fun _ => 1) fourRows 2 2 0).1 =
      (scoreWith (fun _ => pure ()) (countingCalls briefly) (fun _ => 0) fourRows 1 4 7).1 ∧
    ∃ messages,
      (scoreWith (fun _ => pure ()) (countingCalls briefly) (fun _ => 1) fourRows 2 2 0).1 =
        .ok messages ∧
      messages.map (·.label) = [.positive, .neutral, .negative, .positive] := by
  have judges : JudgesEach briefly (countingCalls briefly) := fun _ _ _ => rfl
  refine ⟨judges, ?_, _, rfl, by decide +kernel⟩
  exact scoreWith_batches_irrelevant _ _ judges judges _ _ fourRows (by decide) (by decide)
    (by decide) (by decide) 0 7

end SentimentTree
