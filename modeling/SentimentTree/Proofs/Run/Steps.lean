import Mathlib.Order.Defs.Unbundled
import SentimentTree.Run.Pipeline
import SentimentTree.Run.Scene

/-! # Steps of a run on scenes

What the steps of a run lead to is said by a triple without precondition (`Run.Ensures`): how the
scene after a step is related to the one before, which values the step can come to and which
problems can stop it. The relation is any preorder of scenes that the host's operations respect.
-/

namespace SentimentTree

/-- Wherever it starts, the action leads to a related scene. -/
def Leads {α : Type} (related : Scene → Scene → Prop) (action : StateM Scene α) : Prop :=
  ∀ scene, related scene (action.run scene).2

/-- The files are the same. -/
def SameFiles (before after : Scene) : Prop := after.store = before.store

/-- Nothing is said. -/
def AnyScene (_ _ : Scene) : Prop := True

instance : IsPreorder Scene SameFiles where
  refl _ := rfl
  trans _ _ _ first second := second.trans first

instance : IsPreorder Scene AnyScene where
  refl _ := trivial
  trans _ _ _ _ _ := trivial

variable {related : Scene → Scene → Prop} [IsPreorder Scene related] {α β : Type}

namespace Leads

omit [IsPreorder Scene related] in
theorem of_run {action : StateM Scene α} (leads : Leads related action) {scene after : Scene}
    {result : α} (ran : action.run scene = (result, after)) : related scene after := by
  have led := leads scene
  rwa [ran] at led

theorem any (action : StateM Scene α) : Leads AnyScene action := fun _ => trivial

theorem pure (value : α) : Leads related (Pure.pure value) := fun scene => refl scene

theorem bind {action : StateM Scene α} {next : α → StateM Scene β} (first : Leads related action)
    (later : ∀ value, Leads related (next value)) : Leads related (action >>= next) :=
  fun scene => IsTrans.trans _ _ _ (first scene) (later _ _)

theorem forM {items : List α} {action : α → StateM Scene Unit}
    (each : ∀ item, Leads related (action item)) : Leads related (items.forM action) := by
  induction items with
  | nil => exact pure ()
  | cons item rest ih => exact bind (each item) fun _ => ih

end Leads

/-! ## Triples -/

namespace Run

/-- Wherever it starts, the step leads to a related scene, and it either comes to a value as
described or stops at a problem as described. -/
def Ensures (related : Scene → Scene → Prop) (step : Run (StateM Scene) α) (value : α → Prop)
    (problem : RunProblem → Prop) : Prop :=
  ∀ scene, related scene (step.run.run scene).2 ∧
    match (step.run.run scene).1 with
    | .ok result => value result
    | .error stop => problem stop

/-- A second step goes on where the first one has led, unless that has stopped the run. -/
theorem run_bind (step : Run (StateM Scene) α) (next : α → Run (StateM Scene) β) (scene : Scene) :
    (step >>= next).run.run scene =
      match step.run.run scene with
      | (.ok result, middle) => (next result).run.run middle
      | (.error stop, middle) => (.error stop, middle) := by
  rw [ExceptT.run_bind, StateT.run_bind]
  change StateT.run _ (step.run.run scene).2 = _
  rcases step.run.run scene with ⟨_ | _, middle⟩ <;> rfl

theorem ofExcept_ok {ε : Type} (wrap : ε → RunProblem) (value : α) :
    (Run.ofExcept wrap (.ok value) : Run (StateM Scene) α) = pure value := rfl

theorem run_lift_bind (action : StateM Scene α) (next : α → Run (StateM Scene) β) (scene : Scene) :
    (ExceptT.lift action >>= next).run.run scene =
      (next (action scene).1).run.run (action scene).2 := rfl

variable {step : Run (StateM Scene) α} {next : α → Run (StateM Scene) β}
  {value described : α → Prop} {final : β → Prop} {problem stopped : RunProblem → Prop}
  {scene after : Scene} {stop : RunProblem}

/-- A run of two steps that stops does so in the first one, or in the second one where the first one
has led. -/
theorem failed_bind (failed : (step >>= next).run.run scene = (.error stop, after)) :
    step.run.run scene = (.error stop, after) ∨ ∃ result middle,
      step.run.run scene = (.ok result, middle) ∧
        (next result).run.run middle = (.error stop, after) := by
  obtain ⟨result, middle, ran⟩ : ∃ result middle, step.run.run scene = (result, middle) :=
    ⟨_, _, rfl⟩
  rw [run_bind, ran] at failed
  cases result with
  | ok found => exact .inr ⟨found, middle, ran, failed⟩
  | error first =>
    cases failed
    exact .inl ran

namespace Ensures

section
omit [IsPreorder Scene related]

theorem leads (ensures : Ensures related step value problem) : Leads related step.run :=
  fun scene => (ensures scene).1

theorem of_ok (ensures : Ensures related step value problem) {result : α}
    (ended : (step.run.run scene).1 = .ok result) : value result := by
  have ends := (ensures scene).2
  rwa [ended] at ends

theorem of_error (ensures : Ensures related step value problem)
    (ended : (step.run.run scene).1 = .error stop) : problem stop := by
  have ends := (ensures scene).2
  rwa [ended] at ends

theorem imp (ensures : Ensures related step described stopped)
    (values : ∀ result, described result → value result)
    (problems : ∀ stop, stopped stop → problem stop) : Ensures related step value problem := by
  intro scene
  refine ⟨ensures.leads scene, ?_⟩
  cases ended : (step.run.run scene).1 with
  | ok found => exact values found (ensures.of_ok ended)
  | error stop => exact problems stop (ensures.of_error ended)

theorem lift {action : StateM Scene α} (leads : Leads related action) :
    Ensures related (ExceptT.lift action) (fun _ => True) problem :=
  fun scene => ⟨leads scene, trivial⟩

end

theorem pure {result : α} (sound : value result) :
    Ensures related (Pure.pure result) value problem := fun scene => ⟨refl scene, sound⟩

theorem throw (fits : problem stop) :
    Ensures related (throw stop : Run (StateM Scene) α) value problem :=
  fun scene => ⟨refl scene, fits⟩

theorem ofExcept {ε : Type} {wrap : ε → RunProblem} {result : Except ε α}
    (sound : ∀ found, result = .ok found → value found)
    (fits : ∀ error, result = .error error → problem (wrap error)) :
    Ensures related (Run.ofExcept wrap result) value problem := by
  cases result with
  | ok found => exact pure (sound found rfl)
  | error error => exact throw (fits error rfl)

theorem bind (first : Ensures related step value problem)
    (later : ∀ result, value result → Ensures related (next result) final problem) :
    Ensures related (step >>= next) final problem := by
  intro scene
  obtain ⟨result, middle, ran⟩ : ∃ result middle, step.run.run scene = (result, middle) :=
    ⟨_, _, rfl⟩
  have led := first.leads.of_run ran
  rw [run_bind, ran]
  cases result with
  | ok found =>
    have second := later found (first.of_ok (congrArg Prod.fst ran)) middle
    exact ⟨IsTrans.trans _ _ _ led second.1, second.2⟩
  | error stop => exact ⟨led, first.of_error (congrArg Prod.fst ran)⟩

end Ensures

end Run

/-! ## Hosts -/

/-- Reading, printing, logging and posting lead to a related scene. -/
structure Host.Respects (related : Scene → Scene → Prop) (host : Host (StateM Scene)) : Prop where
  read : ∀ path, Leads related (host.read path)
  print : ∀ line, Leads related (host.print line)
  log : ∀ line, Leads related (host.log line)
  post : ∀ seconds address body, Leads related (host.post seconds address body)

theorem Host.respects_any (host : Host (StateM Scene)) : host.Respects AnyScene :=
  ⟨fun _ => .any _, fun _ => .any _, fun _ => .any _, fun _ _ _ => .any _⟩

/-- The host reads, prints, logs and posts without changing files, and writes as a recorded host
does. -/
structure Host.RecordsFiles (host : Host (StateM Scene)) : Prop extends
    Host.Respects SameFiles host where
  write : host.write = Host.recorded.write

private theorem Scene.post_store (scene : Scene) (address : WebAddress) (body : Json) :
    (scene.post address body).2.store = scene.store := by
  unfold post
  split <;> rfl

theorem Host.recorded_recordsFiles : Host.recorded.RecordsFiles where
  read _ _ := rfl
  print _ _ := rfl
  log _ _ := rfl
  post _ address body scene := scene.post_store address body
  write := rfl

/-- Whatever the threshold of the log, files are written as they were. -/
theorem Host.RecordsFiles.withThreshold {host : Host (StateM Scene)} (records : host.RecordsFiles)
    (threshold : LogLevel) : (host.withThreshold threshold).RecordsFiles :=
  { records with
    log := fun line => by
      unfold Host.withThreshold
      dsimp only
      split
      · exact records.log line
      · exact .pure () }

namespace Host.Respects

variable {host : Host (StateM Scene)} {problem : RunProblem → Prop}

section
omit [IsPreorder Scene related]

theorem say (respects : host.Respects related) (line : String) :
    Run.Ensures related (say host line) (fun _ => True) problem := .lift (respects.print line)

theorem note (respects : host.Respects related) (level : LogLevel) (message : String) :
    Run.Ensures related (note host level message) (fun _ => True) problem :=
  .lift (respects.log _)

end

theorem readText (respects : host.Respects related) (path : String) :
    Leads related (host.readText path) := by
  refine .bind (respects.read path) fun content => ?_
  split
  · exact .pure _
  · split <;> exact .pure _

end Host.Respects

end SentimentTree
