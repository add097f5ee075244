import SentimentTree.Proofs.Run.Drawing

/-! # What a stopped run leaves behind

A run that a problem of the pipeline stops has not written the word. If it was stopped before it had
a tree, it has changed no file; if drawing the word stopped it, the tree is where the configuration
asks for it, because it is stored before geometry and word are checked.
-/

namespace SentimentTree

open Run

variable {host : Host (StateM Scene)} {power : Float → Float → Float} {args : Arguments}
  {config : Config} {tree : Hierarchy} {scene after : Scene} {error : PipelineError}

/-- Producing a word that is rejected changes no file. -/
theorem produceWord_sameFiles (records : host.RecordsFiles)
    (rejected : checkedWord config.geometry tree = .error error) :
    Ensures SameFiles (produceWord host args config tree) (fun _ => False)
      (· = .pipeline error) := by
  rw [produceWord_of_rejected rejected]
  exact .bind (records.say _) fun _ _ => .throw rfl

/-- Once there is a tree, a run that its rejected word stops has stored the tree and changed nothing
else. -/
theorem keepTree_produceWord_failed (records : host.RecordsFiles)
    (rejected : checkedWord config.geometry tree = .error error)
    (failed : (keepTree host config.output tree >>= fun _ =>
      produceWord host args config tree).run.run scene = (.error (.pipeline error), after)) :
    config.output.Keeps tree scene.store after.store := by
  rcases failed_bind failed with unkept | ⟨_, middle, kept, failed⟩
  · have writing := (keepTree_ensures config.output tree).of_error (congrArg Prod.fst unkept)
    nomatch writing
  · have same : after.store = middle.store :=
      (produceWord_sameFiles records rejected).leads.of_run failed
    rw [same]
    exact (keepTree_ok_iff records _ _ _ _).mp ⟨middle, kept, rfl⟩

/-- A run that a problem of the pipeline stops has changed no file if the problem came before the
word was drawn, and has at most stored the tree otherwise. -/
theorem runPipeline_failed (records : host.RecordsFiles)
    (failed : (runPipeline host power args config).run.run scene =
      (.error (.pipeline error), after)) :
    (error.ofDrawing = false → after.store = scene.store) ∧
    (error.ofDrawing = true → ∃ tree,
      ((obtainTree host power args config).run.run scene).1 = .ok tree ∧
      checkedWord config.geometry tree = .error error ∧
      config.output.Keeps tree scene.store after.store) := by
  have obtains : Ensures SameFiles (obtainTree host power args config) _ BeforeDrawing :=
    obtainTree_ensures records.toRespects args config
  rcases runPipeline_failed_cases records.toRespects failed with
    early | ⟨tree, noted, obtained, same, drawn⟩
  · have before : error.ofDrawing = false := obtains.of_error (congrArg Prod.fst early)
    exact ⟨fun _ => obtains.leads.of_run early, fun drawing => nomatch before.symm.trans drawing⟩
  · have stops : StopsFor config.geometry tree (.pipeline error) :=
      (keepTree_produceWord_ensures args config tree).of_error (congrArg Prod.fst drawn)
    have rejected := stops.rejected error rfl
    have kept := keepTree_produceWord_failed records rejected drawn
    rw [same] at kept
    refine ⟨fun before => ?_, fun _ => ⟨tree, obtained, rejected, kept⟩⟩
    nomatch before.symm.trans (ofDrawing_of_checkedWord rejected)

/-- A configuration that wants the tree in a file and has a step that is no length. -/
def Config.backward : Config where
  output := { hierarchy := some "copy.json" }
  geometry := { step := -1.0 }

theorem singleRun_backward : ∃ after,
    (singleRun .backward).run.run Scene.single =
      (.error (.pipeline (.geometry ⟨"week_step", -1.0⟩)), after) ∧
    Scene.single.store.write "copy.json" (String.ofList Hierarchy.single.documentText) =
      .ok after.store := by
  have rejected : checkedWord Config.backward.geometry .single =
      .error (.geometry ⟨"week_step", -1.0⟩) := by decide +kernel
  have written : ∃ store, Scene.single.store.write "copy.json"
      (String.ofList Hierarchy.single.documentText) = .ok store := ⟨_, rfl⟩
  obtain ⟨store, written⟩ := written
  have kept : Config.backward.output.Keeps .single Scene.single.store store := written
  have bounds : Config.backward.aggregation = {} := rfl
  obtain ⟨after, stopped, rfl⟩ := singleRun_of_rejected bounds kept rejected
  exact ⟨after, stopped, written⟩

theorem runPipeline_failed_backward : ∃ after tree,
    (Host.recorded.withThreshold .info).RecordsFiles ∧
    (singleRun .backward).run.run Scene.single =
      (.error (.pipeline (.geometry ⟨"week_step", -1.0⟩)), after) ∧
    checkedWord Config.backward.geometry tree = .error (.geometry ⟨"week_step", -1.0⟩) ∧
    Config.backward.output.Keeps tree Scene.single.store after.store := by
  have records := Host.recorded_recordsFiles.withThreshold .info
  obtain ⟨after, stopped, -⟩ := singleRun_backward
  obtain ⟨-, drawing⟩ := runPipeline_failed records stopped
  obtain ⟨tree, -, rejected, kept⟩ := drawing rfl
  exact ⟨after, tree, records, stopped, rejected, kept⟩

/-- A setting stops the run, and yet there is a file where there was none. -/
theorem singleRun_backward_leaves_tree : ∃ after,
    (singleRun .backward).run.run Scene.single =
      (.error (.pipeline (.geometry ⟨"week_step", -1.0⟩)), after) ∧
    Scene.single.store.read "copy.json" = .error .notFound ∧
    after.store.read "copy.json" = .ok (String.ofList Hierarchy.single.documentText).toUTF8 := by
  obtain ⟨after, stopped, written⟩ := singleRun_backward
  have absent : Scene.single.store.find "copy.json" = .error .notFound := rfl
  refine ⟨after, stopped, ?_, ?_⟩
  · simp only [Store.read, absent]
    rfl
  · exact Store.read_write written (by rw [absent]; nofun)

end SentimentTree
