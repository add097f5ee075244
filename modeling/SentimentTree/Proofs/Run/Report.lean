import SentimentTree.Proofs.Run.Drawing

/-! # The number of messages in the report

A run that has written its word reports on the tree. The check of a tree sets no limit to counts, so
a tree from a file can have more messages than sixty-four bits count. The report breaks off then,
and shows the right number otherwise.
-/

namespace SentimentTree

open Run

variable {host : Host (StateM Scene)} {power : Float → Float → Float} {args : Arguments}
  {config : Config} {tree : Hierarchy} {scene after : Scene} {threshold : LogLevel} {line : String}

/-! ## Printed lines -/

/-- What has been printed stays; the last line comes first. -/
def KeepsPrinted (before after : Scene) : Prop := before.printed <:+ after.printed

instance : IsPreorder Scene KeepsPrinted where
  refl _ := List.suffix_refl _
  trans _ _ _ first second := first.trans second

private theorem recorded_keepsPrinted (threshold : LogLevel) :
    (Host.recorded.withThreshold threshold).Respects KeepsPrinted where
  read _ _ := List.suffix_refl _
  print line scene := List.suffix_cons line scene.printed
  log := by
    intro line
    unfold Host.withThreshold
    dsimp only
    split
    · exact fun scene => List.suffix_refl _
    · exact .pure ()
  post := by
    intro _ address body scene
    change scene.printed <:+ (scene.post address body).2.printed
    unfold Scene.post
    split <;> exact List.suffix_refl _

/-- If the step comes to an end, the line has been printed. -/
def Prints (step : Run (StateM Scene) Unit) (line : String) : Prop :=
  ∀ scene after, step.run.run scene = (.ok (), after) → line ∈ after.printed

private theorem Prints.bind {α : Type} {step : Run (StateM Scene) α}
    {next : α → Run (StateM Scene) Unit}
    (later : ∀ scene result, (step.run.run scene).1 = .ok result → Prints (next result) line) :
    Prints (step >>= next) line := by
  intro scene after ended
  rw [run_bind] at ended
  cases first : step.run.run scene with
  | mk result middle =>
    rw [first] at ended
    cases result with
    | error stop => nomatch ended
    | ok found => exact later scene found (congrArg Prod.fst first) middle after ended

private theorem Prints.say {next : Unit → Run (StateM Scene) Unit}
    (later : Leads KeepsPrinted (next ()).run) :
    Prints (say (Host.recorded.withThreshold threshold) line >>= next) line := by
  intro scene after ended
  rw [run_bind] at ended
  have kept : line :: scene.printed <:+ after.printed := later.of_run ended
  exact kept.subset List.mem_cons_self

/-! ## Reports -/

private theorem prints_summarize {count : UInt64} (known : tree.messageCount? = some count)
    (word : List Char) (path : String) :
    Prints (summarize (Host.recorded.withThreshold threshold) tree word path)
      ("   Messages: " ++ toString count.toNat) := by
  refine .bind fun _ _ _ => .bind fun _ _ _ => .bind fun scene found counted => ?_
  have same : tree.messageCount? = some found :=
    (countMessages_ensures tree).of_ok counted
  obtain rfl := Option.some.inj (known.symm.trans same)
  have tells (line : String) : Ensures KeepsPrinted
      (say (Host.recorded.withThreshold threshold) line) (fun _ => True) (fun _ => True) :=
    (recorded_keepsPrinted threshold).say line
  refine .say (Ensures.leads (?_ : Ensures KeepsPrinted _ (fun _ => True) fun _ => True))
  refine .bind (tells _) fun _ _ => .bind (tells _) fun _ _ => ?_
  exact .bind (tells _) fun _ _ => .bind (tells _) fun _ _ => tells _

/-- A run that goes on with its tree to the end shows the number of its messages. -/
private theorem prints_produceWord {count : UInt64} (known : tree.messageCount? = some count) :
    Prints (produceWord (Host.recorded.withThreshold threshold) args config tree)
      ("   Messages: " ++ toString count.toNat) := by
  refine .bind fun _ _ _ => .bind fun _ _ _ => .bind fun _ _ _ => .bind fun _ _ _ => ?_
  refine .bind fun _ _ _ => ?_
  dsimp only
  split
  · exact .bind fun _ _ _ => prints_summarize known _ _
  · exact prints_summarize known _ _

/-! ## Ends of runs -/

private theorem summarize_ends (word : List Char) (path : String) (scene : Scene) :
    ((summarize host tree word path).run.run scene).1 =
      if tree.messageTotal < 2 ^ 64 then .ok () else .error .countOverflow := by
  have reports : Ensures AnyScene (summarize host tree word path) _ _ := summarize_ensures word path
  have ends := (reports scene).2
  cases ended : ((summarize host tree word path).run.run scene).1 with
  | ok _ =>
    rw [ended] at ends
    obtain ⟨count, known⟩ := ends
    rw [if_pos]
    rw [← Hierarchy.messageCount?_eq_some_iff.mp known]
    exact count.toNat_lt
  | error stop =>
    rw [ended] at ends
    obtain ⟨rfl, uncounted⟩ := ends
    rw [if_neg (Nat.not_lt_of_le (Hierarchy.messageCount?_eq_none_iff.mp uncounted))]

private theorem produceWord_ends (records : host.RecordsFiles) {word : List Char}
    {stats : WordStats} {final : Store}
    (drawn : checkedWord config.geometry tree = .ok (word, stats))
    (written : scene.store.write config.output.word (String.ofList word) = .ok final) :
    ((produceWord host args config tree).run.run scene).1 =
      if tree.messageTotal < 2 ^ 64 then .ok () else .error .countOverflow := by
  have writes (noted : Scene) (same : noted.store = scene.store) :
      (host.write config.output.word (String.ofList word) noted).1 = .ok () := by
    rw [records.write]
    change (StateT.run (Host.recorded.write _ _) noted).1 = _
    simp only [Host.recorded, StateT.run_bind, StateT.run_get, same, written, pure_bind]
    rfl
  rw [produceWord, say, run_lift_bind, drawn, ofExcept_ok, pure_bind]
  dsimp only
  rw [note, run_lift_bind, run_lift_bind, writes]
  · rw [ofExcept_ok, pure_bind]
    split
    · rw [say, run_lift_bind]
      exact summarize_ends _ _ _
    · exact summarize_ends _ _ _
  · exact (records.log _ _).trans (records.print _ _)

/-- A run with both files written ends well, unless its tree has too many messages. -/
theorem runPipeline_ends (records : host.RecordsFiles) {stored final : Store} {word : List Char}
    {stats : WordStats}
    (obtained : ((obtainTree host power args config).run.run scene).1 = .ok tree)
    (kept : config.output.Keeps tree scene.store stored)
    (drawn : checkedWord config.geometry tree = .ok (word, stats))
    (written : stored.write config.output.word (String.ofList word) = .ok final) :
    ((runPipeline host power args config).run.run scene).1 =
      if tree.messageTotal < 2 ^ 64 then .ok () else .error .countOverflow := by
  obtain ⟨middle, rfl, ran⟩ := runPipeline_of_kept records obtained kept
  rw [ran]
  exact produceWord_ends records drawn written

private theorem exists_drawn_and_written (accepted : (checkedWord {} tree).isOk = true) :
    ∃ word stats final, checkedWord {} tree = .ok (word, stats) ∧
      (Scene.holding tree).store.write "tree.lsys" (String.ofList word) = .ok final := by
  cases checked : checkedWord {} tree with
  | error problem =>
    rw [checked] at accepted
    nomatch accepted
  | ok drawn => exact ⟨drawn.1, drawn.2, _, rfl, rfl⟩

/-- A tree that passes the check has no fewer messages than buckets, and it has a number of messages
when sixty-four bits hold it, as they do if the tree is grown from messages. A run that comes to its
end with the tree has shown that number, and one that breaks off has a tree without it; which of the
two happens is decided by the number alone once the files are written. -/
theorem Hierarchy.validate_messageCount {least greatest : Float}
    (accepted : tree.validate least greatest = .ok ()) :
    tree.bucketCount ≤ tree.messageTotal ∧
    (∀ count, tree.messageCount? = some count ↔ count.toNat = tree.messageTotal) ∧
    (tree.messageCount? = none ↔ 2 ^ 64 ≤ tree.messageTotal) ∧
    (∀ (power : Float → Float → Float) (settings : AggregationSettings)
      (messages : List ScoredMessage), messages.length < 2 ^ 64 →
      aggregate power settings messages = .ok tree →
      tree.messageTotal = messages.length ∧
        tree.messageCount?.map UInt64.toNat = some messages.length) ∧
    ∀ (threshold : LogLevel) (power : Float → Float → Float) (args : Arguments) (config : Config)
      (scene after : Scene) (ending : Except RunProblem Unit),
      let host := Host.recorded.withThreshold threshold
      ((obtainTree host power args config).run.run scene).1 = .ok tree →
      (runPipeline host power args config).run.run scene = (ending, after) →
      (ending = .ok () → tree.messageTotal < 2 ^ 64 ∧
        "   Messages: " ++ toString tree.messageTotal ∈ after.printed) ∧
      (ending = .error .countOverflow → 2 ^ 64 ≤ tree.messageTotal) ∧
      ∀ stored final word stats, config.output.Keeps tree scene.store stored →
        checkedWord config.geometry tree = .ok (word, stats) →
        stored.write config.output.word (String.ofList word) = .ok final →
        ending = if tree.messageTotal < 2 ^ 64 then .ok () else .error .countOverflow := by
  refine ⟨(tree.validate_eq_ok_iff.mp accepted).bucketCount_le,
    fun count => messageCount?_eq_some_iff, messageCount?_eq_none_iff, ?_, ?_⟩
  · intro power settings messages short aggregated
    exact ⟨messageTotal_of_aggregate short aggregated, messageCount?_of_aggregate short aggregated⟩
  · intro threshold power args config scene after ending host obtained ran
    obtain ⟨noted, -, same⟩ := runPipeline_of_obtained host.respects_any obtained
    have goes := same.symm.trans ran
    have ends : Ensures AnyScene (keepTree host config.output tree >>= fun _ =>
        produceWord host args config tree) _ _ := keepTree_produceWord_ensures args config tree
    refine ⟨?_, ?_, ?_⟩
    · rintro rfl
      obtain ⟨count, known⟩ := ends.of_ok (congrArg Prod.fst goes)
      have prints : Prints (keepTree host config.output tree >>= fun _ =>
          produceWord host args config tree) ("   Messages: " ++ toString count.toNat) :=
        .bind fun _ _ _ => prints_produceWord known
      rw [← messageCount?_eq_some_iff.mp known]
      exact ⟨count.toNat_lt, prints noted after goes⟩
    · rintro rfl
      have stops := ends.of_error (congrArg Prod.fst goes)
      exact messageCount?_eq_none_iff.mp (stops.uncounted rfl)
    · intro stored final word stats kept drawn written
      have records := Host.recorded_recordsFiles.withThreshold threshold
      have ended := runPipeline_ends records obtained kept drawn written
      rwa [ran] at ended

/-- Three messages of two weeks, and a run from a tree of one message. -/
theorem Hierarchy.validate_messageCount_twoWeeks :
    (∃ tree : Hierarchy, tree.validate 10.0 40.0 = .ok () ∧ twoWeeks.length < 2 ^ 64 ∧
      aggregate (fun base _ => base) { contrastFactor := 1.0 } twoWeeks = .ok tree ∧
      2 ≤ tree.messageTotal ∧ tree.messageCount?.map UInt64.toNat = some 3) ∧
    ∃ after, (singleRun {}).run.run (Scene.holding single) = (.ok (), after) ∧
      "   Messages: 1" ∈ after.printed := by
  constructor
  · have grown : ∃ tree : Hierarchy, tree.validate 10.0 40.0 = .ok () ∧
        aggregate (fun base _ => base) { contrastFactor := 1.0 } twoWeeks = .ok tree ∧
        tree.bucketCount = 2 := ⟨_, by decide +kernel, rfl, by decide +kernel⟩
    obtain ⟨tree, accepted, aggregated, buckets⟩ := grown
    obtain ⟨least, -, -, grows, -⟩ := validate_messageCount accepted
    exact ⟨tree, accepted, by decide, aggregated, buckets ▸ least,
      (grows _ _ _ (by decide) aggregated).2⟩
  · obtain ⟨-, -, -, -, runs⟩ := validate_messageCount single_valid
    have bounds : Config.aggregation {} = {} := rfl
    have obtained := obtainTree_holding bounds single_storable single_valid
    have kept : (Config.output {}).Keeps single (Scene.holding single).store
        (Scene.holding single).store := rfl
    obtain ⟨word, stats, final, drawn, written⟩ :=
      exists_drawn_and_written (by decide +kernel : (checkedWord {} single).isOk = true)
    rcases ran : (singleRun {}).run.run (Scene.holding single) with ⟨ending, after⟩
    obtain ⟨shown, -, ends⟩ := runs _ _ _ _ _ _ _ obtained ran
    have few : single.messageTotal < 2 ^ 64 := by decide +kernel
    have ended := ends _ _ _ _ kept drawn written
    rw [if_pos few] at ended
    have line : "   Messages: " ++ toString single.messageTotal = "   Messages: 1" := by
      decide +kernel
    exact ⟨after, congrArg (·, after) ended, line ▸ (shown ended).2⟩

/-- Two weeks of May 2024, the first with as many messages as sixty-four bits can count. -/
def crowdedWeeks : Hierarchy where
  trunkHeight := 40.0
  totalMonths := 1
  months := [⟨⟨2024, 5, by decide, by decide, by decide, by decide⟩, [
    ⟨⟨739376, by decide, by decide⟩, ⟨739370, by decide, by decide⟩,
      ⟨739376, by decide, by decide⟩, 18446744073709551615, 0.5, 0.5, none, none⟩,
    ⟨⟨739383, by decide, by decide⟩, ⟨739377, by decide, by decide⟩,
      ⟨739383, by decide, by decide⟩, 1, 0.5, 0.5, none, none⟩]⟩]

/-- A tree that passes the check has `2 ^ 64` messages, and a run from it breaks off. -/
theorem Hierarchy.validate_crowdedWeeks : crowdedWeeks.validate 10.0 40.0 = .ok () ∧
    crowdedWeeks.messageTotal = 2 ^ 64 ∧ crowdedWeeks.messageCount? = none ∧
    ((singleRun {}).run.run (Scene.holding crowdedWeeks)).1 = .error .countOverflow := by
  have accepted : crowdedWeeks.validate 10.0 40.0 = .ok () := by decide +kernel
  have total : crowdedWeeks.messageTotal = 2 ^ 64 := by decide +kernel
  have storable : crowdedWeeks.Storable :=
    (crowdedWeeks.validate_eq_ok_iff.mp accepted).storable_of_underived (by decide) (by decide)
  obtain ⟨word, stats, final, drawn, written⟩ :=
    exists_drawn_and_written (by decide +kernel : (checkedWord {} crowdedWeeks).isOk = true)
  refine ⟨accepted, total, messageCount?_eq_none_iff.mpr total.ge, ?_⟩
  have records := Host.recorded_recordsFiles.withThreshold .info
  have bounds : Config.aggregation {} = {} := rfl
  have kept : (Config.output {}).Keeps crowdedWeeks (Scene.holding crowdedWeeks).store
      (Scene.holding crowdedWeeks).store := rfl
  have ended :=
    runPipeline_ends records (obtainTree_holding bounds storable accepted) kept drawn written
  rwa [total, if_neg (lt_irrefl _)] at ended

end SentimentTree
