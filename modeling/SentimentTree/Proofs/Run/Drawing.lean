import SentimentTree.Proofs.Aggregation.RoundTrip
import SentimentTree.Proofs.Run.Outcomes
import SentimentTree.Proofs.Word.Lengths

/-! # How drawing the word can stop a run

Once a run has its tree, a problem of the pipeline stops it only if the geometry or the word of the
tree is rejected. The tree is valid by then, so the word is rejected only if the length of a twig
has left the finite range.
-/

namespace SentimentTree

open Run Numeric

variable {host : Host (StateM Scene)} {power : Float → Float → Float} {args : Arguments}
  {config : Config} {geometry : Geometry} {tree : Hierarchy} {scene after : Scene}
  {error : PipelineError} {stop : RunProblem}

/-! ## Rejected words -/

theorem ofDrawing_of_checkedWord (rejected : checkedWord geometry tree = .error error) :
    error.ofDrawing = true := by
  unfold checkedWord at rejected
  split at rejected
  · cases rejected
    rfl
  · split at rejected <;> cases rejected
    rfl

/-- A word is found malformed only after the geometry has been accepted. -/
theorem checkedWord_eq_word_iff {problem : WordProblem} :
    checkedWord geometry tree = .error (.word problem) ↔
      geometry.validate = .ok () ∧ checkWord (tree.word geometry) = .error problem := by
  unfold checkedWord
  cases geometry.validate with
  | error fault => exact ⟨nofun, fun accepted => nomatch accepted.1⟩
  | ok _ =>
    dsimp only
    cases checkWord (tree.word geometry) with
    | error found =>
      constructor
      · rintro ⟨⟩
        exact ⟨rfl, rfl⟩
      · rintro ⟨-, ⟨⟩⟩
        rfl
    | ok stats => exact ⟨nofun, fun malformed => nomatch malformed.2⟩

def RunProblem.ofWriting : RunProblem → Bool
  | cannotWriteHierarchy _ _ | cannotWriteWord _ _ => true
  | _ => false

/-- Why a run that has its tree can stop: a problem of the pipeline is that for which the word of
the tree is rejected, and the report breaks off only for want of a number of messages. -/
structure StopsFor (geometry : Geometry) (tree : Hierarchy) (stop : RunProblem) : Prop where
  rejected : ∀ error, stop = .pipeline error → checkedWord geometry tree = .error error
  uncounted : stop = .countOverflow → tree.messageCount? = none

private theorem StopsFor.of_writing (writing : stop.ofWriting = true) :
    StopsFor geometry tree stop where
  rejected := by
    rintro error rfl
    nomatch writing
  uncounted := by
    rintro rfl
    nomatch writing

/-! ## Steps after the tree -/

theorem keepTree_ensures (output : OutputSettings) (tree : Hierarchy) :
    Ensures AnyScene (keepTree host output tree) (fun _ => True) (·.ofWriting = true) := by
  obtain ⟨word, hierarchy, verbose⟩ := output
  cases hierarchy with
  | none => exact .pure trivial
  | some path =>
    have stores : Ensures AnyScene (storeTree host tree path) (fun _ => True)
        (·.ofWriting = true) := by
      apply Ensures.bind (.lift (.any _))
      intro written _
      apply Ensures.ofExcept (fun _ _ => trivial)
      intro fault _
      rfl
    exact stores.bind fun _ _ => host.respects_any.say _

theorem countMessages_ensures (tree : Hierarchy) :
    Ensures AnyScene (countMessages tree) (tree.messageCount? = some ·)
      (fun stop => stop = .countOverflow ∧ tree.messageCount? = none) := by
  unfold countMessages
  split
  · rename_i count known
    exact .pure known
  · rename_i uncounted
    exact .throw ⟨rfl, uncounted⟩

/-- A report comes to its end if there is a number of messages to show, and else breaks off. -/
theorem summarize_ensures (word : List Char) (path : String) :
    Ensures AnyScene (summarize host tree word path)
      (fun _ => ∃ count, tree.messageCount? = some count)
      (fun stop => stop = .countOverflow ∧ tree.messageCount? = none) := by
  have tells (line : String) : Ensures AnyScene (say host line) (fun _ => True)
      (fun stop => stop = .countOverflow ∧ tree.messageCount? = none) :=
    host.respects_any.say line
  refine .bind (.lift (.any _)) fun seconds _ => .bind (tells _) fun _ _ => ?_
  refine .bind (countMessages_ensures tree) fun count known => .bind (tells _) fun _ _ => ?_
  refine .bind (tells _) fun _ _ => .bind (tells _) fun _ _ => .bind (tells _) fun _ _ => ?_
  refine .bind (tells _) fun _ _ => (tells _).imp ?_ fun _ => id
  intro _ _
  exact ⟨count, known⟩

theorem produceWord_ensures (args : Arguments) (config : Config) (tree : Hierarchy) :
    Ensures AnyScene (produceWord host args config tree)
      (fun _ => ∃ count, tree.messageCount? = some count) (StopsFor config.geometry tree) := by
  have checks : Ensures AnyScene (Run.ofExcept .pipeline (checkedWord config.geometry tree))
      (fun _ => True) (StopsFor config.geometry tree) := by
    apply Ensures.ofExcept
    · intro _ _
      trivial
    · intro error rejected
      refine ⟨?_, nofun⟩
      rintro _ ⟨⟩
      exact rejected
  refine .bind (host.respects_any.say _) fun _ _ => checks.bind fun passed _ => ?_
  refine .bind (host.respects_any.note _ _) fun _ _ => .bind (.lift (.any _)) fun written _ => ?_
  have writes : Ensures AnyScene (Run.ofExcept (.cannotWriteWord config.output.word) written)
      (fun _ => True) (StopsFor config.geometry tree) :=
    .ofExcept (fun _ _ => trivial) fun _ _ => .of_writing rfl
  have reports (word : List Char) (path : String) : Ensures AnyScene
      (summarize host tree word path) (fun _ => ∃ count, tree.messageCount? = some count)
      (StopsFor config.geometry tree) := by
    apply (summarize_ensures word path).imp (fun _ => id)
    rintro _ ⟨rfl, uncounted⟩
    exact ⟨fun _ => nofun, fun _ => uncounted⟩
  refine writes.bind fun _ _ => ?_
  split
  · exact .bind (host.respects_any.say _) fun _ _ => reports _ _
  · exact reports _ _

/-- Once a run has its tree, only writing a file, the tree's word or the tree's size can stop it. -/
theorem keepTree_produceWord_ensures (args : Arguments) (config : Config) (tree : Hierarchy) :
    Ensures AnyScene
      (keepTree host config.output tree >>= fun _ => produceWord host args config tree)
      (fun _ => ∃ count, tree.messageCount? = some count) (StopsFor config.geometry tree) :=
  ((keepTree_ensures config.output tree).imp (fun _ => id) fun _ => .of_writing).bind
    fun _ _ => produceWord_ensures args config tree

/-! ## Storing the tree -/

/-- The files after are those before with the tree stored, if the settings ask for it. -/
def OutputSettings.Keeps (output : OutputSettings) (tree : Hierarchy) (before after : Store) :
    Prop :=
  match output.hierarchy with
  | some path => before.write path (String.ofList tree.documentText) = .ok after
  | none => after = before

private theorem storeTree_congr (records : host.RecordsFiles) (tree : Hierarchy) (path : String) :
    storeTree host tree path = storeTree Host.recorded tree path := by
  simp only [storeTree, records.write]

theorem keepTree_ok_iff (records : host.RecordsFiles) (output : OutputSettings) (tree : Hierarchy)
    (scene : Scene) (store : Store) :
    (∃ after, (keepTree host output tree).run.run scene = (.ok (), after) ∧ after.store = store) ↔
      output.Keeps tree scene.store store := by
  obtain ⟨word, hierarchy, verbose⟩ := output
  cases hierarchy with
  | none =>
    change (∃ after, (Except.ok (), scene) = (Except.ok (), after) ∧ after.store = store) ↔
      store = scene.store
    constructor
    · rintro ⟨_, ⟨⟩, rfl⟩
      rfl
    · rintro rfl
      exact ⟨scene, rfl, rfl⟩
  | some path =>
    change (∃ after, (storeTree host tree path >>= fun _ =>
      say host ("💾 Hierarchy saved to: " ++ path)).run.run scene = (.ok (), after) ∧
        after.store = store) ↔ scene.store.write path (String.ofList tree.documentText) = .ok store
    rw [run_bind, storeTree_congr records, storeTree_recorded]
    cases scene.store.write path (String.ofList tree.documentText) with
    | error fault => exact ⟨fun ⟨_, failed, _⟩ => (nomatch failed), nofun⟩
    | ok written =>
      have said := records.print ("💾 Hierarchy saved to: " ++ path) { scene with store := written }
      constructor
      · rintro ⟨after, ⟨⟩, rfl⟩
        exact congrArg Except.ok said.symm
      · rintro ⟨⟩
        exact ⟨_, rfl, said⟩

/-! ## Whole runs -/

/-- A run goes on with its tree from a scene that is related to the first. -/
theorem runPipeline_of_obtained {related : Scene → Scene → Prop} [IsPreorder Scene related]
    (respects : host.Respects related)
    (obtained : ((obtainTree host power args config).run.run scene).1 = .ok tree) :
    ∃ noted, related scene noted ∧ (runPipeline host power args config).run.run scene =
      (keepTree host config.output tree >>= fun _ =>
        produceWord host args config tree).run.run noted := by
  obtain ⟨result, middle, ran⟩ : ∃ result middle,
      (obtainTree host power args config).run.run scene = (result, middle) := ⟨_, _, rfl⟩
  have led : related scene middle :=
    (obtainTree_ensures respects args config).leads.of_run ran
  rw [ran] at obtained
  obtain rfl : result = .ok tree := obtained
  rw [runPipeline, run_bind, ran]
  dsimp only
  split
  · rw [run_bind]
    exact ⟨_, IsTrans.trans _ _ _ led (respects.log _ middle), rfl⟩
  · exact ⟨middle, led, rfl⟩

/-- A run that stops does so in obtaining its tree, or in what it does with the tree from a related
scene on. -/
theorem runPipeline_failed_cases {related : Scene → Scene → Prop} [IsPreorder Scene related]
    (respects : host.Respects related)
    (failed : (runPipeline host power args config).run.run scene = (.error stop, after)) :
    (obtainTree host power args config).run.run scene = (.error stop, after) ∨
    ∃ tree noted, ((obtainTree host power args config).run.run scene).1 = .ok tree ∧
      related scene noted ∧
      (keepTree host config.output tree >>= fun _ =>
        produceWord host args config tree).run.run noted = (.error stop, after) := by
  rcases failed_bind failed with early | ⟨tree, _, obtained, -⟩
  · exact .inl early
  · have obtained := congrArg Prod.fst obtained
    obtain ⟨noted, led, same⟩ := runPipeline_of_obtained respects obtained
    exact .inr ⟨tree, noted, obtained, led, same.symm.trans failed⟩

/-- A run that drawing stops had a tree, and the problem is that of the tree's word. -/
theorem runPipeline_failed_drawing
    (failed : (runPipeline host power args config).run.run scene =
      (.error (.pipeline error), after)) (drawing : error.ofDrawing = true) :
    ∃ tree, ((obtainTree host power args config).run.run scene).1 = .ok tree ∧
      checkedWord config.geometry tree = .error error := by
  rcases runPipeline_failed_cases host.respects_any failed with
    early | ⟨tree, _, obtained, -, failed⟩
  · have before : error.ofDrawing = false :=
      (obtainTree_ensures host.respects_any args config).of_error (congrArg Prod.fst early)
    nomatch before.symm.trans drawing
  · have stops : StopsFor config.geometry tree (.pipeline error) :=
      (keepTree_produceWord_ensures args config tree).of_error (congrArg Prod.fst failed)
    exact ⟨tree, obtained, stops.rejected error rfl⟩

/-- A rejected word stops a run before anything is written. -/
theorem produceWord_of_rejected (rejected : checkedWord config.geometry tree = .error error) :
    produceWord host args config tree =
      (do say host "\n🌱 Producing grammar word..."; throw (.pipeline error)) := by
  simp only [produceWord, rejected]
  rfl

/-- A run whose tree can be stored, where that is asked for, goes on with the word from there. -/
theorem runPipeline_of_kept (records : host.RecordsFiles) {store : Store}
    (obtained : ((obtainTree host power args config).run.run scene).1 = .ok tree)
    (kept : config.output.Keeps tree scene.store store) :
    ∃ stored, stored.store = store ∧ (runPipeline host power args config).run.run scene =
      (produceWord host args config tree).run.run stored := by
  obtain ⟨noted, same, ran⟩ := runPipeline_of_obtained records.toRespects obtained
  have same : noted.store = scene.store := same
  rw [← same, ← keepTree_ok_iff records] at kept
  obtain ⟨stored, keeps, rfl⟩ := kept
  rw [ran, run_bind, keeps]
  exact ⟨stored, rfl, rfl⟩

/-- A run whose tree can be stored, where that is asked for, and has a rejected word stops for that
reason and leaves the tree behind. -/
theorem runPipeline_of_rejected (records : host.RecordsFiles) {store : Store}
    (obtained : ((obtainTree host power args config).run.run scene).1 = .ok tree)
    (kept : config.output.Keeps tree scene.store store)
    (rejected : checkedWord config.geometry tree = .error error) :
    ∃ after, (runPipeline host power args config).run.run scene = (.error (.pipeline error), after) ∧
      after.store = store := by
  obtain ⟨stored, rfl, ran⟩ := runPipeline_of_kept records obtained kept
  rw [ran, produceWord_of_rejected rejected]
  exact ⟨_, rfl, records.print _ stored⟩

/-! ## Runs from a stored tree -/

/-- A run that is given the file of a tree goes on with that tree. -/
theorem obtainTree_stored (threshold : LogLevel) {path : String} (storable : tree.Storable)
    (valid : tree.validate config.aggregation.minTrunkHeight config.aggregation.maxTrunkHeight =
      .ok ())
    (named : args.fromHierarchy = some path)
    (held : scene.store.text path = .ok (String.ofList tree.documentText)) :
    ((obtainTree (Host.recorded.withThreshold threshold) power args config).run.run scene).1 =
      .ok tree := by
  have read := readTree_documentText storable valid path
  simp only [obtainTree, named, run_bind]
  change ((loadTree Host.recorded config.aggregation path).run.run
    { scene with printed := ("📂 Loading hierarchy: " ++ path) :: scene.printed }).1 = _
  simp only [loadTree_recorded, held, String.toList_ofList, read]

/-- A tree of one message. -/
def Hierarchy.single : Hierarchy where
  trunkHeight := 40.0
  totalMonths := 1
  months := [⟨.ofDate ⟨739293, by decide, by decide⟩, [{
    label := ⟨739293, by decide, by decide⟩
    start := ⟨739287, by decide, by decide⟩
    stop := ⟨739293, by decide, by decide⟩
    count := 1
    rawMean := 0.5
    contrastedMean := 0.5
    normalizedCount := none
    rawCount := none }]⟩]

def Scene.holding (tree : Hierarchy) : Scene where
  store := ⟨[(["tree.json"], .file (String.ofList tree.documentText).toUTF8)]⟩

def Scene.single : Scene := .holding .single

theorem Hierarchy.single_valid : Hierarchy.single.validate 10.0 40.0 = .ok () := rfl

/-- Without numbers derived from counts nothing but a negative year keeps a valid tree from being
stored. -/
theorem Hierarchy.Valid.storable_of_underived {least greatest : Float}
    (valid : tree.Valid least greatest) (years : ∀ group ∈ tree.months, 0 ≤ group.month.year)
    (underived : ∀ group ∈ tree.months, ∀ bucket ∈ group.buckets, bucket.normalizedCount = none) :
    tree.Storable := by
  apply valid.storable years
  intro group member bucket inside x normalized
  rw [underived group member bucket inside] at normalized
  nomatch normalized

theorem Hierarchy.single_storable : Hierarchy.single.Storable :=
  (single.validate_eq_ok_iff.mp single_valid).storable_of_underived (by decide) (by decide)

/-- The run from the tree in that file under a configuration. -/
def singleRun (config : Config) : Run (StateM Scene) Unit :=
  runPipeline (Host.recorded.withThreshold .info) (fun base _ => base)
    { fromHierarchy := some "tree.json" } config

theorem obtainTree_holding (bounds : config.aggregation = {}) (storable : tree.Storable)
    (accepted : tree.validate 10.0 40.0 = .ok ()) :
    ((obtainTree (Host.recorded.withThreshold .info) (fun base _ => base)
      { fromHierarchy := some "tree.json" } config).run.run (Scene.holding tree)).1 = .ok tree := by
  have valid : tree.validate config.aggregation.minTrunkHeight
      config.aggregation.maxTrunkHeight = .ok () := by
    rw [bounds]
    exact accepted
  have held : (Scene.holding tree).store.text "tree.json" =
      .ok (String.ofList tree.documentText) := Store.text_of_read rfl
  exact obtainTree_stored .info storable valid rfl held

theorem singleRun_of_rejected {store : Store} (bounds : config.aggregation = {})
    (kept : config.output.Keeps .single Scene.single.store store)
    (rejected : checkedWord config.geometry .single = .error error) : ∃ after,
    (singleRun config).run.run Scene.single = (.error (.pipeline error), after) ∧
      after.store = store :=
  runPipeline_of_rejected (Host.recorded_recordsFiles.withThreshold .info)
    (obtainTree_holding bounds Hierarchy.single_storable Hierarchy.single_valid) kept rejected

/-- The word of a valid tree under an accepted geometry is malformed only if a twig is so long that
its length has left the finite range, which never happens when base and scale of the length are at
most `2 ^ 1022` and `2 ^ 958`; and a run that finds its word malformed has accepted both. -/
theorem malformed_word_overflows (config : Config) :
    (∀ (least greatest : Float) (tree : Hierarchy), tree.validate least greatest = .ok () →
      config.geometry.validate = .ok () →
      ((∃ stats, checkWord (tree.word config.geometry) = .ok stats) ↔
        ∀ bucket ∈ tree.buckets, (config.geometry.twigLength bucket.count).isFinite = true) ∧
      (Within 1022 config.geometry.lengthBase → Within 958 config.geometry.lengthScale →
        ∃ stats, checkWord (tree.word config.geometry) = .ok stats)) ∧
    ∀ (host : Host (StateM Scene)) (power : Float → Float → Float) (args : Arguments)
      (scene after : Scene) (problem : WordProblem), (args.fromHierarchy = none → KeepsUnit power) →
      (runPipeline host power args config).run.run scene =
        (.error (.pipeline (.word problem)), after) →
      ∃ tree, ((obtainTree host power args config).run.run scene).1 = .ok tree ∧
        tree.validate config.aggregation.minTrunkHeight config.aggregation.maxTrunkHeight = .ok () ∧
        config.geometry.validate = .ok () ∧
        ∃ bucket ∈ tree.buckets, (config.geometry.twigLength bucket.count).isFinite = false := by
  constructor
  · intro least greatest tree valid accepted
    have passes := (tree.validate_eq_ok_iff.mp valid).checkWord_isOk_iff accepted
    refine ⟨passes, fun base scale => passes.mpr fun bucket _ => ?_⟩
    exact Geometry.twigLength_isFinite base scale bucket.count
  · intro host power args scene after problem keeps failed
    obtain ⟨tree, obtained, rejected⟩ := runPipeline_failed_drawing failed rfl
    obtain ⟨accepted, malformed⟩ := checkedWord_eq_word_iff.mp rejected
    have valid := (obtainTree_ensures host.respects_any args config).of_ok obtained keeps
    refine ⟨tree, obtained, tree.validate_eq_ok_iff.mpr valid, accepted, ?_⟩
    by_contra finite
    push Not at finite
    obtain ⟨stats, passed⟩ := (valid.checkWord_isOk_iff accepted).mpr fun bucket member =>
      Bool.not_eq_false _ ▸ finite bucket member
    nomatch malformed.symm.trans passed

/-- A geometry with lengths near the end of the finite range. -/
def Geometry.vast : Geometry where
  lengthBase := 1e308
  lengthScale := 1e308

theorem singleRun_vast : ∃ after, (singleRun { geometry := .vast }).run.run Scene.single =
    (.error (.pipeline (.word (.unexpectedSymbol 'i' 15))), after) := by
  have rejected : checkedWord .vast .single = .error (.word (.unexpectedSymbol 'i' 15)) := by
    decide +kernel
  have stops : ∃ after, (singleRun { geometry := .vast }).run.run Scene.single =
      (.error (.pipeline (.word (.unexpectedSymbol 'i' 15))), after) ∧
        after.store = Scene.single.store := singleRun_of_rejected rfl rfl rejected
  obtain ⟨after, stopped, -⟩ := stops
  exact ⟨after, stopped⟩

theorem malformed_word_overflows_single :
    Hierarchy.single.validate 10.0 40.0 = .ok () ∧ Geometry.validate {} = .ok () ∧
    (∃ stats, checkWord (Hierarchy.single.word {}) = .ok stats) ∧
    ∃ (after : Scene) (tree : Hierarchy), (singleRun { geometry := .vast }).run.run Scene.single =
        (.error (.pipeline (.word (.unexpectedSymbol 'i' 15))), after) ∧
      tree.validate 10.0 40.0 = .ok () ∧ Geometry.vast.validate = .ok () ∧
      ∃ bucket ∈ tree.buckets, (Geometry.vast.twigLength bucket.count).isFinite = false := by
  have accepted : Geometry.validate {} = .ok () := by decide +kernel
  have base : Within 1022 10.0 := by
    have stored : HasValue 10.0 ((10 * 2 ^ 49 : ℕ) * 2 ^ (-49 : ℤ)) := rfl
    exact Within.mono ⟨_, stored, by norm_num⟩ (show 4 ≤ 1022 by norm_num)
  have scale : Within 958 0.5 := Within.mono (.of_inUnit rfl) (Nat.zero_le _)
  obtain ⟨words, -⟩ := malformed_word_overflows {}
  obtain ⟨-, bounded⟩ := words 10.0 40.0 Hierarchy.single Hierarchy.single_valid accepted
  refine ⟨Hierarchy.single_valid, accepted, bounded base scale, ?_⟩
  obtain ⟨after, stopped⟩ := singleRun_vast
  obtain ⟨-, runs⟩ := malformed_word_overflows { geometry := Geometry.vast }
  obtain ⟨tree, -, valid, sound, overflows⟩ := runs (Host.recorded.withThreshold .info)
    (fun base _ => base) { fromHierarchy := some "tree.json" } Scene.single after
    (.unexpectedSymbol 'i' 15) nofun stopped
  exact ⟨after, tree, stopped, valid, sound, overflows⟩

theorem malformed_word_vast :
    Hierarchy.single.validate 10.0 40.0 = .ok () ∧ Geometry.vast.validate = .ok () ∧
    checkWord (Hierarchy.single.word Geometry.vast) = .error (.unexpectedSymbol 'i' 15) ∧
    ∃ after, (singleRun { geometry := .vast }).run.run Scene.single =
      (.error (.pipeline (.word (.unexpectedSymbol 'i' 15))), after) :=
  ⟨Hierarchy.single_valid, by decide +kernel, by decide +kernel, singleRun_vast⟩

end SentimentTree
