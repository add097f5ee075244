import SentimentTree.Proofs.Aggregation.Validity
import SentimentTree.Proofs.Hierarchy.RoundTrip
import SentimentTree.Proofs.Run.Steps

/-! # How getting hold of a tree can end

A tree that a run goes on with is valid under the configured trunk bounds, whether it was loaded or
grown, and a problem that stops the run before is never one of the geometry or of the word. Either
way no file has been written (`obtainTree_ensures`).
-/

namespace SentimentTree

open Run Numeric

variable {related : Scene → Scene → Prop} [IsPreorder Scene related] {host : Host (StateM Scene)}
  {power : Float → Float → Float} {α β : Type}

/-! ## Classifying -/

private theorem Host.Respects.tryFrom (respects : host.Respects related) (seconds : Nat)
    (settings : ServerSettings) (texts : List String) (attempt : Nat) (last : Option AttemptProblem)
    (more : Nat) :
    Leads related ((host.wire seconds).tryFrom settings texts attempt last more) := by
  induction more generalizing attempt last with
  | zero => exact .pure _
  | succ more ih =>
    have sends : Leads related ((host.wire seconds).send settings (settings.chatRequest texts)) := by
      unfold Wire.send
      split
      · exact respects.post _ _ _
      · exact .pure _
    refine .bind (respects.log _) fun _ => .bind sends fun outcome => ?_
    refine .bind (.forM fun remark => respects.log _) fun _ => ?_
    split
    · exact .pure _
    · exact .bind (respects.log _) fun _ => ih _ _

theorem completions_leads {run : Nat → α → StateM Scene β}
    (each : ∀ number batch, Leads related (run number batch)) (pick : List Nat → Nat) (width : Nat)
    (steps : Nat) (waiting : List (Nat × α)) :
    Leads related (completions run pick width steps waiting) := by
  induction steps generalizing waiting with
  | zero => exact .pure _
  | succ steps ih =>
    unfold completions
    dsimp only
    split
    · exact .pure _
    · exact .bind (each _ _) fun outcome => .bind (ih _) fun later => .pure _

theorem scoreWith_leads {report : ScoringEvent → StateM Scene Unit}
    {classify : Nat → List String → StateM Scene BatchOutcome}
    (reports : ∀ event, Leads related (report event))
    (classifies : ∀ number texts, Leads related (classify number texts)) (pick : List Nat → Nat)
    (rows : List MessageRow) (batchSize width : Nat) :
    Leads related (scoreWith report classify pick rows batchSize width) := by
  unfold scoreWith
  split
  · exact .pure _
  · refine .bind (reports _) fun _ => ?_
    refine .bind (completions_leads classifies pick width _ _) fun completed => ?_
    split
    · exact .pure _
    · refine .bind (reports _) fun _ => ?_
      split <;> exact .pure _

/-! ## Problems -/

/-- The problem is one of drawing the word: of its geometry or of the word itself. -/
def PipelineError.ofDrawing : PipelineError → Bool
  | geometry _ | word _ => true
  | row _ | noBatches | classifier _ _ | aggregation _ | hierarchy _ => false

/-- The problem is one of drawing the word, or of the report on it. -/
def RunProblem.ofDrawing : RunProblem → Bool
  | pipeline error => error.ofDrawing
  | countOverflow => true
  | _ => false

/-- The problem is one that comes up before the word is drawn. -/
abbrev BeforeDrawing (problem : RunProblem) : Prop := problem.ofDrawing = false

theorem tableProblem_beforeDrawing {path : String} {unreadable : RunProblem}
    (before : BeforeDrawing unreadable) (fault : FileFault) :
    BeforeDrawing (tableProblem path unreadable fault) := by
  cases fault <;> first | exact before | rfl

theorem readTree_beforeDrawing {settings : AggregationSettings} {path : String} {text : List Char}
    {problem : RunProblem} (rejected : readTree settings path text = .error problem) :
    BeforeDrawing problem := by
  unfold readTree at rejected
  split at rejected
  · cases rejected
    rfl
  · split at rejected
    · nomatch rejected
    · cases rejected
      rfl

/-! ## Obtaining a tree -/

theorem loadRows_ensures (respects : host.Respects related) (path : String) :
    Ensures related (loadRows host path) (fun _ => True) BeforeDrawing := by
  unfold loadRows
  split
  · exact .throw rfl
  · rename_i format _
    refine .bind (respects.note _ _) fun _ _ => ?_
    refine .bind (.lift (respects.read path)) fun content _ => ?_
    have logs (rows : List MessageRow) : Ensures related (do
        note host .debug ("Loaded " ++ toString rows.length ++ " rows")
        pure rows) (fun _ => True) BeforeDrawing :=
      .bind (respects.note _ _) fun _ _ => .pure trivial
    cases format with
    | csv =>
      refine .bind (.ofExcept (fun _ _ => trivial) fun fault _ => ?_) fun bytes _ => ?_
      · exact tableProblem_beforeDrawing rfl fault
      · exact .bind (.ofExcept (fun _ _ => trivial) fun _ _ => rfl) fun rows _ => logs rows
    | json =>
      refine .bind (.ofExcept (fun _ _ => trivial) fun fault _ => ?_) fun bytes _ => ?_
      · exact tableProblem_beforeDrawing rfl fault
      · dsimp only
        split
        · exact .bind (.pure trivial) fun rows (_ : True) => logs rows
        · exact .bind (.throw rfl) fun rows (_ : True) => logs rows

theorem classifyRows_ensures (respects : host.Respects related) (settings : ClassifierSettings)
    (rows : List MessageRow) :
    Ensures related (classifyRows host settings rows) (fun _ => True) BeforeDrawing := by
  have classifies (_ : Nat) (texts : List String) :
      Leads related ((host.wire settings.timeoutSeconds).classify settings.server texts) := by
    unfold Wire.classify
    split
    · exact .pure _
    · exact respects.tryFrom _ _ _ _ _ _
  refine .bind (respects.note _ _) fun _ _ => .bind (.lift ?_) fun result _ => ?_
  · exact scoreWith_leads (fun event => respects.log _) classifies _ _ _ _
  · refine .ofExcept (fun _ _ => trivial) fun error _ => ?_
    cases error <;> rfl

/-- A grown tree is valid under the bounds it was grown with. -/
theorem growTree_ensures (respects : host.Respects related) (settings : AggregationSettings)
    (messages : List ScoredMessage) :
    Ensures related (growTree host power settings messages)
      (fun tree => KeepsUnit power → tree.Valid settings.minTrunkHeight settings.maxTrunkHeight)
      BeforeDrawing := by
  have grows : Ensures related
      (Run.ofExcept (.pipeline ∘ .aggregation) (aggregate power settings messages))
      (fun tree => KeepsUnit power → tree.Valid settings.minTrunkHeight settings.maxTrunkHeight)
      BeforeDrawing :=
    .ofExcept (fun tree aggregated keeps => valid_of_aggregate keeps aggregated) fun _ _ => rfl
  exact grows.bind fun tree valid =>
    .bind (respects.note _ _) fun _ _ => .bind (respects.note _ _) fun _ _ => .pure valid

theorem buildTree_ensures (respects : host.Respects related) (path : String) (config : Config) :
    Ensures related (buildTree host power path config)
      (fun tree => KeepsUnit power →
        tree.Valid config.aggregation.minTrunkHeight config.aggregation.maxTrunkHeight)
      BeforeDrawing := by
  refine .bind (respects.say _) fun _ _ => .bind (loadRows_ensures respects path) fun rows _ => ?_
  refine .bind (respects.note _ _) fun _ _ => ?_
  have grows (messages : List ScoredMessage) : Ensures related (do
      say host ("🧮 Aggregating " ++ toString messages.length ++ " messages (" ++
        String.ofList config.aggregation.frequency.code ++ " buckets, contrast " ++
        String.ofList (Decimal.plainText config.aggregation.contrastFactor) ++ ")...")
      growTree host power config.aggregation messages) _ BeforeDrawing :=
    .bind (respects.say _) fun _ _ => growTree_ensures respects config.aggregation messages
  dsimp only
  split
  · refine .bind (respects.say _) fun _ _ => .bind (respects.say _) fun _ _ => ?_
    refine .bind (respects.say _) fun _ _ => .bind (respects.say _) fun _ _ => ?_
    exact .bind (classifyRows_ensures respects _ rows) fun messages _ => grows messages
  · exact .bind (.ofExcept (fun _ _ => trivial) fun _ _ => rfl) fun messages _ => grows messages

/-- A loaded tree is valid under the configured bounds. -/
theorem loadTree_ensures (respects : host.Respects related) (settings : AggregationSettings)
    (path : String) :
    Ensures related (loadTree host settings path)
      (fun tree => tree.Valid settings.minTrunkHeight settings.maxTrunkHeight) BeforeDrawing := by
  refine .bind (.lift (respects.readText path)) fun content _ => ?_
  refine .bind (.ofExcept (fun _ _ => trivial) fun _ _ => rfl) fun text (_ : True) => ?_
  refine .ofExcept (fun tree read => ?_) fun problem rejected => ?_
  · exact tree.validate_eq_ok_iff.mp (readTree_eq_ok_iff.mp read).2
  · exact readTree_beforeDrawing rejected

/-- A tree is valid under the configured bounds, however it was obtained, and a problem in obtaining
it is not one of drawing the word. The power function matters to a tree that is grown only. -/
theorem obtainTree_ensures (respects : host.Respects related) (args : Arguments) (config : Config) :
    Ensures related (obtainTree host power args config)
      (fun tree => (args.fromHierarchy = none → KeepsUnit power) →
        tree.Valid config.aggregation.minTrunkHeight config.aggregation.maxTrunkHeight)
      BeforeDrawing := by
  unfold obtainTree
  cases args.fromHierarchy with
  | some path =>
    refine .bind (respects.say _) fun _ _ => ?_
    apply (loadTree_ensures respects config.aggregation path).imp _ fun _ => id
    intro tree valid _
    exact valid
  | none =>
    cases args.input with
    | some path =>
      apply (buildTree_ensures respects path config).imp _ fun _ => id
      intro tree grown keeps
      exact grown (keeps rfl)
    | none => exact .throw rfl

end SentimentTree
