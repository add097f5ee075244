import Mathlib.Data.List.Induction
import SentimentTree.Config.Merge

/-! # Command lines one after another

However many command lines are put over a configuration, each setting that a command line can give
has the value of the last one that gives it, a flag stays up once any of them raises it, and all
other settings are those of the configuration.
-/

namespace SentimentTree

attribute [ext] OutputSettings AggregationSettings Geometry ClassifierSettings Config

/-! ## The last value given -/

/-- What holds after some requests: the value that the last of them to give any gives, or the value
from before all of them if none gives any. -/
inductive LastGiven {ι α : Type} (given : ι → Option α) (before : α) : List ι → α → Prop
  | never {requests : List ι} (silent : ∀ request ∈ requests, given request = none) :
      LastGiven given before requests before
  | last {earlier later : List ι} {request : ι} {value : α} (gives : given request = some value)
      (silent : ∀ request ∈ later, given request = none) :
      LastGiven given before (earlier ++ request :: later) value

namespace LastGiven

variable {ι α : Type} {given : ι → Option α} {before value other : α} {requests : List ι}
  {request : ι}

private theorem nil : LastGiven given before [] before := .never (List.forall_mem_nil _)

/-- One more request has its own value, or else leaves the one there is. -/
theorem step (known : LastGiven given before requests value) (request : ι) :
    LastGiven given before (requests ++ [request]) ((given request).getD value) := by
  cases gives : given request with
  | some own => exact .last gives (List.forall_mem_nil _)
  | none =>
    have silence {requests : List ι} (silent : ∀ other ∈ requests, given other = none) :
        ∀ other ∈ requests ++ [request], given other = none :=
      List.forall_mem_append.mpr ⟨silent, List.forall_mem_singleton.mpr gives⟩
    cases known with
    | never silent => exact .never (silence silent)
    | last earlierGives silent =>
      rw [List.append_assoc, List.cons_append]
      exact .last earlierGives (silence silent)

/-- The last request decides if it gives a value, and else those before it do. -/
private theorem of_concat (known : LastGiven given before (requests ++ [request]) value) :
    given request = some value ∨
      given request = none ∧ LastGiven given before requests value := by
  generalize shape : requests ++ [request] = all at known
  cases known with
  | never silent =>
    subst shape
    obtain ⟨silent, own⟩ := List.forall_mem_append.mp silent
    exact .inr ⟨own _ (List.mem_singleton_self _), .never silent⟩
  | @last earlier later _ _ gives silent =>
    rcases List.eq_nil_or_concat later with rfl | ⟨rest, final, rfl⟩
    · obtain ⟨-, rfl⟩ := List.append_singleton_inj.mp shape
      exact .inl gives
    · rw [List.concat_eq_append] at silent shape
      rw [← List.cons_append, ← List.append_assoc] at shape
      obtain ⟨rfl, rfl⟩ := List.append_singleton_inj.mp shape
      obtain ⟨silent, own⟩ := List.forall_mem_append.mp silent
      exact .inr ⟨own _ (List.mem_singleton_self _), .last gives silent⟩

private theorem of_nil (known : LastGiven given before [] value) : value = before := by
  generalize shape : [] = all at known
  cases known with
  | never => rfl
  | last => exact (List.append_ne_nil_of_right_ne_nil _ (List.cons_ne_nil _ _) shape.symm).elim

theorem unique (first : LastGiven given before requests value)
    (second : LastGiven given before requests other) : value = other := by
  induction requests using List.reverseRecOn with
  | nil => exact first.of_nil.trans second.of_nil.symm
  | append_singleton requests request ih =>
    rcases first.of_concat with gives | ⟨silent, first⟩
    · rcases second.of_concat with also | ⟨silent, _⟩
      · exact Option.some.inj (gives.symm.trans also)
      · nomatch gives.symm.trans silent
    · rcases second.of_concat with gives | ⟨_, second⟩
      · nomatch gives.symm.trans silent
      · exact ih first second

end LastGiven

/-! ## All settings together -/

namespace Config

variable {config merged other : Config} {lines : List Arguments}

/-- The settings that no command line can give are the same. -/
structure SameRest (config merged : Config) : Prop where
  edge : merged.aggregation.edge = config.aggregation.edge
  maxTreeHeight : merged.aggregation.maxTreeHeight = config.aggregation.maxTreeHeight
  minTrunkHeight : merged.aggregation.minTrunkHeight = config.aggregation.minTrunkHeight
  maxTrunkHeight : merged.aggregation.maxTrunkHeight = config.aggregation.maxTrunkHeight
  normalizedCount : merged.aggregation.normalizedCount = config.aggregation.normalizedCount
  rawCount : merged.aggregation.rawCount = config.aggregation.rawCount
  segmentHeight : merged.geometry.segmentHeight = config.geometry.segmentHeight
  step : merged.geometry.step = config.geometry.step
  lengthBase : merged.geometry.lengthBase = config.geometry.lengthBase
  lengthScale : merged.geometry.lengthScale = config.geometry.lengthScale
  temperature : merged.classifier.temperature = config.classifier.temperature
  timeoutSeconds : merged.classifier.timeoutSeconds = config.classifier.timeoutSeconds
  retries : merged.classifier.retries = config.classifier.retries

/-- A configuration with the requests of some command lines in force. -/
structure Overridden (config : Config) (lines : List Arguments) (merged : Config) : Prop where
  word : LastGiven (·.output) config.output.word lines merged.output.word
  hierarchy : LastGiven (·.hierarchyOut.map some) config.output.hierarchy lines
    merged.output.hierarchy
  frequency : LastGiven (·.frequency) config.aggregation.frequency lines
    merged.aggregation.frequency
  contrastFactor : LastGiven (·.contrast) config.aggregation.contrastFactor lines
    merged.aggregation.contrastFactor
  firstSide : LastGiven (·.firstSide) config.geometry.firstSide lines merged.geometry.firstSide
  model : LastGiven (·.model) config.classifier.model lines merged.classifier.model
  url : LastGiven (·.url) config.classifier.url lines merged.classifier.url
  batchSize : LastGiven (·.batchSize) config.classifier.batchSize lines merged.classifier.batchSize
  width : LastGiven (·.width) config.classifier.width lines merged.classifier.width
  verbose : merged.output.verbose = (config.output.verbose || lines.any (·.verbose))
  enabled : merged.classifier.enabled = (config.classifier.enabled || lines.any (·.classify))
  rest : config.SameRest merged

private theorem overridden_nil (config : Config) : config.Overridden [] config where
  word := .nil
  hierarchy := .nil
  frequency := .nil
  contrastFactor := .nil
  firstSide := .nil
  model := .nil
  url := .nil
  batchSize := .nil
  width := .nil
  verbose := (Bool.or_false _).symm
  enabled := (Bool.or_false _).symm
  rest := ⟨rfl, rfl, rfl, rfl, rfl, rfl, rfl, rfl, rfl, rfl, rfl, rfl, rfl⟩

private theorem any_concat (flag : Arguments → Bool) (before : Bool) (lines : List Arguments)
    (line : Arguments) :
    ((before || lines.any flag) || flag line) = (before || (lines ++ [line]).any flag) := by
  rw [List.any_append, List.any_cons, List.any_nil, Bool.or_false, Bool.or_assoc]

/-- One more command line has its requests in force over what there is. -/
theorem Overridden.step (overridden : config.Overridden lines merged) (line : Arguments) :
    config.Overridden (lines ++ [line]) (merged.merge line) where
  word := overridden.word.step line
  hierarchy := by
    have known := overridden.hierarchy.step line
    cases file : line.hierarchyOut with
    | none => simpa [merge, file] using known
    | some path => simpa [merge, file] using known
  frequency := overridden.frequency.step line
  contrastFactor := overridden.contrastFactor.step line
  firstSide := overridden.firstSide.step line
  model := overridden.model.step line
  url := overridden.url.step line
  batchSize := overridden.batchSize.step line
  width := overridden.width.step line
  verbose := by
    rw [← any_concat, ← overridden.verbose]
    rfl
  enabled := by
    rw [← any_concat, ← overridden.enabled]
    rfl
  rest := by
    obtain ⟨⟩ := overridden.rest
    constructor <;> assumption

private theorem overridden_foldl_merge (config : Config) (lines : List Arguments) :
    config.Overridden lines (lines.foldl merge config) := by
  induction lines using List.reverseRecOn with
  | nil => exact overridden_nil config
  | append_singleton lines line ih =>
    rw [List.foldl_append]
    exact ih.step line

theorem Overridden.unique (first : config.Overridden lines merged)
    (second : config.Overridden lines other) : merged = other := by
  have rest := first.rest
  have same := second.rest
  ext1
  · exact OutputSettings.ext (first.word.unique second.word)
      (first.hierarchy.unique second.hierarchy) (first.verbose.trans second.verbose.symm)
  · exact AggregationSettings.ext (first.frequency.unique second.frequency)
      (rest.edge.trans same.edge.symm) (first.contrastFactor.unique second.contrastFactor)
      (rest.maxTreeHeight.trans same.maxTreeHeight.symm)
      (rest.minTrunkHeight.trans same.minTrunkHeight.symm)
      (rest.maxTrunkHeight.trans same.maxTrunkHeight.symm)
      (rest.normalizedCount.trans same.normalizedCount.symm)
      (rest.rawCount.trans same.rawCount.symm)
  · exact Geometry.ext (rest.segmentHeight.trans same.segmentHeight.symm)
      (rest.step.trans same.step.symm) (rest.lengthBase.trans same.lengthBase.symm)
      (rest.lengthScale.trans same.lengthScale.symm) (first.firstSide.unique second.firstSide)
  · exact ClassifierSettings.ext (first.enabled.trans second.enabled.symm)
      (first.model.unique second.model) (first.url.unique second.url)
      (rest.temperature.trans same.temperature.symm)
      (rest.timeoutSeconds.trans same.timeoutSeconds.symm)
      (first.batchSize.unique second.batchSize) (first.width.unique second.width)
      (rest.retries.trans same.retries.symm)

/-- A command line merged again changes nothing. -/
theorem merge_merge (config : Config) (line : Arguments) :
    (config.merge line).merge line = config.merge line := by
  have again {α : Type} (given : Option α) (value : α) :
      given.getD (given.getD value) = given.getD value := by cases given <;> rfl
  have file (given value : Option String) :
      (given <|> given <|> value) = (given <|> value) := by cases given <;> rfl
  simp only [merge, again, file, Bool.or_assoc, Bool.or_self]

/-- Command lines merged one after another have the last request for each setting in force, and
nothing else about the configuration changes. So the last of them may as well be given twice. -/
theorem foldl_merge_eq_iff (config : Config) (lines : List Arguments) :
    (∀ merged, lines.foldl merge config = merged ↔ config.Overridden lines merged) ∧
    ∀ line, (lines ++ [line, line]).foldl merge config = (lines ++ [line]).foldl merge config := by
  refine ⟨fun merged => ⟨?_, fun overridden => ?_⟩, fun line => ?_⟩
  · rintro rfl
    exact overridden_foldl_merge config lines
  · exact (overridden_foldl_merge config lines).unique overridden
  · rw [List.foldl_append, List.foldl_append]
    exact merge_merge _ line

end Config

end SentimentTree
