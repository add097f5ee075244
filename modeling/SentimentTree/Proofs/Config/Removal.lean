import SentimentTree.Config.Document
import SentimentTree.Proofs.Lookup

/-! # Documents with less in them

Whatever is taken out of the document of a configuration, keys of its sections or sections as a
whole, the rest is still the document of a configuration: the one from before, with the settings that
were taken out at their defaults. So the defaults that stand with the readers of the settings are
those of whole sections, and an empty section says as little as none.
-/

namespace SentimentTree

/-! ## Taking out -/

namespace Toml

/-- A setting is read from what is left, or has its default if it was taken out. -/
theorem withDefault_filter {α : Type} {fallback x : α} {read : Toml → Option α}
    {entries : List (String × Toml)} {key : String} (removed : String → Bool)
    (reads : withDefault fallback read (entries.lookup key) = some x) :
    withDefault fallback read ((entries.filter fun entry => !removed entry.1).lookup key) =
      some (if removed key then fallback else x) := by
  rw [lookup_filter fun name => !removed name]
  cases removed key with
  | true => rfl
  | false => exact reads

/-- The value without the entries of some keys. Only a table has keys. -/
def withoutKeys (removed : String → Bool) : Toml → Toml
  | .table entries => .table (entries.filter fun entry => !removed entry.1)
  | value => value

def isTable : Toml → Bool
  | .table _ => true
  | _ => false

end Toml

/-- What is taken out of a document: whole sections, and keys of sections. -/
structure Removal where
  sections : String → Bool
  keys : String → String → Bool

namespace Removal

/-- The entries that are left of a document. -/
def apply (removal : Removal) (entries : List (String × Toml)) : List (String × Toml) :=
  (entries.filter fun entry => !removal.sections entry.1).map fun entry =>
    (entry.1, entry.2.withoutKeys (removal.keys entry.1))

/-- Whether a setting is taken out: with its section, or by its key in a section that is a table. -/
def drops (removal : Removal) (entries : List (String × Toml)) (name key : String) : Bool :=
  removal.sections name || ((entries.lookup name).any Toml.isTable && removal.keys name key)

private theorem lookup_apply (removal : Removal) (entries : List (String × Toml)) (name : String) :
    (removal.apply entries).lookup name =
      if removal.sections name then none
      else (entries.lookup name).map (Toml.withoutKeys (removal.keys name)) := by
  rw [apply, lookup_map fun title => Toml.withoutKeys (removal.keys title),
    lookup_filter fun title => !removal.sections title]
  cases removal.sections name <;> rfl

end Removal

/-! ## Sections with less in them -/

/-- A way to read a section that does without any of its keys, with the settings of the missing ones
at their defaults. -/
structure ReadsRest {α : Type} (default : α) (read : Toml → Option α)
    (restored : α → (String → Bool) → α) : Prop where
  table : ∀ {entries : List (String × Toml)} {settings : α} (removed : String → Bool),
    read (.table entries) = some settings →
    read (.table (entries.filter fun entry => !removed entry.1)) = some (restored settings removed)
  keeps : ∀ settings, restored settings (fun _ => false) = settings
  loses : ∀ settings, restored settings (fun _ => true) = default
  empty : read (.table []) = some default

namespace ReadsRest

variable {α : Type} {default settings : α} {read : Toml → Option α}
  {restored : α → (String → Bool) → α} {entries : List (String × Toml)} {name : String}

/-- A section is read from what is left of a document. -/
private theorem lookup_apply (readsRest : ReadsRest default read restored) (removal : Removal)
    (reads : Toml.withDefault default read (entries.lookup name) = some settings) :
    Toml.withDefault default read ((removal.apply entries).lookup name) =
      some (restored settings (removal.drops entries name)) := by
  rw [removal.lookup_apply, funext fun key => Removal.drops.eq_1 removal entries name key]
  cases removal.sections name with
  | true =>
    simp only [Bool.true_or, readsRest.loses]
    rfl
  | false =>
    simp only [Bool.false_or, Bool.false_eq_true, if_false]
    cases found : entries.lookup name with
    | none =>
      rw [found] at reads
      simp only [Option.any_none, Bool.false_and, readsRest.keeps]
      exact reads
    | some value =>
      rw [found] at reads
      cases value with
      | table content => exact readsRest.table (removal.keys name) reads
      | _ =>
        simp only [Option.any_some, Toml.isTable, Bool.false_and, readsRest.keeps]
        exact reads

/-- An empty section is read as none is. -/
private theorem leftOut (readsRest : ReadsRest default read restored) {title : String}
    {absent present : List (String × Toml)} (none : absent.lookup title = none)
    (empty : present.lookup title = some (.table []))
    (others : ∀ other, other ≠ title → absent.lookup other = present.lookup other) :
    Toml.withDefault default read (absent.lookup name) =
      Toml.withDefault default read (present.lookup name) := by
  rcases eq_or_ne name title with rfl | other
  · rw [none, empty]
    exact readsRest.empty.symm
  · rw [others name other]

end ReadsRest

namespace OutputSettings

variable {entries : List (String × Toml)} {settings : OutputSettings}

def restored (settings default : OutputSettings) (removed : String → Bool) : OutputSettings where
  word := if removed "output" then default.word else settings.word
  hierarchy := if removed "hierarchy_output" then default.hierarchy else settings.hierarchy
  verbose := if removed "verbose" then default.verbose else settings.verbose

private theorem ofToml?_table : ofToml? (.table entries) = some settings ↔
    Toml.withDefault "tree.lsys" Toml.text? (entries.lookup "output") = some settings.word ∧
    Toml.withDefault none (fun v => v.text?.map some) (entries.lookup "hierarchy_output") =
      some settings.hierarchy ∧
    Toml.withDefault false Toml.bool? (entries.lookup "verbose") = some settings.verbose := by
  simp only [ofToml?, Toml.settings?, names, List.map_cons, List.map_nil, Option.bind_eq_bind,
    Option.bind_some, Option.bind_eq_some_iff, Option.pure_def, Option.some.injEq]
  constructor
  · rintro ⟨_, word, _, hierarchy, _, verbose, rfl⟩
    exact ⟨word, hierarchy, verbose⟩
  · rintro ⟨word, hierarchy, verbose⟩
    exact ⟨_, word, _, hierarchy, _, verbose, rfl⟩

private theorem readsRest : ReadsRest {} ofToml? (fun settings => settings.restored {}) where
  table removed reads := by
    obtain ⟨word, hierarchy, verbose⟩ := ofToml?_table.mp reads
    exact ofToml?_table.mpr ⟨Toml.withDefault_filter removed word,
      Toml.withDefault_filter removed hierarchy, Toml.withDefault_filter removed verbose⟩
  keeps _ := rfl
  loses _ := rfl
  empty := rfl

end OutputSettings

namespace AggregationSettings

variable {entries : List (String × Toml)} {settings : AggregationSettings}

def restored (settings default : AggregationSettings) (removed : String → Bool) :
    AggregationSettings where
  frequency := if removed "bucket_freq" then default.frequency else settings.frequency
  edge := if removed "bucket_label" then default.edge else settings.edge
  contrastFactor :=
    if removed "contrast_factor" then default.contrastFactor else settings.contrastFactor
  maxTreeHeight :=
    if removed "max_tree_height" then default.maxTreeHeight else settings.maxTreeHeight
  minTrunkHeight :=
    if removed "min_trunk_height" then default.minTrunkHeight else settings.minTrunkHeight
  maxTrunkHeight :=
    if removed "max_trunk_height" then default.maxTrunkHeight else settings.maxTrunkHeight
  normalizedCount :=
    if removed "normalized_count" then default.normalizedCount else settings.normalizedCount
  rawCount := if removed "raw_count" then default.rawCount else settings.rawCount

private theorem ofToml?_table : ofToml? (.table entries) = some settings ↔
    Toml.withDefault (.weekly .sunday) Toml.frequency? (entries.lookup "bucket_freq") =
      some settings.frequency ∧
    Toml.withDefault .last (fun v => v.choice?.bind Calendar.BucketEdge.ofName?)
      (entries.lookup "bucket_label") = some settings.edge ∧
    Toml.withDefault 2.0 Toml.number? (entries.lookup "contrast_factor") =
      some settings.contrastFactor ∧
    Toml.withDefault 600.0 Toml.number? (entries.lookup "max_tree_height") =
      some settings.maxTreeHeight ∧
    Toml.withDefault 10.0 Toml.number? (entries.lookup "min_trunk_height") =
      some settings.minTrunkHeight ∧
    Toml.withDefault 40.0 Toml.number? (entries.lookup "max_trunk_height") =
      some settings.maxTrunkHeight ∧
    Toml.withDefault true Toml.bool? (entries.lookup "normalized_count") =
      some settings.normalizedCount ∧
    Toml.withDefault true Toml.bool? (entries.lookup "raw_count") = some settings.rawCount := by
  simp only [ofToml?, Toml.settings?, names, List.map_cons, List.map_nil, Option.bind_eq_bind,
    Option.bind_some, Option.bind_eq_some_iff, Option.pure_def, Option.some.injEq]
  constructor
  · rintro ⟨_, frequency, _, edge, _, contrast, _, tree, _, least, _, greatest, _, normalized,
      _, raw, rfl⟩
    exact ⟨frequency, edge, contrast, tree, least, greatest, normalized, raw⟩
  · rintro ⟨frequency, edge, contrast, tree, least, greatest, normalized, raw⟩
    exact ⟨_, frequency, _, edge, _, contrast, _, tree, _, least, _, greatest, _, normalized,
      _, raw, rfl⟩

private theorem readsRest : ReadsRest {} ofToml? (fun settings => settings.restored {}) where
  table removed reads := by
    obtain ⟨frequency, edge, contrast, tree, least, greatest, normalized, raw⟩ :=
      ofToml?_table.mp reads
    exact ofToml?_table.mpr ⟨Toml.withDefault_filter removed frequency,
      Toml.withDefault_filter removed edge, Toml.withDefault_filter removed contrast,
      Toml.withDefault_filter removed tree, Toml.withDefault_filter removed least,
      Toml.withDefault_filter removed greatest, Toml.withDefault_filter removed normalized,
      Toml.withDefault_filter removed raw⟩
  keeps _ := rfl
  loses _ := rfl
  empty := rfl

end AggregationSettings

namespace Geometry

variable {entries : List (String × Toml)} {geometry : Geometry}

/-- The section with some settings at their defaults. -/
def restored (geometry default : Geometry) (removed : String → Bool) : Geometry where
  segmentHeight :=
    if removed "trunk_segment_height" then default.segmentHeight else geometry.segmentHeight
  step := if removed "week_step" then default.step else geometry.step
  lengthBase := if removed "week_length_base" then default.lengthBase else geometry.lengthBase
  lengthScale := if removed "week_length_scale" then default.lengthScale else geometry.lengthScale
  firstSide := if removed "first_branch" then default.firstSide else geometry.firstSide

private theorem ofToml?_table : ofToml? (.table entries) = some geometry ↔
    Toml.withDefault 20.0 Toml.number? (entries.lookup "trunk_segment_height") =
      some geometry.segmentHeight ∧
    Toml.withDefault 8.0 Toml.number? (entries.lookup "week_step") = some geometry.step ∧
    Toml.withDefault 10.0 Toml.number? (entries.lookup "week_length_base") =
      some geometry.lengthBase ∧
    Toml.withDefault 0.5 Toml.number? (entries.lookup "week_length_scale") =
      some geometry.lengthScale ∧
    Toml.withDefault .right (fun v => v.choice?.bind Side.ofName?)
      (entries.lookup "first_branch") = some geometry.firstSide := by
  simp only [ofToml?, Toml.settings?, names, List.map_cons, List.map_nil, Option.bind_eq_bind,
    Option.bind_some, Option.bind_eq_some_iff, Option.pure_def, Option.some.injEq]
  constructor
  · rintro ⟨_, segment, _, step, _, base, _, scale, _, side, rfl⟩
    exact ⟨segment, step, base, scale, side⟩
  · rintro ⟨segment, step, base, scale, side⟩
    exact ⟨_, segment, _, step, _, base, _, scale, _, side, rfl⟩

private theorem readsRest : ReadsRest {} ofToml? (fun geometry => geometry.restored {}) where
  table removed reads := by
    obtain ⟨segment, step, base, scale, side⟩ := ofToml?_table.mp reads
    exact ofToml?_table.mpr ⟨Toml.withDefault_filter removed segment,
      Toml.withDefault_filter removed step, Toml.withDefault_filter removed base,
      Toml.withDefault_filter removed scale, Toml.withDefault_filter removed side⟩
  keeps _ := rfl
  loses _ := rfl
  empty := rfl

end Geometry

namespace ClassifierSettings

variable {entries : List (String × Toml)} {settings : ClassifierSettings}

def restored (settings default : ClassifierSettings) (removed : String → Bool) :
    ClassifierSettings where
  enabled := if removed "enabled" then default.enabled else settings.enabled
  model := if removed "model" then default.model else settings.model
  url := if removed "ollama_url" then default.url else settings.url
  temperature := if removed "temperature" then default.temperature else settings.temperature
  timeoutSeconds :=
    if removed "timeout_seconds" then default.timeoutSeconds else settings.timeoutSeconds
  batchSize := if removed "batch_size" then default.batchSize else settings.batchSize
  width := if removed "concurrency" then default.width else settings.width
  retries := if removed "retries" then default.retries else settings.retries

private theorem ofToml?_table : ofToml? (.table entries) = some settings ↔
    Toml.withDefault false Toml.bool? (entries.lookup "enabled") = some settings.enabled ∧
    Toml.withDefault "llama3.2:latest" Toml.text? (entries.lookup "model") =
      some settings.model ∧
    Toml.withDefault "http://localhost:11434" Toml.text? (entries.lookup "ollama_url") =
      some settings.url ∧
    Toml.withDefault 0.0 Toml.single? (entries.lookup "temperature") =
      some settings.temperature ∧
    Toml.withDefault 120 Toml.nat? (entries.lookup "timeout_seconds") =
      some settings.timeoutSeconds ∧
    Toml.withDefault 64 Toml.nat? (entries.lookup "batch_size") = some settings.batchSize ∧
    Toml.withDefault 4 Toml.nat? (entries.lookup "concurrency") = some settings.width ∧
    Toml.withDefault 3 Toml.nat? (entries.lookup "retries") = some settings.retries := by
  simp only [ofToml?, Toml.settings?, names, List.map_cons, List.map_nil, Option.bind_eq_bind,
    Option.bind_some, Option.bind_eq_some_iff, Option.pure_def, Option.some.injEq]
  constructor
  · rintro ⟨_, enabled, _, model, _, url, _, temperature, _, timeout, _, batch, _, width,
      _, retries, rfl⟩
    exact ⟨enabled, model, url, temperature, timeout, batch, width, retries⟩
  · rintro ⟨enabled, model, url, temperature, timeout, batch, width, retries⟩
    exact ⟨_, enabled, _, model, _, url, _, temperature, _, timeout, _, batch, _, width,
      _, retries, rfl⟩

private theorem readsRest : ReadsRest {} ofToml? (fun settings => settings.restored {}) where
  table removed reads := by
    obtain ⟨enabled, model, url, temperature, timeout, batch, width, retries⟩ :=
      ofToml?_table.mp reads
    exact ofToml?_table.mpr ⟨Toml.withDefault_filter removed enabled,
      Toml.withDefault_filter removed model, Toml.withDefault_filter removed url,
      Toml.withDefault_filter removed temperature, Toml.withDefault_filter removed timeout,
      Toml.withDefault_filter removed batch, Toml.withDefault_filter removed width,
      Toml.withDefault_filter removed retries⟩
  keeps _ := rfl
  loses _ := rfl
  empty := rfl

end ClassifierSettings

/-! ## Documents with less in them -/

namespace Config

variable {entries : List (String × Toml)} {config : Config}

/-- The configuration with some settings, named by section and key, at their defaults. -/
def restored (config default : Config) (removed : String → String → Bool) : Config where
  output := config.output.restored default.output (removed "general")
  aggregation := config.aggregation.restored default.aggregation (removed "aggregation")
  geometry := config.geometry.restored default.geometry (removed "grammar")
  classifier := config.classifier.restored default.classifier (removed "classifier")

theorem ofEntries?_eq_some_iff : ofEntries? entries = some config ↔
    Toml.withDefault {} OutputSettings.ofToml? (entries.lookup "general") =
      some config.output ∧
    Toml.withDefault {} AggregationSettings.ofToml? (entries.lookup "aggregation") =
      some config.aggregation ∧
    Toml.withDefault {} Geometry.ofToml? (entries.lookup "grammar") = some config.geometry ∧
    Toml.withDefault {} ClassifierSettings.ofToml? (entries.lookup "classifier") =
      some config.classifier := by
  simp only [ofEntries?, Option.bind_eq_bind, Option.bind_eq_some_iff, Option.pure_def,
    Option.some.injEq]
  constructor
  · rintro ⟨_, output, _, aggregation, _, geometry, _, classifier, rfl⟩
    exact ⟨output, aggregation, geometry, classifier⟩
  · rintro ⟨output, aggregation, geometry, classifier⟩
    exact ⟨_, output, _, aggregation, _, geometry, _, classifier, rfl⟩

/-- A document that describes a configuration describes one with less in it. -/
theorem ofEntries?_apply (removal : Removal) (described : ofEntries? entries = some config) :
    ofEntries? (removal.apply entries) = some (config.restored {} (removal.drops entries)) := by
  obtain ⟨output, aggregation, geometry, classifier⟩ := ofEntries?_eq_some_iff.mp described
  exact ofEntries?_eq_some_iff.mpr ⟨OutputSettings.readsRest.lookup_apply removal output,
    AggregationSettings.readsRest.lookup_apply removal aggregation,
    Geometry.readsRest.lookup_apply removal geometry,
    ClassifierSettings.readsRest.lookup_apply removal classifier⟩

/-- A section that is there but empty might as well be left out, whatever the others are. -/
private theorem ofEntries?_leftOut {title : String} {absent present : List (String × Toml)}
    (none : absent.lookup title = none) (empty : present.lookup title = some (.table []))
    (others : ∀ other, other ≠ title → absent.lookup other = present.lookup other) :
    ofEntries? absent = ofEntries? present := by
  unfold ofEntries?
  rw [OutputSettings.readsRest.leftOut none empty others,
    AggregationSettings.readsRest.leftOut none empty others,
    Geometry.readsRest.leftOut none empty others,
    ClassifierSettings.readsRest.leftOut none empty others]

/-- Keys and sections can be taken out of any document that describes a configuration. What is left
describes the same configuration with the settings that were taken out at their defaults, however it
is written. So a section that is empty is as good as one that is missing, whatever else there is. -/
theorem read?_of_removal :
    (∀ (text : List Char) (config : Config), read? text = some config →
      ∃ entries, Toml.parse? text = some entries ∧ ∀ removal : Removal,
        ofEntries? (removal.apply entries) = some (config.restored {} (removal.drops entries)) ∧
        ∀ less, Toml.parse? less = some (removal.apply entries) →
          read? less = some (config.restored {} (removal.drops entries))) ∧
    ∀ (title : String) (absent present : List (String × Toml)), absent.lookup title = none →
      present.lookup title = some (.table []) →
      (∀ other, other ≠ title → absent.lookup other = present.lookup other) →
      ofEntries? absent = ofEntries? present := by
  refine ⟨?_, fun title absent present => ofEntries?_leftOut⟩
  intro text config loads
  obtain ⟨entries, parsed, described⟩ := Option.bind_eq_some_iff.mp loads
  refine ⟨entries, parsed, fun removal => ?_⟩
  have rest := ofEntries?_apply removal described
  refine ⟨rest, fun less parsedLess => ?_⟩
  rw [read?, parsedLess]
  exact rest

/-- Days instead of weeks, more contrast, shorter steps to the left first, and smaller batches. -/
def dailyDocument : String :=
  "[aggregation]\nbucket_freq = \"D\"\ncontrast_factor = 3.5\n[grammar]\n" ++
  "week_step = 6\nfirst_branch = \"left\"\n[classifier]\nbatch_size = 16\n"

def dailyEntries : List (String × Toml) :=
  [("aggregation", .table [("bucket_freq", .string "D"), ("contrast_factor", .float 3.5)]),
    ("grammar", .table [("week_step", .int 6), ("first_branch", .string "left")]),
    ("classifier", .table [("batch_size", .int 16)])]

/-- The contrast, the first side and the whole classifier. -/
def dailyRemoval : Removal where
  sections := (· == "classifier")
  keys _ key := key == "contrast_factor" || key == "first_branch"

/-- Days instead of weeks and shorter steps, in other spellings. -/
def lessDocument : String :=
  "aggregation.bucket_freq = 'D' # days\ngrammar = \x7b week_step = +6 \x7d"

set_option maxRecDepth 2000 in
/-- The rest of the first document is the second one, and an empty section more makes no change. -/
theorem read?_of_removal_daily : ∃ config : Config,
    read? dailyDocument.toList = some config ∧ config.aggregation.contrastFactor = 3.5 ∧
    config.geometry.firstSide = .left ∧ config.classifier.batchSize = 16 ∧
    Toml.parse? lessDocument.toList = some (dailyRemoval.apply dailyEntries) ∧
    read? lessDocument.toList =
      some { aggregation := { frequency := .daily }, geometry := { step := 6.0 } } ∧
    ofEntries? (("classifier", .table []) :: dailyRemoval.apply dailyEntries) =
      some { aggregation := { frequency := .daily }, geometry := { step := 6.0 } } := by
  have parsed : Toml.parse? dailyDocument.toList = some dailyEntries := by
    unfold dailyDocument
    repeat rw [String.toList_append]
    repeat rw [String.toList_ofList]
    rfl
  have loads : read? dailyDocument.toList = some {
      aggregation := { frequency := .daily, contrastFactor := 3.5 }
      geometry := { step := 6.0, firstSide := .left }
      classifier := { batchSize := 16 } } := by
    rw [read?, parsed]
    rfl
  have parsedLess : Toml.parse? lessDocument.toList = some (dailyRemoval.apply dailyEntries) := by
    unfold lessDocument
    rw [String.toList_ofList]
    rfl
  obtain ⟨entries, known, rest⟩ := read?_of_removal.1 _ _ loads
  obtain rfl := Option.some.inj (parsed.symm.trans known)
  obtain ⟨described, written⟩ := rest dailyRemoval
  have missing : ofEntries? (dailyRemoval.apply dailyEntries) =
      ofEntries? (("classifier", .table []) :: dailyRemoval.apply dailyEntries) := by
    refine read?_of_removal.2 "classifier" _ _ rfl rfl fun other different => ?_
    rw [List.lookup_cons, beq_eq_false_iff_ne.mpr different]
  exact ⟨_, loads, rfl, rfl, rfl, parsedLess, written _ parsedLess,
    missing.symm.trans described⟩

end Config

end SentimentTree
