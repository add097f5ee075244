import SentimentTree.Proofs.Hierarchy.Document
import SentimentTree.Proofs.Run.Stored

/-! # Stored trees

A tree that is loaded, in whichever of the accepted spellings its file is written, is written out as
a text that gives the same tree under the same trunk bounds. So a file that is loaded and stored
again yields the word it yielded.
-/

namespace SentimentTree

variable {settings : AggregationSettings} {path : String} {tree : Hierarchy} {scene after : Scene}

def storedWord {m : Type → Type} [Monad m] (host : Host m) (settings : AggregationSettings)
    (geometry : Geometry) (path : String) : Run m (List Char × WordStats) := do
  let tree ← loadTree host settings path
  Run.ofExcept .pipeline (checkedWord geometry tree)

theorem readTree_eq_ok_iff {text : List Char} :
    readTree settings path text = .ok tree ↔ Hierarchy.ofDocumentText? text = some tree ∧
      tree.validate settings.minTrunkHeight settings.maxTrunkHeight = .ok () := by
  unfold readTree
  cases Hierarchy.ofDocumentText? text with
  | none => simp
  | some read =>
    dsimp only
    cases valid : read.validate settings.minTrunkHeight settings.maxTrunkHeight with
    | ok _ =>
      constructor
      · rintro ⟨⟩
        exact ⟨rfl, valid⟩
      · rintro ⟨⟨⟩, _⟩
        rfl
    | error problem =>
      refine ⟨nofun, ?_⟩
      rintro ⟨⟨⟩, accepted⟩
      exact nomatch valid.symm.trans accepted

/-- The text of a tree that can be stored is accepted under bounds that accept the tree. -/
theorem readTree_documentText (storable : tree.Storable)
    (valid : tree.validate settings.minTrunkHeight settings.maxTrunkHeight = .ok ())
    (path : String) : readTree settings path tree.documentText = .ok tree := by
  rw [readTree_eq_ok_iff, tree.ofDocumentText?_documentText]
  exact ⟨storable.ofJson?_toJson, valid⟩

/-- The text of a tree with a month of a negative year is rejected. -/
theorem readTree_documentText_of_neg {group : MonthGroup} (member : group ∈ tree.months)
    (negative : group.month.year < 0) (path : String) :
    readTree settings path tree.documentText = .error (.badHierarchy path) := by
  rw [readTree, tree.ofDocumentText?_documentText,
    Hierarchy.ofJson?_toJson_of_neg member negative]

/-- A stored tree is read from the text of its document. -/
theorem loadTree_of_storeTree
    (stored : (storeTree Host.recorded tree path).run.run scene = (.ok (), after))
    (kept : scene.store.find path ≠ .ok .void) :
    ((loadTree Host.recorded settings path).run.run after).1 =
      readTree settings path tree.documentText := by
  rw [storeTree_recorded] at stored
  cases written : scene.store.write path (String.ofList tree.documentText) with
  | error fault =>
    rw [written] at stored
    nomatch stored
  | ok store =>
    rw [written] at stored
    obtain rfl := (Prod.mk.inj stored).2
    simp only [loadTree_recorded, Store.text_write written kept, String.toList_ofList]

/-- The word of a stored tree is that of the tree which is loaded. -/
theorem storedWord_of_loadTree (geometry : Geometry)
    (loaded : ((loadTree Host.recorded settings path).run.run scene).1 = .ok tree) :
    ((storedWord Host.recorded settings geometry path).run.run scene).1 =
      (checkedWord geometry tree).mapError .pipeline := by
  have run : (loadTree Host.recorded settings path).run.run scene = (.ok tree, scene) :=
    Prod.ext loaded (by rw [loadTree_recorded])
  simp only [storedWord, ExceptT.run_bind, StateT.run_bind, run]
  change ((Run.ofExcept .pipeline (checkedWord geometry tree) :
    Run (StateM Scene) (List Char × WordStats)).run.run scene).1 = _
  cases checkedWord geometry tree <;> rfl

/-- A tree that has been loaded is written out as a text from which it is loaded again, and which
yields the same word. -/
theorem loadTree_rewritten
    (loaded : ((loadTree Host.recorded settings path).run.run scene).1 = .ok tree) :
    (∀ other, readTree settings other tree.documentText = .ok tree) ∧
    ∀ other before after,
      (storeTree Host.recorded tree other).run.run before = (.ok (), after) →
      before.store.find other ≠ .ok .void →
      ((loadTree Host.recorded settings other).run.run after).1 = .ok tree ∧
      ∀ geometry, ((storedWord Host.recorded settings geometry other).run.run after).1 =
        ((storedWord Host.recorded settings geometry path).run.run scene).1 := by
  have accepted : ∀ other, readTree settings other tree.documentText = .ok tree := by
    rw [loadTree_recorded] at loaded
    dsimp only at loaded
    split at loaded
    · obtain ⟨read, valid⟩ := readTree_eq_ok_iff.mp loaded
      obtain ⟨document, -, read⟩ := Option.bind_eq_some_iff.mp read
      exact readTree_documentText (Hierarchy.storable_of_ofJson? read) valid
    · nomatch loaded
  refine ⟨accepted, ?_⟩
  intro other before after stored kept
  have reloaded : ((loadTree Host.recorded settings other).run.run after).1 = .ok tree := by
    rw [loadTree_of_storeTree stored kept, accepted]
  refine ⟨reloaded, ?_⟩
  intro geometry
  rw [storedWord_of_loadTree geometry reloaded, storedWord_of_loadTree geometry loaded]

/-- A tree with a signed month, records without field names and no derived counts. -/
def compactText : String :=
  "[[1.5e1,1],[[\"+2024-1\",[[\" 2024-1-7\",\"2024-01-01\",\"2024-01-07\",3,5E-1,0.50,null]]]]]"

def Scene.compact : Scene where
  store := ⟨[(["tree.json"], .file compactText.toUTF8)]⟩

theorem loadTree_rewritten_compact :
    ∃ tree after, ((loadTree Host.recorded {} "tree.json").run.run Scene.compact).1 = .ok tree ∧
      tree.bucketCount = 1 ∧
      (storeTree Host.recorded tree "tree.json").run.run Scene.compact = (.ok (), after) ∧
      ((loadTree Host.recorded {} "tree.json").run.run after).1 = .ok tree ∧
      ∀ geometry, ((storedWord Host.recorded {} geometry "tree.json").run.run after).1 =
        ((storedWord Host.recorded {} geometry "tree.json").run.run Scene.compact).1 := by
  have accepted : (readTree {} "tree.json" compactText.toList).toOption.map (·.bucketCount) =
      some 1 := by decide +kernel
  obtain ⟨tree, read, count⟩ := Option.map_eq_some_iff.mp accepted
  have held : Scene.compact.store.text "tree.json" = .ok compactText :=
    Store.text_of_read rfl
  have loaded : ((loadTree Host.recorded {} "tree.json").run.run Scene.compact).1 = .ok tree := by
    simp only [loadTree_recorded, held]
    cases result : readTree {} "tree.json" compactText.toList with
    | ok found =>
      rw [result] at read
      rw [Option.some.inj read]
    | error problem =>
      rw [result] at read
      nomatch read
  have stored : ∃ after,
      (storeTree Host.recorded tree "tree.json").run.run Scene.compact = (.ok (), after) := by
    rw [storeTree_recorded]
    exact ⟨_, rfl⟩
  obtain ⟨after, stored⟩ := stored
  obtain ⟨-, again⟩ := loadTree_rewritten loaded
  obtain ⟨reloaded, words⟩ := again "tree.json" Scene.compact after stored nofun
  exact ⟨tree, after, loaded, count, stored, reloaded, words⟩

end SentimentTree
