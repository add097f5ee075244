import Mathlib.Tactic.SplitIfs
import SentimentTree.Proofs.Basic
import SentimentTree.Proofs.Lookup
import SentimentTree.Run.Pipeline
import SentimentTree.Run.Scene

/-! # What a stored file gives back

A file that has been written is found under the path it was written to, with the content it was
written with (`Store.read_write`), because writing it closes no directory on the way there. Loading
and storing a tree on a recorded host come down to such a read and such a write.
-/

namespace SentimentTree

namespace Store

variable {store : Store} {target : List String} {entry : StoredEntry}

private theorem entry?_put_self (named : target.all (· == "..") = false) :
    Store.entry? (store.put target entry) target = some entry := by
  unfold entry? put
  simp [named]

private theorem entry?_put_of_ne {other : List String} (different : other ≠ target) :
    Store.entry? (store.put target entry) other = store.entry? other := by
  unfold entry? put
  split
  · rfl
  · rw [List.cons_append, List.lookup_cons, beq_false_of_ne different, List.lookup_append,
      List.lookup_append, lookup_filter (· != target), if_pos (bne_iff_ne.mpr different)]

theorem child_eq_ok_iff {directory : List String} {name : String} :
    store.child directory name = .ok entry ↔
      name.utf8ByteSize ≤ StoredPath.maxNameBytes ∧
        store.entry? (directory ++ [name]) = some entry := by
  unfold child
  split_ifs with long
  · exact ⟨nofun, fun short => (Nat.not_lt.mpr short.1 long).elim⟩
  · cases store.entry? (directory ++ [name]) <;> simp [Nat.not_lt.mp long]

theorem child_eq_notFound_iff {directory : List String} {name : String} :
    store.child directory name = .error .notFound ↔
      name.utf8ByteSize ≤ StoredPath.maxNameBytes ∧ store.entry? (directory ++ [name]) = none := by
  unfold child
  split_ifs with long
  · exact ⟨nofun, fun short => (Nat.not_lt.mpr short.1 long).elim⟩
  · cases store.entry? (directory ++ [name]) <;> simp [Nat.not_lt.mp long]

/-- A directory that is not replaced leads where it led. -/
private theorem enter_put (apart : store.entry? target ≠ some .directory)
    {directory reached : List String}
    {name : String} (entered : store.enter directory name = .ok reached) :
    (store.put target entry).enter directory name = .ok reached := by
  unfold enter at entered ⊢
  split_ifs at entered ⊢ with here up
  · exact entered
  · exact entered
  · obtain ⟨found, inside, entered⟩ := except_bind_eq_ok_iff.mp entered
    obtain ⟨short, held⟩ := child_eq_ok_iff.mp inside
    cases found with
    | directory =>
      have different : directory ++ [name] ≠ target := by
        rintro rfl
        exact apart held
      refine except_bind_eq_ok_iff.mpr ⟨.directory, child_eq_ok_iff.mpr ⟨short, ?_⟩, entered⟩
      rw [entry?_put_of_ne different, held]
    | file _ => nomatch entered
    | void => nomatch entered

private theorem foldlM_enter_put (apart : store.entry? target ≠ some .directory)
    {names : List String} {directory reached : List String}
    (entered : names.foldlM store.enter directory = .ok reached) :
    names.foldlM (store.put target entry).enter directory = .ok reached := by
  induction names generalizing directory with
  | nil => exact entered
  | cons name rest ih =>
    obtain ⟨next, first, later⟩ := except_bind_eq_ok_iff.mp entered
    exact except_bind_eq_ok_iff.mpr ⟨next, enter_put apart first, ih later⟩

section
variable {path : String} {parts : StoredPath} {directory : List String}

/-- A path with a last name of its own leads to what the name means in its directory. -/
private theorem find_eq_child (parted : StoredPath.read path = .ok parts)
    (entered : parts.within.foldlM store.enter parts.start = .ok directory)
    (unclosed : parts.closed = false) (named : parts.endsInPlace = false) :
    store.find path = store.child directory parts.name := by
  unfold find
  rw [parted]
  change (parts.within.foldlM store.enter parts.start >>= _) = _
  rw [entered]
  change (if parts.endsInPlace then _ else store.child directory parts.name >>= _) = _
  rw [named, unclosed]
  cases store.child directory parts.name with
  | error fault => rfl
  | ok found => cases found <;> rfl

/-- A file that is put under a name that is not that of a directory is found there. -/
private theorem find_put (parted : StoredPath.read path = .ok parts)
    (entered : parts.within.foldlM store.enter parts.start = .ok directory)
    (unclosed : parts.closed = false) (named : parts.endsInPlace = false)
    (short : parts.name.utf8ByteSize ≤ StoredPath.maxNameBytes)
    (apart : store.entry? (directory ++ [parts.name]) ≠ some .directory) :
    (store.put (directory ++ [parts.name]) entry).find path = .ok entry := by
  have above : parts.name ≠ ".." := by
    intro same
    simp [StoredPath.endsInPlace, same] at named
  rw [find_eq_child parted (foldlM_enter_put apart entered) unclosed named, child_eq_ok_iff]
  exact ⟨short, entry?_put_self (by simp [above])⟩

end

/-- What has been written is read back, unless it was written to where nothing is kept. -/
theorem read_write {path content : String} {after : Store}
    (written : store.write path content = .ok after) (kept : store.find path ≠ .ok .void) :
    after.read path = .ok content.toUTF8 := by
  unfold write at written
  obtain ⟨parts, parted, written⟩ := except_bind_eq_ok_iff.mp written
  obtain ⟨directory, entered, written⟩ := except_bind_eq_ok_iff.mp written
  split_ifs at written with place
  rw [Bool.not_eq_true, Bool.or_eq_false_iff] at place
  obtain ⟨unclosed, named⟩ := place
  rw [find_eq_child parted entered unclosed named] at kept
  suffices found : after.find path = .ok (.file content.toUTF8) by
    unfold read
    rw [found]
    rfl
  cases inside : store.child directory parts.name with
  | ok found =>
    obtain ⟨short, held⟩ := child_eq_ok_iff.mp inside
    rw [inside] at written kept
    cases found with
    | directory => nomatch written
    | void => exact (kept rfl).elim
    | file old =>
      obtain rfl := Except.ok.inj written
      exact find_put parted entered unclosed named short (by rw [held]; nofun)
  | error fault =>
    rw [inside] at written
    cases fault with
    | notFound =>
      obtain ⟨short, absent⟩ := child_eq_notFound_iff.mp inside
      obtain rfl := Except.ok.inj written
      exact find_put parted entered unclosed named short (by rw [absent]; nofun)
    | _ => nomatch written

def text (store : Store) (path : String) : Except FileFault String :=
  match store.read path with
  | .error fault => .error fault
  | .ok bytes =>
    match String.fromUTF8? bytes with
    | some text => .ok text
    | none => .error .notText

theorem text_of_read {path content : String} (held : store.read path = .ok content.toUTF8) :
    store.text path = .ok content := by
  simp only [text, held, fromUTF8?_toUTF8]

/-- Written text is read back as text. -/
theorem text_write {path content : String} {after : Store}
    (written : store.write path content = .ok after) (kept : store.find path ≠ .ok .void) :
    after.text path = .ok content :=
  text_of_read (read_write written kept)

end Store

/-! ## Trees on a recorded host -/

private theorem readText_recorded (path : String) (scene : Scene) :
    (Host.recorded.readText path).run scene = (scene.store.text path, scene) := by
  simp only [Host.readText, Store.text, Host.recorded, StateT.run_bind, StateT.run_get, pure_bind,
    StateT.run_pure]
  cases scene.store.read path with
  | error fault => rfl
  | ok bytes =>
    dsimp only
    cases String.fromUTF8? bytes <;> rfl

/-- Loading takes the file's text for a tree and changes nothing. -/
theorem loadTree_recorded (settings : AggregationSettings) (path : String) (scene : Scene) :
    (loadTree Host.recorded settings path).run.run scene =
      (match scene.store.text path with
        | .ok text => readTree settings path text.toList
        | .error fault => .error (.cannotReadHierarchy path fault), scene) := by
  simp only [loadTree, ExceptT.run_bind, ExceptT.run_lift, StateT.run_bind, StateT.run_map,
    readText_recorded]
  cases scene.store.text path with
  | error fault => rfl
  | ok text =>
    change (Run.ofExcept id (readTree settings path text.toList) :
      Run (StateM Scene) Hierarchy).run.run scene = (readTree settings path text.toList, scene)
    cases readTree settings path text.toList <;> rfl

/-- Storing writes the text of the tree's document. -/
theorem storeTree_recorded (tree : Hierarchy) (path : String) (scene : Scene) :
    (storeTree Host.recorded tree path).run.run scene =
      match scene.store.write path (String.ofList tree.documentText) with
      | .ok store => (.ok (), { scene with store := store })
      | .error fault => (.error (.cannotWriteHierarchy path fault), scene) := by
  simp only [storeTree, Host.recorded, ExceptT.run_bind, ExceptT.run_lift, StateT.run_bind,
    StateT.run_map, StateT.run_get, pure_bind]
  cases scene.store.write path (String.ofList tree.documentText) <;> rfl

end SentimentTree
