import Mathlib.Data.List.Dedup
import Mathlib.Data.List.FinRange
import Mathlib.Data.List.Forall2

/-! # Results and lists

Facts about steps that can fail and about lists that hold whatever the steps do and the lists hold:
which of two steps fails, which member of a list is the first without a property, what stands at a
place, and how many members there are. They are stated in the form in which tables, answers and words
use them.
-/

namespace SentimentTree

variable {α β ε : Type}

/-! ## Steps that can fail -/

/-- A sequence of two steps gives a value exactly when both do. -/
theorem except_bind_eq_ok_iff {first : Except ε α} {next : α → Except ε β}
    {value : β} :
    (first >>= next) = .ok value ↔ ∃ middle, first = .ok middle ∧ next middle = .ok value := by
  cases first with
  | error problem => simp [bind, Except.bind]
  | ok middle => simp [bind, Except.bind]

/-- A sequence of two steps fails with the first failure of them. -/
theorem except_bind_eq_error_iff {first : Except ε α} {next : α → Except ε β}
    {failure : ε} : (first >>= next) = .error failure ↔
      first = .error failure ∨ ∃ middle, first = .ok middle ∧ next middle = .error failure := by
  cases first with
  | error problem => simp [bind, Except.bind]
  | ok middle => simp [bind, Except.bind]

/-- A list is read item by item: it is read exactly when each of its items is. -/
theorem mapM_eq_some_iff {read : α → Option β} {items : List α} {found : List β} :
    items.mapM read = some found ↔ List.Forall₂ (fun item x => read item = some x) items found := by
  induction items generalizing found with
  | nil =>
    rw [List.mapM_nil, List.forall₂_nil_left_iff]
    exact ⟨fun same => (Option.some.inj same).symm, fun same => same ▸ rfl⟩
  | cons item rest ih =>
    rw [List.mapM_cons, List.forall₂_cons_left_iff]
    simp only [Option.bind_eq_bind, Option.bind_eq_some_iff, Option.pure_def, Option.some.injEq, ih]
    constructor
    · rintro ⟨x, first, others, later, rfl⟩
      exact ⟨x, others, first, later, rfl⟩
    · rintro ⟨x, others, first, later, rfl⟩
      exact ⟨x, first, others, later, rfl⟩

theorem fromUTF8?_toUTF8 (content : String) : String.fromUTF8? content.toUTF8 = some content :=
  dif_pos content.isValidUTF8

/-! ## Members that belong together -/

/-- Two lists have the same image exactly when corresponding members have. -/
theorem map_eq_map_iff_forall₂ (f : α → β) (first second : List α) :
    first.map f = second.map f ↔ List.Forall₂ (fun x y => f x = f y) first second := by
  rw [← List.forall₂_eq_eq_eq, List.forall₂_map_left_iff, List.forall₂_map_right_iff]

theorem exists_of_mem_right {R : α → β → Prop} {as : List α} {bs : List β}
    (related : List.Forall₂ R as bs) : ∀ b ∈ bs, ∃ a ∈ as, R a b := by
  induction related with
  | nil => simp
  | cons first _ ih =>
    intro b member
    rcases List.mem_cons.mp member with rfl | later
    · exact ⟨_, List.mem_cons_self, first⟩
    · obtain ⟨a, inside, one⟩ := ih b later
      exact ⟨a, List.mem_cons_of_mem _ inside, one⟩

/-! ## Places in a list -/

/-- All members have a property, or there is a first one that has not. -/
theorem forall_or_exists_first (p : α → Prop) (items : List α) :
    (∀ item ∈ items, p item) ∨ ∃ before item after, items = before ++ item :: after ∧
      (∀ earlier ∈ before, p earlier) ∧ ¬p item := by
  induction items with
  | nil => exact .inl (List.forall_mem_nil _)
  | cons first rest ih =>
    by_cases own : p first
    · rcases ih with all | ⟨before, item, after, rfl, earlier, not⟩
      · exact .inl (List.forall_mem_cons.mpr ⟨own, all⟩)
      · exact .inr ⟨first :: before, item, after, rfl, List.forall_mem_cons.mpr ⟨own, earlier⟩, not⟩
    · exact .inr ⟨[], first, rest, rfl, List.forall_mem_nil _, own⟩

/-- The member that a filter keeps with a given number behind it. -/
theorem exists_split_of_lt_filter (keep : α → Bool) {items : List α} {count : Nat}
    (inside : count < (items.filter keep).length) :
    ∃ before item after, items = before ++ item :: after ∧ keep item = true ∧
      (before.filter keep).length = count := by
  induction items generalizing count with
  | nil => simp at inside
  | cons first rest ih =>
    cases kept : keep first with
    | false =>
      rw [List.filter_cons, kept] at inside
      obtain ⟨before, item, after, rfl, own, length⟩ := ih inside
      refine ⟨first :: before, item, after, rfl, own, ?_⟩
      rw [List.filter_cons, kept]
      exact length
    | true =>
      cases count with
      | zero => exact ⟨[], first, rest, rfl, kept, rfl⟩
      | succ count =>
        rw [List.filter_cons, kept] at inside
        obtain ⟨before, item, after, rfl, own, length⟩ := ih (Nat.lt_of_succ_lt_succ inside)
        refine ⟨first :: before, item, after, rfl, own, ?_⟩
        rw [List.filter_cons, kept]
        exact congrArg Nat.succ length

/-- Two members of a list are the same one, or one stands behind the other. -/
theorem split_cases {before after before' after' : List α} {c c' : α}
    (same : before ++ c :: after = before' ++ c' :: after') :
    (before = before' ∧ c = c' ∧ after = after') ∨
      (∃ between, before' = before ++ c :: between ∧ after = between ++ c' :: after') ∨
      ∃ between, before = before' ++ c' :: between ∧ after' = between ++ c :: after := by
  rcases List.append_eq_append_iff.mp same with ⟨between, front, back⟩ | ⟨between, front, back⟩
  · rcases List.cons_eq_append_iff.mp back with ⟨rfl, back⟩ | ⟨between, rfl, back⟩
    · obtain ⟨rfl, rfl⟩ := List.cons.inj back
      exact .inl ⟨by rw [front, List.append_nil], rfl, rfl⟩
    · exact .inr (.inl ⟨between, front, (List.cons.inj back).2⟩)
  · rcases List.cons_eq_append_iff.mp back with ⟨rfl, back⟩ | ⟨between, rfl, back⟩
    · obtain ⟨rfl, rfl⟩ := List.cons.inj back
      exact .inl ⟨by rw [front, List.append_nil], rfl, rfl⟩
    · exact .inr (.inr ⟨between, front, (List.cons.inj back).2⟩)

/-- Cut at a mark, a list falls into what stands before the first one and the pieces of the rest. -/
theorem splitOn_append_cons [DecidableEq α] {mark : α} {before : List α}
    (clean : mark ∉ before) (rest : List α) :
    (before ++ mark :: rest).splitOn mark = before :: rest.splitOn mark := by
  rw [List.splitOn_append_cons_self, List.splitOn_eq_singleton clean, List.singleton_append]

theorem filterMap_range_getElem? (values : List β) :
    ((List.range values.length).filterMap fun number => values[number]?) = values := by
  induction values with
  | nil => rfl
  | cons value rest ih =>
    rw [List.length_cons, List.range_succ_eq_map, List.filterMap_cons, List.filterMap_map]
    exact congrArg (value :: ·) ih

/-- Lists with the same members at other places hold those that pass a test in the same order if the
places of these are in the same order. -/
theorem filter_eq_of_place {test : α → Bool} {items others : List α}
    (place : Fin items.length ≃ Fin others.length)
    (moved : ∀ i, others.get (place i) = items.get i)
    (kept : ∀ i j, i < j → test (items.get i) = true → test (items.get j) = true →
      place i < place j) :
    items.filter test = others.filter test := by
  have same : others.get ∘ place = items.get := funext moved
  have ordered : (((List.finRange items.length).filter (test ∘ items.get)).map place).Pairwise
      (· < ·) := by
    refine List.pairwise_map.mpr (((List.pairwise_lt_finRange _).filter _).imp_of_mem ?_)
    intro i j first second less
    exact kept i j less (List.mem_filter.mp first).2 (List.mem_filter.mp second).2
  have ordered' : ((List.finRange others.length).filter (test ∘ others.get)).Pairwise (· < ·) :=
    (List.pairwise_lt_finRange _).filter _
  -- both are the places of the members that pass, from the first to the last
  have places : ((List.finRange items.length).filter (test ∘ items.get)).map place =
      (List.finRange others.length).filter (test ∘ others.get) := by
    refine List.Perm.eq_of_pairwise ?_ ordered ordered' ?_
    · exact fun i j _ _ less greater => (lt_asymm less greater).elim
    · refine (List.perm_ext_iff_of_nodup (((List.nodup_finRange _).filter _).map place.injective)
        ((List.nodup_finRange _).filter _)).mpr fun j => ?_
      obtain ⟨i, rfl⟩ := place.surjective j
      rw [List.mem_map_of_injective place.injective, List.mem_filter, List.mem_filter, ← same]
      simp only [List.mem_finRange, Function.comp_apply]
  calc items.filter test
      = ((List.finRange items.length).map items.get).filter test := by rw [List.map_get_finRange]
    _ = (((List.finRange items.length).filter (test ∘ items.get)).map place).map others.get := by
        rw [List.filter_map, List.map_map, same]
    _ = ((List.finRange others.length).map others.get).filter test := by
        rw [places, List.filter_map]
    _ = others.filter test := by rw [List.map_get_finRange]

/-! ## Numbers of members -/

theorem length_dedup_map_congr [DecidableEq β] (f : α → β) {first second : List α}
    (same : ∀ x, x ∈ first ↔ x ∈ second) :
    (first.map f).dedup.length = (second.map f).dedup.length := by
  refine List.Perm.length_eq ((List.perm_ext_iff_of_nodup (List.nodup_dedup _)
    (List.nodup_dedup _)).mpr fun y => ?_)
  simp only [List.mem_dedup, List.mem_map, same]

/-- Different numbers from a range are no more than the range has. -/
theorem length_le_of_ordered {numbers : List ℤ} (low : ℤ) {high : ℤ}
    (room : low ≤ high + 1) (ordered : numbers.Pairwise (· < ·))
    (bounded : ∀ n ∈ numbers, low ≤ n ∧ n ≤ high) :
    (numbers.length : ℤ) ≤ high + 1 - low := by
  induction numbers generalizing low with
  | nil =>
    rw [List.length_nil]
    omega
  | cons first rest ih =>
    obtain ⟨after, ordered⟩ := List.pairwise_cons.mp ordered
    obtain ⟨above, below⟩ := bounded first List.mem_cons_self
    have shorter := ih (first + 1) (by omega) ordered fun n member =>
      ⟨after n member, (bounded n (List.mem_cons_of_mem _ member)).2⟩
    rw [List.length_cons]
    push_cast
    omega

end SentimentTree
