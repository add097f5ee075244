import Mathlib.Algebra.BigOperators.Group.List.Basic
import Mathlib.Algebra.Ring.Nat
import SentimentTree.Proofs.Hierarchy.Validity

/-! # Counting messages

The counts of a tree are added up one after another in sixty-four bits. Because counts only grow, a
sum on the way is too large only if the whole is: there is a number of messages exactly when
sixty-four bits hold it, and then it is the right one.
-/

namespace SentimentTree.Hierarchy

variable {tree : Hierarchy} {count : UInt64}

/-- The number of messages, without a limit. -/
def messageTotal (tree : Hierarchy) : Nat := (tree.buckets.map (·.count.toNat)).sum

private theorem addCounts?_eq_some_iff {total sum : UInt64} :
    addCounts? total count = some sum ↔ sum.toNat = total.toNat + count.toNat := by
  have bound : sum.toNat < UInt64.size := sum.toNat_lt_size
  unfold addCounts?
  split
  · rename_i fits
    have exact : (total + count).toNat = total.toNat + count.toNat := by
      rw [UInt64.toNat_add, Nat.mod_eq_of_lt fits]
    rw [Option.some_inj, ← UInt64.toNat_inj, exact, eq_comm]
  · exact ⟨nofun, fun same => by omega⟩

private theorem foldlM_addCounts?_eq_some_iff {buckets : List Bucket} {start : UInt64} :
    buckets.foldlM (fun total bucket => addCounts? total bucket.count) start = some count ↔
      count.toNat = start.toNat + (buckets.map (·.count.toNat)).sum := by
  induction buckets generalizing start with
  | nil =>
    rw [List.foldlM_nil, List.map_nil, List.sum_nil, Nat.add_zero, UInt64.toNat_inj, eq_comm]
    exact Option.some_inj
  | cons bucket rest ih =>
    rw [List.foldlM_cons, List.map_cons, List.sum_cons, ← Nat.add_assoc]
    change (addCounts? start bucket.count).bind _ = _ ↔ _
    simp only [Option.bind_eq_some_iff, addCounts?_eq_some_iff, ih]
    constructor
    · rintro ⟨next, added, same⟩
      rw [same, added]
    · intro same
      have bound : count.toNat < UInt64.size := count.toNat_lt_size
      -- the sum so far is no larger than the whole
      have fits : start.toNat + bucket.count.toNat < UInt64.size := by omega
      have next := addCounts?_eq_some_iff.mp (if_pos fits)
      exact ⟨_, next, by rw [next, same]⟩

/-- A tree has a number of messages when sixty-four bits hold it. -/
theorem messageCount?_eq_some_iff :
    tree.messageCount? = some count ↔ count.toNat = tree.messageTotal := by
  rw [messageCount?, foldlM_addCounts?_eq_some_iff, UInt64.toNat_zero, Nat.zero_add]
  rfl

theorem messageCount?_eq_none_iff : tree.messageCount? = none ↔ 2 ^ 64 ≤ tree.messageTotal := by
  rw [Option.eq_none_iff_forall_ne_some]
  constructor
  · intro none
    by_contra short
    have fits : (UInt64.ofNat tree.messageTotal).toNat = tree.messageTotal :=
      UInt64.toNat_ofNat_of_lt' (Nat.lt_of_not_le short)
    exact none _ (messageCount?_eq_some_iff.mpr fits)
  · intro many count known
    have same := messageCount?_eq_some_iff.mp known
    have bound : count.toNat < 2 ^ 64 := count.toNat_lt
    omega

/-- No bucket of a valid tree is without a message. -/
theorem Valid.bucketCount_le {least greatest : Float} (valid : tree.Valid least greatest) :
    tree.bucketCount ≤ tree.messageTotal := by
  have counted : ∀ bucket ∈ tree.buckets, 1 ≤ bucket.count.toNat := by
    intro bucket member
    obtain ⟨group, present, inside⟩ := List.mem_flatMap.mp member
    have some := ((valid.months group present).buckets bucket inside).counted
    rw [ne_eq, ← UInt64.toNat_inj, UInt64.toNat_zero] at some
    omega
  rw [bucketCount, messageTotal, ← List.length_map (fun bucket : Bucket => bucket.count.toNat)]
  exact List.length_le_sum_of_one_le _ (List.forall_mem_map.mpr counted)

end SentimentTree.Hierarchy
