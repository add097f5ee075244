import SentimentTree.Proofs.Hierarchy.Validity
import SentimentTree.Proofs.Numeric.Magnitude
import SentimentTree.Proofs.Word.Produce

/-! # Words of valid trees

A valid tree and an accepted geometry give a word of finite numbers, unless the length of a twig,
which is computed from two numbers of the geometry, leaves the finite range. So its word is accepted
exactly when no twig is too long, and none is if the two numbers are small enough.
-/

namespace SentimentTree

open Numeric

variable {geometry : Geometry} {tree : Hierarchy} {least greatest : Float}

theorem Geometry.validate_eq_ok_iff (geometry : Geometry) :
    geometry.validate = .ok () ↔ ∀ entry ∈ geometry.numbers, isLength entry.2 = true := by
  unfold validate
  constructor
  · intro accepted entry member
    split at accepted
    · nomatch accepted
    · rename_i none
      simpa using List.find?_eq_none.mp none entry member
  · intro lengths
    rw [List.find?_eq_none.mpr fun entry member => by simp [lengths entry member]]

/-- The numbers of an accepted geometry are finite. -/
private theorem Geometry.isFinite_of_validate (accepted : geometry.validate = .ok ()) :
    ∀ entry ∈ geometry.numbers, entry.2.isFinite = true := by
  intro entry member
  have length := geometry.validate_eq_ok_iff.mp accepted entry member
  exact (Bool.and_eq_true_iff.mp length).1

/-- No twig leaves the finite range if the base and the scale of its length are far enough from the
range's end, however many messages a bucket counts. -/
theorem Geometry.twigLength_isFinite (base : Within 1022 geometry.lengthBase)
    (scale : Within 958 geometry.lengthScale) (count : UInt64) :
    (geometry.twigLength count).isFinite = true := by
  have counted : Within 64 count.toFloat := by
    apply (roundsTo_toFloat count).within _ (by norm_num)
    rw [Nat.abs_cast]
    exact_mod_cast count.toNat_lt.le
  have grown : Within 1022 (count.toFloat * geometry.lengthScale) :=
    (counted.mul scale (by norm_num)).mono (by norm_num)
  exact (base.add grown (by norm_num)).isFinite

namespace Hierarchy.Valid

/-- The means that a word shows are finite. -/
theorem contrastedMean_isFinite (valid : tree.Valid least greatest) :
    ∀ bucket ∈ tree.buckets, bucket.contrastedMean.isFinite = true := by
  intro bucket member
  obtain ⟨group, present, inside⟩ := List.mem_flatMap.mp member
  exact isFinite_of_inUnit ((valid.months group present).buckets bucket inside).contrastedMean

/-- The word of a valid tree under an accepted geometry is accepted exactly when no twig is too
long. -/
theorem checkWord_isOk_iff (valid : tree.Valid least greatest)
    (accepted : geometry.validate = .ok ()) :
    (∃ stats, checkWord (tree.word geometry) = .ok stats) ↔
      ∀ bucket ∈ tree.buckets, (geometry.twigLength bucket.count).isFinite = true := by
  have finite := Geometry.isFinite_of_validate accepted
  constructor
  · rintro ⟨stats, passed⟩ bucket member
    exact ((rendersFinite_of_checkWord passed).buckets bucket member).length
  · intro lengths
    have renders : tree.RendersFinite geometry := by
      refine ⟨fun _ => finite ("trunk_segment_height", _) (by simp [Geometry.numbers]), ?_⟩
      intro bucket member
      exact ⟨finite ("week_step", _) (by simp [Geometry.numbers]), lengths bucket member,
        valid.contrastedMean_isFinite bucket member⟩
    exact ⟨_, renders.checkWord_eq⟩

end Hierarchy.Valid

end SentimentTree
