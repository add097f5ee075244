import SentimentTree.Proofs.Word.Decoding

/-! # Branches take turns

The word of months in a row is the word of the first ones followed by that of the others, which
start on the side whose turn it is: the first side again after an even number of months, the other
one after an odd number. So months that are added later leave the word in front of them as it is,
and the other first side changes one character for each month, its turn, and nothing between.
-/

namespace SentimentTree

open Decimal

variable {geometry : Geometry} {side : Side}

/-! ## Turns -/

/-- The side whose turn it is after so many branches. -/
def Side.after (first : Side) (count : Nat) : Side := if count % 2 = 0 then first else first.flip

@[simp] theorem Side.flip_flip (side : Side) : side.flip.flip = side := by cases side <;> rfl

theorem Side.sign_flip_ne (side : Side) : side.flip.sign ≠ side.sign := by cases side <;> decide

theorem Side.after_succ (first : Side) (count : Nat) :
    first.after (count + 1) = (first.after count).flip := by
  rcases Nat.mod_two_eq_zero_or_one count with even | odd
  · rw [after, after, if_neg (by omega), if_pos even]
  · rw [after, after, if_pos (by omega), if_neg (by omega), flip_flip]

theorem Side.flip_after (first : Side) (count : Nat) :
    first.flip.after count = (first.after count).flip := by
  rw [after, after, apply_ite flip]

/-- The word of months in a row; the later ones take up the turn. -/
theorem wordFrom_append (geometry : Geometry) (side : Side) (first later : List MonthGroup) :
    wordFrom geometry side (first ++ later) =
      wordFrom geometry side first ++ wordFrom geometry (side.after first.length) later := by
  induction first generalizing side with
  | nil => rfl
  | cons group rest ih =>
    rw [List.cons_append, wordFrom, wordFrom, ih, List.length_cons, Side.flip_after,
      Side.after_succ, List.append_assoc]

/-! ## Places that change -/

/-- The places at which two texts do not hold the same character. -/
def changedPlaces (text other : List Char) : List Nat :=
  (List.range (max text.length other.length)).filter fun place => text[place]? != other[place]?

@[simp] theorem changedPlaces_self (text : List Char) : changedPlaces text text = [] := by
  simp [changedPlaces]

private theorem changedPlaces_singleton {c d : Char} (different : c ≠ d) :
    changedPlaces [c] [d] = [0] := by
  simp [changedPlaces, different, List.range_succ]

/-- Texts change in their first pieces and, further on, in their last ones. -/
private theorem changedPlaces_append {text other : List Char} (same : text.length = other.length)
    (rest rest' : List Char) :
    changedPlaces (text ++ rest) (other ++ rest') =
      changedPlaces text other ++ (changedPlaces rest rest').map (text.length + ·) := by
  have range : List.range (max (text ++ rest).length (other ++ rest').length) =
      List.range (max text.length other.length) ++
        (List.range (max rest.length rest'.length)).map (text.length + ·) := by
    rw [List.length_append, List.length_append, ← same, Nat.max_self, ← List.range_add,
      Nat.add_max_add_left]
  rw [changedPlaces, range, List.filter_append, List.filter_map]
  congr 1
  · refine List.filter_congr fun place member => ?_
    have inside := List.mem_range.mp member
    rw [List.getElem?_append_left (by omega), List.getElem?_append_left (by omega)]
  · congr 1
    refine List.filter_congr fun place _ => ?_
    rw [Function.comp_apply, List.getElem?_append_right (Nat.le_add_right _ _),
      List.getElem?_append_right (by omega), Nat.add_sub_cancel_left, ← same,
      Nat.add_sub_cancel_left]

example : changedPlaces "T(20)[+M(8)[+W(1)F(0,2)]]T(20)[-]".toList
    "T(20)[-M(8)[+W(1)F(0,2)]]T(20)[+]".toList = [6, 31] := by decide

/-! ## Signs of branches -/

/-- A month's word up to the bracket that opens its branch. -/
def Geometry.opening (geometry : Geometry) : List Char :=
  token 'T' (plainText geometry.segmentHeight) ++ ['[']

/-- A month's word after the sign of its branch. -/
def MonthGroup.branch (geometry : Geometry) (group : MonthGroup) : List Char :=
  group.buckets.flatMap (Bucket.word geometry) ++ [']']

private theorem MonthGroup.word_eq_opening (geometry : Geometry) (side : Side)
    (group : MonthGroup) :
    group.word geometry side = geometry.opening ++ ([side.sign] ++ group.branch geometry) := by
  simp [word, Geometry.opening, branch]

private theorem MonthGroup.length_word_flip (group : MonthGroup) :
    (group.word geometry side).length = (group.word geometry side.flip).length := by
  simp [word_eq_opening]

/-- The place of a month's sign in the word of months, the first one on the given side: behind the
months before it and behind its own opening bracket. -/
def signPlace (geometry : Geometry) (side : Side) (months : List MonthGroup) (index : Nat) : Nat :=
  (wordFrom geometry side (months.take index)).length + geometry.opening.length

private theorem signPlace_cons_zero (group : MonthGroup) (rest : List MonthGroup) :
    signPlace geometry side (group :: rest) 0 = geometry.opening.length := by
  simp [signPlace, wordFrom]

private theorem signPlace_cons_succ (group : MonthGroup) (rest : List MonthGroup) (index : Nat) :
    signPlace geometry side (group :: rest) (index + 1) =
      (group.word geometry side).length + signPlace geometry side.flip rest index := by
  rw [signPlace, List.take_succ_cons, wordFrom, List.length_append, signPlace, Nat.add_assoc]

private theorem MonthGroup.changedPlaces_word (group : MonthGroup) :
    changedPlaces (group.word geometry side) (group.word geometry side.flip) =
      [geometry.opening.length] := by
  have signs : changedPlaces ([side.sign] ++ group.branch geometry)
      ([side.flip.sign] ++ group.branch geometry) = [0] := by
    rw [changedPlaces_append (show [side.sign].length = [side.flip.sign].length from rfl),
      changedPlaces_self, changedPlaces_singleton side.sign_flip_ne.symm]
    rfl
  rw [word_eq_opening, word_eq_opening, changedPlaces_append rfl, changedPlaces_self, signs]
  rfl

/-- On the other side first, a word changes in the signs of its months. -/
theorem changedPlaces_wordFrom (geometry : Geometry) (side : Side) (months : List MonthGroup) :
    changedPlaces (wordFrom geometry side months) (wordFrom geometry side.flip months) =
      (List.range months.length).map (signPlace geometry side months) := by
  induction months generalizing side with
  | nil => rfl
  | cons group rest ih =>
    rw [wordFrom, wordFrom, changedPlaces_append group.length_word_flip, group.changedPlaces_word,
      ih, List.length_cons, List.range_succ_eq_map, List.map_cons, signPlace_cons_zero,
      List.map_map, List.map_map, List.singleton_append]
    congr 1
    exact List.map_congr_left fun index _ => (signPlace_cons_succ group rest index).symm

/-- The twig of a bucket turns right once. -/
theorem Bucket.count_plus_word (geometry : Geometry) (bucket : Bucket) :
    (bucket.word geometry).count '+' = 1 := by
  simp [word, token, List.count_eq_zero.mpr, notMem_plainText, notMem_fixedText,
    notMem_fruit, isFigure, isNumeral]

/-! ## Trees -/

/-- The geometry with the first branch on the given side. -/
def Geometry.startingOn (geometry : Geometry) (side : Side) : Geometry :=
  { geometry with firstSide := side }

/-- The first side decides nothing but the turns. -/
theorem wordFrom_startingOn (geometry : Geometry) (first side : Side) (months : List MonthGroup) :
    wordFrom (geometry.startingOn first) side months = wordFrom geometry side months := by
  induction months generalizing side with
  | nil => rfl
  | cons group rest ih =>
    rw [wordFrom, wordFrom, ih]
    rfl

private theorem Hierarchy.word_startingOn (tree : Hierarchy) (geometry : Geometry) (side : Side) :
    tree.word (geometry.startingOn side) = wordFrom geometry side tree.months :=
  wordFrom_startingOn geometry side side tree.months

/-- A word is put together from the words of its months, on sides that take turns: a month has the
sign of the first side behind an even number of months and the other sign behind an odd number.
Months added later only add to the word. With the first branch on the other side it differs in the
signs behind the opening brackets of the months, one for each month, although every bucket has a
sign of its own. -/
theorem Hierarchy.word_alternates (tree : Hierarchy) (geometry : Geometry) :
    (∀ first later : List MonthGroup,
      ({ tree with months := first ++ later } : Hierarchy).word geometry =
        ({ tree with months := first } : Hierarchy).word geometry ++
          ({ tree with months := later } : Hierarchy).word
            (geometry.startingOn (geometry.firstSide.after first.length)) ∧
      ({ tree with months := first } : Hierarchy).word geometry <+:
        ({ tree with months := first ++ later } : Hierarchy).word geometry) ∧
    (∀ before group after,
      ({ tree with months := before ++ group :: after } : Hierarchy).word geometry =
        ({ tree with months := before } : Hierarchy).word geometry ++
          (geometry.opening ++ ([(geometry.firstSide.after before.length).sign] ++
            (group.branch geometry ++ ({ tree with months := after } : Hierarchy).word
              (geometry.startingOn (geometry.firstSide.after (before.length + 1))))))) ∧
    changedPlaces (tree.word geometry) (tree.word (geometry.startingOn geometry.firstSide.flip)) =
      (List.range tree.months.length).map (signPlace geometry geometry.firstSide tree.months) ∧
    (changedPlaces (tree.word geometry)
      (tree.word (geometry.startingOn geometry.firstSide.flip))).length = tree.months.length ∧
    ∀ bucket : Bucket, (bucket.word geometry).count '+' = 1 := by
  have changed := changedPlaces_wordFrom geometry geometry.firstSide tree.months
  simp only [word_startingOn]
  refine ⟨fun first later => ⟨?_, ?_⟩, fun before group after => ?_, changed, ?_,
    Bucket.count_plus_word geometry⟩
  · exact wordFrom_append geometry geometry.firstSide first later
  · change wordFrom _ _ _ <+: wordFrom _ _ _
    rw [wordFrom_append]
    exact List.prefix_append _ _
  · change wordFrom _ _ _ = wordFrom _ _ _ ++ _
    rw [wordFrom_append, wordFrom, group.word_eq_opening, Side.after_succ, List.append_assoc,
      List.append_assoc]
  · change (changedPlaces (wordFrom _ _ _) _).length = _
    rw [changed, List.length_map, List.length_range]

end SentimentTree
