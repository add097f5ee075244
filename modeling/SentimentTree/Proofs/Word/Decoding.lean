import SentimentTree.Proofs.Basic
import SentimentTree.Proofs.Decimal.Characters
import SentimentTree.Proofs.Decimal.Literal
import SentimentTree.Word.Produce

/-! # Reading a word back

A word has no separators, but the letters `T` and `F` of its tokens stand in no number, be it finite
or not. Cut at them, a word falls into branches and fruits, and of each fruit the mean and the number
of messages are read off (`readFruits`). So two trees have the same word exactly when they show the
same fruits on the same branches.
-/

namespace SentimentTree

open Decimal

variable {geometry : Geometry} {side : Side} {a b : Bucket} {c : Char}

/-! ## Fruits -/

/-- What a bucket shows: its mean in two places and its number of messages. -/
def Bucket.shown (bucket : Bucket) : List Char × Nat :=
  (fixedText 2 bucket.contrastedMean, bucket.count.toNat)

/-- What the first fruit of a piece shows, the piece starting with the parameters of that fruit. -/
def readFruit? (piece : List Char) : Option (List Char × Nat) :=
  let mean := piece.tail.takeWhile (· != ',')
  let count := (piece.drop (mean.length + 2)).takeWhile isDigit
  (readNat? count).map fun count => (mean, count)

theorem notMem_plainText (foreign : isFigure c = false) (x : Float) : c ∉ plainText x := by
  intro member
  simp [isFigure_of_mem_plainText c member] at foreign

theorem notMem_fixedText (foreign : isFigure c = false) (places : ℕ) (x : Float) :
    c ∉ fixedText places x := by
  intro member
  simp [isFigure_of_mem_fixedText c member] at foreign

private theorem notMem_toDigits (foreign : isFigure c = false) (n : ℕ) : c ∉ Nat.toDigits 10 n := by
  intro member
  simp [isFigure_of_isNumeral (isNumeral_of_mem_toDigits c member)] at foreign

private theorem readFruit?_fruit (bucket : Bucket) (rest : List Char) :
    readFruit? ('(' :: bucket.fruit ++ ')' :: rest) = some bucket.shown := by
  have mean : ('(' :: bucket.fruit ++ ')' :: rest).tail.takeWhile (· != ',') =
      fixedText 2 bucket.contrastedMean := by
    have clean : ∀ c ∈ fixedText 2 bucket.contrastedMean, (c != ',') = true := by
      intro c member
      rw [bne_iff_ne]
      rintro rfl
      exact notMem_fixedText rfl _ _ member
    simp [Bucket.fruit, List.takeWhile_append_of_pos clean]
  have count : (('(' :: bucket.fruit ++ ')' :: rest).drop
      ((fixedText 2 bucket.contrastedMean).length + 2)).takeWhile isDigit =
        Nat.toDigits 10 bucket.count.toNat := by
    have stop : ∀ c ∈ (')' :: rest).head?, isDigit c = false := by
      intro c member
      obtain rfl := Option.some.inj member
      rfl
    simp [Bucket.fruit, (span_digits isDigit_of_mem_toDigits stop).1]
  unfold readFruit?
  rw [mean]
  dsimp only
  rw [count, readNat?_toDigits]
  rfl

/-! ## Branches -/

/-- What the fruits of a branch show, the branch being given without the letter of its trunk
segment. -/
def readBranch (piece : List Char) : List (List Char × Nat) :=
  (piece.splitOn 'F').tail.filterMap readFruit?

/-- The step and the twig of a bucket up to the letter of its fruit. -/
def Bucket.stem (geometry : Geometry) (bucket : Bucket) : List Char :=
  token 'M' (plainText geometry.step) ++ '[' :: '+' ::
    token 'W' (fixedText 1 (geometry.twigLength bucket.count))

private theorem Bucket.word_eq_stem (geometry : Geometry) (bucket : Bucket) :
    bucket.word geometry = bucket.stem geometry ++ 'F' :: ('(' :: bucket.fruit ++ [')', ']']) := by
  simp [word, stem, token]

private theorem Bucket.notMem_stem (bucket : Bucket) : 'F' ∉ bucket.stem geometry := by
  simp [stem, token, notMem_plainText, notMem_fixedText, isFigure, isNumeral]

theorem Bucket.notMem_fruit (foreign : isFigure c = false) (comma : c ≠ ',') (bucket : Bucket) :
    c ∉ bucket.fruit := by
  simp [fruit, notMem_fixedText foreign, notMem_toDigits foreign, comma]

private theorem Bucket.notMem_word (bucket : Bucket) : 'T' ∉ bucket.word geometry := by
  simp [word, token, notMem_plainText, notMem_fixedText, notMem_fruit, isFigure, isNumeral]

/-- Cut at the letters of fruits, a text with the buckets of a branch in it falls into what stands
before the first fruit and one piece for each bucket. -/
private theorem exists_splitOn_branch (geometry : Geometry) (buckets : List Bucket)
    {before after : List Char} (clean : 'F' ∉ before) (ends : 'F' ∉ after) :
    ∃ first pieces, (before ++ (buckets.flatMap (Bucket.word geometry) ++ after)).splitOn 'F' =
        (before ++ first) :: pieces ∧
      pieces.filterMap readFruit? = buckets.map Bucket.shown := by
  induction buckets generalizing before with
  | nil => exact ⟨after, [], List.splitOn_eq_singleton (by simp [clean, ends]), rfl⟩
  | cons bucket rest ih =>
    have closed : 'F' ∉ '(' :: bucket.fruit ++ [')', ']'] := by
      simp [Bucket.notMem_fruit, isFigure, isNumeral]
    obtain ⟨first, pieces, cut, shown⟩ := ih closed
    refine ⟨bucket.stem geometry, ('(' :: bucket.fruit ++ [')', ']'] ++ first) :: pieces, ?_, ?_⟩
    · have stem : 'F' ∉ before ++ bucket.stem geometry := by simp [clean, Bucket.notMem_stem]
      rw [← cut, ← splitOn_append_cons stem, List.flatMap_cons, Bucket.word_eq_stem]
      simp
    · have read := readFruit?_fruit bucket (']' :: first)
      rw [List.map_cons, ← shown, List.filterMap_cons_some]
      simpa using read

/-- A branch shows what its buckets show. -/
theorem readBranch_branch (geometry : Geometry) (buckets : List Bucket) {before after : List Char}
    (clean : 'F' ∉ before) (ends : 'F' ∉ after) :
    readBranch (before ++ (buckets.flatMap (Bucket.word geometry) ++ after)) =
      buckets.map Bucket.shown := by
  obtain ⟨first, pieces, cut, shown⟩ := exists_splitOn_branch geometry buckets clean ends
  rw [readBranch, cut, List.tail_cons, shown]

/-! ## Trunk -/

def readFruits (word : List Char) : List (List (List Char × Nat)) :=
  (word.splitOn 'T').tail.map readBranch

/-- A month's word without the letter that it starts with. -/
def MonthGroup.body (geometry : Geometry) (side : Side) (group : MonthGroup) : List Char :=
  '(' :: plainText geometry.segmentHeight ++ [')', '[', side.sign] ++
    (group.buckets.flatMap (Bucket.word geometry) ++ [']'])

private theorem MonthGroup.word_eq_body (geometry : Geometry) (side : Side) (group : MonthGroup) :
    group.word geometry side = 'T' :: group.body geometry side := by
  simp [word, body, token]

private theorem MonthGroup.notMem_body (geometry : Geometry) (side : Side) (group : MonthGroup) :
    'T' ∉ group.body geometry side := by
  have sign : 'T' ≠ side.sign := by cases side <;> decide
  simp [body, notMem_plainText, Bucket.notMem_word, isFigure, isNumeral, sign]

private theorem MonthGroup.readBranch_body (group : MonthGroup) :
    readBranch (group.body geometry side) = group.buckets.map Bucket.shown := by
  have sign : 'F' ≠ side.sign := by cases side <;> decide
  apply readBranch_branch
  · simp [notMem_plainText, isFigure, isNumeral, sign]
  · decide

/-- Cut at the letters of trunk segments, the word of months falls into them. -/
private theorem splitOn_wordFrom (geometry : Geometry) (side : Side) (months : List MonthGroup)
    {before : List Char} (clean : 'T' ∉ before) :
    ∃ pieces, (before ++ wordFrom geometry side months).splitOn 'T' = before :: pieces ∧
      pieces.map readBranch = months.map fun group => group.buckets.map Bucket.shown := by
  induction months generalizing side before with
  | nil =>
    rw [wordFrom, List.append_nil]
    exact ⟨[], List.splitOn_eq_singleton clean, rfl⟩
  | cons group rest ih =>
    obtain ⟨pieces, cut, shown⟩ := ih side.flip (group.notMem_body geometry side)
    refine ⟨group.body geometry side :: pieces, ?_, ?_⟩
    · rw [← cut, ← splitOn_append_cons clean, wordFrom, group.word_eq_body, List.cons_append]
    · rw [List.map_cons, List.map_cons, group.readBranch_body, shown]

/-- What a word shows is what the buckets of its tree show, branch by branch. -/
theorem Hierarchy.readFruits_word (tree : Hierarchy) (geometry : Geometry) :
    readFruits (tree.word geometry) =
      tree.months.map fun group => group.buckets.map Bucket.shown := by
  obtain ⟨pieces, cut, shown⟩ :=
    splitOn_wordFrom geometry geometry.firstSide tree.months (List.not_mem_nil (a := 'T'))
  rw [List.nil_append] at cut
  rw [readFruits, Hierarchy.word, cut, List.tail_cons, shown]

/-! ## Trees with the same word -/

/-- The counts and the means in two places are the same. -/
def Bucket.SameFruit (a b : Bucket) : Prop :=
  a.count = b.count ∧ fixedText 2 a.contrastedMean = fixedText 2 b.contrastedMean

theorem Bucket.shown_eq_iff : a.shown = b.shown ↔ a.SameFruit b := by
  rw [shown, shown, Prod.mk.injEq, UInt64.toNat_inj, and_comm, SameFruit]

/-- Nothing but its fruit tells the word of a bucket from that of another. -/
theorem Bucket.word_congr (same : a.SameFruit b) : a.word geometry = b.word geometry := by
  rw [word, word, fruit, fruit, same.1, same.2]

private theorem branch_congr {buckets others : List Bucket}
    (same : List.Forall₂ Bucket.SameFruit buckets others) :
    buckets.flatMap (Bucket.word geometry) = others.flatMap (Bucket.word geometry) := by
  induction same with
  | nil => rfl
  | cons first _ ih => rw [List.flatMap_cons, List.flatMap_cons, Bucket.word_congr first, ih]

def MonthGroup.SameFruits (month other : MonthGroup) : Prop :=
  List.Forall₂ Bucket.SameFruit month.buckets other.buckets

theorem MonthGroup.sameFruits_iff {month other : MonthGroup} :
    month.SameFruits other ↔ month.buckets.map Bucket.shown = other.buckets.map Bucket.shown := by
  simp only [SameFruits, map_eq_map_iff_forall₂, Bucket.shown_eq_iff]

theorem wordFrom_congr {months others : List MonthGroup}
    (same : List.Forall₂ MonthGroup.SameFruits months others) :
    wordFrom geometry side months = wordFrom geometry side others := by
  induction same generalizing side with
  | nil => rfl
  | cons first _ ih =>
    rw [wordFrom, wordFrom, MonthGroup.word, MonthGroup.word, branch_congr first, ih]

/-- Words are uniquely decodable under every geometry: two trees have the same word exactly when
they have as many months, with as many buckets each, of which the counts and the means in two places
are the same. What the buckets show is read off the word without knowing the geometry. -/
theorem Hierarchy.word_eq_word_iff (geometry : Geometry) :
    (∀ tree other : Hierarchy, tree.word geometry = other.word geometry ↔
      List.Forall₂ MonthGroup.SameFruits tree.months other.months) ∧
    ∀ tree : Hierarchy, readFruits (tree.word geometry) =
      tree.months.map fun month => month.buckets.map fun bucket =>
        (fixedText 2 bucket.contrastedMean, bucket.count.toNat) := by
  refine ⟨fun tree other => ⟨fun same => ?_, wordFrom_congr⟩, (readFruits_word · geometry)⟩
  have shown := congrArg readFruits same
  rw [readFruits_word, readFruits_word, map_eq_map_iff_forall₂] at shown
  exact shown.imp fun _ _ => MonthGroup.sameFruits_iff.mpr

example : readFruits "T(20)[+M(8)[+W(11.0)F(0.82,2)]M(8)[+W(inf)F(NaN,5)]]T(20)[-]".toList =
    [[("0.82".toList, 2), ("NaN".toList, 5)], []] := by decide

end SentimentTree
