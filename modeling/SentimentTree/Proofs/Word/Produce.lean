import SentimentTree.Proofs.Decimal.Characters
import SentimentTree.Proofs.Word.Scan
import SentimentTree.Word.Produce

/-! # Words of trees pass the check

The word of a tree is checked without fault exactly when every number written in it is finite, and
the statistics are then those of the tree. One way round the word is built from balanced pieces; the
other way round the letters of a number that is not finite are no symbols of a word.
-/

namespace SentimentTree

open Decimal WordScan

/-! ## Pieces with numbers -/

private theorem isNeutral_of_isNumeral {c : Char} (numeral : isNumeral c = true) :
    isNeutral c = true := by
  simp only [isNumeral, isNeutral, Bool.or_eq_true, beq_iff_eq, List.contains_iff_mem,
    List.mem_cons, List.not_mem_nil, or_false] at numeral ⊢
  tauto

variable {geometry : Geometry} {bucket : Bucket} {group : MonthGroup} {months : List MonthGroup}
  {side : Side} {parameters : List Char} {symbol : Char} {gain : WordStats}

private theorem adds_token (head : Adds [symbol] gain)
    (neutral : ∀ c ∈ parameters, isNeutral c = true) : Adds (token symbol parameters) gain := by
  have whole := head.append (adds_neutral neutral).round
  rwa [WordStats.join_empty] at whole

private theorem isNeutral_of_mem_fruit (finite : bucket.contrastedMean.isFinite = true) :
    ∀ c ∈ bucket.fruit, isNeutral c = true := by
  intro c member
  rcases List.mem_append.mp member with mean | member
  · exact isNeutral_of_isNumeral (isNumeral_of_mem_fixedText finite c mean)
  · rcases List.mem_cons.mp member with rfl | count
    · rfl
    · exact isNeutral_of_isNumeral (isNumeral_of_mem_toDigits c count)

/-- The numbers written for a bucket are finite. -/
structure Bucket.RendersFinite (geometry : Geometry) (bucket : Bucket) : Prop where
  step : geometry.step.isFinite = true
  length : (geometry.twigLength bucket.count).isFinite = true
  mean : bucket.contrastedMean.isFinite = true

private theorem Bucket.adds_word (finite : bucket.RendersFinite geometry) :
    Adds (bucket.word geometry) { steps := 1, fruits := 1, maxDepth := 1 } := by
  have step : Adds (token 'M' (plainText geometry.step)) { steps := 1 } :=
    adds_token (adds_counted (.inr (.inl rfl))) fun c member =>
      isNeutral_of_isNumeral (isNumeral_of_mem_plainText finite.step c member)
  have turn : Adds ['+'] {} := adds_neutral (List.forall_mem_singleton.mpr rfl)
  have twig : Adds (token 'W' (fixedText 1 (geometry.twigLength bucket.count))) {} :=
    adds_token (adds_neutral (List.forall_mem_singleton.mpr rfl)) fun c member =>
      isNeutral_of_isNumeral (isNumeral_of_mem_fixedText finite.length c member)
  have fruit : Adds (token 'F' bucket.fruit) { fruits := 1 } :=
    adds_token (adds_counted (.inr (.inr rfl))) (isNeutral_of_mem_fruit finite.mean)
  have whole := step.append ((turn.append twig).append fruit).square
  simpa [Bucket.word, WordStats.join, WordStats.atDepth] using whole

/-! ## Branches and trunk -/

def branchStats (count : Nat) : WordStats :=
  { steps := count, fruits := count, maxDepth := min count 1 }

private theorem adds_branch {buckets : List Bucket}
    (finite : ∀ bucket ∈ buckets, bucket.RendersFinite geometry) :
    Adds (buckets.flatMap (Bucket.word geometry)) (branchStats buckets.length) := by
  induction buckets with
  | nil => exact .nil
  | cons bucket rest ih =>
    have first := Bucket.adds_word (finite bucket List.mem_cons_self)
    have others := ih fun other member => finite other (List.mem_cons_of_mem _ member)
    have joined : WordStats.join { steps := 1, fruits := 1, maxDepth := 1 }
        (branchStats rest.length) = branchStats (rest.length + 1) := by
      simp only [WordStats.join, branchStats, WordStats.mk.injEq, true_and]
      omega
    rw [List.flatMap_cons, List.length_cons, ← joined]
    exact first.append others

theorem Side.isNeutral_sign (side : Side) : isNeutral side.sign = true := by cases side <;> rfl

private theorem MonthGroup.adds_word (segment : geometry.segmentHeight.isFinite = true)
    (finite : ∀ bucket ∈ group.buckets, bucket.RendersFinite geometry) :
    Adds (group.word geometry side)
      { branchStats group.buckets.length with
        segments := 1, maxDepth := min group.buckets.length 1 + 1 } := by
  have trunk : Adds (token 'T' (plainText geometry.segmentHeight)) { segments := 1 } :=
    adds_token (adds_counted (.inl rfl)) fun c member =>
      isNeutral_of_isNumeral (isNumeral_of_mem_plainText segment c member)
  have turn : Adds [side.sign] {} := adds_neutral (by simpa using side.isNeutral_sign)
  have whole := trunk.append (turn.append (adds_branch finite)).square
  simpa [MonthGroup.word, WordStats.join, WordStats.atDepth, branchStats, Nat.add_comm] using whole

/-- The statistics of a tree of months: a segment for each, a step and a fruit for each bucket, and
the depth of the branches and their twigs. -/
def wordStats (months : List MonthGroup) : WordStats where
  segments := months.length
  steps := (months.flatMap (·.buckets)).length
  fruits := (months.flatMap (·.buckets)).length
  maxDepth := if months = [] then 0 else if months.flatMap (·.buckets) = [] then 1 else 2

theorem wordStats_cons (group : MonthGroup) (months : List MonthGroup) :
    wordStats (group :: months) = WordStats.join
      { branchStats group.buckets.length with
        segments := 1, maxDepth := min group.buckets.length 1 + 1 } (wordStats months) := by
  have empty : months.length = 0 → (months.flatMap (·.buckets)).length = 0 := by
    intro none
    rw [List.length_eq_zero_iff.mp none]
    rfl
  simp only [wordStats, WordStats.join, branchStats, List.length_cons, List.flatMap_cons,
    ← List.length_eq_zero_iff, List.length_append, WordStats.mk.injEq, true_and]
  refine ⟨Nat.add_comm _ _, ?_⟩
  rw [if_neg (Nat.succ_ne_zero _)]
  split_ifs <;> omega

/-- The numbers written for a tree are finite: the segment height if there is a month, and those of
every bucket. -/
structure Hierarchy.RendersFinite (geometry : Geometry) (tree : Hierarchy) : Prop where
  segment : tree.months ≠ [] → geometry.segmentHeight.isFinite = true
  buckets : ∀ bucket ∈ tree.buckets, bucket.RendersFinite geometry

private theorem adds_wordFrom (side : Side)
    (segment : months ≠ [] → geometry.segmentHeight.isFinite = true)
    (finite : ∀ bucket ∈ months.flatMap (·.buckets), bucket.RendersFinite geometry) :
    Adds (wordFrom geometry side months) (wordStats months) := by
  induction months generalizing side with
  | nil => exact .nil
  | cons group rest ih =>
    have height := segment (List.cons_ne_nil _ _)
    rw [wordStats_cons]
    refine (MonthGroup.adds_word height fun bucket member => ?_).append
      (ih side.flip (fun _ => height) fun bucket member => ?_)
    · exact finite bucket (List.mem_append_left _ member)
    · exact finite bucket (List.mem_append_right _ member)

/-! ## Words of symbols -/

variable {x : Float}

private theorem isFinite_of_symbols {text : List Char} {a b : Char}
    (letter : x.isFinite = false → a ∈ text ∨ b ∈ text) (foreign : isWordSymbol a = false)
    (foreign' : isWordSymbol b = false) (symbols : ∀ c ∈ text, isWordSymbol c = true) :
    x.isFinite = true := by
  by_contra infinite
  rcases letter (Bool.eq_false_iff.mpr infinite) with member | member
  · simp [symbols a member] at foreign
  · simp [symbols b member] at foreign'

private theorem isFinite_of_plainText_symbols (symbols : ∀ c ∈ plainText x, isWordSymbol c = true) :
    x.isFinite = true :=
  isFinite_of_symbols (fun infinite => (letter_of_not_finite infinite 0).1) rfl rfl symbols

private theorem isFinite_of_fixedText_symbols (places : Nat)
    (symbols : ∀ c ∈ fixedText places x, isWordSymbol c = true) : x.isFinite = true :=
  isFinite_of_symbols (fun infinite => (letter_of_not_finite infinite places).2) rfl rfl symbols

private theorem Bucket.rendersFinite_of_symbols
    (symbols : ∀ c ∈ bucket.word geometry, isWordSymbol c = true) :
    bucket.RendersFinite geometry where
  step := isFinite_of_plainText_symbols fun c member => symbols c (by simp [word, token, member])
  length := isFinite_of_fixedText_symbols 1 fun c member =>
    symbols c (by simp [word, token, member])
  mean := isFinite_of_fixedText_symbols 2 fun c member =>
    symbols c (by simp [word, token, fruit, member])

private theorem rendersFinite_of_wordFrom_symbols
    (symbols : ∀ c ∈ wordFrom geometry side months, isWordSymbol c = true) :
    (months ≠ [] → geometry.segmentHeight.isFinite = true) ∧
      ∀ bucket ∈ months.flatMap (·.buckets), bucket.RendersFinite geometry := by
  induction months generalizing side with
  | nil => simp
  | cons group rest ih =>
    rw [wordFrom, List.forall_mem_append] at symbols
    obtain ⟨month, others⟩ := symbols
    refine ⟨fun _ => isFinite_of_plainText_symbols fun c member => month c ?_, ?_⟩
    · simp [MonthGroup.word, token, member]
    · rw [List.flatMap_cons, List.forall_mem_append]
      refine ⟨fun bucket inside => Bucket.rendersFinite_of_symbols fun c member => month c ?_,
        (ih others).2⟩
      have written : c ∈ group.buckets.flatMap (Bucket.word geometry) :=
        List.mem_flatMap.mpr ⟨bucket, inside, member⟩
      simp only [MonthGroup.word, List.mem_append, List.mem_cons]
      exact .inl (.inr (.inr (.inr written)))

/-- A word without foreign symbols shows finite numbers only. -/
theorem Hierarchy.rendersFinite_of_checkWord {tree : Hierarchy} {stats : WordStats}
    (accepted : checkWord (tree.word geometry) = .ok stats) : tree.RendersFinite geometry := by
  unfold checkWord at accepted
  split at accepted
  · rename_i ran
    obtain ⟨segment, buckets⟩ := rendersFinite_of_wordFrom_symbols (isWordSymbol_of_run ran)
    exact ⟨segment, buckets⟩
  · cases accepted

theorem Hierarchy.RendersFinite.checkWord_eq {tree : Hierarchy}
    (finite : tree.RendersFinite geometry) :
    checkWord (tree.word geometry) = .ok (wordStats tree.months) := by
  obtain ⟨offset, ran⟩ :=
    adds_wordFrom geometry.firstSide finite.segment finite.buckets {} (Nat.le_refl 0)
  rw [checkWord, Hierarchy.word, ran]
  change Except.ok (WordStats.join {} ((wordStats tree.months).atDepth 0)) = _
  rw [WordStats.atDepth_zero, WordStats.empty_join]

/-- The word of a tree is accepted exactly when every number written in it is finite, and then with
the statistics of the tree. -/
theorem checkWord_word_eq_ok_iff (tree : Hierarchy) (geometry : Geometry) (stats : WordStats) :
    checkWord (tree.word geometry) = .ok stats ↔
      tree.RendersFinite geometry ∧
      stats = { segments := tree.months.length
                steps := tree.bucketCount
                fruits := tree.bucketCount
                maxDepth :=
                  if tree.months = [] then 0 else if tree.buckets = [] then 1 else 2 } := by
  constructor
  · intro accepted
    have finite := Hierarchy.rendersFinite_of_checkWord accepted
    exact ⟨finite, Except.ok.inj (accepted.symm.trans finite.checkWord_eq)⟩
  · rintro ⟨finite, rfl⟩
    exact finite.checkWord_eq

end SentimentTree
