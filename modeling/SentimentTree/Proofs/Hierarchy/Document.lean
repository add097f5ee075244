import SentimentTree.Hierarchy.Document
import SentimentTree.Proofs.Calendar.Spelling
import SentimentTree.Proofs.Decimal.DataText
import SentimentTree.Proofs.Json.Fields
import SentimentTree.Proofs.Json.RoundTrip

/-! # Documents of trees

Which trees survive their document: those without a negative year whose numbers are finite
(`Hierarchy.Storable`). Whatever is read from a document is such a tree, in whichever of the
accepted spellings it was written, so writing what was read loses nothing.
-/

namespace SentimentTree

open Calendar

/-! ## What can be stored -/

/-- All numbers of the bucket are finite. -/
structure Bucket.Storable (bucket : Bucket) : Prop where
  rawMean : bucket.rawMean.isFinite = true
  contrastedMean : bucket.contrastedMean.isFinite = true
  normalizedCount : ∀ x ∈ bucket.normalizedCount, x.isFinite = true

/-- The year is not negative and each bucket can be stored. -/
structure MonthGroup.Storable (group : MonthGroup) : Prop where
  year : 0 ≤ group.month.year
  buckets : ∀ bucket ∈ group.buckets, bucket.Storable

/-- The numbers fit their fields and each month can be stored. -/
structure Hierarchy.Storable (tree : Hierarchy) : Prop where
  trunk : tree.trunkHeight.isFinite = true
  total : tree.totalMonths ≤ Decimal.maxUnsigned64
  months : ∀ group ∈ tree.months, group.Storable

/-! ## Values -/

namespace Json

private theorem nat?_nat {bound n : ℕ} (small : n ≤ bound) : (nat n).nat? bound = some n := by
  have reads := Decimal.readNat?_toDigits n
  have digits := Decimal.isDigit_of_mem_toDigits (n := n)
  have literal : integerLiteral? (Nat.toDigits 10 n) = some (false, n) := by
    unfold integerLiteral?
    split
    · rename_i rest shape
      rw [shape] at digits
      exact (Decimal.ne_of_isDigit (digits '-' List.mem_cons_self) rfl rfl).elim
    · rw [reads]
      rfl
  simp only [nat, nat?, literal, if_pos small]

private theorem le_of_nat? {bound n : ℕ} {value : Json} (reads : value.nat? bound = some n) :
    n ≤ bound := by
  unfold nat? at reads
  split at reads
  · split at reads
    · split at reads
      · rename_i small
        obtain rfl := Option.some.inj reads
        exact small
      · nomatch reads
    · nomatch reads
  · nomatch reads

private theorem count?_toNat (count : UInt64) : (nat count.toNat).count? = some count := by
  have small : count.toNat ≤ Decimal.maxUnsigned64 := Nat.le_pred_of_lt count.toNat_lt
  rw [count?, nat?_nat small, Option.map_some, UInt64.ofNat_toNat]

private theorem float?_float {x : Float} (finite : x.isFinite = true) :
    (float x).float? = some x := by
  obtain ⟨_, _, _, _, reads⟩ := float_spec finite
  exact reads

private theorem date?_toJson (date : Date) : date.toJson.date? = some date := by
  simp only [date?, Date.toJson, text, text?, Option.bind_eq_bind, Option.bind_some,
    String.toList_ofList, date.read?_text]

/-- A month's text is read as the month, or not at all if its year is negative. -/
private theorem yearMonth?_text (month : YearMonth) :
    (text (String.ofList month.text)).yearMonth? =
      if 0 ≤ month.year then some month else none := by
  simp only [yearMonth?, text, text?, Option.bind_eq_bind, Option.bind_some, String.toList_ofList]
  split_ifs with nonneg
  · rw [YearMonth.read_text_of_nonneg nonneg]
  · rw [YearMonth.read_text_of_neg (not_le.mp nonneg)]

private theorem year_nonneg_of_yearMonth? {value : Json} {month : YearMonth}
    (reads : value.yearMonth? = some month) : 0 ≤ month.year := by
  obtain ⟨text, -, reads⟩ := Option.bind_eq_some_iff.mp reads
  split at reads
  · rename_i found named
    obtain rfl := Option.some.inj reads
    exact YearMonth.year_nonneg_of_read named
  · nomatch reads

end Json

/-- The fields of a bucket's record. -/
private theorem Bucket.fields?_toJson (bucket : Bucket) :
    bucket.toJson.fields? fieldNames = some [some bucket.label.toJson, some bucket.start.toJson,
      some bucket.stop.toJson, some (.nat bucket.count.toNat), some (.float bucket.rawMean),
      some (.float bucket.contrastedMean), bucket.normalizedCount.map .float,
      bucket.rawCount.map fun count => .nat count.toNat] := by
  obtain ⟨label, start, stop, count, raw, contrasted, normalized, rawCount⟩ := bucket
  unfold toJson
  rw [Json.fields?_record]
  · cases normalized <;> cases rawCount <;>
      simp [fieldNames, optionalMember, List.lookup_cons]
  · cases normalized <;> cases rawCount <;> simp [optionalMember]

/-- A bucket that can be stored is read back from its record. -/
theorem Bucket.Storable.ofJson?_toJson {bucket : Bucket} (storable : bucket.Storable) :
    ofJson? bucket.toJson = some bucket := by
  have fields := bucket.fields?_toJson
  obtain ⟨rawMean, contrastedMean, normalizedCount⟩ := storable
  have normalized : Json.missing? Json.float? (bucket.normalizedCount.map .float) =
      some bucket.normalizedCount := by
    apply Json.missing?_map
    intro x present
    obtain ⟨_, _, _, written, reads⟩ := Json.float_spec (normalizedCount x present)
    exact ⟨by rw [written]; nofun, reads⟩
  have rawCount : Json.missing? Json.count?
      (bucket.rawCount.map fun count => Json.nat count.toNat) = some bucket.rawCount :=
    Json.missing?_map fun count _ => ⟨nofun, Json.count?_toNat count⟩
  rw [ofJson?, fields]
  simp only [Option.bind_eq_bind, Option.bind_some, Json.date?_toJson, Json.count?_toNat,
    Json.float?_float rawMean, Json.float?_float contrastedMean, normalized, rawCount]
  rfl

/-- Whatever is read as a bucket can be stored. -/
theorem Bucket.storable_of_ofJson? {value : Json} {bucket : Bucket}
    (reads : ofJson? value = some bucket) : bucket.Storable := by
  unfold ofJson? at reads
  obtain ⟨fields, -, reads⟩ := Option.bind_eq_some_iff.mp reads
  split at reads
  · simp only [Option.bind_eq_bind, Option.bind_eq_some_iff, Option.pure_def,
      Option.some.injEq] at reads
    obtain ⟨label, -, start, -, stop, -, count, -, raw, readRaw, contrasted, readContrasted,
      normalized, readNormalized, rawCount, -, rfl⟩ := reads
    refine ⟨Json.isFinite_of_float? readRaw, Json.isFinite_of_float? readContrasted, ?_⟩
    rintro x rfl
    obtain ⟨value, reads⟩ := Json.exists_value_of_missing? readNormalized
    exact Json.isFinite_of_float? reads
  · nomatch reads

/-- The fields of a month's record. -/
private theorem MonthGroup.fields?_toJson (group : MonthGroup) :
    group.toJson.fields? ["month", "weeks"] = some [some (.text (String.ofList group.month.text)),
      some (.array (group.buckets.map Bucket.toJson))] := by
  unfold toJson
  rw [Json.fields?_record (by simp)]
  simp [List.lookup_cons]

/-- A month that can be stored is read back from its record. -/
theorem MonthGroup.Storable.ofJson?_toJson {group : MonthGroup} (storable : group.Storable) :
    ofJson? group.toJson = some group := by
  have buckets := Json.items?_map fun bucket member =>
    (storable.buckets bucket member).ofJson?_toJson
  rw [ofJson?, group.fields?_toJson]
  simp only [Option.bind_eq_bind, Option.bind_some, Json.yearMonth?_text, storable.year, if_true,
    buckets]
  rfl

/-- A month of a negative year is not read back. -/
private theorem MonthGroup.ofJson?_toJson_of_neg {group : MonthGroup}
    (negative : group.month.year < 0) :
    ofJson? group.toJson = none := by
  rw [ofJson?, group.fields?_toJson]
  simp only [Option.bind_eq_bind, Option.bind_some, Json.yearMonth?_text, negative.not_ge, if_false]
  rfl

/-- Whatever is read as a month can be stored. -/
theorem MonthGroup.storable_of_ofJson? {value : Json} {group : MonthGroup}
    (reads : ofJson? value = some group) : group.Storable := by
  unfold ofJson? at reads
  obtain ⟨fields, -, reads⟩ := Option.bind_eq_some_iff.mp reads
  split at reads
  · simp only [Option.bind_eq_bind, Option.bind_eq_some_iff, Option.pure_def,
      Option.some.injEq] at reads
    obtain ⟨month, readMonth, buckets, readBuckets, rfl⟩ := reads
    refine ⟨Json.year_nonneg_of_yearMonth? readMonth, ?_⟩
    intro bucket member
    obtain ⟨item, readItem⟩ := Json.exists_item_of_items? readBuckets bucket member
    exact Bucket.storable_of_ofJson? readItem
  · nomatch reads

namespace Hierarchy

variable {tree : Hierarchy}

/-- The fields of a tree's document. -/
private theorem fields?_toJson (tree : Hierarchy) :
    tree.toJson.fields? ["meta", "months"] = some [
      some (.record [("trunk_height", .float tree.trunkHeight),
        ("total_months", .nat tree.totalMonths)]),
      some (.array (tree.months.map MonthGroup.toJson))] := by
  unfold toJson
  rw [Json.fields?_record (by simp)]
  simp [List.lookup_cons]

/-- The fields of the record about the whole tree. -/
private theorem fields?_summary (height total : Json) :
    (Json.record [("trunk_height", height), ("total_months", total)]).fields?
      ["trunk_height", "total_months"] = some [some height, some total] := by
  rw [Json.fields?_record (by simp)]
  simp [List.lookup_cons]

/-- A tree that can be stored is read back from its document. -/
theorem Storable.ofJson?_toJson (storable : tree.Storable) : ofJson? tree.toJson = some tree := by
  have months := Json.items?_map fun group member =>
    (storable.months group member).ofJson?_toJson
  rw [ofJson?, tree.fields?_toJson]
  simp only [Option.bind_eq_bind, Option.bind_some, fields?_summary,
    Json.float?_float storable.trunk, Json.nat?_nat storable.total, months]
  rfl

/-- A tree with a month of a negative year is not read back. -/
theorem ofJson?_toJson_of_neg {group : MonthGroup} (member : group ∈ tree.months)
    (negative : group.month.year < 0) : ofJson? tree.toJson = none := by
  have months : (Json.array (tree.months.map MonthGroup.toJson)).items? MonthGroup.ofJson? =
      none :=
    Json.items?_eq_none (List.mem_map_of_mem member) (MonthGroup.ofJson?_toJson_of_neg negative)
  rw [ofJson?, tree.fields?_toJson]
  simp only [Option.bind_eq_bind, Option.bind_some, fields?_summary, months, Option.bind_none,
    Option.bind_fun_none]

/-- Whatever is read as a tree can be stored. -/
theorem storable_of_ofJson? {value : Json} (reads : ofJson? value = some tree) : tree.Storable := by
  unfold ofJson? at reads
  obtain ⟨fields, -, reads⟩ := Option.bind_eq_some_iff.mp reads
  split at reads
  · obtain ⟨summary, -, reads⟩ := Option.bind_eq_some_iff.mp reads
    split at reads
    · simp only [Option.bind_eq_bind, Option.bind_eq_some_iff, Option.pure_def,
        Option.some.injEq] at reads
      obtain ⟨height, readHeight, total, readTotal, months, readMonths, rfl⟩ := reads
      refine ⟨Json.isFinite_of_float? readHeight, Json.le_of_nat? readTotal, ?_⟩
      intro group member
      obtain ⟨item, readItem⟩ := Json.exists_item_of_items? readMonths group member
      exact MonthGroup.storable_of_ofJson? readItem
    · nomatch reads
  · nomatch reads

end Hierarchy

/-! ## Text -/

namespace Json

theorem Writable.text (value : String) : (text value).Writable := .string value

private theorem Writable.nat (n : ℕ) : (nat n).Writable := by
  have wellFormed : Decimal.Literal.WellFormed ⟨Nat.toDigits 10 n, [], none⟩ :=
    ⟨Decimal.isDigit_of_mem_toDigits, nofun, Decimal.isWholePart_toDigits n⟩
  have shape : Decimal.Literal.text ⟨Nat.toDigits 10 n, [], none⟩ = Nat.toDigits 10 n :=
    List.append_nil _
  exact .number (shape ▸ wellFormed.isNumberLiteral_text)

theorem Writable.float (x : Float) : (float x).Writable := by
  cases finite : x.isFinite with
  | true =>
    obtain ⟨negative, literal, wellFormed, written, -⟩ := float_spec finite
    rw [written]
    exact .number (wellFormed.isNumberLiteral_signed negative)
  | false =>
    have parts := (Decimal.isFinite_iff_parts x).not.mp (Bool.eq_false_iff.mp finite)
    unfold Json.float Decimal.dataText?
    split
    · rename_i written
      split at written
      · rename_i negative magnitude shape
        exact (parts ⟨negative, magnitude, shape⟩).elim
      · nomatch written
    · exact .null

theorem Writable.record {members : List (String × Json)}
    (each : ∀ member ∈ members, member.2.Writable) : (record members).Writable := by
  refine .object ?_ ?_
  · intro member inside
    obtain ⟨_, _, rfl⟩ := List.mem_map.mp inside
    rfl
  · intro member inside
    obtain ⟨source, present, rfl⟩ := List.mem_map.mp inside
    exact each source present

theorem Writable.list {α : Type} {write : α → Json} {items : List α}
    (each : ∀ item ∈ items, (write item).Writable) : (Json.array (items.map write)).Writable := by
  refine .array ?_
  intro item inside
  obtain ⟨source, present, rfl⟩ := List.mem_map.mp inside
  exact each source present

end Json

private theorem writable_of_mem_optionalMember {name : String} {value : Option Json}
    (writable : ∀ written ∈ value, written.Writable) :
    ∀ member ∈ optionalMember name value, member.2.Writable := by
  intro member inside
  cases value with
  | none => nomatch inside
  | some written =>
    obtain rfl := List.mem_singleton.mp inside
    exact writable written rfl

private theorem Bucket.toJson_writable (bucket : Bucket) : bucket.toJson.Writable := by
  refine .record ?_
  simp only [List.forall_mem_append, List.forall_mem_cons]
  refine ⟨⟨⟨.text _, .text _, .text _, .nat _, .float _, .float _, nofun⟩, ?_⟩, ?_⟩
  · apply writable_of_mem_optionalMember
    intro written present
    obtain ⟨x, -, rfl⟩ := Option.map_eq_some_iff.mp present
    exact .float x
  · apply writable_of_mem_optionalMember
    intro written present
    obtain ⟨count, -, rfl⟩ := Option.map_eq_some_iff.mp present
    exact .nat count.toNat

private theorem MonthGroup.toJson_writable (group : MonthGroup) : group.toJson.Writable := by
  refine .record ?_
  simp only [List.forall_mem_cons]
  exact ⟨.text _, .list fun bucket _ => bucket.toJson_writable, nofun⟩

private theorem Hierarchy.toJson_writable (tree : Hierarchy) : tree.toJson.Writable := by
  refine .record ?_
  simp only [List.forall_mem_cons]
  refine ⟨.record ?_, .list fun group _ => group.toJson_writable, nofun⟩
  simp only [List.forall_mem_cons]
  exact ⟨.float _, .nat _, nofun⟩

/-- The text of a document is read as the document. -/
theorem Hierarchy.ofDocumentText?_documentText (tree : Hierarchy) :
    ofDocumentText? tree.documentText = ofJson? tree.toJson := by
  rw [ofDocumentText?, documentText, tree.toJson_writable.parse?_pretty, Option.bind_some]

end SentimentTree
