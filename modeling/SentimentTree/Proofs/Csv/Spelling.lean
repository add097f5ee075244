import Mathlib.Data.List.Basic
import SentimentTree.Csv.Records

/-! # Spellings of comma-separated records

A field without commas, quotes and line breaks may stand as it is; any field may stand between
quotes with its own quotes doubled. Whichever way each field is written, and whether lines end with a
line feed or with a carriage return in front of it, reading gives the fields back. The scan is
followed field by field: what counts is that behind a field it stands where a comma or a line end
closes the field, and nowhere else.
-/

namespace SentimentTree.Csv

open Text (Glyph)

def glyphsOf (text : List Char) : List Glyph := text.map some

/-! ## Spellings -/

/-- A character that has a meaning in a sheet. -/
def isSpecial (c : Char) : Bool := [',', '"', '\n', '\r'].contains c

def doubled (field : List Char) : List Char :=
  field.flatMap fun c => if c = '"' then ['"', '"'] else [c]

/-- A field is written bare or between quotes. -/
inductive SpellsField (field : List Char) : List Char → Prop
  | bare (plain : ∀ c ∈ field, isSpecial c = false) : SpellsField field field
  | quoted : SpellsField field ('"' :: (doubled field ++ ['"']))

/-- The fields of a record have commas between. -/
inductive SpellsRecord : List (List Char) → List Char → Prop
  | last {field text : List Char} (spelled : SpellsField field text) : SpellsRecord [field] text
  | cons {field text : List Char} {rest : List (List Char)} {more : List Char}
      (spelled : SpellsField field text) (later : SpellsRecord rest more) :
      SpellsRecord (field :: rest) (text ++ ',' :: more)

/-- A line ends with a line feed, which may have a carriage return in front of it. -/
inductive LineEnd : List Char → Prop
  | feed : LineEnd ['\n']
  | both : LineEnd ['\r', '\n']

/-- Every record but the last has a line end behind it; the last may have one. -/
inductive Spells : List (List (List Char)) → List Char → Prop
  | nil : Spells [] []
  | last {record : List (List Char)} {text : List Char} (spelled : SpellsRecord record text) :
      Spells [record] text
  | cons {record : List (List Char)} {text stop : List Char} {rest : List (List (List Char))}
      {more : List Char} (spelled : SpellsRecord record text) (ended : LineEnd stop)
      (later : Spells rest more) : Spells (record :: rest) (text ++ (stop ++ more))

/-! ## Fields -/

namespace Scan

variable {scan next : Scan} {field text : List Char} {fields : List (List Char)}

def after (scan : Scan) (text : List Char) : Scan := (glyphsOf text).foldl Scan.step scan

private theorem after_append (scan : Scan) (text more : List Char) :
    scan.after (text ++ more) = (scan.after text).after more := by
  rw [after, glyphsOf, List.map_append, List.foldl_append]
  rfl

private theorem after_cons (scan : Scan) (c : Char) (text : List Char) :
    scan.after (c :: text) = (scan.step (some c)).after text := rfl

/-- The scan is in front of a field. -/
structure AtStart (scan : Scan) : Prop where
  place : scan.place = .recordStart ∨ scan.place = .fieldStart
  field : scan.field = []

private theorem step_plain {c : Char} (outside : scan.place ≠ .quoted ∧ scan.place ≠ .quote)
    (plain : isSpecial c = false) : scan.step (some c) = scan.push .plain (some c) := by
  rcases scan with ⟨place, read, fields, records⟩
  simp only [isSpecial, List.contains_cons, List.contains_nil, Bool.or_false, Bool.or_eq_false_iff,
    beq_eq_false_iff_ne, ne_eq] at plain
  obtain ⟨comma, quote, feed, back⟩ := plain
  cases place <;> simp_all [step, unquoted]

/-- Plain characters are collected. -/
private theorem after_plain (inside : scan.place = .plain)
    (plain : ∀ c ∈ text, isSpecial c = false) :
    scan.after text = { scan with field := (glyphsOf text).reverse ++ scan.field } := by
  induction text generalizing scan with
  | nil => rfl
  | cons c text ih =>
    obtain ⟨own, plain⟩ := List.forall_mem_cons.mp plain
    rw [after_cons, step_plain (by simp [inside]) own, ih rfl plain]
    simp [push, glyphsOf, inside]

/-- Between quotes all characters are collected, a doubled quote as one. -/
private theorem after_doubled (inside : scan.place = .quoted) :
    scan.after (doubled text) = { scan with field := (glyphsOf text).reverse ++ scan.field } := by
  induction text generalizing scan with
  | nil => rfl
  | cons c text ih =>
    have one : scan.after (if c = '"' then ['"', '"'] else [c]) = scan.push .quoted (some c) := by
      split
      · rename_i quote
        subst quote
        simp [after, glyphsOf, step, inside, push]
      · rename_i other
        simp [after, glyphsOf, step, inside, other]
    rw [doubled, List.flatMap_cons, after_append, one]
    change (scan.push .quoted (some c)).after (doubled text) = _
    rw [ih rfl]
    simp [push, glyphsOf, inside]

/-- What the scan has read, and where it is behind it. -/
structure Holds (before after : Scan) (field : List Char) : Prop where
  place : after.place = before.place ∨ after.place = .plain ∨ after.place = .quote
  field : after.field = (glyphsOf field).reverse
  fields : after.fields = before.fields
  records : after.records = before.records

/-- A field is read from either spelling. -/
private theorem holds_of_spells (start : scan.AtStart) (spelled : SpellsField field text) :
    scan.Holds (scan.after text) field := by
  obtain ⟨place, empty⟩ := start
  cases spelled with
  | bare plain =>
    cases field with
    | nil => exact ⟨.inl rfl, empty, rfl, rfl⟩
    | cons c field =>
      obtain ⟨own, plain⟩ := List.forall_mem_cons.mp plain
      rw [after_cons, step_plain (by rcases place with place | place <;> simp [place]) own,
        after_plain rfl plain]
      refine ⟨.inr (.inl rfl), ?_, rfl, rfl⟩
      simp [push, glyphsOf, empty]
  | quoted =>
    have opened : scan.step (some '"') = { scan with place := .quoted } := by
      rcases place with place | place <;> simp [step, place]
    rw [after_cons, opened, after_append, after_doubled rfl]
    refine ⟨.inr (.inr rfl), ?_, rfl, rfl⟩
    simp [after, glyphsOf, step, empty]

/-- A comma behind a field closes it. -/
private theorem Holds.step_comma (start : scan.AtStart) (held : scan.Holds next field) :
    next.step (some ',') = next.endField := by
  rcases next with ⟨place, read, fields, records⟩
  obtain ⟨place, -, -, -⟩ := held
  rcases start.place with first | first <;> rw [first] at place <;>
    rcases place with place | place | place <;> dsimp only at place <;> subst place <;>
    simp [step, unquoted]

/-! ## Records -/

/-- What the scan has read of a record that is still open. -/
structure Gathers (before after : Scan) (fields : List (List Char)) : Prop where
  place : after.place = .fieldStart ∨ after.place = .plain ∨ after.place = .quote
  fields : after.endField.fields = (fields.map glyphsOf).reverse ++ before.fields
  records : after.records = before.records

/-- A record's rest is read from the place behind a comma. -/
private theorem gathers_of_fieldStart (place : scan.place = .fieldStart) (empty : scan.field = [])
    (spelled : SpellsRecord fields text) : scan.Gathers (scan.after text) fields := by
  induction spelled generalizing scan with
  | last spelled =>
    have held := holds_of_spells ⟨.inr place, empty⟩ spelled
    refine ⟨place ▸ held.place, ?_, held.records⟩
    simp [endField, held.field, held.fields]
  | @cons field text rest more spelled later ih =>
    have start : scan.AtStart := ⟨.inr place, empty⟩
    have held := holds_of_spells start spelled
    rw [after_append, after_cons, held.step_comma start]
    obtain ⟨place', fields, records⟩ := @ih (scan.after text).endField rfl rfl
    refine ⟨place', ?_, records.trans held.records⟩
    rw [fields]
    simp [endField, held.field, held.fields]

/-- A record of two fields or more is read from the start of a line. -/
private theorem gathers_of_spells (start : scan.AtStart) (wide : 2 ≤ fields.length)
    (spelled : SpellsRecord fields text) : scan.Gathers (scan.after text) fields := by
  cases spelled with
  | last _ => simp at wide
  | @cons field text rest more spelled later =>
    have held := holds_of_spells start spelled
    rw [after_append, after_cons, held.step_comma start]
    obtain ⟨place, fields, records⟩ :=
      @gathers_of_fieldStart (scan.after text).endField _ _ rfl rfl later
    refine ⟨place, ?_, records.trans held.records⟩
    rw [fields]
    simp [endField, held.field, held.fields]

/-- The scan at the start of a line, behind some records. -/
def atLine (done : List (List Field)) : Scan := { records := done }

private theorem Gathers.endRecord_eq {done : List (List Field)}
    (gathered : (atLine done).Gathers next fields) :
    next.endRecord = atLine (fields.map glyphsOf :: done) := by
  simp [endRecord, gathered.fields, gathered.records, atLine]

/-- A line end behind a record closes it. -/
private theorem Gathers.after_lineEnd {done : List (List Field)} {stop : List Char}
    (gathered : (atLine done).Gathers next fields) (ended : LineEnd stop) :
    next.after stop = atLine (fields.map glyphsOf :: done) := by
  have closed : ∀ c : Char, c = '\n' ∨ c = '\r' → next.step (some c) = next.endRecord := by
    intro c broken
    rcases next with ⟨place, read, fields, records⟩
    obtain ⟨place, -, -⟩ := gathered
    rcases place with place | place | place <;> dsimp only at place <;> subst place <;>
      rcases broken with rfl | rfl <;> simp [step, unquoted]
  cases ended with
  | feed => rw [after_cons, closed _ (.inl rfl), gathered.endRecord_eq]; rfl
  | both => rw [after_cons, closed _ (.inr rfl), gathered.endRecord_eq]; rfl

private theorem Gathers.finish_eq {done : List (List Field)}
    (gathered : (atLine done).Gathers next fields) :
    next.finish = done.reverse ++ [fields.map glyphsOf] := by
  have closed : next.finish = next.endRecord.records.reverse := by
    rcases next with ⟨place, read, fields, records⟩
    obtain ⟨place, -, -⟩ := gathered
    rcases place with place | place | place <;> dsimp only at place <;> subst place <;> rfl
  rw [closed, gathered.endRecord_eq]
  simp [atLine]

/-- Records are read behind those that are done. -/
private theorem finish_after_spells {records : List (List (List Char))}
    (wide : ∀ record ∈ records, 2 ≤ record.length) (spelled : Spells records text)
    (done : List (List Field)) :
    ((atLine done).after text).finish = done.reverse ++ records.map (·.map glyphsOf) := by
  induction spelled generalizing done with
  | nil => simp [after, glyphsOf, atLine, finish]
  | last spelled =>
    exact (gathers_of_spells ⟨.inl rfl, rfl⟩ (wide _ List.mem_cons_self) spelled).finish_eq
  | cons spelled ended later ih =>
    obtain ⟨own, wide⟩ := List.forall_mem_cons.mp wide
    have start : (atLine done).AtStart := ⟨.inl rfl, rfl⟩
    have gathered := gathers_of_spells start own spelled
    rw [after_append, after_append, gathered.after_lineEnd ended, ih wide]
    simp

end Scan

/-! ## Sheets -/

/-- Records of two fields or more are read from their spelling, if it does not start with a byte order
mark. -/
theorem records_of_spells {records : List (List (List Char))} {text : List Char}
    (wide : ∀ record ∈ records, 2 ≤ record.length) (spelled : Spells records text)
    (unmarked : ∀ c ∈ text.head?, c.toNat ≠ 0xFEFF) :
    Csv.records (glyphsOf text) = records.map (·.map glyphsOf) := by
  have kept : dropMark (glyphsOf text) = glyphsOf text := by
    cases text with
    | nil => rfl
    | cons c rest => exact if_neg (unmarked c rfl)
  rw [Csv.records, kept]
  exact Scan.finish_after_spells wide spelled []

theorem fieldText?_glyphsOf (text : List Char) : fieldText? (glyphsOf text) = some text := by
  induction text with
  | nil => rfl
  | cons c text ih =>
    rw [fieldText?, glyphsOf] at ih ⊢
    rw [List.map_cons, List.mapM_cons, ih]
    rfl

/-- Records that are not empty can be written. -/
theorem exists_spells {records : List (List (List Char))}
    (present : ∀ record ∈ records, record ≠ []) : ∃ text, Spells records text := by
  have written : ∀ record : List (List Char), record ≠ [] → ∃ text, SpellsRecord record text := by
    intro record present
    induction record with
    | nil => exact (present rfl).elim
    | cons field rest ih =>
      cases rest with
      | nil => exact ⟨_, .last .quoted⟩
      | cons next rest =>
        obtain ⟨more, later⟩ := ih nofun
        exact ⟨_, .cons .quoted later⟩
  induction records with
  | nil => exact ⟨_, .nil⟩
  | cons record rest ih =>
    obtain ⟨own, present⟩ := List.forall_mem_cons.mp present
    obtain ⟨text, spelled⟩ := written record own
    obtain ⟨more, later⟩ := ih present
    exact ⟨_, .cons spelled .both later⟩

/-- A spelling starts with a quote or with the first field. -/
theorem Spells.head?_eq {field : List Char} {fields : List (List Char)}
    {records : List (List (List Char))} {text : List Char}
    (spelled : Spells ((field :: fields) :: records) text) (filled : field ≠ []) :
    text.head? = some '"' ∨ text.head? = field.head? := by
  have spelledField : ∀ {shown : List Char}, SpellsField field shown →
      shown ≠ [] ∧ (shown.head? = some '"' ∨ shown.head? = field.head?) := by
    intro shown spelled
    cases spelled with
    | bare => exact ⟨filled, .inr rfl⟩
    | quoted => exact ⟨nofun, .inl rfl⟩
  have spelledRecord : ∀ {shown : List Char}, SpellsRecord (field :: fields) shown →
      shown ≠ [] ∧ (shown.head? = some '"' ∨ shown.head? = field.head?) := by
    intro shown spelled
    cases spelled with
    | last spelled => exact spelledField spelled
    | cons spelled later =>
      obtain ⟨present, head⟩ := spelledField spelled
      rw [List.head?_append_of_ne_nil _ present]
      exact ⟨by simp, head⟩
  cases spelled with
  | last spelled => exact (spelledRecord spelled).2
  | cons spelled ended later =>
    obtain ⟨present, head⟩ := spelledRecord spelled
    rwa [List.head?_append_of_ne_nil _ present]

end SentimentTree.Csv
