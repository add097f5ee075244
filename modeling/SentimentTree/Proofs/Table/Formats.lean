import SentimentTree.Proofs.Csv.Spelling
import SentimentTree.Proofs.Hierarchy.Document
import SentimentTree.Proofs.Json.RoundTrip
import SentimentTree.Proofs.Table.Cells
import SentimentTree.Proofs.Table.Row

/-! # Tables in both formats

A table of texts, words for flags and numbers is written as a sheet, where an empty cell stands for
nothing, and as a document, where nothing is missing or `null`. Both are read as the rows that are
meant, but for an empty message, which a sheet cannot tell from none. No message depends on that.
-/

namespace SentimentTree

open Calendar Decimal

/-! ## What is meant -/

/-- A row of texts, a word for the flag, and numbers. -/
structure TableRow where
  sentAt : Option String := none
  message : Option String := none
  analyzable : Option String := none
  sentiment : Option String := none
  certainty : Option Float := none
  score : Option Float := none

namespace TableRow

/-- A point in time is one that can be read or at least has the shape of a date, the flag is a word
for a boolean in any case, a sentiment is not empty, and numbers are finite. -/
structure Proper (row : TableRow) : Prop where
  sentAt : ∀ spelling ∈ row.sentAt,
    (Timestamp.read? spelling.toList).isSome ∨ DateShaped spelling.toList
  analyzable : ∀ word ∈ row.analyzable, (flagOf? word).isSome
  sentiment : ∀ name ∈ row.sentiment, name ≠ ""
  certainty : ∀ x ∈ row.certainty, x.isFinite = true
  score : ∀ x ∈ row.score, x.isFinite = true

/-- The row that is meant. -/
def meant (row : TableRow) : MessageRow where
  sentAt := row.sentAt.map .text
  message := row.message
  analyzable := row.analyzable.bind flagOf?
  sentiment := row.sentiment
  certainty := row.certainty
  score := row.score

def filled (row : TableRow) : MessageRow :=
  { row.meant with message := row.message.filter (· ≠ "") }

private theorem Proper.shaped {row : TableRow} (proper : row.Proper) {spelling : String}
    (sent : row.sentAt = some spelling) : DateShaped spelling.toList := by
  rcases proper.sentAt spelling sent with readable | shaped
  · obtain ⟨time, reads⟩ := Option.isSome_iff_exists.mp readable
    exact Timestamp.dateShaped_of_read? reads
  · exact shaped

private theorem Proper.exists_flag {row : TableRow} (proper : row.Proper) {word : String}
    (flagged : row.analyzable = some word) : ∃ flag, flagOf? word = some flag :=
  Option.isSome_iff_exists.mp (proper.analyzable word flagged)

/-! ## What is written -/

/-- The cell of a number. -/
def IsNumberCell (number : Option Float) (cell : List Char) : Prop :=
  match number with
  | none => cell = []
  | some x => WritesNumber cell x

/-- The cell of a column. -/
def HasCell (row : TableRow) (column : String) (cell : List Char) : Prop :=
  match column with
  | "send_datetime" => cell = (row.sentAt.getD "").toList
  | "message" => cell = (row.message.getD "").toList
  | "is_analyzable" => cell = (row.analyzable.getD "").toList
  | "sentiment" => cell = (row.sentiment.getD "").toList
  | "certainty" => IsNumberCell row.certainty cell
  | "sentiment_score" => IsNumberCell row.score cell
  | _ => False

/-- The value of a text, missing or `null` if there is none. -/
def IsText (text : Option String) (value : Option Json) : Prop :=
  match text with
  | none => value = none ∨ value = some .null
  | some text => value = some (.text text)

/-- The value of a number, missing or `null` if there is none. -/
def IsNumber (number : Option Float) (value : Option Json) : Prop :=
  match number with
  | none => value = none ∨ value = some .null
  | some x => ∃ literal, value = some (.number literal) ∧ WritesNumber literal x

/-- The value of a flag: its word, the boolean it means or, for one and zero, the number; missing or
`null` if there is none. -/
def IsFlag (flag : Option String) (value : Option Json) : Prop :=
  match flag with
  | none => value = none ∨ value = some .null
  | some word => value = some (.text word) ∨ value = (flagOf? word).map .bool ∨
      (word = "1" ∨ word = "0") ∧ value = some (.number word.toList)

/-- The value of a column. -/
def HasValue (row : TableRow) (column : String) (value : Option Json) : Prop :=
  match column with
  | "send_datetime" => IsText row.sentAt value
  | "message" => IsText row.message value
  | "is_analyzable" => IsFlag row.analyzable value
  | "sentiment" => IsText row.sentiment value
  | "certainty" => IsNumber row.certainty value
  | "sentiment_score" => IsNumber row.score value
  | _ => False

/-- A sheet of rows: a record with the columns in any order, and for each row a record of cells. -/
def WritesSheet (table : List TableRow) (sheet : List Char) : Prop :=
  ∃ (names : List String) (records : List (List (List Char))),
    names.Perm MessageRow.columnNames ∧
    List.Forall₂ (fun row cells => List.Forall₂ row.HasCell names cells) table records ∧
    Csv.Spells (names.map String.toList :: records) sheet

def WritesRecord (row : TableRow) (value : Json) : Prop :=
  ∃ members : List (String × Json), value = .record members ∧ (members.map (·.1)).Nodup ∧
    ∀ column ∈ MessageRow.columnNames, row.HasValue column (members.lookup column)

/-- A document of rows: an array with a record for each row. -/
def WritesDocument (table : List TableRow) (document : List Char) : Prop :=
  ∃ items : List Json, Json.parse? document = some (.array items) ∧
    List.Forall₂ WritesRecord table items

end TableRow

/-! ## Sheets -/

namespace MessageRow

/-- The row with nothing but the given columns. -/
def restrict (row : MessageRow) (columns : List String) : MessageRow where
  sentAt := if "send_datetime" ∈ columns then row.sentAt else none
  message := if "message" ∈ columns then row.message else none
  analyzable := if "is_analyzable" ∈ columns then row.analyzable else none
  sentiment := if "sentiment" ∈ columns then row.sentiment else none
  certainty := if "certainty" ∈ columns then row.certainty else none
  score := if "sentiment_score" ∈ columns then row.score else none

private theorem restrict_all {row : MessageRow} {columns : List String}
    (all : ∀ column ∈ columnNames, column ∈ columns) : row.restrict columns = row := by
  simp only [columnNames, List.forall_mem_cons] at all
  obtain ⟨sentAt, message, analyzable, sentiment, certainty, score, -⟩ := all
  simp only [restrict, sentAt, message, analyzable, sentiment, certainty, score, if_true]

end MessageRow

namespace TableRow

variable {row : TableRow} {field : List Char} {column : String} {done : List String}

private theorem IsNumberCell.empty_or_reads {number : Option Float}
    (cell : IsNumberCell number field) :
    number = none ∧ field = [] ∨
      ∃ x, number = some x ∧ field ≠ [] ∧ readFloat? field = some x := by
  cases number with
  | none => exact .inl ⟨rfl, cell⟩
  | some x =>
    have reads := WritesNumber.readFloat?_eq cell
    refine .inr ⟨x, rfl, ?_, reads⟩
    rintro rfl
    nomatch reads

/-- A cell fills its column. -/
private theorem Proper.fill?_eq (proper : row.Proper) (known : column ∈ MessageRow.columnNames)
    (cell : row.HasCell column field) : (row.filled.restrict done).fill? column field =
      some (row.filled.restrict (column :: done)) := by
  simp only [MessageRow.columnNames, List.mem_cons, List.not_mem_nil, or_false] at known
  rcases known with rfl | rfl | rfl | rfl | rfl | rfl
  · obtain rfl : field = (row.sentAt.getD "").toList := cell
    cases sent : row.sentAt with
    | none => simp [MessageRow.fill?, MessageRow.restrict, filled, TableRow.meant, sent]
    | some spelling =>
      have shaped := proper.shaped sent
      have present : spelling ≠ "" := by
        rintro rfl
        obtain ⟨before, digit, after, empty, -⟩ := shaped
        simp at empty
      simp [MessageRow.fill?, MessageRow.restrict, filled, TableRow.meant, sent, present,
        shaped.ofField_eq, Cell.rawTimestamp?, String.ofList_toList]
  · obtain rfl : field = (row.message.getD "").toList := cell
    cases said : row.message with
    | none => simp [MessageRow.fill?, MessageRow.restrict, filled, TableRow.meant, said]
    | some message =>
      by_cases empty : message = ""
      · simp [MessageRow.fill?, MessageRow.restrict, filled, TableRow.meant, said, empty,
          Option.filter_some]
      · simp [MessageRow.fill?, MessageRow.restrict, filled, TableRow.meant, said, empty,
          Option.filter_some, String.ofList_toList]
  · obtain rfl : field = (row.analyzable.getD "").toList := cell
    cases flagged : row.analyzable with
    | none => simp [MessageRow.fill?, MessageRow.restrict, filled, TableRow.meant, flagged]
    | some word =>
      obtain ⟨flag, means⟩ := proper.exists_flag flagged
      obtain ⟨present, reads, -⟩ := flag_spec means
      simp at present
      simp [MessageRow.fill?, MessageRow.restrict, filled, TableRow.meant, flagged, present,
        reads, means]
  · obtain rfl : field = (row.sentiment.getD "").toList := cell
    cases named : row.sentiment with
    | none => simp [MessageRow.fill?, MessageRow.restrict, filled, TableRow.meant, named]
    | some name =>
      have present := proper.sentiment name named
      simp [MessageRow.fill?, MessageRow.restrict, filled, TableRow.meant, named, present,
        String.ofList_toList]
  · rcases IsNumberCell.empty_or_reads cell with ⟨unsure, rfl⟩ | ⟨x, sure, present, reads⟩
    · simp [MessageRow.fill?, MessageRow.restrict, filled, TableRow.meant, unsure]
    · simp [MessageRow.fill?, MessageRow.restrict, filled, TableRow.meant, sure, present, reads]
  · rcases IsNumberCell.empty_or_reads cell with ⟨unscored, rfl⟩ | ⟨x, scored, present, reads⟩
    · simp [MessageRow.fill?, MessageRow.restrict, filled, TableRow.meant, unscored]
    · simp [MessageRow.fill?, MessageRow.restrict, filled, TableRow.meant, scored, present, reads]

/-- Cells fill their columns one after another. -/
private theorem Proper.foldlM_fill?_eq (proper : row.Proper) {names : List String}
    {cells : List (List Char)} (known : ∀ column ∈ names, column ∈ MessageRow.columnNames)
    (filled : List.Forall₂ row.HasCell names cells) (done : List String) :
    (names.zip cells).foldlM (fun (next : MessageRow) entry => next.fill? entry.1 entry.2)
        (row.filled.restrict done) = some (row.filled.restrict (names.reverse ++ done)) := by
  induction filled generalizing done with
  | nil => rfl
  | @cons column cell names cells first _ ih =>
    obtain ⟨own, known⟩ := List.forall_mem_cons.mp known
    rw [List.zip_cons_cons, List.foldlM_cons, proper.fill?_eq own first]
    change List.foldlM _ (row.filled.restrict (column :: done)) _ = _
    rw [ih known, List.reverse_cons, List.append_assoc, List.singleton_append]

/-- A record of cells is read as the row without an empty message. -/
theorem Proper.ofFields?_eq (proper : row.Proper) {names : List String} {cells : List (List Char)}
    (columns : names.Perm MessageRow.columnNames) (filled : List.Forall₂ row.HasCell names cells) :
    MessageRow.ofFields? names cells = some row.filled := by
  have once : (MessageRow.columnNames.all fun column => names.count column ≤ 1) = true := by
    simp only [columns.count_eq]
    decide
  have empty : ({} : MessageRow) = row.filled.restrict [] := by simp [MessageRow.restrict]
  rw [MessageRow.ofFields?, if_pos once, empty,
    proper.foldlM_fill?_eq (fun column => columns.mem_iff.mp) filled]
  congr 1
  apply MessageRow.restrict_all
  intro column member
  simpa using columns.mem_iff.mpr member

variable {table : List TableRow}

private theorem ofRecords_eq {names : List String} {records : List (List (List Char))}
    (proper : ∀ row ∈ table, row.Proper) (columns : names.Perm MessageRow.columnNames)
    (written : List.Forall₂ (fun row cells => List.Forall₂ row.HasCell names cells) table records)
    (number : ℕ) :
    MessageRow.ofRecords names.length names number (records.map (·.map Csv.glyphsOf)) =
      .ok (table.map filled) := by
  induction written generalizing number with
  | nil => rfl
  | @cons row cells table records first _ ih =>
    obtain ⟨own, proper⟩ := List.forall_mem_cons.mp proper
    have texts : (cells.map Csv.glyphsOf).mapM Csv.fieldText? = some cells := by
      rw [mapM_eq_some_iff, List.forall₂_map_left_iff]
      exact List.forall₂_same.mpr fun cell _ => Csv.fieldText?_glyphsOf cell
    have read : MessageRow.ofRecord? names.length names (cells.map Csv.glyphsOf) =
        some row.filled := by
      rw [MessageRow.ofRecord?, if_pos (by rw [List.length_map, first.length_eq]), texts,
        Option.bind_some, own.ofFields?_eq columns first]
    rw [List.map_cons, MessageRow.ofRecords, read]
    dsimp only
    rw [ih proper]
    rfl

/-- A sheet is read as its rows, but for empty messages. -/
theorem WritesSheet.ofSheet_eq {sheet : List Char} (proper : ∀ row ∈ table, row.Proper)
    (writes : WritesSheet table sheet) :
    MessageRow.ofSheet (sheet.map some) = .ok (table.map filled) := by
  obtain ⟨names, records, columns, written, spelled⟩ := writes
  have length : names.length = 6 := columns.length_eq
  have wide : ∀ record ∈ names.map String.toList :: records, 2 ≤ record.length := by
    rw [List.forall_mem_cons]
    refine ⟨by rw [List.length_map]; omega, fun record member => ?_⟩
    obtain ⟨row, -, cells⟩ := exists_of_mem_right written record member
    rw [← cells.length_eq]
    omega
  have unmarked : ∀ c ∈ sheet.head?, c.toNat ≠ 0xFEFF := by
    obtain ⟨name, others, rfl⟩ := List.exists_cons_of_length_pos (by omega : 0 < names.length)
    have letters : ∀ name ∈ MessageRow.columnNames,
        name.toList.head?.any (fun c => c.toNat != 0xFEFF) = true := by
      decide
    have letter := letters name (columns.mem_iff.mp List.mem_cons_self)
    cases shape : name.toList with
    | nil => simp [shape] at letter
    | cons d rest =>
      intro c first
      rcases spelled.head?_eq (by simp [shape]) with quote | same
      · obtain rfl := Option.some.inj (first.symm.trans quote)
        decide
      · rw [shape] at same letter
        obtain rfl := Option.some.inj (first.symm.trans same)
        simpa using letter
  have first : MessageRow.namesOf ((names.map String.toList).map Csv.glyphsOf) = names := by
    have texts : ((names.map String.toList).map Csv.glyphsOf).mapM Csv.fieldText? =
        some (names.map String.toList) := by
      rw [mapM_eq_some_iff, List.forall₂_map_left_iff]
      exact List.forall₂_same.mpr fun cell _ => Csv.fieldText?_glyphsOf cell
    rw [MessageRow.namesOf, texts]
    simp
  have read := Csv.records_of_spells wide spelled unmarked
  rw [List.map_cons] at read
  change Csv.records (sheet.map some) = _ at read
  rw [MessageRow.ofSheet, read]
  dsimp only
  rw [first, List.length_map, List.length_map, ofRecords_eq proper columns written]

/-! ## Documents -/

private theorem IsText.reads {text : Option String} {value : Option Json}
    (written : IsText text value) :
    Json.missing? Json.text? value = some text ∧
      Json.missing? Json.rawTimestamp? value = some (text.map .text) := by
  cases text with
  | none => rcases written with rfl | rfl <;> exact ⟨rfl, rfl⟩
  | some text =>
    obtain rfl : value = some (.text text) := written
    exact ⟨rfl, rfl⟩

private theorem IsNumber.reads {number : Option Float} {value : Option Json}
    (written : IsNumber number value) : Json.missing? Json.float? value = some number := by
  cases number with
  | none => rcases written with rfl | rfl <;> rfl
  | some x =>
    obtain ⟨literal, rfl, writes⟩ := written
    change (Json.float? (.number literal)).map some = _
    rw [writes.float?_eq]
    rfl

private theorem IsFlag.reads {word : Option String} {value : Option Json}
    (written : IsFlag word value)
    (known : ∀ w ∈ word, (flagOf? w).isSome) : value = none ∧ word.bind flagOf? = none ∨
      ∃ found, value = some found ∧ found.flag? = some (word.bind flagOf?) := by
  cases word with
  | none =>
    rcases written with rfl | rfl
    · exact .inl ⟨rfl, rfl⟩
    · exact .inr ⟨_, rfl, rfl⟩
  | some word =>
    right
    obtain ⟨flag, means⟩ := Option.isSome_iff_exists.mp (known word rfl)
    rw [Option.bind_some]
    rcases written with rfl | rfl | ⟨rfl | rfl, rfl⟩
    · exact ⟨_, rfl, means ▸ (flag_spec means).2.2⟩
    · exact ⟨.bool flag, by rw [means]; rfl, by rw [means]; rfl⟩
    · exact ⟨_, rfl, rfl⟩
    · exact ⟨_, rfl, rfl⟩

/-- A record is read as its row. -/
theorem WritesRecord.ofJson?_eq {value : Json} (proper : row.Proper)
    (writes : WritesRecord row value) : MessageRow.ofJson? value = some row.meant := by
  obtain ⟨members, rfl, distinct, values⟩ := writes
  simp only [MessageRow.columnNames, List.forall_mem_cons] at values
  obtain ⟨sentAt, message, analyzable, sentiment, certainty, score, -⟩ := values
  replace sentAt := (IsText.reads sentAt).2
  replace message := (IsText.reads message).1
  replace sentiment := (IsText.reads sentiment).1
  replace certainty := IsNumber.reads certainty
  replace score := IsNumber.reads score
  rw [MessageRow.ofJson?, Json.fields?_record distinct]
  simp only [MessageRow.columnNames, List.map_cons, List.map_nil, Option.bind_eq_bind,
    Option.bind_some, sentAt, message, sentiment, certainty, score]
  rcases IsFlag.reads analyzable proper.analyzable with ⟨absent, unflagged⟩ | ⟨found, present, flag⟩
  · rw [absent, meant, unflagged]
    rfl
  · rw [present]
    dsimp only
    rw [flag]
    rfl

/-- A document is read as its rows. -/
theorem WritesDocument.ofDocument?_eq {document : List Char} (proper : ∀ row ∈ table, row.Proper)
    (writes : WritesDocument table document) :
    MessageRow.ofDocument? (document.map some) = some (table.map meant) := by
  obtain ⟨items, parsed, written⟩ := writes
  change (Json.parse? document).bind (Json.items? MessageRow.ofJson?) = _
  rw [parsed, Option.bind_some, Json.items?, mapM_eq_some_iff, List.forall₂_map_right_iff]
  clear parsed
  induction written with
  | nil => exact .nil
  | cons first _ ih =>
    obtain ⟨own, proper⟩ := List.forall_mem_cons.mp proper
    exact .cons (first.ofJson?_eq own) (ih proper)

/-! ## Writing -/

/-- The cells of a row in the order of the columns. -/
private theorem Proper.exists_cells (proper : row.Proper) :
    ∃ cells, List.Forall₂ row.HasCell MessageRow.columnNames cells := by
  have number : ∀ {number : Option Float}, (∀ x ∈ number, x.isFinite = true) →
      ∃ cell, IsNumberCell number cell := by
    intro number finite
    cases number with
    | none => exact ⟨[], rfl⟩
    | some x =>
      obtain ⟨literal, -, writes⟩ := float_writesNumber (finite x rfl)
      exact ⟨literal, writes⟩
  obtain ⟨certainty, sure⟩ := number proper.certainty
  obtain ⟨score, scored⟩ := number proper.score
  exact ⟨_, .cons rfl (.cons rfl (.cons rfl (.cons rfl (.cons sure (.cons scored .nil)))))⟩

def toJson (row : TableRow) : Json :=
  .record [("send_datetime", (row.sentAt.map .text).getD .null),
    ("message", (row.message.map .text).getD .null),
    ("is_analyzable", (row.analyzable.map .text).getD .null),
    ("sentiment", (row.sentiment.map .text).getD .null),
    ("certainty", (row.certainty.map .float).getD .null),
    ("sentiment_score", (row.score.map .float).getD .null)]

private theorem writable_toJson (row : TableRow) : row.toJson.Writable := by
  have text : ∀ text : Option String, ((text.map Json.text).getD .null).Writable := by
    rintro (_ | text)
    · exact .null
    · exact .text text
  have number : ∀ number : Option Float, ((number.map Json.float).getD .null).Writable := by
    rintro (_ | x)
    · exact .null
    · exact .float x
  refine .record ?_
  simp only [List.forall_mem_cons]
  exact ⟨text _, text _, text _, text _, number _, number _, nofun⟩

private theorem Proper.writesRecord_toJson (proper : row.Proper) : WritesRecord row row.toJson := by
  have text : ∀ text : Option String, IsText text (some ((text.map Json.text).getD .null)) := by
    rintro (_ | text)
    · exact .inr rfl
    · rfl
  have number : ∀ {number : Option Float}, (∀ x ∈ number, x.isFinite = true) →
      IsNumber number (some ((number.map Json.float).getD .null)) := by
    intro number finite
    cases number with
    | none => exact .inr rfl
    | some x =>
      obtain ⟨literal, written, writes⟩ := float_writesNumber (finite x rfl)
      exact ⟨literal, congrArg some written, writes⟩
  have flag : IsFlag row.analyzable (some ((row.analyzable.map Json.text).getD .null)) := by
    cases row.analyzable with
    | none => exact .inr rfl
    | some word => exact .inl rfl
  have distinct : MessageRow.columnNames.Nodup := by decide
  refine ⟨_, rfl, distinct, ?_⟩
  simp only [MessageRow.columnNames, List.forall_mem_cons]
  exact ⟨text _, text _, flag, text _, number proper.certainty, number proper.score, nofun⟩

/-- Every table can be written as a sheet and as a document. -/
theorem exists_written (proper : ∀ row ∈ table, row.Proper) :
    (∃ sheet, WritesSheet table sheet) ∧ ∃ document, WritesDocument table document := by
  constructor
  · have cells : ∃ records, List.Forall₂ (fun (row : TableRow) cells =>
        List.Forall₂ row.HasCell MessageRow.columnNames cells) table records := by
      induction table with
      | nil => exact ⟨[], .nil⟩
      | cons row table ih =>
        obtain ⟨own, proper⟩ := List.forall_mem_cons.mp proper
        obtain ⟨cells, first⟩ := own.exists_cells
        obtain ⟨records, rest⟩ := ih proper
        exact ⟨cells :: records, .cons first rest⟩
    obtain ⟨records, written⟩ := cells
    have present : ∀ record ∈ MessageRow.columnNames.map String.toList :: records,
        record ≠ [] := by
      rw [List.forall_mem_cons]
      refine ⟨by decide, fun record member => ?_⟩
      obtain ⟨row, -, cells⟩ := exists_of_mem_right written record member
      exact List.ne_nil_of_length_pos (cells.length_eq ▸ by decide)
    obtain ⟨sheet, spelled⟩ := Csv.exists_spells present
    exact ⟨sheet, _, records, .refl _, written, spelled⟩
  · have writable := Json.Writable.list fun (row : TableRow) (_ : row ∈ table) =>
      row.writable_toJson
    refine ⟨_, _, writable.parse?_pretty, ?_⟩
    rw [List.forall₂_map_right_iff]
    exact List.forall₂_same.mpr fun row member => (proper row member).writesRecord_toJson

/-! ## Messages -/

/-- An empty message is as good as none. -/
theorem scored_filled (row : TableRow) : row.filled.scored none = row.meant.scored none := by
  have text : row.filled.text = row.meant.text := by
    cases said : row.message with
    | none => simp [MessageRow.text, filled, meant, said]
    | some message =>
      by_cases empty : message = "" <;>
        simp [MessageRow.text, filled, meant, said, Option.filter_some, empty]
  simp only [MessageRow.scored, MessageRow.selfScored, text]
  rfl

theorem scoreRowsFrom_map_filled (table : List TableRow) (number : ℕ) :
    scoreRowsFrom number (table.map filled) = scoreRowsFrom number (table.map meant) := by
  induction table generalizing number with
  | nil => rfl
  | cons row table ih =>
    rw [List.map_cons, List.map_cons, scoreRowsFrom, scoreRowsFrom, scored_filled, ih]

end TableRow

end SentimentTree
