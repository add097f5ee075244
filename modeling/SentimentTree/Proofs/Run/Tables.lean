import SentimentTree.Proofs.Run.Stored
import SentimentTree.Proofs.Run.Steps
import SentimentTree.Proofs.Table.Formats

/-! # Tables from files

A stored table becomes messages, or the first row that cannot be used, in the same way whether it is
stored as a sheet or as a document.
-/

namespace SentimentTree

open Decimal

variable {path content : String} {scene : Scene} {rows : List MessageRow}

/-- The messages of a stored table by its own columns. -/
def loadMessages {m : Type → Type} [Monad m] (host : Host m) (path : String) :
    Run m (List ScoredMessage) := do
  let rows ← loadRows host path
  Run.ofExcept (fun error => .pipeline (.row error)) (scoreRows rows)

private theorem glyphs_toUTF8 (content : String) :
    Text.glyphs content.toUTF8 = content.toList.map some := by
  rw [Text.glyphs, fromUTF8?_toUTF8]

section
variable (scene) (level : LogLevel) (message : String)

private theorem note_recorded : (note Host.recorded level message).run.run scene =
    (.ok (), { scene with log := ⟨level, message⟩ :: scene.log }) := rfl

private theorem read_recorded : (ExceptT.lift (Host.recorded.read path) :
    Run (StateM Scene) (Except FileFault ByteArray)).run.run scene =
      (.ok (scene.store.read path), scene) := rfl

end

/-- A table whose text is read as rows is loaded as these. -/
theorem loadRows_recorded {format : TableFormat} (known : TableFormat.ofPath? path = some format)
    (held : scene.store.read path = .ok content.toUTF8)
    (read : match format with
      | .csv => MessageRow.ofSheet (content.toList.map some) = .ok rows
      | .json => MessageRow.ofDocument? (content.toList.map some) = some rows) :
    ((loadRows Host.recorded path).run.run scene).1 = .ok rows := by
  rw [← glyphs_toUTF8] at read
  unfold loadRows
  rw [known]
  dsimp only
  rw [Run.run_bind, note_recorded]
  dsimp only
  rw [Run.run_bind, read_recorded]
  dsimp only
  rw [held]
  cases format with
  | csv =>
    dsimp only at read ⊢
    rw [Run.ofExcept_ok, pure_bind, read, Run.ofExcept_ok, pure_bind]
    rfl
  | json =>
    dsimp only at read ⊢
    rw [Run.ofExcept_ok, pure_bind, read]
    rfl

/-- Rows that are loaded are made messages. -/
private theorem loadMessages_of_rows
    (loaded : ((loadRows Host.recorded path).run.run scene).1 = .ok rows) :
    ((loadMessages Host.recorded path).run.run scene).1 =
      (scoreRows rows).mapError fun error => .pipeline (.row error) := by
  obtain ⟨middle, ran⟩ : ∃ middle, (loadRows Host.recorded path).run.run scene =
      (.ok rows, middle) := ⟨_, Prod.ext loaded rfl⟩
  rw [loadMessages, Run.run_bind, ran]
  dsimp only
  cases scoreRows rows <;> rfl

/-- A table of rows with readable dates, words for flags and finite numbers can be written as a sheet
and as a document. Whichever sheet and whichever document of it are stored, both give the same
messages or the same complaint about a row, and these are what the rows are meant to give. -/
theorem loadMessages_formats_agree {table : List TableRow} (proper : ∀ row ∈ table, row.Proper) :
    (∃ sheet, TableRow.WritesSheet table sheet) ∧
    (∃ document, TableRow.WritesDocument table document) ∧
    ∀ (sheet document sheetPath documentPath : String) (scene scene' : Scene),
      TableRow.WritesSheet table sheet.toList → TableRow.WritesDocument table document.toList →
      TableFormat.ofPath? sheetPath = some .csv → TableFormat.ofPath? documentPath = some .json →
      scene.store.read sheetPath = .ok sheet.toUTF8 →
      scene'.store.read documentPath = .ok document.toUTF8 →
      ((loadMessages Host.recorded sheetPath).run.run scene).1 =
        ((loadMessages Host.recorded documentPath).run.run scene').1 ∧
      ((loadMessages Host.recorded sheetPath).run.run scene).1 =
        (scoreRows (table.map TableRow.meant)).mapError fun error => .pipeline (.row error) := by
  obtain ⟨someSheet, someDocument⟩ := TableRow.exists_written proper
  refine ⟨someSheet, someDocument, ?_⟩
  intro sheet document sheetPath documentPath scene scene' sheetWritten documentWritten csv json
    held held'
  have sheetRows := loadRows_recorded csv held (sheetWritten.ofSheet_eq proper)
  have documentRows := loadRows_recorded json held' (documentWritten.ofDocument?_eq proper)
  have same : scoreRows (table.map TableRow.filled) = scoreRows (table.map TableRow.meant) :=
    TableRow.scoreRowsFrom_map_filled table 1
  rw [loadMessages_of_rows sheetRows, loadMessages_of_rows documentRows, same]
  exact ⟨rfl, rfl⟩

/-! ## A chat in both formats -/

/-- Two messages of a chat, one of them with no text and not for analysis. -/
def chatTable : List TableRow :=
  [{ sentAt := some "2024-02-05 10:00", message := some "\"Yes\", she said",
     analyzable := some "Yes", score := some 0.25 },
   { sentAt := some "2024-02-06", message := some "", analyzable := some "0" }]

/-- With a quoted cell, and with line ends of both kinds. -/
def chatSheet : String :=
  "send_datetime,message,is_analyzable,sentiment,certainty,sentiment_score\r\n" ++
  "2024-02-05 10:00,\"\"\"Yes\"\", she said\",Yes,,,0.25\n" ++ "2024-02-06,,0,,,"

/-- With members in different orders, and with a boolean and a number for the flags. -/
def chatDocument : String :=
  "[\x7b\"send_datetime\":\"2024-02-05 10:00\",\"message\":\"\\\"Yes\\\", she said\"," ++
  "\"is_analyzable\":true,\"sentiment_score\":2.5E-1\x7d," ++
  "\x7b\"message\":\"\",\"send_datetime\":\"2024-02-06\",\"is_analyzable\":0,\"certainty\":null\x7d]"

theorem proper_chatTable : ∀ row ∈ chatTable, row.Proper := by
  simp only [chatTable, List.forall_mem_cons]
  refine ⟨⟨?_, ?_, ?_, ?_, ?_⟩, ⟨?_, ?_, ?_, ?_, ?_⟩, List.forall_mem_nil _⟩ <;>
    rintro x ⟨⟩
  · exact .inl rfl
  · rfl
  · rfl
  · exact .inl rfl
  · rfl

theorem writesSheet_chat : TableRow.WritesSheet chatTable chatSheet.toList := by
  have quarter : WritesNumber "0.25".toList 0.25 :=
    ⟨false, _, _, _, rfl, readMagnitude?_eq_some_iff.mp rfl, rfl, rfl⟩
  have bare : ∀ {field : List Char}, (field.all fun c => !Csv.isSpecial c) = true →
      Csv.SpellsField field field := fun plain => .bare (by simpa using plain)
  have names : Csv.SpellsRecord (MessageRow.columnNames.map String.toList) _ :=
    .cons (bare rfl) (.cons (bare rfl) (.cons (bare rfl) (.cons (bare rfl) (.cons (bare rfl)
      (.last (bare rfl))))))
  have first : Csv.SpellsRecord ["2024-02-05 10:00".toList, "\"Yes\", she said".toList,
      "Yes".toList, [], [], "0.25".toList] _ :=
    .cons (bare rfl) (.cons .quoted (.cons (bare rfl) (.cons (bare rfl) (.cons (bare rfl)
      (.last (bare rfl))))))
  have second : Csv.SpellsRecord ["2024-02-06".toList, [], "0".toList, [], [], []] _ :=
    .cons (bare rfl) (.cons (bare rfl) (.cons (bare rfl) (.cons (bare rfl) (.cons (bare rfl)
      (.last (bare rfl))))))
  have spelled : Csv.Spells [MessageRow.columnNames.map String.toList,
      ["2024-02-05 10:00".toList, "\"Yes\", she said".toList, "Yes".toList, [], [], "0.25".toList],
      ["2024-02-06".toList, [], "0".toList, [], [], []]] chatSheet.toList := by
    convert Csv.Spells.cons names .both (.cons first .feed (.last second)) using 1
    -- the characters are taken from the literals, since decoding a text by evaluation is slow
    unfold chatSheet
    repeat rw [String.toList_append]
    repeat rw [String.toList_ofList]
    rfl
  refine ⟨MessageRow.columnNames, _, .refl _, .cons ?_ (.cons ?_ .nil), spelled⟩
  · exact .cons rfl (.cons rfl (.cons rfl (.cons rfl (.cons rfl (.cons quarter .nil)))))
  · exact .cons rfl (.cons rfl (.cons rfl (.cons rfl (.cons rfl (.cons rfl .nil)))))

set_option maxRecDepth 1000 in
theorem writesDocument_chat : TableRow.WritesDocument chatTable chatDocument.toList := by
  have quarter : WritesNumber "2.5E-1".toList 0.25 :=
    ⟨false, _, _, _, rfl, readMagnitude?_eq_some_iff.mp rfl, rfl, rfl⟩
  have parsed : Json.parse? chatDocument.toList = some (.array [
    .record [("send_datetime", .text "2024-02-05 10:00"), ("message", .text "\"Yes\", she said"),
      ("is_analyzable", .bool true), ("sentiment_score", .number "2.5E-1".toList)],
    .record [("message", .text ""), ("send_datetime", .text "2024-02-06"),
      ("is_analyzable", .number "0".toList), ("certainty", .null)]]) := by
    unfold chatDocument
    repeat rw [String.toList_append]
    repeat rw [String.toList_ofList]
    rfl
  refine ⟨_, parsed, .cons ?_ (.cons ?_ .nil)⟩
  · refine ⟨_, rfl, by decide, ?_⟩
    simp only [MessageRow.columnNames, List.forall_mem_cons]
    exact ⟨rfl, rfl, .inr (.inl (by rfl)), .inl rfl, .inl rfl, ⟨_, rfl, quarter⟩,
      List.forall_mem_nil _⟩
  · refine ⟨_, rfl, by decide, ?_⟩
    simp only [MessageRow.columnNames, List.forall_mem_cons]
    exact ⟨rfl, rfl, .inr (.inr ⟨.inr rfl, rfl⟩), .inl rfl, .inr rfl, .inl rfl,
      List.forall_mem_nil _⟩

def chatScene : Scene where
  store := ⟨[(["chat.csv"], .file chatSheet.toUTF8), (["Chat.JSON"], .file chatDocument.toUTF8)]⟩

/-- The chat's messages are the same from its sheet and from its document. -/
theorem loadMessages_formats_agree_chat :
    (∀ row ∈ chatTable, row.Proper) ∧ TableRow.WritesSheet chatTable chatSheet.toList ∧
    TableRow.WritesDocument chatTable chatDocument.toList ∧
    ∃ messages : List ScoredMessage, messages.length = 2 ∧
      ((loadMessages Host.recorded "chat.csv").run.run chatScene).1 = .ok messages ∧
      ((loadMessages Host.recorded "Chat.JSON").run.run chatScene).1 = .ok messages := by
  refine ⟨proper_chatTable, writesSheet_chat, writesDocument_chat, ?_⟩
  obtain ⟨-, -, agree⟩ := loadMessages_formats_agree proper_chatTable
  obtain ⟨same, meant⟩ := agree chatSheet chatDocument "chat.csv" "Chat.JSON" chatScene chatScene
    writesSheet_chat writesDocument_chat rfl rfl rfl rfl
  obtain ⟨messages, scored, two⟩ : ∃ messages,
      scoreRows (chatTable.map TableRow.meant) = .ok messages ∧ messages.length = 2 :=
    ⟨_, rfl, rfl⟩
  have loaded := meant.trans (congrArg (Except.mapError _) scored)
  exact ⟨messages, two, loaded, same.symm.trans loaded⟩

end SentimentTree
