import CodeSearch.Proofs.Json.Fields
import CodeSearch.Proofs.Json.RoundTrip
import CodeSearch.Record

/-!
# Records as JSON, read back

What is written for a record or its metadata is read back, whatever texts and numbers they hold.
Only the vector of a record is not written, and so it is empty afterwards.

- `Metadata.ofJson?_toJson`, `Metadata.ofText?_toText`: metadata.
- `Entry.ofJson?_toJson`, `Record.ofText?_compact`: records.
- `Record.embedding_of_ofText?`: what is read has no vector.
- `ofText?_written`: what was written is read back, and so is what was read before.
-/

namespace CodeSearch

/-! ## Metadata -/

/-- Metadata are read back from their document. -/
theorem Metadata.ofJson?_toJson (metadata : Metadata) :
    ofJson? metadata.toJson = some metadata := by
  have hdistinct : ["node_type", "part_index", "total_parts"].Nodup := by decide
  rw [ofJson?, toJson, Json.record_eq_membersOf,
    Json.fields?_of_isRecord (Json.isRecord_membersOf ?distinct)]
  case distinct => exact hdistinct
  show ((some metadata.nodeType).bind fun nodeType =>
    (Json.asUInt64? (.ofNat metadata.partIndex.toNat)).bind fun partIndex =>
      (Json.asUInt64? (.ofNat metadata.totalParts.toNat)).bind fun totalParts =>
        some ({ nodeType, partIndex, totalParts } : Metadata)) = _
  rw [Json.asUInt64?_ofNat, Json.asUInt64?_ofNat]
  rfl

/-- Stored metadata are read back. -/
theorem Metadata.ofText?_toText (metadata : Metadata) :
    ofText? metadata.toText = some metadata := by
  rw [ofText?, toText, Json.ofText?_compact, Option.bind_some, ofJson?_toJson]

/-! ## Records -/

/-- An entry is read back from its document. -/
theorem Entry.ofJson?_toJson (entry : Entry) : ofJson? entry.toJson = some entry := by
  have hdistinct : fieldNames.Nodup := by decide
  rw [ofJson?, toJson, Json.record_eq_membersOf,
    Json.fields?_of_isRecord (Json.isRecord_membersOf ?distinct)]
  case distinct => exact hdistinct
  -- The texts are read as they are; numbers and the description have their own form.
  show ((Json.asOptionalText? (.optionalText entry.description)).bind fun description =>
    (Json.asInt32? (.ofInt entry.startLine.toInt)).bind fun startLine =>
      (Json.asInt32? (.ofInt entry.endLine.toInt)).bind fun endLine =>
        (Json.asInt32? (.ofInt entry.totalLines.toInt)).bind fun totalLines =>
          (Json.asInt32? (.ofInt entry.fileSize.toInt)).bind fun fileSize =>
            some { entry with description, startLine, endLine, totalLines, fileSize }) = _
  rw [Json.asOptionalText?_optionalText, Json.asInt32?_ofInt, Json.asInt32?_ofInt,
    Json.asInt32?_ofInt, Json.asInt32?_ofInt]
  rfl

namespace Record

/-- A record is read back from its text, without its vector. -/
theorem ofText?_compact (record : Record) :
    ofText? record.toJson.compact = some { record with embedding := [] } := by
  rw [ofText?, Json.ofText?_compact, Option.bind_some, ofJson?, toJson, Entry.ofJson?_toJson]
  rfl

/-- A record that was read from a text has no vector. -/
theorem embedding_of_ofText? {text : String} {record : Record} (h : ofText? text = some record) :
    record.embedding = [] := by
  obtain ⟨document, -, hdocument⟩ := Option.bind_eq_some_iff.mp h
  obtain ⟨entry, -, rfl⟩ := Option.map_eq_some_iff.mp hdocument
  rfl

end Record

/-- Metadata are read back from their text as they were, and records without their vector. What was
read from any text is read back as it was when it is written again. -/
theorem ofText?_written :
    (∀ metadata : Metadata, Metadata.ofText? metadata.toText = some metadata) ∧
    (∀ record : Record,
      Record.ofText? record.toJson.compact = some { record with embedding := [] }) ∧
    (∀ text metadata, Metadata.ofText? text = some metadata →
      Metadata.ofText? metadata.toText = some metadata) ∧
    ∀ text record, Record.ofText? text = some record →
      Record.ofText? record.toJson.compact = some record := by
  refine ⟨Metadata.ofText?_toText, Record.ofText?_compact,
    fun _ metadata _ => metadata.ofText?_toText, fun text record hread => ?_⟩
  rw [record.ofText?_compact, ← Record.embedding_of_ofText? hread]

end CodeSearch
