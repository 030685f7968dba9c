import SegmentOffload.Catalog
import SegmentOffload.Proofs.JsonRoundTrip

/-!
Records are read back.

The object of some named fields is a record of those fields.  From this follow, one above the other,
that segments, chunks, rows and the whole document of a catalog are read back from what is written
of them, whatever their words are and whichever characters their texts hold.
-/

namespace SegmentOffload

namespace JsonValue

theorem namedMembers?_ofFields (fields : Record) :
    namedMembers? (fields.map fun field => (.ofString field.1, field.2)) = some fields := by
  induction fields with
  | nil => rfl
  | cons field rest ih =>
    obtain ⟨name, value⟩ := field
    rw [List.map_cons, namedMembers?, JsonText.string?_ofString, ih]
    rfl

theorem isDistinct_of_nodup {fields : Record} (distinct : (fields.map Prod.fst).Nodup) :
    fields.isDistinct = true := by
  induction fields with
  | nil => rfl
  | cons field rest ih =>
    obtain ⟨name, value⟩ := field
    rw [List.map_cons, List.nodup_cons] at distinct
    rw [Record.isDistinct, ih distinct.2, Bool.and_true, Bool.not_eq_true', List.any_eq_false]
    intro other listed same
    apply distinct.1
    exact List.mem_map.mpr ⟨other, listed, beq_iff_eq.mp same⟩

theorem record?_ofFields {names : List String} {fields : Record}
    (named : fields.map Prod.fst = names) (distinct : names.Nodup) :
    record? names (ofFields fields) = some fields := by
  have known : fields.filter (fun field => names.contains field.1) = fields := by
    rw [List.filter_eq_self]
    intro field listed
    rw [List.contains_iff_mem, ← named]
    exact List.mem_map_of_mem listed
  rw [← named] at distinct
  simp only [record?, ofFields, namedMembers?_ofFields, Option.bind_eq_bind, Option.bind_some,
    known, isDistinct_of_nodup distinct, if_true]
  rfl

@[simp] theorem string?_ofString (text : String) : string? (ofString text) = some text :=
  JsonText.string?_ofString text

@[simp] theorem boolean?_boolean (value : Bool) : boolean? (.boolean value) = some value := rfl

@[simp] theorem word?_ofWord (word : UInt64) : word? (ofWord word) = some word := by
  have small : word.toNat < UInt64.size := word.toNat_lt
  simp only [ofWord, word?, if_pos small, UInt64.ofNat_toNat]

@[simp] theorem halfWord?_ofHalfWord (word : UInt32) : halfWord? (ofHalfWord word) = some word := by
  have small : word.toNat < UInt32.size := word.toNat_lt
  simp only [ofHalfWord, halfWord?, if_pos small, UInt32.ofNat_toNat]

theorem list?_map {α : Type} {read : JsonValue → Option α} {toJson : α → JsonValue}
    (reads : ∀ entry, read (toJson entry) = some entry) (entries : List α) :
    list? read (.list (entries.map toJson)) = some entries := by
  rw [list?]
  induction entries with
  | nil => rfl
  | cons entry rest ih =>
    rw [List.map_cons, List.mapM_cons, reads, ih]
    rfl

/-! ### What is written is plain -/

theorem plain_ofString (text : String) : Plain (.ofString text) :=
  .text text.toList

theorem plain_ofFields {fields : Record} (values : ∀ field ∈ fields, Plain field.2) :
    Plain (.ofFields fields) := by
  apply Plain.object
  · intro member listed
    obtain ⟨field, _, rfl⟩ := List.mem_map.mp listed
    exact ⟨field.1.toList, rfl⟩
  · intro member listed
    obtain ⟨field, there, rfl⟩ := List.mem_map.mp listed
    exact values field there

end JsonValue

open JsonValue (Plain plain_ofFields record?_ofFields)

theorem Segment.ofJson?_toJson (segment : Segment) :
    Segment.ofJson? segment.toJson = some segment := by
  have record : segment.toJson.record? Segment.fieldNames = some _ :=
    record?_ofFields rfl (by decide)
  simp [Segment.ofJson?, record, JsonValue.Record.required, JsonValue.Record.value?]

theorem Chunk.ofJson?_toJson (chunk : Chunk) : Chunk.ofJson? chunk.toJson = some chunk := by
  have record : chunk.toJson.record? Chunk.fieldNames = some _ :=
    record?_ofFields rfl (by decide)
  simp [Chunk.ofJson?, record, JsonValue.Record.required, JsonValue.Record.optional,
    JsonValue.Record.value?]

theorem CatalogRow.ofJson?_toJson (row : CatalogRow) :
    CatalogRow.ofJson? row.toJson = some row := by
  have record : row.toJson.record? ["segment", "chunk"] = some _ :=
    record?_ofFields rfl (by decide)
  simp [CatalogRow.ofJson?, record, JsonValue.Record.required, JsonValue.Record.value?,
    Segment.ofJson?_toJson, Chunk.ofJson?_toJson]

theorem Segment.plain_toJson (segment : Segment) : Plain segment.toJson := by
  apply plain_ofFields
  simp [JsonValue.plain_ofString, JsonValue.ofHalfWord, Plain.natural]

theorem Chunk.plain_toJson (chunk : Chunk) : Plain chunk.toJson := by
  apply plain_ofFields
  simp [JsonValue.plain_ofString, JsonValue.ofWord, Plain.natural, Plain.boolean]

theorem CatalogRow.plain_toJson (row : CatalogRow) : Plain row.toJson := by
  apply plain_ofFields
  simp [Segment.plain_toJson, Chunk.plain_toJson]

namespace Catalog

theorem plain_document (rows : List CatalogRow) : Plain (document rows) := by
  have all : Plain (.list (rows.map CatalogRow.toJson)) := by
    apply Plain.list
    intro item listed
    obtain ⟨row, _, rfl⟩ := List.mem_map.mp listed
    exact row.plain_toJson
  apply plain_ofFields
  simp [JsonValue.ofHalfWord, Plain.natural, all]

/-- The rows that were written are the rows that are read. -/
theorem readDocument?_document (rows : List CatalogRow) :
    readDocument? (document rows).pretty = some (formatVersion, rows) := by
  have parsed := JsonValue.parse_written (plain_document rows) (.indented 0)
  have record : (document rows).record? ["version", "rows"] = some _ :=
    record?_ofFields rfl (by decide)
  rw [readDocument?, JsonValue.pretty, parsed]
  simp [record, JsonValue.Record.required, JsonValue.Record.value?,
    JsonValue.list?_map CatalogRow.ofJson?_toJson]

/-- The file that holds a catalog's rows. -/
def written (rows : List CatalogRow) : Bytes :=
  textBytes (document rows).pretty

theorem readRows_of_written {disk : Disk} {path : String} {rows : List CatalogRow}
    (there : disk.stat path = .ok (.file (written rows))) : readRows disk path = .ok rows := by
  have text : disk.text path = .ok (document rows).pretty := by
    simp only [Disk.text, Disk.openNode, there, written, bytesText?_textBytes]
  simp only [readRows, text, readDocument?_document, if_true]

end Catalog

end SegmentOffload
