import SegmentOffload.ConfigLoading
import SegmentOffload.Proofs.RecordRoundTrip

/-!
What a document says of a client's setup.

Every key of a document has one value, because whatever adds to a table either refuses a key that is
there or replaces its value.  So a table gives a setup exactly when each of its known keys holds a
value of the kind that the field takes; the setup has those values, and the defaults elsewhere.
-/

namespace SegmentOffload

/-! ### Keys stand once -/

namespace TomlTable

/-- No key of the table stands twice; what is below the keys does not matter. -/
def IsKeyed (table : TomlTable) : Prop :=
  (table.entries.map Prod.fst).Nodup

theorem isKeyed_empty (origin : TableOrigin) : (empty origin).IsKeyed :=
  List.nodup_nil

variable {table grown : TomlTable}

theorem value?_eq_none_iff (table : TomlTable) (key : String) :
    table.value? key = none ↔ key ∉ table.entries.map Prod.fst := by
  simp only [value?, Option.map_eq_none_iff, List.find?_eq_none, List.mem_map, not_exists, not_and,
    beq_iff_eq]

/-- A new key comes last, and a key that is there keeps its place. -/
theorem IsKeyed.set (keyed : table.IsKeyed) (key : String) (value : TomlValue) :
    (table.set key value).IsKeyed := by
  unfold IsKeyed TomlTable.set
  split
  · have kept : (table.entries.map fun entry => if entry.1 == key then (key, value) else entry).map
        Prod.fst = table.entries.map Prod.fst := by
      rw [List.map_map]
      apply List.map_congr_left
      intro entry _
      by_cases same : entry.1 = key <;> simp [same]
    rw [entries, kept]
    exact keyed
  · rename_i missing
    have fresh : key ∉ table.entries.map Prod.fst := by
      rw [← value?_eq_none_iff]
      simpa using missing
    rw [entries, List.map_append]
    rw [List.nodup_append]
    constructor
    · exact keyed
    · constructor
      · simp
      · intro other listed last alone same
        rw [List.map_singleton, List.mem_singleton] at alone
        rw [same, alone] at listed
        exact fresh listed

/-- Whatever is changed below a key leaves the keys as they are, so only a change of the table
itself counts. -/
theorem IsKeyed.within {dotted : Bool} {change : TomlTable → Option TomlTable}
    (keeps : ∀ {found changed : TomlTable}, found.IsKeyed → change found = some changed →
      changed.IsKeyed) (path : List String) (keyed : table.IsKeyed)
    (done : within dotted change path table = some grown) : grown.IsKeyed := by
  cases path with
  | nil => exact keeps keyed done
  | cons key path =>
    simp only [TomlTable.within] at done
    split at done
    · obtain ⟨made, _, changes⟩ := Option.bind_eq_some_iff.mp done
      cases changes
      exact keyed.set ..
    · split at done
      · cases done
      · obtain ⟨changed, _, changes⟩ := Option.bind_eq_some_iff.mp done
        cases changes
        exact keyed.set ..
    · obtain ⟨changed, _, changes⟩ := Option.bind_eq_some_iff.mp done
      cases changes
      exact keyed.set ..
    · cases done

theorem IsKeyed.define {path : List String} {key : String} {value : TomlValue}
    (keyed : table.IsKeyed) (done : define path key value table = some grown) : grown.IsKeyed := by
  refine keyed.within ?_ path done
  intro found changed foundKeyed defined
  split at defined
  · cases defined
  · split at defined
    · cases defined
    · cases defined
      exact foundKeyed.set key value

theorem IsKeyed.openTable {key : String} (keyed : table.IsKeyed)
    (done : openTable key table = some grown) : grown.IsKeyed := by
  unfold TomlTable.openTable at done
  split at done
  · cases done
    exact keyed.set ..
  · split at done
    · cases done
      exact keyed.set ..
    · cases done
  · cases done

theorem IsKeyed.openElement {key : String} (keyed : table.IsKeyed)
    (done : openElement key table = some grown) : grown.IsKeyed := by
  unfold TomlTable.openElement at done
  split at done
  · cases done
    exact keyed.set ..
  · cases done
    exact keyed.set ..
  · cases done

end TomlTable

namespace Toml

open TomlTable (IsKeyed)

variable {document next : Document}

theorem Document.isKeyed_define {key : Key} {value : TomlValue} (keyed : document.root.IsKeyed)
    (done : document.define key value = some next) : next.root.IsKeyed := by
  obtain ⟨root, defined, replaced⟩ := Option.bind_eq_some_iff.mp done
  cases replaced
  exact keyed.within (fun found changed => found.define changed) document.opened defined

theorem Document.isKeyed_follow {key : Key} {make : String → TomlTable → Option TomlTable}
    (keeps : ∀ {found changed : TomlTable}, found.IsKeyed → make key.name found = some changed →
      changed.IsKeyed) (keyed : document.root.IsKeyed)
    (done : document.follow key make = some next) : next.root.IsKeyed := by
  obtain ⟨root, followed, replaced⟩ := Option.bind_eq_some_iff.mp done
  cases replaced
  exact keyed.within keeps key.path followed

/-- One line adds a key, opens a table or adds nothing; the induction is on the lines. -/
theorem isKeyed_of_takeLines {fuel : Nat} {characters : List Char} {last : Document}
    (keyed : document.root.IsKeyed) (taken : takeLines fuel document characters = some last) :
    last.root.IsKeyed := by
  induction fuel generalizing document characters with
  | zero => cases taken
  | succ fuel ih =>
    simp only [takeLines, Option.bind_eq_bind] at taken
    split at taken
    · cases taken
      exact keyed
    · obtain ⟨rest, _, taken⟩ := Option.bind_eq_some_iff.mp taken
      exact ih keyed taken
    · exact ih keyed taken
    · obtain ⟨rest, _, taken⟩ := Option.bind_eq_some_iff.mp taken
      exact ih keyed taken
    · simp only [Option.bind_eq_some_iff] at taken
      obtain ⟨_, _, _, _, _, _, _, followed, _, _, taken⟩ := taken
      exact ih (Document.isKeyed_follow IsKeyed.openElement keyed followed) taken
    · simp only [Option.bind_eq_some_iff] at taken
      obtain ⟨_, _, _, _, _, followed, _, _, taken⟩ := taken
      exact ih (Document.isKeyed_follow IsKeyed.openTable keyed followed) taken
    · simp only [Option.bind_eq_some_iff] at taken
      obtain ⟨_, _, _, _, _, _, _, defined, _, _, taken⟩ := taken
      exact ih (Document.isKeyed_define keyed defined) taken

theorem isKeyed_of_parse {text : String} {table : TomlTable} (parsed : parse text = some table) :
    table.IsKeyed := by
  obtain ⟨document, taken, whole⟩ := Option.bind_eq_some_iff.mp parsed
  cases whole
  exact isKeyed_of_takeLines (TomlTable.isKeyed_empty .header) taken

end Toml

/-! ### Values of a kind -/

namespace TomlValue

def ofWord (word : UInt64) : TomlValue :=
  .integer word.toNat

def ofHalfWord (word : UInt32) : TomlValue :=
  .integer word.toNat

theorem string?_toJson_eq_some_iff (value : TomlValue) (text : String) :
    value.toJson.string? = some text ↔ value = .text text := by
  cases value with
  | integer value => cases value <;> simp [toJson, JsonValue.string?]
  | table value => cases value; simp [toJson, tableToJson, JsonValue.string?]
  | _ => simp [toJson, JsonValue.string?, JsonValue.ofString, JsonValue.ofFields]

theorem boolean?_toJson_eq_some_iff (value : TomlValue) (flag : Bool) :
    value.toJson.boolean? = some flag ↔ value = .boolean flag := by
  cases value with
  | integer value => cases value <;> simp [toJson, JsonValue.boolean?]
  | table value => cases value; simp [toJson, tableToJson, JsonValue.boolean?]
  | _ => simp [toJson, JsonValue.boolean?, JsonValue.ofString, JsonValue.ofFields]

theorem word?_toJson_eq_some_iff (value : TomlValue) (word : UInt64) :
    value.toJson.word? = some word ↔ value = .ofWord word := by
  cases value with
  | integer value =>
    cases value with
    | ofNat value =>
      simp only [toJson, JsonValue.word?, ofWord, TomlValue.integer.injEq]
      constructor
      · intro read
        split at read
        · rename_i small
          cases read
          rw [UInt64.toNat_ofNat_of_lt' small]
          rfl
        · cases read
      · intro same
        obtain rfl : value = word.toNat := Int.ofNat_inj.mp same
        rw [if_pos word.toNat_lt, UInt64.ofNat_toNat]
    | negSucc value => simp [toJson, JsonValue.word?, ofWord]
  | table value => cases value; simp [toJson, tableToJson, JsonValue.word?, ofWord]
  | _ => simp [toJson, JsonValue.word?, JsonValue.ofString, JsonValue.ofFields, ofWord]

theorem halfWord?_toJson_eq_some_iff (value : TomlValue) (word : UInt32) :
    value.toJson.halfWord? = some word ↔ value = .ofHalfWord word := by
  cases value with
  | integer value =>
    cases value with
    | ofNat value =>
      simp only [toJson, JsonValue.halfWord?, ofHalfWord, TomlValue.integer.injEq]
      constructor
      · intro read
        split at read
        · rename_i small
          cases read
          rw [UInt32.toNat_ofNat_of_lt' small]
          rfl
        · cases read
      · intro same
        obtain rfl : value = word.toNat := Int.ofNat_inj.mp same
        rw [if_pos word.toNat_lt, UInt32.ofNat_toNat]
    | negSucc value => simp [toJson, JsonValue.halfWord?, ofHalfWord]
  | table value => cases value; simp [toJson, tableToJson, JsonValue.halfWord?, ofHalfWord]
  | _ => simp [toJson, JsonValue.halfWord?, JsonValue.ofString, JsonValue.ofFields, ofHalfWord]

end TomlValue

/-! ### Tables as records -/

namespace TomlTable

open JsonValue (Record namedMembers? record?)

theorem entriesToJson_eq (entries : List (String × TomlValue)) :
    TomlValue.entriesToJson entries =
      entries.map fun entry => (JsonText.ofString entry.1, entry.2.toJson) := by
  induction entries with
  | nil => rfl
  | cons entry rest ih =>
    obtain ⟨key, value⟩ := entry
    rw [TomlValue.entriesToJson, ih, List.map_cons]

/-- The members of a table whose keys are among some names. -/
def known (table : TomlTable) (names : List String) : Record :=
  (table.entries.map fun entry => (entry.1, entry.2.toJson)).filter fun field =>
    names.contains field.1

theorem IsKeyed.record? {table : TomlTable} (keyed : table.IsKeyed) (names : List String) :
    (TomlValue.tableToJson table).record? names = some (table.known names) := by
  obtain ⟨origin, entries⟩ := table
  have distinct : ((mk origin entries).known names).isDistinct = true := by
    apply JsonValue.isDistinct_of_nodup
    apply List.Nodup.sublist (List.filter_sublist.map Prod.fst)
    simpa [IsKeyed, TomlTable.entries, Function.comp_def] using keyed
  have named := JsonValue.namedMembers?_ofFields
    (entries.map fun entry => (entry.1, entry.2.toJson))
  rw [List.map_map] at named
  simp only [TomlValue.tableToJson, JsonValue.record?, entriesToJson_eq, Option.bind_eq_bind]
  simp only [Function.comp_def] at named
  rw [named, Option.bind_some]
  exact if_pos distinct

theorem value?_known (table : TomlTable) {names : List String} {name : String}
    (listed : name ∈ names) :
    (table.known names).value? name = (table.value? name).map TomlValue.toJson := by
  rw [Record.value?, known, value?, List.find?_filter, List.find?_map, Option.map_map, Option.map_map]
  have alike : (fun entry : String × TomlValue =>
      decide (names.contains entry.1 = true ∧ (entry.1 == name) = true)) =
        fun entry => entry.1 == name := by
    funext entry
    by_cases same : entry.1 = name <;> simp [same, listed]
  exact congrArg (fun keeps => (table.entries.find? keeps).map fun entry => entry.2.toJson) alike

/-- A key that a field goes by is absent, or it holds a value of the field's kind. -/
theorem optional_eq_some_iff {α : Type} {read : JsonValue → Option α} {write : α → TomlValue}
    (reads : ∀ value item, read value.toJson = some item ↔ value = write item)
    (table : TomlTable) {names : List String} {name : String} (listed : name ∈ names)
    (absent item : α) :
    (table.known names).optional name read absent = some item ↔
      ∃ setting : Option α, table.value? name = setting.map write ∧ setting.getD absent = item := by
  rw [Record.optional, value?_known table listed]
  cases found : table.value? name with
  | none =>
    simp only [Option.map_none, Option.some.injEq]
    constructor
    · intro left
      exact ⟨none, rfl, left⟩
    · intro said
      obtain ⟨setting, nothing, left⟩ := said
      obtain rfl := Option.map_eq_none_iff.mp nothing.symm
      exact left
  | some value =>
    simp only [Option.map_some, reads]
    constructor
    · intro written
      exact ⟨some item, by rw [written, Option.map_some], rfl⟩
    · intro said
      obtain ⟨setting, something, given⟩ := said
      obtain ⟨own, rfl, written⟩ := Option.map_eq_some_iff.mp something.symm
      rw [← given, Option.getD_some, written]

/-- Going on with what the table has for a field, or with what stands for an absent key. -/
theorem optional_bind_eq_some_iff {α β : Type} {read : JsonValue → Option α}
    {write : α → TomlValue}
    (reads : ∀ value item, read value.toJson = some item ↔ value = write item)
    (table : TomlTable) {names : List String} {name : String} (listed : name ∈ names)
    (absent : α) (next : α → Option β) (result : β) :
    ((table.known names).optional name read absent).bind next = some result ↔
      ∃ setting : Option α, table.value? name = setting.map write ∧
        next (setting.getD absent) = some result := by
  rw [Option.bind_eq_some_iff]
  constructor
  · intro given
    obtain ⟨item, found, rest⟩ := given
    obtain ⟨setting, held, rfl⟩ := (optional_eq_some_iff reads table listed absent item).mp found
    exact ⟨setting, held, rest⟩
  · intro given
    obtain ⟨setting, held, rest⟩ := given
    exact ⟨_, (optional_eq_some_iff reads table listed absent _).mpr ⟨setting, held, rfl⟩, rest⟩

end TomlTable

/-! ### What a table says of a setup -/

/-- Values for some of the fields of a setup. -/
structure ClientConfig.Layer where
  socketPath : Option String
  storageClass : Option String
  multipartChunkSize : Option UInt64
  multipartThreshold : Option UInt64
  encrypt : Option Bool
  tableSpace : Option String
  retryLimit : Option UInt32
  retryBackoff : Option UInt64
  port : Option UInt64
  segmentIndex : Option UInt32
  readBufferSize : Option UInt64

/-- The layer of a file that is not there. -/
def ClientConfig.Layer.blank : Layer :=
  ⟨none, none, none, none, none, none, none, none, none, none, none⟩

/-- The setup with the values of a layer, and with the defaults where the layer has none. -/
def ClientConfig.Layer.settled (layer : Layer) : ClientConfig where
  socketPath := layer.socketPath.getD default.socketPath
  storageClass := layer.storageClass.getD default.storageClass
  multipartChunkSize := layer.multipartChunkSize.getD default.multipartChunkSize
  multipartThreshold := layer.multipartThreshold.getD default.multipartThreshold
  encrypt := layer.encrypt.getD default.encrypt
  tableSpace := layer.tableSpace.getD default.tableSpace
  retryLimit := layer.retryLimit.getD default.retryLimit
  retryBackoff := layer.retryBackoff.getD default.retryBackoff
  port := layer.port.getD default.port
  segmentIndex := layer.segmentIndex.getD default.segmentIndex
  readBufferSize := layer.readBufferSize.getD default.readBufferSize

/-- The known keys of a table hold the values of a layer; where the layer has none, the key is
absent. -/
structure TomlTable.Says (table : TomlTable) (layer : ClientConfig.Layer) : Prop where
  socketPath : table.value? "socket_path" = layer.socketPath.map .text
  storageClass : table.value? "storage_class" = layer.storageClass.map .text
  multipartChunkSize :
    table.value? "multipart_chunk_size" = layer.multipartChunkSize.map .ofWord
  multipartThreshold : table.value? "multipart_threshold" = layer.multipartThreshold.map .ofWord
  encrypt : table.value? "encrypt" = layer.encrypt.map .boolean
  tableSpace : table.value? "table_space" = layer.tableSpace.map .text
  retryLimit : table.value? "retry_limit" = layer.retryLimit.map .ofHalfWord
  retryBackoff : table.value? "retry_backoff_ms" = layer.retryBackoff.map .ofWord
  port : table.value? "port" = layer.port.map .ofWord
  segmentIndex : table.value? "segment_index" = layer.segmentIndex.map .ofHalfWord
  readBufferSize : table.value? "read_buffer_size" = layer.readBufferSize.map .ofWord

theorem ClientConfig.ofToml?_eq_some_iff {table : TomlTable} (keyed : table.IsKeyed)
    (config : ClientConfig) :
    ofToml? table = some config ↔ ∃ layer, table.Says layer ∧ layer.settled = config := by
  have texts := @TomlTable.optional_bind_eq_some_iff _ ClientConfig _ _
    TomlValue.string?_toJson_eq_some_iff table fieldNames
  have words := @TomlTable.optional_bind_eq_some_iff _ ClientConfig _ _
    TomlValue.word?_toJson_eq_some_iff table fieldNames
  have halfWords := @TomlTable.optional_bind_eq_some_iff _ ClientConfig _ _
    TomlValue.halfWord?_toJson_eq_some_iff table fieldNames
  have flags := @TomlTable.optional_bind_eq_some_iff _ ClientConfig _ _
    TomlValue.boolean?_toJson_eq_some_iff table fieldNames
  rw [ofToml?, ofJson?, ofJsonOver?, keyed.record?]
  dsimp only [Option.bind_eq_bind, Option.bind_some]
  constructor
  · intro given
    obtain ⟨socketPath, saysSocketPath, given⟩ := (texts (by decide) _ _ _).mp given
    obtain ⟨storageClass, saysStorageClass, given⟩ := (texts (by decide) _ _ _).mp given
    obtain ⟨multipartChunkSize, saysChunkSize, given⟩ := (words (by decide) _ _ _).mp given
    obtain ⟨multipartThreshold, saysThreshold, given⟩ := (words (by decide) _ _ _).mp given
    obtain ⟨encrypt, saysEncrypt, given⟩ := (flags (by decide) _ _ _).mp given
    obtain ⟨tableSpace, saysTableSpace, given⟩ := (texts (by decide) _ _ _).mp given
    obtain ⟨retryLimit, saysRetryLimit, given⟩ := (halfWords (by decide) _ _ _).mp given
    obtain ⟨retryBackoff, saysRetryBackoff, given⟩ := (words (by decide) _ _ _).mp given
    obtain ⟨port, saysPort, given⟩ := (words (by decide) _ _ _).mp given
    obtain ⟨segmentIndex, saysSegmentIndex, given⟩ := (halfWords (by decide) _ _ _).mp given
    obtain ⟨readBufferSize, saysBufferSize, given⟩ := (words (by decide) _ _ _).mp given
    cases given
    exact ⟨⟨socketPath, storageClass, multipartChunkSize, multipartThreshold, encrypt, tableSpace,
      retryLimit, retryBackoff, port, segmentIndex, readBufferSize⟩,
      ⟨saysSocketPath, saysStorageClass, saysChunkSize, saysThreshold, saysEncrypt, saysTableSpace,
        saysRetryLimit, saysRetryBackoff, saysPort, saysSegmentIndex, saysBufferSize⟩, rfl⟩
  · intro given
    obtain ⟨layer, said, rfl⟩ := given
    refine (texts (by decide) _ _ _).mpr ⟨_, said.socketPath, ?_⟩
    refine (texts (by decide) _ _ _).mpr ⟨_, said.storageClass, ?_⟩
    refine (words (by decide) _ _ _).mpr ⟨_, said.multipartChunkSize, ?_⟩
    refine (words (by decide) _ _ _).mpr ⟨_, said.multipartThreshold, ?_⟩
    refine (flags (by decide) _ _ _).mpr ⟨_, said.encrypt, ?_⟩
    refine (texts (by decide) _ _ _).mpr ⟨_, said.tableSpace, ?_⟩
    refine (halfWords (by decide) _ _ _).mpr ⟨_, said.retryLimit, ?_⟩
    refine (words (by decide) _ _ _).mpr ⟨_, said.retryBackoff, ?_⟩
    refine (words (by decide) _ _ _).mpr ⟨_, said.port, ?_⟩
    refine (halfWords (by decide) _ _ _).mpr ⟨_, said.segmentIndex, ?_⟩
    refine (words (by decide) _ _ _).mpr ⟨_, said.readBufferSize, ?_⟩
    rfl

end SegmentOffload
