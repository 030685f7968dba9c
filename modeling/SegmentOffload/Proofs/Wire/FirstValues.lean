import SegmentOffload.Proofs.Wire.Announcement

/-!
Announcements hang on first values.

Whether a body announces an object, and what it announces, is decided by the first value of each of
four keys.  So the order of settings with different keys, settings under other keys and values that
come after the first one of their key make no difference, neither to an announcement nor to the
reason for which a body is refused.
-/

namespace SegmentOffload.Wire

/-! ### First values -/

namespace Settings

/-- A value is the first one that settings give a key. -/
def FirstIs (settings : Settings) (key value : String) : Prop :=
  ∃ before after, settings = before ++ (key, value) :: after ∧ ∀ setting ∈ before, setting.1 ≠ key

/-- The keys that an announcement looks for. -/
def announcedKeys : List String :=
  [storageClass, multipartChunkSize, multipartUpload, tableSpace]

/-- The settings that an announcement looks for, in their order. -/
def announced (settings : Settings) : Settings :=
  settings.filter fun setting => setting.1 ∈ announcedKeys

variable {settings others : Settings} {key value : String}

theorem value?_eq_some_iff : settings.value? key = some value ↔ settings.FirstIs key value := by
  unfold value? FirstIs
  simp only [Option.map_eq_some_iff, List.find?_eq_some_iff_append, beq_iff_eq, Bool.not_eq_true',
    beq_eq_false_iff_ne]
  constructor
  · rintro ⟨setting, ⟨rfl, before, after, split, unkeyed⟩, rfl⟩
    exact ⟨before, after, split, unkeyed⟩
  · rintro ⟨before, after, split, unkeyed⟩
    exact ⟨(key, value), ⟨rfl, before, after, split, unkeyed⟩, rfl⟩

theorem value?_eq_none_iff : settings.value? key = none ↔ key ∉ settings.map Prod.fst := by
  unfold value?
  rw [Option.map_eq_none_iff, List.find?_eq_none, List.mem_map]
  constructor
  · rintro unkeyed ⟨setting, listed, same⟩
    exact unkeyed setting listed (beq_iff_eq.mpr same)
  · intro missing setting listed keyed
    exact missing ⟨setting, listed, beq_iff_eq.mp keyed⟩

theorem value?_eq_of_firstIs (same : ∀ value, others.FirstIs key value ↔ settings.FirstIs key value) :
    others.value? key = settings.value? key := by
  apply Option.ext
  intro value
  rw [value?_eq_some_iff, value?_eq_some_iff, same]

/-- Under different keys, a setting that is there is the first one of its key. -/
theorem firstIs_iff_mem (distinct : (settings.map Prod.fst).Nodup) :
    settings.FirstIs key value ↔ (key, value) ∈ settings := by
  constructor
  · rintro ⟨before, after, rfl, _⟩
    exact List.mem_append_right before List.mem_cons_self
  · intro listed
    obtain ⟨before, after, rfl⟩ := List.append_of_mem listed
    rw [List.map_append, List.nodup_append] at distinct
    obtain ⟨_, _, apart⟩ := distinct
    refine ⟨before, after, rfl, ?_⟩
    intro setting earlier
    exact apart setting.1 (List.mem_map_of_mem earlier) key (List.mem_map_of_mem List.mem_cons_self)

theorem value?_eq_of_perm (reordered : others.Perm settings)
    (distinct : (settings.map Prod.fst).Nodup) (key : String) :
    others.value? key = settings.value? key := by
  apply value?_eq_of_firstIs
  intro value
  have alike : (others.map Prod.fst).Nodup := (reordered.map Prod.fst).nodup_iff.mpr distinct
  rw [firstIs_iff_mem alike, firstIs_iff_mem distinct, reordered.mem_iff]

theorem value?_eq_of_filter
    (kept : (others.filter fun setting => setting.1 == key) =
      settings.filter fun setting => setting.1 == key) :
    others.value? key = settings.value? key := by
  unfold value?
  rw [← List.head?_filter, ← List.head?_filter, kept]

theorem value?_announced (looked : key ∈ announcedKeys) (settings : Settings) :
    settings.announced.value? key = settings.value? key := by
  unfold announced value?
  rw [List.find?_filter]
  congr 2
  funext setting
  by_cases keyed : setting.1 = key
  · simp [keyed, looked]
  · simp [keyed]

theorem value?_append_of_again {repeated : Settings}
    (again : ∀ setting ∈ repeated, setting.1 ∈ settings.map Prod.fst) (key : String) :
    value? (settings ++ repeated) key = settings.value? key := by
  have split : value? (settings ++ repeated) key =
      (settings.value? key).or (value? repeated key) := by
    unfold value?
    rw [List.find?_append, Option.map_or]
  rw [split]
  cases found : settings.value? key with
  | some value => rfl
  | none =>
    rw [Option.none_or, value?_eq_none_iff]
    rintro listed
    obtain ⟨setting, there, rfl⟩ := List.mem_map.mp listed
    exact value?_eq_none_iff.mp found (again setting there)

end Settings

/-! ### Bodies that announce -/

/-- The settings hold what an announcement takes: the four keys occur, and the first values of two
of them can be read. -/
structure Settings.Announces (settings : Settings) : Prop where
  storageClass : ∃ value, settings.FirstIs Settings.storageClass value
  chunkSize : ∃ text number, settings.FirstIs Settings.multipartChunkSize text ∧
    Spells text number ∧ number < UInt64.size
  upload : ∃ text, settings.FirstIs Settings.multipartUpload text ∧ (text = "0" ∨ text = "1")
  tableSpace : ∃ value, settings.FirstIs Settings.tableSpace value

/-- The announcement says what the first values say. -/
structure PutRequest.SaysFirst (request : PutRequest) (settings : Settings) : Prop where
  storageClass : settings.FirstIs Settings.storageClass request.storageClass
  chunkSize : ∃ text, settings.FirstIs Settings.multipartChunkSize text ∧
    Spells text request.multipartChunkSize.toNat
  upload : settings.FirstIs Settings.multipartUpload (if request.multipartUpload then "1" else "0")
  tableSpace : settings.FirstIs Settings.tableSpace request.tableSpace

variable {settings others : Settings} {path : String} {flags : Flags}

theorem PutRequest.namedBy_iff {request : PutRequest} :
    request.NamedBy settings ↔ request.SaysFirst settings := by
  constructor
  · intro named
    obtain ⟨text, found, read⟩ := named.chunkSize
    exact {
      storageClass := Settings.value?_eq_some_iff.mp named.storageClass
      chunkSize := ⟨text, Settings.value?_eq_some_iff.mp found, parseWord_eq_ok_iff.mp read⟩
      upload := Settings.value?_eq_some_iff.mp named.upload
      tableSpace := Settings.value?_eq_some_iff.mp named.tableSpace }
  · intro told
    obtain ⟨text, found, spells⟩ := told.chunkSize
    exact {
      storageClass := Settings.value?_eq_some_iff.mpr told.storageClass
      chunkSize := ⟨text, Settings.value?_eq_some_iff.mpr found, parseWord_eq_ok_iff.mpr spells⟩
      upload := Settings.value?_eq_some_iff.mpr told.upload
      tableSpace := Settings.value?_eq_some_iff.mpr told.tableSpace }

theorem Settings.announces_iff (path : String) (encrypt : Bool) :
    settings.Announces ↔
      ∃ request : PutRequest, request.remotePath = path ∧ request.encrypt = encrypt ∧
        request.SaysFirst settings := by
  constructor
  · intro announces
    obtain ⟨storageClass, storage⟩ := announces.storageClass
    obtain ⟨text, number, size, spells, small⟩ := announces.chunkSize
    obtain ⟨upload, choice, zeroOrOne⟩ := announces.upload
    obtain ⟨tableSpace, space⟩ := announces.tableSpace
    have exact : (UInt64.ofNat number).toNat = number := UInt64.toNat_ofNat_of_lt' small
    have written : upload = if decide (upload = "1") then "1" else "0" := by
      rcases zeroOrOne with rfl | rfl <;> decide
    refine ⟨⟨path, encrypt, storageClass, .ofNat number, upload = "1", tableSpace⟩, rfl, rfl, ?_⟩
    constructor
    · exact storage
    · rw [exact]
      exact ⟨text, size, spells⟩
    · rw [← written]
      exact choice
    · exact space
  · rintro ⟨request, _, _, told⟩
    obtain ⟨text, size, spells⟩ := told.chunkSize
    constructor
    · exact ⟨_, told.storageClass⟩
    · exact ⟨text, _, size, spells, request.multipartChunkSize.toNat_lt_size⟩
    · refine ⟨_, told.upload, ?_⟩
      cases request.multipartUpload
      · exact .inl rfl
      · exact .inr rfl
    · exact ⟨_, told.tableSpace⟩

/-- A body of a path and settings is read as what the settings make. -/
theorem message_of_announcement (declared : UInt64) (flags : Flags) (pathFree : NulFree path)
    (free : settings.IsNulFree) (countable : settings.length < UInt64.size) :
    Frame.message ⟨⟨declared, .put, flags⟩, textField path ++ settings.bytes⟩ =
      (PutRequest.ofSettings path flags.isFirst settings).map .put := by
  have readPath : (takeText "Put path").run (textField path ++ settings.bytes) =
      (.ok path, settings.bytes) :=
    takeText_run_eq_ok_iff.mpr ⟨pathFree, rfl⟩
  have readSettings : takeSettings.run settings.bytes = (.ok settings, []) := by
    rw [takeSettings_run_eq_ok_iff, List.append_nil]
    exact ⟨countable, free, rfl⟩
  have ended : (expectEnd "Put").run [] = (.ok (), []) := rfl
  unfold Frame.message takeBody takePut
  rw [Decoder.run_bind_of_ok readPath, Decoder.run_bind_of_ok readSettings,
    Decoder.run_bind_of_ok ended]
  cases PutRequest.ofSettings path flags.isFirst settings with
  | ok request => rfl
  | error malformed => rfl

/-- An announcement is read exactly when it says what the first values say. -/
theorem message_of_announcement_eq_ok_iff (declared : UInt64) (flags : Flags)
    (pathFree : NulFree path) (free : settings.IsNulFree)
    (countable : settings.length < UInt64.size) (message : Message) :
    Frame.message ⟨⟨declared, .put, flags⟩, textField path ++ settings.bytes⟩ = .ok message ↔
      ∃ request, message = .put request ∧ request.remotePath = path ∧
        request.encrypt = (flags.first != 0) ∧ request.SaysFirst settings := by
  rw [message_of_announcement declared flags pathFree free countable]
  constructor
  · intro well
    cases put : PutRequest.ofSettings path flags.isFirst settings with
    | error malformed =>
      rw [put] at well
      cases well
    | ok request =>
      rw [put] at well
      cases well
      obtain ⟨samePath, sameFlag, named⟩ := PutRequest.ofSettings_eq_ok_iff.mp put
      exact ⟨request, rfl, samePath, sameFlag, PutRequest.namedBy_iff.mp named⟩
  · rintro ⟨request, rfl, samePath, sameFlag, told⟩
    have put : PutRequest.ofSettings path flags.isFirst settings = .ok request :=
      PutRequest.ofSettings_eq_ok_iff.mpr ⟨samePath, sameFlag, PutRequest.namedBy_iff.mpr told⟩
    rw [put]
    rfl

/-- The same first values are read alike, also where they are refused. -/
theorem PutRequest.ofSettings_congr (path : String) (encrypt : Bool)
    (same : ∀ key ∈ Settings.announcedKeys, others.value? key = settings.value? key) :
    PutRequest.ofSettings path encrypt others = PutRequest.ofSettings path encrypt settings := by
  simp only [Settings.announcedKeys, List.mem_cons, List.not_mem_nil, or_false, forall_eq_or_imp,
    forall_eq] at same
  obtain ⟨storage, size, upload, space⟩ := same
  simp only [PutRequest.ofSettings, requireSetting, storage, size, upload, space]

/-- A body announces an object exactly when the four keys occur, the first chunk size spells a word
and the first choice is a zero or a one; it announces the first values.  Bodies whose settings have
the same first values are read alike: settings in another order, when they have different keys or
those of one key keep theirs; settings with others under unknown keys anywhere among them; and
settings behind which keys are repeated. -/
theorem announcements_hang_on_first_values (declared : UInt64) (flags : Flags)
    (pathFree : NulFree path) (free : settings.IsNulFree)
    (countable : settings.length < UInt64.size) :
    let read (settings : Settings) : Except Malformed Message :=
      Frame.message ⟨⟨declared, .put, flags⟩, textField path ++ settings.bytes⟩
    ((∃ message, read settings = .ok message) ↔ settings.Announces) ∧
      (∀ message, read settings = .ok message ↔ ∃ request, message = .put request ∧
        request.remotePath = path ∧ request.encrypt = (flags.first != 0) ∧
          request.SaysFirst settings) ∧
      ∀ others : Settings, others.IsNulFree → others.length < UInt64.size →
        ((∀ key ∈ Settings.announcedKeys, ∀ value,
            others.FirstIs key value ↔ settings.FirstIs key value) →
          read others = read settings) ∧
        (others.Perm settings → (settings.map Prod.fst).Nodup → read others = read settings) ∧
        ((∀ key, (others.filter fun setting => setting.1 == key) =
            settings.filter fun setting => setting.1 == key) → read others = read settings) ∧
        (others.announced = settings.announced → read others = read settings) ∧
        ∀ repeated, others = settings ++ repeated →
          (∀ setting ∈ repeated, setting.1 ∈ settings.map Prod.fst) →
            read others = read settings := by
  intro read
  have exact := message_of_announcement_eq_ok_iff declared flags pathFree free countable
  refine ⟨?_, exact, ?_⟩
  · rw [Settings.announces_iff path (flags.first != 0)]
    constructor
    · rintro ⟨message, well⟩
      obtain ⟨request, _, told⟩ := (exact message).mp well
      exact ⟨request, told⟩
    · rintro ⟨request, told⟩
      exact ⟨.put request, (exact _).mpr ⟨request, rfl, told⟩⟩
  · intro others otherFree otherCountable
    have alike (same : ∀ key ∈ Settings.announcedKeys, others.value? key = settings.value? key) :
        read others = read settings :=
      calc read others
        _ = (PutRequest.ofSettings path flags.isFirst others).map .put :=
            message_of_announcement declared flags pathFree otherFree otherCountable
        _ = (PutRequest.ofSettings path flags.isFirst settings).map .put := by
            rw [PutRequest.ofSettings_congr path flags.isFirst same]
        _ = read settings :=
            (message_of_announcement declared flags pathFree free countable).symm
    refine ⟨?_, ?_, ?_, ?_, ?_⟩
    · intro same
      exact alike fun key looked => Settings.value?_eq_of_firstIs (same key looked)
    · intro reordered distinct
      exact alike fun key _ => Settings.value?_eq_of_perm reordered distinct key
    · intro kept
      exact alike fun key _ => Settings.value?_eq_of_filter (kept key)
    · intro same
      apply alike
      intro key looked
      rw [← Settings.value?_announced looked others, same, Settings.value?_announced looked]
    · rintro repeated rfl again
      exact alike fun key _ => Settings.value?_append_of_again again key

/-- Settings in an order of their own, with a number spelled freely, an unknown key and a second,
unreadable choice. -/
def looseSettings : Settings :=
  [(Settings.multipartChunkSize, "+007"), ("Compression", "none"), (Settings.tableSpace, "fast"),
    (Settings.multipartUpload, "1"), (Settings.storageClass, ""), (Settings.multipartUpload, "maybe")]

theorem looseSettings_announce :
    let request : PutRequest := ⟨"p", true, "", 7, true, "fast"⟩
    NulFree "p" ∧ looseSettings.IsNulFree ∧ looseSettings.length < UInt64.size ∧
      Frame.message ⟨⟨0, .put, ⟨2, 0, 0⟩⟩, textField "p" ++ looseSettings.bytes⟩ =
        .ok (.put request) := by
  intro request
  have pathFree : NulFree "p" := by decide
  have free : looseSettings.IsNulFree := by
    unfold Settings.IsNulFree
    decide
  have countable : looseSettings.length < UInt64.size := by decide
  have told : request.SaysFirst looseSettings := by
    constructor
    · exact Settings.value?_eq_some_iff.mp (by decide)
    · refine ⟨"+007", Settings.value?_eq_some_iff.mp (by decide), ['0', '0', '7'], ?_⟩
      have digits : ['0', '0', '7'].all Char.isDigit = true := by decide
      exact ⟨by decide, List.all_eq_true.mp digits, .inr (by decide), by decide⟩
    · exact Settings.value?_eq_some_iff.mp (by decide)
    · exact Settings.value?_eq_some_iff.mp (by decide)
  have known := announcements_hang_on_first_values 0 ⟨2, 0, 0⟩ pathFree free countable
  exact ⟨pathFree, free, countable, (known.2.1 _).mpr ⟨request, rfl, rfl, rfl, told⟩⟩

end SegmentOffload.Wire
