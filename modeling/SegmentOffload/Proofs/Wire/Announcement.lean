import Mathlib.Data.List.Flatten
import Mathlib.Data.List.Perm.Subperm
import SegmentOffload.Proofs.DecimalDigits
import SegmentOffload.Proofs.Wire.Bodies

/-!
What settings announce.

Settings make an announcement exactly when each of the four keys has a value and the values of two
of them are readable; of a repeated key the first value counts and other keys do not matter.  The
settings that an announcement is written with make it again, and no settings that make it take fewer
bytes.
-/

namespace SegmentOffload.Wire

/-- How a choice is written as the value of a setting. -/
def switchText (choice : Bool) : String :=
  if choice then "1" else "0"

theorem requireSetting_eq_ok_iff {settings : Settings} {key value : String} :
    requireSetting settings key = .ok value ↔ settings.value? key = some value := by
  unfold requireSetting
  cases settings.value? key with
  | none =>
    constructor
    · intro impossible
      cases impossible
    · intro impossible
      cases impossible
  | some found =>
    constructor
    · intro same
      cases same
      rfl
    · intro same
      cases same
      rfl

/-- The settings of an announcement are found under their four keys. -/
structure PutRequest.NamedBy (request : PutRequest) (settings : Settings) : Prop where
  storageClass : settings.value? Settings.storageClass = some request.storageClass
  chunkSize : ∃ text, settings.value? Settings.multipartChunkSize = some text ∧
    parseWord text = .ok request.multipartChunkSize
  upload : settings.value? Settings.multipartUpload = some (switchText request.multipartUpload)
  tableSpace : settings.value? Settings.tableSpace = some request.tableSpace

theorem bind_eq_ok_iff {α β : Type} {first : Except Malformed α} {next : α → Except Malformed β}
    {result : β} :
    (first >>= next) = .ok result ↔ ∃ value, first = .ok value ∧ next value = .ok result := by
  cases first with
  | error malformed =>
    constructor
    · intro impossible
      cases impossible
    · intro given
      rcases given with ⟨value, impossible, _⟩
      cases impossible
  | ok value =>
    constructor
    · intro second
      exact ⟨value, rfl, second⟩
    · intro given
      rcases given with ⟨other, same, second⟩
      cases same
      exact second

theorem readSwitch_eq_ok_iff {key text : String} {choice : Bool} :
    readSwitch key text = .ok choice ↔ text = switchText choice := by
  unfold readSwitch
  by_cases one : text = "1"
  · rw [if_pos one, one]
    cases choice <;> decide
  · by_cases zero : text = "0"
    · rw [if_neg one, if_pos zero, zero]
      cases choice <;> decide
    · rw [if_neg one, if_neg zero]
      constructor
      · intro impossible
        cases impossible
      · intro written
        cases choice
        · exact absurd written zero
        · exact absurd written one

theorem readNumber_eq_ok_iff {key text : String} {word : UInt64} :
    readNumber key text = .ok word ↔ parseWord text = .ok word := by
  unfold readNumber
  cases parseWord text with
  | ok number =>
    constructor
    · intro same
      cases same
      rfl
    · intro same
      cases same
      rfl
  | error fault =>
    constructor
    · intro impossible
      cases impossible
    · intro impossible
      cases impossible

theorem PutRequest.ofSettings_eq_ok_iff {path : String} {encrypt : Bool} {settings : Settings}
    {request : PutRequest} :
    PutRequest.ofSettings path encrypt settings = .ok request ↔
      request.remotePath = path ∧ request.encrypt = encrypt ∧ request.NamedBy settings := by
  constructor
  · intro made
    unfold ofSettings at made
    obtain ⟨size, sizeFound, made⟩ := bind_eq_ok_iff.mp made
    obtain ⟨chunkSize, number, made⟩ := bind_eq_ok_iff.mp made
    obtain ⟨upload, uploadFound, made⟩ := bind_eq_ok_iff.mp made
    obtain ⟨choice, switched, made⟩ := bind_eq_ok_iff.mp made
    obtain ⟨storageClass, storageFound, made⟩ := bind_eq_ok_iff.mp made
    obtain ⟨tableSpace, spaceFound, made⟩ := bind_eq_ok_iff.mp made
    cases made
    rw [readSwitch_eq_ok_iff] at switched
    rw [switched] at uploadFound
    refine ⟨rfl, rfl, ?_⟩
    exact
      { storageClass := requireSetting_eq_ok_iff.mp storageFound
        chunkSize := ⟨size, requireSetting_eq_ok_iff.mp sizeFound, readNumber_eq_ok_iff.mp number⟩
        upload := requireSetting_eq_ok_iff.mp uploadFound
        tableSpace := requireSetting_eq_ok_iff.mp spaceFound }
  · intro given
    rcases given with ⟨samePath, sameFlag, named⟩
    obtain ⟨size, sizeFound, number⟩ := named.chunkSize
    unfold ofSettings
    refine bind_eq_ok_iff.mpr ⟨size, requireSetting_eq_ok_iff.mpr sizeFound, ?_⟩
    refine bind_eq_ok_iff.mpr ⟨request.multipartChunkSize, readNumber_eq_ok_iff.mpr number, ?_⟩
    refine bind_eq_ok_iff.mpr ⟨_, requireSetting_eq_ok_iff.mpr named.upload, ?_⟩
    refine bind_eq_ok_iff.mpr ⟨request.multipartUpload, readSwitch_eq_ok_iff.mpr rfl, ?_⟩
    refine bind_eq_ok_iff.mpr ⟨_, requireSetting_eq_ok_iff.mpr named.storageClass, ?_⟩
    refine bind_eq_ok_iff.mpr ⟨_, requireSetting_eq_ok_iff.mpr named.tableSpace, ?_⟩
    rw [← samePath, ← sameFlag]
    rfl

theorem PutRequest.namedBy_settings (request : PutRequest) :
    request.NamedBy request.settings where
  storageClass := by
    simp [settings, Settings.value?]
  chunkSize := by
    refine ⟨decimal request.multipartChunkSize.toNat, ?_, parseWord_decimal _⟩
    simp [settings, Settings.value?, Settings.storageClass, Settings.multipartChunkSize]
  upload := by
    simp [settings, Settings.value?, Settings.storageClass, Settings.multipartChunkSize,
      Settings.multipartUpload, switchText]
  tableSpace := by
    simp [settings, Settings.value?, Settings.storageClass, Settings.multipartChunkSize,
      Settings.multipartUpload, Settings.tableSpace]

theorem PutRequest.ofSettings_settings (request : PutRequest) :
    PutRequest.ofSettings request.remotePath request.encrypt request.settings = .ok request :=
  ofSettings_eq_ok_iff.mpr ⟨rfl, rfl, request.namedBy_settings⟩

theorem Settings.mem_of_value?_eq_some {settings : Settings} {key value : String}
    (found : settings.value? key = some value) : (key, value) ∈ settings := by
  unfold value? at found
  obtain ⟨setting, first, same⟩ := Option.map_eq_some_iff.mp found
  have member := List.mem_of_find?_eq_some first
  have keyed := List.find?_some first
  have sameKey : setting.1 = key := beq_iff_eq.mp keyed
  have sameSetting : setting = (key, value) := Prod.ext sameKey same
  rw [sameSetting] at member
  exact member

theorem PutRequest.isNulFree_settings {request : PutRequest}
    (storageFree : NulFree request.storageClass) (spaceFree : NulFree request.tableSpace) :
    request.settings.IsNulFree := by
  intro setting member
  simp only [settings, List.mem_cons, List.not_mem_nil, or_false] at member
  have storageKey : NulFree Settings.storageClass := by decide
  have sizeKey : NulFree Settings.multipartChunkSize := by decide
  have uploadKey : NulFree Settings.multipartUpload := by decide
  have spaceKey : NulFree Settings.tableSpace := by decide
  rcases member with storage | size | upload | space
  · rw [storage]
    exact ⟨storageKey, storageFree⟩
  · rw [size]
    exact ⟨sizeKey, nulFree_decimal _⟩
  · rw [upload]
    refine ⟨uploadKey, ?_⟩
    cases request.multipartUpload <;> decide
  · rw [space]
    exact ⟨spaceKey, spaceFree⟩

/-! ### No settings are shorter -/

theorem length_flatMap_le_of_subperm {α : Type} {few many : List α} (write : α → Bytes)
    (within : few.Subperm many) : (few.flatMap write).length ≤ (many.flatMap write).length := by
  obtain ⟨same, permuted, inside⟩ := within
  have sameLength : (same.flatMap write).length = (few.flatMap write).length :=
    (List.Perm.flatMap_right write permuted).length_eq
  have shorter : (same.flatMap write).length ≤ (many.flatMap write).length :=
    (List.Sublist.flatMap inside write).length_le
  omega

/-- Settings that make an announcement take at least the bytes that it is written with. -/
theorem PutRequest.length_bytes_settings_le {request : PutRequest} {settings : Settings}
    (named : request.NamedBy settings) :
    request.settings.bytes.length ≤ settings.bytes.length := by
  obtain ⟨sizeText, size, number⟩ := named.chunkSize
  -- the same four settings with the number spelled as it was found
  let found : Settings :=
    [(Settings.storageClass, request.storageClass), (Settings.multipartChunkSize, sizeText),
      (Settings.multipartUpload, switchText request.multipartUpload),
      (Settings.tableSpace, request.tableSpace)]
  have distinct : found.Nodup := by
    simp [found, Settings.storageClass, Settings.multipartChunkSize, Settings.multipartUpload,
      Settings.tableSpace]
  have inside : found ⊆ settings := by
    intro setting member
    simp only [found, List.mem_cons, List.not_mem_nil, or_false] at member
    rcases member with storage | chunk | upload | space
    · rw [storage]
      exact Settings.mem_of_value?_eq_some named.storageClass
    · rw [chunk]
      exact Settings.mem_of_value?_eq_some size
    · rw [upload]
      exact Settings.mem_of_value?_eq_some named.upload
    · rw [space]
      exact Settings.mem_of_value?_eq_some named.tableSpace
  have fewer := length_flatMap_le_of_subperm settingField (List.subperm_of_subset distinct inside)
  have spelled := length_textBytes_decimal_le number
  have written :
      (request.settings.flatMap settingField).length ≤ (found.flatMap settingField).length := by
    simp only [found, PutRequest.settings, switchText, List.flatMap_cons, List.flatMap_nil,
      List.append_nil, List.length_append, settingField, length_textField]
    omega
  rw [Settings.bytes_eq, Settings.bytes_eq, List.length_append, List.length_append,
    length_wordBytes, length_wordBytes]
  omega

end SegmentOffload.Wire
