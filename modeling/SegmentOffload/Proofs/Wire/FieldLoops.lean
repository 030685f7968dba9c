import SegmentOffload.Proofs.Wire.Bodies
import SegmentOffload.Proofs.Wire.SlicedFrames

/-!
Repeated fields, one turn at a time.

The settings of a request and the entries of a listing are read by loops that collect one item in
each turn.  Nothing but the bytes bounds the turns: a count may be any word.  But each item takes
bytes away, so that a loop is over before the bytes could hold another item, and the settings it has
collected fit into the bytes it has read.  That is why a count which the bytes cannot hold may be
refused beforehand: the loop would have failed on it all the same, and only room that is never used
is saved.
-/

namespace SegmentOffload.Wire

/-! ### Loops -/

/-- Where a loop stands: the items it has collected, in order, and the bytes left. -/
structure Collected (α : Type) where
  items : List α
  left : Bytes
deriving DecidableEq, Repr

/-- A loop that reads one item in each turn. -/
structure FieldLoop (α : Type) where
  /-- Whether there is another turn. -/
  goesOn : Collected α → Bool
  item : Decoder α

namespace FieldLoop

variable {α : Type}

def turn (loop : FieldLoop α) (state : Collected α) : Except Malformed (Collected α) :=
  match loop.item.run state.left with
  | (.ok item, left) => .ok ⟨state.items ++ [item], left⟩
  | (.error malformed, _) => .error malformed

/-- What a loop comes to in at most so many turns; nothing when it would go on. -/
def within (loop : FieldLoop α) (turns : Nat) (state : Collected α) :
    Option (Except Malformed (Collected α)) :=
  if loop.goesOn state then
    match turns with
    | 0 => none
    | turns + 1 =>
      match loop.turn state with
      | .ok next => loop.within turns next
      | .error malformed => some (.error malformed)
  else some (.ok state)

/-- Each turn that collects an item takes so many bytes at least. -/
def Consumes (loop : FieldLoop α) (least : Nat) : Prop :=
  ∀ state next, loop.turn state = .ok next → next.left.length + least ≤ state.left.length

variable {loop : FieldLoop α} {least turns : Nat} {state next final : Collected α}

theorem turn_eq_ok_iff :
    loop.turn state = .ok next ↔
      ∃ item, loop.item.run state.left = (.ok item, next.left) ∧
        next.items = state.items ++ [item] := by
  unfold turn
  cases read : loop.item.run state.left with
  | mk outcome left =>
    cases outcome with
    | ok item =>
      constructor
      · intro same
        cases same
        exact ⟨item, rfl, rfl⟩
      · intro given
        obtain ⟨other, same, collected⟩ := given
        cases same
        simp only [← collected]
    | error malformed =>
      constructor
      · intro impossible
        cases impossible
      · intro given
        obtain ⟨_, impossible, _⟩ := given
        cases impossible

theorem exists_of_turn_eq_error {malformed : Malformed}
    (turned : loop.turn state = .error malformed) :
    ∃ rest, loop.item.run state.left = (.error malformed, rest) := by
  unfold turn at turned
  cases read : loop.item.run state.left with
  | mk outcome left =>
    rw [read] at turned
    cases outcome with
    | ok item => cases turned
    | error refused =>
      cases turned
      exact ⟨left, rfl⟩

theorem length_items_of_turn (turned : loop.turn state = .ok next) :
    next.items.length = state.items.length + 1 := by
  obtain ⟨item, _, collected⟩ := turn_eq_ok_iff.mp turned
  rw [collected, List.length_append, List.length_singleton]

/-- A loop consumes what the reader of its items takes. -/
theorem consumes_of_item
    (takes : ∀ bytes item rest, loop.item.run bytes = (.ok item, rest) →
      rest.length + least ≤ bytes.length) : loop.Consumes least := by
  intro state next turned
  obtain ⟨item, read, _⟩ := turn_eq_ok_iff.mp turned
  exact takes _ _ _ read

/-- A loop that consumes is over before its bytes could hold another item. -/
theorem Consumes.ends (consumes : loop.Consumes least)
    (short : state.left.length < least * turns) :
    ∃ outcome, loop.within turns state = some outcome := by
  fun_induction loop.within turns state with
  | case1 state goes =>
    rw [Nat.mul_zero] at short
    exact absurd short (Nat.not_lt_zero _)
  | case2 state goes turns next turned ih =>
    have taken := consumes _ _ turned
    rw [Nat.mul_succ] at short
    exact ih (by omega)
  | case3 state goes turns malformed turned => exact ⟨_, rfl⟩
  | case4 turns state stops => exact ⟨_, rfl⟩

/-- What is collected and what is left together never take more bytes than there were. -/
theorem Consumes.spends (consumes : loop.Consumes least)
    (ended : loop.within turns state = some (.ok final)) :
    final.left.length + least * final.items.length ≤
      state.left.length + least * state.items.length := by
  -- A turn moves at least `least` bytes from the first summand to the second.
  fun_induction loop.within turns state with
  | case1 state goes => cases ended
  | case2 state goes turns next turned ih =>
    have taken := consumes _ _ turned
    have later := ih ended
    rw [length_items_of_turn turned, Nat.mul_succ] at later
    omega
  | case3 state goes turns malformed turned => cases ended
  | case4 turns state stops =>
    cases ended
    exact Nat.le_refl _

theorem stops_of_within (ended : loop.within turns state = some (.ok final)) :
    loop.goesOn final = false := by
  fun_induction loop.within turns state with
  | case1 state goes => cases ended
  | case2 state goes turns next turned ih => exact ih ended
  | case3 state goes turns malformed turned => cases ended
  | case4 turns state stops =>
    cases ended
    exact Bool.eq_false_iff.mpr stops

end FieldLoop

/-- The items at hand and those that a reader of the others comes to. -/
def Collected.followedBy {α : Type} (items : List α) :
    Except Malformed (List α) × Bytes → Except Malformed (Collected α)
  | (.ok more, left) => .ok ⟨items ++ more, left⟩
  | (.error malformed, _) => .error malformed

theorem Collected.followedBy_snoc {α : Type} (items : List α) (item : α)
    (others : Except Malformed (List α)) (left : Bytes) :
    Collected.followedBy (items ++ [item]) (others, left) =
      Collected.followedBy items (others.map (item :: ·), left) := by
  cases others with
  | ok more =>
    simp only [followedBy, Except.map, List.append_assoc, List.singleton_append]
  | error malformed => rfl

theorem Collected.followedBy_nil_eq_ok_iff {α : Type} {read : Except Malformed (List α) × Bytes}
    {final : Collected α} :
    Collected.followedBy [] read = .ok final ↔ read = (.ok final.items, final.left) := by
  cases read with
  | mk outcome left =>
    cases outcome with
    | ok items =>
      constructor
      · intro same
        cases same
        rfl
      · intro same
        cases same
        rfl
    | error malformed =>
      constructor
      · intro impossible
        cases impossible
      · intro impossible
        cases impossible

/-! ### Entries -/

/-- Entries are read until no bytes are left. -/
def entryLoop : FieldLoop ObjectMeta where
  goesOn state := !state.left.isEmpty
  item := takeEntry

theorem entryLoop_goesOn_iff {state : Collected ObjectMeta} :
    entryLoop.goesOn state = true ↔ state.left ≠ [] := by
  simp only [entryLoop, Bool.not_eq_true', List.isEmpty_eq_false_iff]

theorem takeEntry_consumes {bytes rest : Bytes} {entry : ObjectMeta}
    (taken : takeEntry.run bytes = (.ok entry, rest)) : rest.length + 9 ≤ bytes.length := by
  obtain ⟨_, written⟩ := takeEntry_run_eq_ok_iff.mp taken
  rw [written, List.length_append, ObjectMeta.bytes, List.length_append, length_textField,
    length_wordBytes]
  omega

theorem entryLoop_consumes : entryLoop.Consumes 9 :=
  FieldLoop.consumes_of_item fun _ _ _ => takeEntry_consumes

theorem takeEntries_of_ok {bytes rest : Bytes} {entry : ObjectMeta}
    (taken : takeEntry.run bytes = (.ok entry, rest)) :
    takeEntries bytes = (takeEntries rest).map (entry :: ·) := by
  have nonempty : bytes ≠ [] := by
    have shorter := takeEntry_length_lt taken
    exact List.ne_nil_of_length_pos (by omega)
  rw [takeEntries, if_neg (mt List.isEmpty_iff.mp nonempty)]
  split
  · rename_i again
    rw [taken] at again
    cases again
    rfl
  · rename_i again
    rw [taken] at again
    cases again

theorem takeEntries_of_error {bytes rest : Bytes} {malformed : Malformed}
    (nonempty : bytes ≠ []) (refused : takeEntry.run bytes = (.error malformed, rest)) :
    takeEntries bytes = .error malformed := by
  rw [takeEntries, if_neg (mt List.isEmpty_iff.mp nonempty)]
  split
  · rename_i again
    rw [refused] at again
    cases again
  · rename_i again
    rw [refused] at again
    cases again
    rfl

/-- Whatever the loop over entries comes to is what the reader of entries comes to. -/
theorem entryLoop_comes {turns : Nat} {state : Collected ObjectMeta}
    {outcome : Except Malformed (Collected ObjectMeta)}
    (ended : entryLoop.within turns state = some outcome) :
    outcome = Collected.followedBy state.items (takeEntries state.left, []) := by
  fun_induction entryLoop.within turns state with
  | case1 state goes => cases ended
  | case2 state goes turns next turned ih =>
    obtain ⟨entry, read, collected⟩ := FieldLoop.turn_eq_ok_iff.mp turned
    rw [ih ended, collected, Collected.followedBy_snoc, takeEntries_of_ok read]
  | case3 state goes turns malformed turned =>
    cases ended
    obtain ⟨rest, refused⟩ := FieldLoop.exists_of_turn_eq_error turned
    rw [takeEntries_of_error (entryLoop_goesOn_iff.mp goes) refused]
    rfl
  | case4 turns state stops =>
    cases ended
    have nothing : state.left = [] := Classical.not_not.mp (mt entryLoop_goesOn_iff.mpr stops)
    have none : takeEntries [] = .ok [] := by
      rw [takeEntries]
      rfl
    rw [nothing, none, Collected.followedBy, List.append_nil, ← nothing]

theorem entryLoop_within_eq {turns : Nat} {state : Collected ObjectMeta}
    (short : state.left.length < 9 * turns) :
    entryLoop.within turns state =
      some (Collected.followedBy state.items (takeEntries state.left, [])) := by
  obtain ⟨outcome, ended⟩ := entryLoop_consumes.ends short
  rw [ended, entryLoop_comes ended]

/-! ### Settings -/

def takeSetting : Decoder (String × String) := do
  let key ← takeText "setting key"
  let value ← takeText "setting value"
  return (key, value)

/-- So many settings are read.  A turn collects one, so that what is collected counts the turns. -/
def settingLoop (count : Nat) : FieldLoop (String × String) where
  goesOn state := state.items.length < count
  item := takeSetting

theorem takeSetting_consumes {bytes rest : Bytes} {setting : String × String}
    (taken : takeSetting.run bytes = (.ok setting, rest)) : rest.length + 2 ≤ bytes.length := by
  obtain ⟨key, middle, readKey, taken⟩ := Decoder.run_bind_eq_ok_iff.mp taken
  obtain ⟨value, last, readValue, taken⟩ := Decoder.run_bind_eq_ok_iff.mp taken
  have keyLength := takeText_length_lt readKey
  have valueLength := takeText_length_lt readValue
  cases taken
  omega

theorem settingLoop_consumes (count : Nat) : (settingLoop count).Consumes 2 :=
  FieldLoop.consumes_of_item fun _ _ _ => takeSetting_consumes

/-- How readers are grouped does not matter. -/
instance : LawfulMonad Decoder :=
  LawfulMonad.mk' Decoder
    (by
      intro α decoder
      funext bytes
      change Decoder.andThen decoder pure bytes = decoder bytes
      unfold Decoder.andThen
      cases decoder bytes with
      | mk outcome rest => cases outcome <;> rfl)
    (by
      intro α β value next
      rfl)
    (by
      intro α β γ decoder next last
      funext bytes
      change Decoder.andThen (Decoder.andThen decoder next) last bytes =
        Decoder.andThen decoder (fun value => Decoder.andThen (next value) last) bytes
      unfold Decoder.andThen
      cases decoder bytes with
      | mk outcome rest => cases outcome <;> rfl)

theorem takeSettingPairs_succ (count : Nat) :
    takeSettingPairs (count + 1) = do
      let setting ← takeSetting
      let rest ← takeSettingPairs count
      return setting :: rest := by
  simp only [takeSettingPairs, takeSetting, bind_assoc, pure_bind]

theorem followedBy_takeSettingPairs_of_ok {count : Nat} {bytes rest : Bytes}
    {setting : String × String} (settings : Settings)
    (taken : takeSetting.run bytes = (.ok setting, rest)) :
    Collected.followedBy settings ((takeSettingPairs (count + 1)).run bytes) =
      Collected.followedBy (settings ++ [setting]) ((takeSettingPairs count).run rest) := by
  rw [takeSettingPairs_succ, Decoder.run_bind_of_ok taken]
  cases others : (takeSettingPairs count).run rest with
  | mk outcome left =>
    rw [Collected.followedBy_snoc]
    cases outcome with
    | ok more =>
      rw [Decoder.run_bind_of_ok others]
      rfl
    | error malformed =>
      rw [Decoder.run_bind_of_error others]
      rfl

/-- Whatever the loop over settings comes to is what the reader of the settings still counted comes
to. -/
theorem settingLoop_comes {count remaining turns : Nat} {state : Collected (String × String)}
    {outcome : Except Malformed (Collected (String × String))}
    (counted : state.items.length + remaining = count)
    (ended : (settingLoop count).within turns state = some outcome) :
    outcome = Collected.followedBy state.items ((takeSettingPairs remaining).run state.left) := by
  -- The settings collected and those still counted are `count` throughout.
  fun_induction (settingLoop count).within turns state generalizing remaining with
  | case1 state goes => cases ended
  | case2 state goes turns next turned ih =>
    have more : state.items.length < count := of_decide_eq_true goes
    obtain ⟨later, rfl⟩ : ∃ later, remaining = later + 1 := ⟨remaining - 1, by omega⟩
    obtain ⟨setting, read, collected⟩ := FieldLoop.turn_eq_ok_iff.mp turned
    have nextCounted : next.items.length + later = count := by
      rw [FieldLoop.length_items_of_turn turned]
      omega
    rw [ih nextCounted ended, collected, followedBy_takeSettingPairs_of_ok _ read]
  | case3 state goes turns malformed turned =>
    cases ended
    have more : state.items.length < count := of_decide_eq_true goes
    obtain ⟨later, rfl⟩ : ∃ later, remaining = later + 1 := ⟨remaining - 1, by omega⟩
    obtain ⟨rest, refused⟩ := FieldLoop.exists_of_turn_eq_error turned
    change takeSetting.run state.left = _ at refused
    rw [takeSettingPairs_succ, Decoder.run_bind_of_error refused]
    rfl
  | case4 turns state stops =>
    cases ended
    have full : ¬state.items.length < count := mt decide_eq_true stops
    obtain rfl : remaining = 0 := by omega
    rw [takeSettingPairs, Decoder.run_pure, Collected.followedBy, List.append_nil]

theorem settingLoop_within_eq {count remaining turns : Nat} {state : Collected (String × String)}
    (counted : state.items.length + remaining = count) (short : state.left.length < 2 * turns) :
    (settingLoop count).within turns state =
      some (Collected.followedBy state.items ((takeSettingPairs remaining).run state.left)) := by
  obtain ⟨outcome, ended⟩ := (settingLoop_consumes count).ends short
  rw [ended, settingLoop_comes counted ended]

/-! ### The guard on the count -/

/-- What reading settings comes to. -/
structure SettingsReading where
  /-- For how many settings room was reserved, when it came to that. -/
  reserved : Option Nat
  /-- Nothing when the loop would go on. -/
  outcome : Option (Except Malformed (Collected (String × String)))

/-- Read counted settings in at most so many turns.  Only the guard refuses a count that the bytes
left cannot hold. -/
def readSettings (guarded : Bool) (turns : Nat) (bytes : Bytes) : SettingsReading :=
  match (takeWord "settings count").run bytes with
  | (.error malformed, _) => ⟨none, some (.error malformed)⟩
  | (.ok count, left) =>
    if guarded ∧ left.length / 2 < count.toNat then
      ⟨none, some (.error (.tooManySettings count left.length))⟩
    else ⟨some count.toNat, (settingLoop count.toNat).within turns ⟨[], left⟩⟩

/-- The bytes hold as many settings as a loop over them collects. -/
theorem count_le_of_within {count turns : Nat} {left : Bytes}
    {final : Collected (String × String)}
    (ended : (settingLoop count).within turns ⟨[], left⟩ = some (.ok final)) :
    count ≤ left.length / 2 := by
  have spent := (settingLoop_consumes count).spends ended
  have full : ¬final.items.length < count := of_decide_eq_false (FieldLoop.stops_of_within ended)
  change final.left.length + 2 * final.items.length ≤ left.length + 2 * 0 at spent
  omega

theorem readSettings_ends (guarded : Bool) {turns : Nat} {bytes : Bytes}
    (short : bytes.length < 2 * turns) :
    ∃ outcome, (readSettings guarded turns bytes).outcome = some outcome := by
  unfold readSettings
  split
  · exact ⟨_, rfl⟩
  · rename_i count left read
    have shorter := takeWord_length_eq read
    have fits : left.length < 2 * turns := by omega
    split
    · exact ⟨_, rfl⟩
    · exact ⟨_, settingLoop_within_eq (Nat.zero_add _) fits⟩

/-- Guarded, settings are read as the reader of settings reads them. -/
theorem readSettings_guarded_eq {turns : Nat} {bytes : Bytes} (short : bytes.length < 2 * turns) :
    (readSettings true turns bytes).outcome =
      some (Collected.followedBy [] (takeSettings.run bytes)) := by
  unfold readSettings
  cases read : (takeWord "settings count").run bytes with
  | mk counted left =>
    cases counted with
    | error malformed =>
      rw [takeSettings, Decoder.run_bind_of_error read]
      rfl
    | ok count =>
      have shorter := takeWord_length_eq read
      have fits : left.length < 2 * turns := by omega
      rw [takeSettings, Decoder.run_bind_of_ok read,
        Decoder.run_bind_of_ok (Decoder.run_remaining left)]
      by_cases many : left.length / 2 < count.toNat
      · simp only [many, and_self, if_true]
        rfl
      · simp only [many, and_false, if_false]
        exact settingLoop_within_eq (Nat.zero_add _) fits

/-- The guard refuses nothing that the loop would not fail on. -/
theorem readSettings_guarded_iff {turns : Nat} {bytes : Bytes}
    {final : Collected (String × String)} :
    (readSettings true turns bytes).outcome = some (.ok final) ↔
      (readSettings false turns bytes).outcome = some (.ok final) := by
  unfold readSettings
  cases (takeWord "settings count").run bytes with
  | mk counted left =>
    cases counted with
    | error malformed => exact Iff.rfl
    | ok count =>
      by_cases many : left.length / 2 < count.toNat
      · simp only [many, and_self, if_true, Bool.false_eq_true, false_and, if_false]
        -- Refused by the guard; without it, the loop cannot have collected so many.
        constructor
        · intro impossible
          cases impossible
        · intro ended
          have fits := count_le_of_within ended
          omega
      · simp only [many, and_false, if_false]

theorem reserved_le_of_guarded {turns room : Nat} {bytes : Bytes}
    (reserved : (readSettings true turns bytes).reserved = some room) :
    ∃ (count : UInt64) (left : Bytes), bytes = wordBytes count ++ left ∧
      room = count.toNat ∧ room ≤ left.length / 2 := by
  unfold readSettings at reserved
  split at reserved
  · cases reserved
  · rename_i count left read
    split at reserved
    · cases reserved
    · rename_i fits
      cases reserved
      refine ⟨count, left, takeWord_run_eq_ok_iff.mp read, rfl, ?_⟩
      simp only [true_and] at fits
      omega

/-- No reader of frames goes astray, and every frame is measured.  Entries and settings are read in
turns that each take bytes, and the loops end after as many as the bytes allow, whatever the count.
The guard on a count changes neither which settings are read nor what is left behind them, and with
it room is reserved for no more settings than half of the bytes left. -/
theorem decoders_keep_to_their_bytes :
    (∀ bytes, Frame.cut bytes = .ok (Frame.decode bytes)) ∧
    (∀ arrivals, cutFrame arrivals = .ok (readFrame arrivals)) ∧
    (∀ bytes frame, Frame.decode bytes = .ok frame → frame.IsMeasured) ∧
    (∀ arrivals frame later, readFrame arrivals = (.ok frame, later) → frame.IsMeasured) ∧
    entryLoop.Consumes 9 ∧
    (∀ body, entryLoop.within (body.length / 9 + 1) ⟨[], body⟩ =
      some (Collected.followedBy [] (takeEntries body, []))) ∧
    (∀ count, (settingLoop count).Consumes 2) ∧
    (∀ count body, (settingLoop count).within (body.length / 2 + 1) ⟨[], body⟩ =
      some (Collected.followedBy [] ((takeSettingPairs count).run body))) ∧
    (∀ body, (readSettings true (body.length / 2 + 1) body).outcome =
      some (Collected.followedBy [] (takeSettings.run body))) ∧
    (∀ body, ∃ outcome, (readSettings false (body.length / 2 + 1) body).outcome = some outcome) ∧
    (∀ body settings left, takeSettings.run body = (.ok settings, left) ↔
      (readSettings false (body.length / 2 + 1) body).outcome = some (.ok ⟨settings, left⟩)) ∧
    ∀ turns body room, (readSettings true turns body).reserved = some room →
      ∃ (count : UInt64) (left : Bytes), body = wordBytes count ++ left ∧
        room = count.toNat ∧ room ≤ left.length / 2 := by
  have enough : ∀ body : Bytes, body.length < 2 * (body.length / 2 + 1) := by
    intro body
    omega
  refine ⟨Frame.cut_eq, cutFrame_eq, ?_, ?_, entryLoop_consumes, ?_, settingLoop_consumes, ?_, ?_,
    ?_, ?_, ?_⟩
  · intro bytes frame decoded
    exact Frame.isMeasured_of_decode decoded
  · intro arrivals frame later read
    exact Frame.isMeasured_of_readFrame read
  · intro body
    have short : body.length < 9 * (body.length / 9 + 1) := by omega
    exact entryLoop_within_eq short
  · intro count body
    exact settingLoop_within_eq (Nat.zero_add count) (enough body)
  · intro body
    exact readSettings_guarded_eq (enough body)
  · intro body
    exact readSettings_ends false (enough body)
  · intro body settings left
    rw [← readSettings_guarded_iff, readSettings_guarded_eq (enough body), Option.some_inj,
      Collected.followedBy_nil_eq_ok_iff]
  · intro turns body room reserved
    exact reserved_le_of_guarded reserved

/-- The greatest of counts, with bytes for no more than two settings behind it. -/
def boastfulSettings : Bytes :=
  wordBytes 18446744073709551615 ++ [0, 0, 0, 0]

/-- One setting, and a byte that is none of its own. -/
def singleSetting : Bytes :=
  Settings.bytes [("k", "v")] ++ [9]

/-- An acknowledgement that is cut inside its length, with a byte behind it. -/
def brokenAcknowledgement : List Arrival :=
  [.bytes [0, 0, 0, 0, 0, 0, 0], .interrupted, .bytes [12, 45, 0, 0, 0, 9]]

theorem boastfulSettings_keep_to_their_bytes :
    (readFrame brokenAcknowledgement = (.ok Message.readyForQuery.frame, [.bytes [9]]) ∧
      Message.readyForQuery.frame.IsMeasured) ∧
    (takeSettings.run boastfulSettings).1 = .error (.tooManySettings 18446744073709551615 4) ∧
    (readSettings false 7 boastfulSettings).reserved = some 18446744073709551615 ∧
    (∀ settings left,
      (readSettings false 7 boastfulSettings).outcome ≠ some (.ok ⟨settings, left⟩)) ∧
    (readSettings false 7 singleSetting).outcome = some (.ok ⟨[("k", "v")], [9]⟩) ∧
    ∃ (count : UInt64) (left : Bytes), singleSetting = wordBytes count ++ left ∧
      1 = count.toNat ∧ 1 ≤ left.length / 2 := by
  obtain ⟨_, _, _, measured, _, _, _, _, _, _, guard, reserved⟩ := decoders_keep_to_their_bytes
  have read : readFrame brokenAcknowledgement =
      (.ok Message.readyForQuery.frame, [.bytes [9]]) := by decide
  have refused : (takeSettings.run boastfulSettings).1 =
      .error (.tooManySettings 18446744073709551615 4) := by decide +kernel
  refine ⟨⟨read, measured _ _ _ read⟩, refused, by decide +kernel, ?_, ?_, ?_⟩
  · intro settings left ended
    rw [(guard boastfulSettings settings left).mpr ended] at refused
    cases refused
  · exact (guard singleSetting _ _).mp (by decide +kernel)
  · exact reserved 7 singleSetting 1 (by decide +kernel)

end SegmentOffload.Wire
