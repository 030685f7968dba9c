import SegmentOffload.Commands
import SegmentOffload.Proofs.FileSettings

/-!
The layers of a setup.

A command line's setup comes from the options, the environment, the chosen file and the defaults, in
this order of precedence.  Options and environment reach three fields only, and every other field is
the file's.  There is a setup exactly when the chosen file can be read and both what the file and
the environment give and what the options make of it are usable.
-/

namespace SegmentOffload

open CommandLine (Invocation)

namespace ClientConfig

/-! ### Usable setups -/

structure Usable (config : ClientConfig) : Prop where
  socketPath : config.socketPath ≠ ""
  multipartChunkSize : 0 < config.multipartChunkSize
  readBufferSize : 0 < config.readBufferSize

theorem validate_eq_ok_iff (config : ClientConfig) : config.validate = .ok () ↔ config.Usable := by
  unfold validate
  constructor
  · intro valid
    split at valid
    · cases valid
    · rename_i named
      split at valid
      · cases valid
      · rename_i chunked
        split at valid
        · cases valid
        · rename_i buffered
          exact ⟨fun empty => named (by simp [empty]), UInt64.pos_iff_ne_zero.mpr chunked,
            UInt64.pos_iff_ne_zero.mpr buffered⟩
  · intro usable
    have chunked := UInt64.pos_iff_ne_zero.mp usable.multipartChunkSize
    have buffered := UInt64.pos_iff_ne_zero.mp usable.readBufferSize
    rw [if_neg (by simpa using usable.socketPath), if_neg chunked, if_neg buffered]

/-! ### What may be set outside of a file -/

structure Overrides where
  socketPath : Option String
  retryLimit : Option UInt32
  tableSpace : Option String

namespace Overrides

def nothing : Overrides :=
  ⟨none, none, none⟩

/-- A limit that is no number counts as none. -/
def ofEnvironment (environment : Environment) : Overrides where
  socketPath := environment.setting? "YPROXY_SOCKET"
  retryLimit := (environment.value? "YPROXY_RETRY_LIMIT").bind fun raw =>
    (parseHalfWord (trimBlanks raw)).toOption
  tableSpace := environment.setting? "YPROXY_TABLE_SPACE"

def ofOptions (invocation : Invocation) : Overrides :=
  ⟨invocation.socket, invocation.retryLimit, invocation.tableSpace⟩

end Overrides

/-- The setup of a file under the environment and some options. -/
def layered (environment : Environment) (options : Overrides) (file : Layer) : ClientConfig :=
  let own := Overrides.ofEnvironment environment
  { file.settled with
    socketPath := environment.expandTilde
      ((options.socketPath <|> own.socketPath <|> file.socketPath).getD default.socketPath)
    retryLimit := (options.retryLimit <|> own.retryLimit <|> file.retryLimit).getD default.retryLimit
    tableSpace := (options.tableSpace <|> own.tableSpace <|> file.tableSpace).getD default.tableSpace }

/-- The layer of the chosen file, which has to be readable; without a chosen file nothing is set. -/
def Chosen (disk : Disk) (environment : Environment) (explicit : Option String) (file : Layer) :
    Prop :=
  match chosenPath? disk environment explicit with
  | some path => ∃ text table, disk.text (environment.expandTilde path) = .ok text ∧
      Toml.parse text = some table ∧ table.Says file
  | none => file = .blank

variable {disk : Disk} {environment : Environment} {explicit : Option String} {file : Layer}

theorem Layer.settled_blank : Layer.blank.settled = default := rfl

theorem fromFile_eq_ok_iff (path : String) (base : ClientConfig) :
    fromFile disk environment path = .ok base ↔
      ∃ text table file, disk.text (environment.expandTilde path) = .ok text ∧
        Toml.parse text = some table ∧ table.Says file ∧ file.settled = base := by
  unfold fromFile
  constructor
  · intro given
    cases read : disk.text (environment.expandTilde path) with
    | error error => simp [read] at given
    | ok text =>
      cases parsed : Toml.parse text with
      | none => simp [read, parsed] at given
      | some table =>
        cases accepted : ofToml? table with
        | none => simp [read, parsed, accepted] at given
        | some config =>
          obtain rfl : config = base := by simpa [read, parsed, accepted] using given
          obtain ⟨file, said, settled⟩ :=
            (ofToml?_eq_some_iff (Toml.isKeyed_of_parse parsed) config).mp accepted
          exact ⟨text, table, file, rfl, parsed, said, settled⟩
  · intro given
    obtain ⟨text, table, file, read, parsed, said, settled⟩ := given
    have accepted := (ofToml?_eq_some_iff (Toml.isKeyed_of_parse parsed) base).mpr
      ⟨file, said, settled⟩
    simp [read, parsed, accepted]

theorem fromChosenFile_eq_ok_iff (base : ClientConfig) :
    fromChosenFile disk environment explicit = .ok base ↔
      ∃ file, Chosen disk environment explicit file ∧ file.settled = base := by
  unfold fromChosenFile Chosen
  cases chosenPath? disk environment explicit with
  | none => simp [Layer.settled_blank]
  | some path =>
    simp only [fromFile_eq_ok_iff]
    constructor
    · intro given
      obtain ⟨text, table, file, read, parsed, said, settled⟩ := given
      exact ⟨file, ⟨text, table, read, parsed, said⟩, settled⟩
    · intro given
      obtain ⟨file, ⟨text, table, read, parsed, said⟩, settled⟩ := given
      exact ⟨text, table, file, read, parsed, said, settled⟩

theorem layered_nothing (environment : Environment) (file : Layer) :
    layered environment .nothing file =
      { (file.settled.withEnvironment environment).1 with
        socketPath :=
          environment.expandTilde (file.settled.withEnvironment environment).1.socketPath } := by
  have limit : (retryLimitOver environment file.settled.retryLimit).1 =
      ((Overrides.ofEnvironment environment).retryLimit <|> file.retryLimit).getD
        default.retryLimit := by
    unfold retryLimitOver
    cases given : environment.value? "YPROXY_RETRY_LIMIT" with
    | none => simp [Overrides.ofEnvironment, given, Layer.settled]
    | some raw =>
      cases read : parseHalfWord (trimBlanks raw) with
      | error fault => simp [Overrides.ofEnvironment, given, read, Layer.settled, Except.toOption]
      | ok limit => simp [Overrides.ofEnvironment, given, read, Except.toOption]
  have either {α : Type} (upper lower : Option α) (absent : α) :
      (upper <|> lower).getD absent = upper.getD (lower.getD absent) := by
    cases upper <;> rfl
  simp only [layered, withEnvironment, limit, Overrides.nothing, either, Option.getD_none]
  rfl

theorem layered_ofOptions (environment : Environment) (invocation : Invocation) (file : Layer) :
    layered environment (.ofOptions invocation) file =
      Commands.withOptions environment invocation (layered environment .nothing file) := by
  simp only [layered, Commands.withOptions, Overrides.ofOptions, Overrides.nothing]
  cases invocation.socket <;> cases invocation.tableSpace <;> cases invocation.retryLimit <;> rfl

theorem load_of_chosen {base : ClientConfig}
    (chosen : fromChosenFile disk environment explicit = .ok base) (loaded : ClientConfig) :
    (load disk environment explicit).1 = .ok loaded ↔
      { (base.withEnvironment environment).1 with
        socketPath :=
          environment.expandTilde (base.withEnvironment environment).1.socketPath } = loaded ∧
      loaded.Usable := by
  rw [← validate_eq_ok_iff, load, chosen]
  dsimp only
  split
  · rename_i refused
    simp only [reduceCtorEq, false_iff, not_and]
    intro same
    rw [← same, refused]
    simp
  · rename_i accepted
    simp only [Except.ok.injEq]
    constructor
    · intro same
      exact ⟨same, same ▸ accepted⟩
    · exact And.left

theorem load_eq_ok_iff (loaded : ClientConfig) :
    (load disk environment explicit).1 = .ok loaded ↔
      ∃ file, Chosen disk environment explicit file ∧
        layered environment .nothing file = loaded ∧ loaded.Usable := by
  constructor
  · intro given
    cases chosen : fromChosenFile disk environment explicit with
    | error error => simp [load, chosen] at given
    | ok base =>
      obtain ⟨file, there, rfl⟩ := (fromChosenFile_eq_ok_iff base).mp chosen
      rw [load_of_chosen chosen, ← layered_nothing] at given
      exact ⟨file, there, given⟩
  · intro given
    obtain ⟨file, there, given⟩ := given
    rw [load_of_chosen ((fromChosenFile_eq_ok_iff file.settled).mpr ⟨file, there, rfl⟩),
      ← layered_nothing]
    exact given

end ClientConfig

namespace Commands

open ClientConfig (Chosen Overrides layered)

theorem configFor_eq_ok_iff_load (environment : Environment) (invocation : Invocation)
    (disk : Disk) (config : ClientConfig) :
    (configFor environment invocation disk).1 = .ok config ↔
      ∃ loaded, (ClientConfig.load disk environment invocation.config).1 = .ok loaded ∧
        withOptions environment invocation loaded = config ∧ config.Usable := by
  rw [configFor]
  split
  · rename_i refused
    simp [refused]
  · rename_i loaded journal given
    simp only [given, Except.ok.injEq, exists_eq_left']
    rw [← ClientConfig.validate_eq_ok_iff]
    split
    · rename_i refused
      simp only [reduceCtorEq, false_iff, not_and]
      intro same
      rw [← same, refused]
      simp
    · rename_i accepted
      simp only [Except.ok.injEq]
      constructor
      · intro same
        exact ⟨same, same ▸ accepted⟩
      · exact And.left

end Commands

end SegmentOffload
