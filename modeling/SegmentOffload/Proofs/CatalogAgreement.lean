import SegmentOffload.Proofs.FileDrafts
import SegmentOffload.Proofs.RecordRoundTrip

/-!
A catalog in memory and its file.

Whatever is recorded and removed, and whichever of the calls behind it fail, opening the catalog's
path gives the catalog that is held.  A change that fails leaves the rows and what the path names;
one that goes well has placed a file with all the rows, or had none to remove.  The turns of the
disk say which calls fail, and they are arbitrary.

A catalog whose file is missing needs one condition: the directories that its path leaves upwards
have to be there when it is opened.  Otherwise the first change makes them, and the path may lead to
something that was elsewhere before.
-/

namespace SegmentOffload

namespace Disk

theorem climbs_of_isPresent {disk : Disk} {path : String} (there : disk.isPresent path = true) :
    disk.Climbs path := by
  have walked : ∃ location, disk.walk (disk.start path) (Path.components path) = .ok location := by
    unfold isPresent at there
    split at there
    · rename_i node found
      obtain ⟨_, _, location, followed, _⟩ := stat_eq_ok_iff.mp found
      unfold Disk.follow at followed
      split at followed
      · cases followed
      · exact ⟨location, followed⟩
    · cases there
  obtain ⟨location, walked⟩ := walked
  intro index inside dots
  rw [← List.take_append_drop (index + 1) (Path.components path), walk_append_eq_ok_iff] at walked
  rw [walked.1]
  rfl

end Disk

namespace Catalog

open Disk (Drafted Grown GrownOr Placed)

variable {path : String} {rows : List CatalogRow} {disk earlier later : Disk}
  {catalog : Catalog}

/-! ### Saving -/

theorem fill_cases {temporary : Location} {outcome : Except IoError Unit}
    (drafted : Drafted path earlier temporary [] disk)
    (filled : fill disk temporary rows = (outcome, later)) :
    GrownOr path earlier later (fun _ => Drafted path earlier temporary (written rows) later)
      outcome := by
  unfold fill at filled
  cases appended : disk.append temporary (textBytes (document rows).pretty) with
  | mk result full =>
    obtain ⟨content, draft, whole⟩ := drafted.append appended
    rw [appended] at filled
    cases result with
    | error error =>
      cases filled
      exact draft.grown
    | ok nothing =>
      rw [whole rfl] at draft
      cases synced : full.sync with
      | mk result last =>
        have still := draft.call synced
        simp only [synced] at filled
        cases result with
        | error error =>
          cases filled
          exact still.grown
        | ok nothing =>
          cases filled
          exact still

/-- Saving places a file that holds the rows, or nothing is new but directories. -/
theorem save_cases {outcome : Except ClientError Unit}
    (saved : save disk path rows = (outcome, later)) :
    GrownOr path disk later (fun _ => Placed path disk (written rows) later) outcome := by
  unfold save at saved
  simp only at saved
  cases made : disk.makeDirectories (Path.directory path) with
  | mk result ready =>
    have grown := Disk.grown_makeDirectories made
    rw [made] at saved
    cases result with
    | error error =>
      cases saved
      exact grown
    | ok nothing =>
      cases tried : ready.makeTemporary (Path.directory path) with
      | mk result begun =>
        have draft := Disk.drafted_makeTemporary grown tried
        simp only [tried] at saved
        cases result with
        | error error =>
          cases saved
          exact draft
        | ok temporary =>
          cases filled : fill begun temporary rows with
          | mk result full =>
            have drafted := fill_cases draft filled
            simp only [filled] at saved
            cases result with
            | error error =>
              cases saved
              exact drafted
            | ok nothing =>
              cases persisted : full.persist temporary path with
              | mk result last =>
                have placed := Drafted.persist drafted persisted
                simp only [persisted] at saved
                cases result with
                | error error =>
                  cases saved
                  exact Drafted.grown placed
                | ok nothing =>
                  cases saved
                  exact placed

/-! ### Agreement -/

theorem openFile_of_stat
    (same : ∀ node, later.stat path = .ok node ↔ earlier.stat path = .ok node) :
    openFile later path = openFile earlier path := by
  unfold openFile readRows Disk.text Disk.openNode Disk.isPresent
  rcases Disk.stat_alike same with ⟨node, after, before⟩ | ⟨_, _, after, before⟩
  · rw [after, before]
  · rw [after, before]
    rfl

theorem openFile_of_written (there : later.stat path = .ok (.file (written rows))) :
    openFile later path = .ok ⟨path, rows⟩ := by
  have present : later.isPresent path = true := by
    rw [Disk.isPresent, there]
  rw [openFile, if_pos present, readRows_of_written there]

theorem path_of_openFile (opened : openFile disk path = .ok catalog) : catalog.path = path := by
  unfold openFile at opened
  split at opened
  · split at opened
    · cases opened
      rfl
    · cases opened
  · cases opened
    rfl

/-- The file at a path is the catalog's, and the path will not come to name anything else. -/
structure Agrees (path : String) (catalog : Catalog) (disk : Disk) : Prop where
  tree : disk.IsTree
  climbs : disk.Climbs path
  reopens : openFile disk path = .ok catalog

namespace Agrees

theorem grown (agrees : Agrees path catalog disk) (grown : Grown path disk later) :
    Agrees path catalog later := by
  constructor
  · exact grown.isTree agrees.tree
  · exact (grown.keeps []).climbs agrees.climbs
  · rw [openFile_of_stat fun node => grown.stat_iff agrees.tree agrees.climbs]
    exact agrees.reopens

theorem placed (agrees : Agrees path catalog disk)
    (placed : Placed path disk (written rows) later) :
    Agrees path ⟨path, rows⟩ later := by
  constructor
  · exact placed.isTree agrees.tree
  · exact placed.climbs agrees.climbs
  · exact openFile_of_written placed.stat

end Agrees

/-! ### Changes -/

/-- What a change to given rows comes to. -/
structure Comes {α : Type} (path : String) (catalog : Catalog) (disk : Disk)
    (rows : List CatalogRow) (outcome : Except ClientError α) (changed : Catalog) (later : Disk) :
    Prop where
  agrees : Agrees path changed later
  failed : ∀ error, outcome = .error error → changed = catalog ∧ Grown path disk later ∧
    ∀ node, later.stat path = .ok node ↔ disk.stat path = .ok node
  done : ∀ answer, outcome = .ok answer → changed = ⟨path, rows⟩ ∧
    (Placed path disk (written rows) later ∨ rows = catalog.rows ∧ later = disk)

theorem Agrees.replace {changed : Catalog} {outcome : Except ClientError Unit}
    (agrees : Agrees path catalog disk)
    (replaced : catalog.replace rows disk = (outcome, changed, later)) :
    Comes path catalog disk rows outcome changed later := by
  have named := path_of_openFile agrees.reopens
  unfold Catalog.replace at replaced
  rw [named] at replaced
  cases saved : save disk path rows with
  | mk result last =>
    have ended := save_cases saved
    rw [saved] at replaced
    cases result with
    | error error =>
      have grown : Grown path disk last := ended
      cases replaced
      constructor
      · exact agrees.grown grown
      · intro _ _
        exact ⟨rfl, grown, fun _ => grown.stat_iff agrees.tree agrees.climbs⟩
      · intro answer impossible
        cases impossible
    | ok nothing =>
      have placed : Placed path disk (written rows) last := ended
      cases replaced
      constructor
      · exact agrees.placed placed
      · intro error impossible
        cases impossible
      · intro _ _
        exact ⟨rfl, .inl placed⟩

theorem Comes.map {α β : Type} {outcome : Except ClientError α} {changed : Catalog}
    (comes : Comes path catalog disk rows outcome changed later) (told : α → β) :
    Comes path catalog disk rows (outcome.map told) changed later := by
  constructor
  · exact comes.agrees
  · intro error same
    cases outcome with
    | error other => exact comes.failed other rfl
    | ok answer => cases same
  · intro answer same
    cases outcome with
    | error other => cases same
    | ok answer => exact comes.done answer rfl

/-- What a removal of the rows of some kind comes to. -/
structure Removes (path : String) (catalog : Catalog) (disk : Disk) (kind : CatalogRow → Bool)
    (outcome : Except ClientError Nat) (changed : Catalog) (later : Disk) : Prop where
  comes : Comes path catalog disk (catalog.rows.filter fun row => !kind row) outcome changed later
  counted : ∀ removed, outcome = .ok removed → removed = catalog.rows.countP kind
  untouched : catalog.rows.countP kind = 0 → outcome = .ok 0 ∧ changed = catalog ∧ later = disk

theorem length_sub_length_filter_not (rows : List CatalogRow) (kind : CatalogRow → Bool) :
    rows.length - (rows.filter fun row => !kind row).length = rows.countP kind := by
  have whole := rows.length_eq_countP_add_countP kind
  have kept : (rows.filter fun row => !kind row).length =
      rows.countP fun row => decide ¬kind row = true := by
    rw [← List.countP_eq_length_filter]
    simp
  omega

theorem Agrees.retain {kind keep : CatalogRow → Bool} {changed : Catalog}
    {outcome : Except ClientError Nat} (agrees : Agrees path catalog disk)
    (opposite : keep = fun row => !kind row)
    (retained : catalog.retain keep disk = (outcome, changed, later)) :
    Removes path catalog disk kind outcome changed later := by
  subst opposite
  have count := length_sub_length_filter_not catalog.rows kind
  unfold Catalog.retain at retained
  simp only [count] at retained
  split at retained
  · rename_i none
    have all : (catalog.rows.filter fun row => !kind row) = catalog.rows := by
      rw [List.filter_eq_self]
      intro row listed
      rw [Bool.not_eq_true', ← Bool.not_eq_true]
      exact List.countP_eq_zero.mp none row listed
    cases retained
    constructor
    · rw [all]
      constructor
      · exact agrees
      · intro error impossible
        cases impossible
      · intro _ _
        refine ⟨?_, .inr ⟨rfl, rfl⟩⟩
        rw [← path_of_openFile agrees.reopens]
    · intro removed same
      cases same
      exact none.symm
    · intro _
      exact ⟨rfl, rfl, rfl⟩
  · rename_i some
    split at retained
    · rename_i state replaced
      obtain ⟨other, last⟩ := state
      have comes := (agrees.replace replaced).map fun _ => catalog.rows.countP kind
      cases retained
      refine ⟨comes, ?_, fun none => absurd none some⟩
      intro removed same
      cases same
      rfl
    · rename_i error state replaced
      obtain ⟨other, last⟩ := state
      have comes := (agrees.replace replaced).map fun _ => catalog.rows.countP kind
      cases retained
      refine ⟨comes, ?_, fun none => absurd none some⟩
      intro removed impossible
      cases impossible

theorem Agrees.record {row : CatalogRow} {changed : Catalog} {outcome : Except ClientError Unit}
    (agrees : Agrees path catalog disk)
    (recorded : catalog.record row disk = (outcome, changed, later)) :
    Comes path catalog disk (catalog.rows ++ [row]) outcome changed later :=
  agrees.replace recorded

theorem Agrees.removeChunk {remotePath : String} {changed : Catalog}
    {outcome : Except ClientError Nat} (agrees : Agrees path catalog disk)
    (removed : catalog.removeChunk remotePath disk = (outcome, changed, later)) :
    Removes path catalog disk (fun row => row.chunk.remotePath = remotePath) outcome changed
      later := by
  apply agrees.retain _ removed
  funext row
  exact decide_not

theorem Agrees.forget {segment : Segment} {changed : Catalog}
    {outcome : Except ClientError Nat} (agrees : Agrees path catalog disk)
    (forgotten : catalog.forget segment disk = (outcome, changed, later)) :
    Removes path catalog disk (fun row => row.segment = segment) outcome changed later := by
  apply agrees.retain _ forgotten
  funext row
  exact decide_not

/-! ### Any number of changes -/

inductive Change where
  | record (row : CatalogRow)
  | removeChunk (remotePath : String)
  | forget (segment : Segment)

/-- Ask for a change, and go on whether or not it goes well. -/
def Change.attempt : Catalog × Disk → Change → Catalog × Disk
  | (catalog, disk), record row => (catalog.record row disk).2
  | (catalog, disk), removeChunk remotePath => (catalog.removeChunk remotePath disk).2
  | (catalog, disk), forget segment => (catalog.forget segment disk).2

theorem Agrees.attempt (agrees : Agrees path catalog disk) (change : Change) :
    Agrees path (Change.attempt (catalog, disk) change).1
      (Change.attempt (catalog, disk) change).2 := by
  cases change with
  | record row => exact (agrees.record rfl).agrees
  | removeChunk remotePath => exact (agrees.removeChunk rfl).comes.agrees
  | forget segment => exact (agrees.forget rfl).comes.agrees

theorem Agrees.attempts (agrees : Agrees path catalog disk) (changes : List Change) :
    Agrees path (changes.foldl Change.attempt (catalog, disk)).1
      (changes.foldl Change.attempt (catalog, disk)).2 := by
  induction changes generalizing catalog disk with
  | nil => exact agrees
  | cons change rest ih => exact ih (agrees.attempt change)

/-- After any changes, tried one after the other, opening the path gives the catalog that is held.
The next change either fails, and leaves it, or does to the rows what it says, and places them. -/
theorem rows_and_file_never_diverge {first : Catalog} {start : Disk}
    (opened : openFile start path = .ok first) (tree : start.IsTree)
    (climbs : start.isPresent path = false → start.Climbs path) (changes : List Change)
    (reached : changes.foldl Change.attempt (first, start) = (catalog, disk)) :
    openFile disk path = .ok catalog ∧
    (∀ row, let (outcome, changed, later) := catalog.record row disk
      Comes path catalog disk (catalog.rows ++ [row]) outcome changed later ∧
        (outcome = .ok () →
          changed.chunksOf row.segment = catalog.chunksOf row.segment ++ [row.chunk] ∧
          ∀ segment, segment ≠ row.segment →
            changed.chunksOf segment = catalog.chunksOf segment)) ∧
    (∀ remotePath, let (outcome, changed, later) := catalog.removeChunk remotePath disk
      Removes path catalog disk (fun row => row.chunk.remotePath = remotePath) outcome changed
        later) ∧
    ∀ segment, let (outcome, changed, later) := catalog.forget segment disk
      Removes path catalog disk (fun row => row.segment = segment) outcome changed later := by
  have begun : Agrees path first start := by
    refine ⟨tree, ?_, opened⟩
    cases there : start.isPresent path with
    | true => exact Disk.climbs_of_isPresent there
    | false => exact climbs there
  have agrees := begun.attempts changes
  rw [reached] at agrees
  refine ⟨agrees.reopens, ?_, fun _ => agrees.removeChunk rfl, fun _ => agrees.forget rfl⟩
  intro row
  cases recorded : catalog.record row disk with
  | mk outcome state =>
    obtain ⟨changed, later⟩ := state
    have comes := agrees.record recorded
    refine ⟨comes, ?_⟩
    intro well
    obtain ⟨same, _⟩ := comes.done () well
    have named := path_of_openFile agrees.reopens
    have grows := chunksOf_append catalog row
    rw [named] at grows
    rw [same]
    constructor
    · rw [grows, if_pos rfl]
    · intro segment other
      rw [grows, if_neg (Ne.symm other), List.append_nil]

def sampleRow (remotePath : String) : CatalogRow :=
  ⟨⟨0, 1663, 5, "relation", 7, 0⟩, ⟨1, 0, remotePath, 4, 0, false⟩⟩

/-- A disk with two directories, on which the fifth call fails. -/
def troubledDisk : Disk :=
  { Disk.empty with
    nodes := [(["kept"], .directory), (["other"], .directory)]
    turns := [.whole, .whole, .whole, .whole, .fail .notFound] }

/-- The first draft cannot be renamed, so only the rows behind it are recorded. -/
theorem changes_agree_over_failed_rename :
    let path := "/kept/../made/catalog"
    let changes : List Change :=
      [.record (sampleRow "a"), .record (sampleRow "b"), .record (sampleRow "c"), .removeChunk "b"]
    let (catalog, disk) := changes.foldl Change.attempt (⟨path, []⟩, troubledDisk)
    openFile troubledDisk path = .ok ⟨path, []⟩ ∧ troubledDisk.IsTree ∧
      (troubledDisk.isPresent path = false → troubledDisk.Climbs path) ∧
      catalog.rows = [sampleRow "c"] ∧ openFile disk path = .ok catalog := by
  intro path changes
  have opened : openFile troubledDisk path = .ok ⟨path, []⟩ := by decide +kernel
  have tree : troubledDisk.IsTree := Disk.isTree_of_nodes (by decide)
  have climbs : troubledDisk.Climbs path := by decide +kernel
  have rows : (changes.foldl Change.attempt (⟨path, []⟩, troubledDisk)).1.rows =
      [sampleRow "c"] := by
    decide +kernel
  cases reached : changes.foldl Change.attempt (⟨path, []⟩, troubledDisk) with
  | mk catalog disk =>
    rw [reached] at rows
    have known := rows_and_file_never_diverge opened tree (fun _ => climbs) changes reached
    exact ⟨opened, tree, fun _ => climbs, rows, known.1⟩

/-- Where a path leads upwards from a missing directory, a change that fails makes that directory,
and then the path leads to something that is no catalog. -/
theorem failed_record_makes_path_lead_to_directory :
    let path := "/missing/../other"
    let (outcome, catalog, later) := record ⟨path, []⟩ (sampleRow "a") troubledDisk
    openFile troubledDisk path = .ok ⟨path, []⟩ ∧ outcome.isOk = false ∧ catalog = ⟨path, []⟩ ∧
      (openFile later path).isOk = false := by
  decide +kernel

end Catalog

end SegmentOffload
