import SegmentOffload.Proofs.TemporaryFiles

/-!
Files that only grow.

Segment files are written by somebody else, who adds bytes at their ends.  Neither this nor a change
of a disk that keeps the file takes back any byte of a file.
-/

namespace SegmentOffload

namespace Disk

/-- The bytes of the file at a path; without a file there are none. -/
def fileBytes (disk : Disk) (path : String) : Bytes :=
  match disk.stat path with
  | .ok (.file content) => content
  | _ => []

/-- Add bytes at the end of the file at a path, and make the file when it is missing. -/
def extend (disk : Disk) (path : String) (data : Bytes) : Disk :=
  match disk.destination path with
  | .error _ => disk
  | .ok location =>
    match disk.node? location with
    | some (.file content) => disk.put location (.file (content ++ data))
    | none => disk.put location (.file data)
    | some _ => disk

theorem fileBytes_of_stat {disk : Disk} {path : String} {content : Bytes}
    (found : disk.stat path = .ok (.file content)) : disk.fileBytes path = content := by
  rw [fileBytes, found]

theorem fileBytes_turns (disk : Disk) (turns : List Wire.Turn) (path : String) :
    Disk.fileBytes { disk with turns } path = disk.fileBytes path := by
  rw [fileBytes, stat_turns, fileBytes]

/-- Where there was no file, any bytes are more. -/
theorem fileBytes_isPrefix {earlier later : Disk} {path : String}
    (kept : ∀ content, earlier.stat path = .ok (.file content) →
      ∃ more, later.stat path = .ok (.file (content ++ more))) :
    earlier.fileBytes path <+: later.fileBytes path := by
  by_cases nothing : earlier.fileBytes path = []
  · rw [nothing]
    exact List.nil_prefix
  · have there : ∃ content, earlier.stat path = .ok (.file content) := by
      unfold fileBytes at nothing
      split at nothing
      · rename_i content found
        exact ⟨content, found⟩
      · exact absurd rfl nothing
    rcases there with ⟨content, found⟩
    rcases kept content found with ⟨more, grown⟩
    rw [fileBytes_of_stat found, fileBytes_of_stat grown]
    exact List.prefix_append content more

theorem Keeps.fileBytes_isPrefix {replaced : Location} {earlier later : Disk}
    (kept : Keeps replaced earlier later) {path : String} (apart : earlier.place path ≠ replaced) :
    earlier.fileBytes path <+: later.fileBytes path := by
  apply Disk.fileBytes_isPrefix
  intro content found
  refine ⟨[], ?_⟩
  rw [List.append_nil]
  exact kept.stat apart found

/-- A file that is put where no directory is touches nothing else; when it extends the file that was
there, no file gets shorter. -/
theorem fileBytes_put_isPrefix {disk : Disk} {location : Location} {grown : Bytes}
    (noDirectory : disk.node? location ≠ some .directory)
    (longer : ∀ content, disk.node? location = some (.file content) →
      ∃ more, grown = content ++ more) (path : String) :
    disk.fileBytes path <+: (disk.put location (.file grown)).fileBytes path := by
  have kept := keeps_put disk noDirectory (.file grown)
  by_cases apart : disk.place path ≠ location
  · exact kept.fileBytes_isPrefix apart
  · have here : disk.place path = location := Decidable.not_not.mp apart
    apply fileBytes_isPrefix
    intro content found
    rcases stat_eq_file_iff.mp found with ⟨free, slash, place, followed, there⟩
    have same := follow_eq_ok followed
    rw [here] at same
    rw [same] at followed there
    rcases longer content there with ⟨more, grows⟩
    refine ⟨more, ?_⟩
    apply stat_eq_file_iff.mpr
    refine ⟨free, slash, location, kept.follow followed, ?_⟩
    rw [← grows]
    exact disk.node?_put_self (ne_nil_of_not_directory noDirectory) _

theorem extend_spec (disk : Disk) (path : String) (data : Bytes) :
    (disk.extend path data).working = disk.working ∧
      ∀ other, disk.fileBytes other <+: (disk.extend path data).fileBytes other := by
  unfold extend
  split
  · exact ⟨rfl, fun _ => List.prefix_rfl⟩
  · rename_i location found
    have noDirectory := (destination_eq_ok found).2.2.2
    split
    · rename_i content there
      refine ⟨rfl, ?_⟩
      apply fileBytes_put_isPrefix noDirectory
      intro other same
      rw [there] at same
      cases same
      exact ⟨data, rfl⟩
    · rename_i there
      refine ⟨rfl, ?_⟩
      apply fileBytes_put_isPrefix noDirectory
      intro content impossible
      rw [there] at impossible
      cases impossible
    · exact ⟨rfl, fun _ => List.prefix_rfl⟩

/-- Where a file is or can be made, what is appended stands behind what was there. -/
theorem fileBytes_extend {disk : Disk} {path : String} {location : Location}
    (found : disk.destination path = .ok location) (noSocket : disk.node? location ≠ some .socket)
    (data : Bytes) :
    (disk.extend path data).fileBytes path = disk.fileBytes path ++ data := by
  rcases destination_eq_ok found with ⟨free, slash, followed, noDirectory⟩
  have shown : ∀ content, (disk.put location (.file content)).stat path = .ok (.file content) := by
    intro content
    apply stat_eq_file_iff.mpr
    refine ⟨free, slash, location, ?_, ?_⟩
    · exact (keeps_put disk noDirectory _).follow followed
    · exact disk.node?_put_self (ne_nil_of_not_directory noDirectory) _
  cases there : disk.node? location with
  | none =>
    have made : disk.extend path data = disk.put location (.file data) := by
      simp only [extend, found, there]
    have missing : disk.fileBytes path = [] := by
      unfold fileBytes stat locate
      simp only [free, followed, there, Bool.false_eq_true, if_false]
    rw [missing, List.nil_append, made]
    exact fileBytes_of_stat (shown data)
  | some node =>
    cases node with
    | directory => exact absurd there noDirectory
    | socket => exact absurd there noSocket
    | file content =>
      have before : disk.stat path = .ok (.file content) :=
        stat_eq_file_iff.mpr ⟨free, slash, location, followed, there⟩
      have made : disk.extend path data = disk.put location (.file (content ++ data)) := by
        simp only [extend, found, there]
      rw [fileBytes_of_stat before, made]
      exact fileBytes_of_stat (shown _)

end Disk

end SegmentOffload
