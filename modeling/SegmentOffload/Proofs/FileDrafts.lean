import SegmentOffload.Proofs.NewDirectories
import SegmentOffload.Proofs.TemporaryFiles

/-!
Files on their way to a path.

A file is drafted under a temporary name.  When something fails the draft stays or is removed, and
once it is removed only directories are new; when all goes well the draft takes its place at the
path, and nothing else has changed.
-/

namespace SegmentOffload.Disk

variable {path : String} {earlier disk later : Disk} {temporary : Location} {content : Bytes}

/-! ### Drafts -/

/-- A disk with a file under a temporary name, and new directories on the way to a path. -/
structure Drafted (path : String) (earlier : Disk) (temporary : Location) (content : Bytes)
    (disk : Disk) : Prop where
  below : temporary ≠ []
  there : disk.node? temporary = some (.file content)
  grown : Grown path earlier (disk.erase temporary)

/-- What comes of something that can fail.  When it does, there is nothing new but directories. -/
def GrownOr {ε α : Type} (path : String) (earlier later : Disk) (well : α → Prop) :
    Except ε α → Prop
  | .error _ => Grown path earlier later
  | .ok answer => well answer

theorem drafted_makeTemporary {directory : String} {outcome : Except IoError Location}
    (grown : Grown path earlier disk) (made : disk.makeTemporary directory = (outcome, later)) :
    GrownOr path earlier later (fun file => Drafted path earlier file [] later) outcome := by
  unfold makeTemporary at made
  cases called : disk.call with
  | mk result ready =>
    have begun := grown.trans (grown_call path called)
    rw [called] at made
    cases result with
    | error error =>
      cases made
      exact begun
    | ok nothing =>
      dsimp only at made
      split at made
      · cases made
        exact begun
      · split at made
        · cases made
          exact begun
        · rename_i location _
          cases made
          have below : location ++ [ready.temporaryName location] ≠ [] := by simp
          refine ⟨below, ready.node?_put_self below _, begun.ofSame rfl ?_⟩
          intro other
          by_cases here : other = location ++ [ready.temporaryName location]
          · rw [here, node?_erase_self _ below, node?_temporaryName]
          · rw [node?_erase_of_ne _ here, ← ready.node?_put_of_ne here (.file [])]
            rfl
      · cases made
        exact begun

namespace Drafted

theorem append {data : Bytes} {outcome : Except IoError Unit}
    (drafted : Drafted path earlier temporary content disk)
    (appended : disk.append temporary data = (outcome, later)) :
    ∃ written, Drafted path earlier temporary written later ∧
      (outcome = .ok () → written = content ++ data) := by
  obtain ⟨⟨turns, written, rfl⟩, whole⟩ := append_spec drafted.below drafted.there appended
  have there := Disk.node?_put_self { disk with turns } drafted.below (.file written)
  refine ⟨written, ⟨drafted.below, there, drafted.grown.ofSame rfl ?_⟩, ?_⟩
  · intro other
    by_cases here : other = temporary
    · rw [here, node?_erase_self _ drafted.below, node?_erase_self _ drafted.below]
    · rw [node?_erase_of_ne _ here, node?_erase_of_ne _ here, node?_put_of_ne _ here]
      rfl
  · intro well
    have full := whole well
    rw [there] at full
    cases full
    rfl

theorem call {outcome : Except IoError Unit}
    (drafted : Drafted path earlier temporary content disk)
    (called : disk.call = (outcome, later)) : Drafted path earlier temporary content later := by
  refine ⟨drafted.below, ?_, drafted.grown.ofSame ?_ ?_⟩
  · rw [node?_call called]
    exact drafted.there
  · exact (keeps_call [] called).working
  · intro other
    by_cases here : other = temporary
    · rw [here, node?_erase_self _ drafted.below, node?_erase_self _ drafted.below]
    · rw [node?_erase_of_ne _ here, node?_erase_of_ne _ here, node?_call called]

/-- A path that named nothing names nothing but the draft. -/
theorem isPresent (drafted : Drafted path earlier temporary content disk) (tree : earlier.IsTree)
    (climbs : earlier.Climbs path) (absent : earlier.isPresent path = false)
    (elsewhere : temporary ≠ earlier.place path) : disk.isPresent path = false := by
  have gone := drafted.grown.isPresent tree climbs
  rw [absent] at gone
  unfold Disk.isPresent
  cases found : disk.stat path with
  | error error => rfl
  | ok node =>
    obtain ⟨free, slash, location, followed, there⟩ := stat_eq_ok_iff.mp found
    have place : location = earlier.place path :=
      (follow_eq_ok followed).trans (drafted.grown.place path)
    have onward := (keeps_erase drafted.there).follow followed
    rw [place] at onward there
    rw [← disk.node?_erase_of_ne (Ne.symm elsewhere)] at there
    have still := stat_eq_ok_iff.mpr ⟨free, slash, _, onward, there⟩
    rw [Disk.isPresent, still] at gone
    cases gone

end Drafted

/-! ### Files that took their place -/

/-- A disk on which a file took its place at a path, behind new directories on the way there. -/
structure Placed (path : String) (earlier : Disk) (content : Bytes) (later : Disk) : Prop where
  stat : later.stat path = .ok (.file content)
  grown : ∃ middle, Grown path earlier middle ∧
    middle.node? (earlier.place path) ≠ some .directory ∧
    middle.node? (earlier.place path).dropLast = some .directory ∧
    later = middle.put (earlier.place path) (.file content)

theorem named_of_destination {location : Location}
    (found : disk.destination path = .ok location) :
    (Path.components path).getLast?.any isName = true := by
  unfold destination at found
  simp only at found
  split at found
  · cases found
  · split at found
    · cases found
    · split at found
      · cases found
      · split at found
        · cases found
        · rename_i named
          rw [Bool.not_eq_true', Bool.not_eq_false] at named
          exact named

/-- What comes of giving a draft its name: it takes its place, or stays what it was. -/
def PlacedOr (path : String) (earlier : Disk) (temporary : Location) (content : Bytes)
    (later : Disk) : Except IoError Unit → Prop
  | .error _ => Drafted path earlier temporary content later
  | .ok () => Placed path earlier content later

theorem Drafted.persist {outcome : Except IoError Unit}
    (drafted : Drafted path earlier temporary content disk)
    (persisted : disk.persist temporary path = (outcome, later)) :
    PlacedOr path earlier temporary content later outcome := by
  obtain ⟨_, middle, called, ⟨error, rfl, rfl⟩ | ⟨location, written, rfl, found, rfl, whole⟩⟩ :=
    persist_cases persisted
  · exact drafted.call called
  · have stat := stat_of_persist drafted.there persisted
    obtain rfl := whole content drafted.there
    obtain ⟨_, there, begun⟩ := drafted.call called
    obtain ⟨_, _, followed, noDirectory⟩ := destination_eq_ok found
    obtain ⟨parent, name, split, above⟩ := follow_of_named followed (named_of_destination found)
    have place : earlier.place path = location :=
      (begun.place path).symm.trans (follow_eq_ok followed).symm
    have notDraft : parent ≠ temporary := by
      rintro rfl
      rw [there] at above
      cases above
    refine ⟨stat, middle.erase temporary, begun, ?_, ?_, ?_⟩
    · rw [place]
      exact noDirectory_erase noDirectory
    · rw [place, split, List.dropLast_concat, node?_erase_of_ne _ notDraft]
      exact above
    · rw [place]

namespace Placed

/-- Away from the path, the disk has only grown. -/
theorem elsewhere (placed : Placed path earlier content later) {location : Location}
    (apart : location ≠ earlier.place path) :
    later.node? location = earlier.node? location ∨ IsNew path earlier later location := by
  obtain ⟨middle, grown, noDirectory, above, rfl⟩ := placed.grown
  rw [node?_put_of_ne _ apart]
  rcases grown.nodes location with same | new
  · exact .inl same
  · right
    exact {
      absent := new.absent
      directory := by
        rw [node?_put_of_ne _ apart]
        exact new.directory
      inside := by
        rw [node?_put_of_ne]
        · exact new.inside
        · intro here
          rw [← here, new.inside] at noDirectory
          exact noDirectory rfl
      onTheWay := new.onTheWay }

theorem isTree (placed : Placed path earlier content later) (tree : earlier.IsTree) :
    later.IsTree := by
  obtain ⟨middle, grown, noDirectory, above, rfl⟩ := placed.grown
  have kept {location : Location} (directory : middle.node? location = some .directory) :
      (middle.put (earlier.place path) (.file content)).node? location = some .directory := by
    rw [node?_put_of_ne]
    · exact directory
    · intro here
      rw [here] at directory
      exact noDirectory directory
  intro location node there
  by_cases here : location = earlier.place path
  · rw [here]
    exact kept above
  · rw [node?_put_of_ne _ here] at there
    exact kept (grown.isTree tree location node there)

theorem climbs (placed : Placed path earlier content later) (climbs : earlier.Climbs path) :
    later.Climbs path := by
  obtain ⟨middle, grown, noDirectory, _, rfl⟩ := placed.grown
  exact (keeps_put middle noDirectory _).climbs ((grown.keeps []).climbs climbs)

end Placed

end SegmentOffload.Disk
