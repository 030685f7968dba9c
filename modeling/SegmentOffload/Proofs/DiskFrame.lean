import SegmentOffload.Disk

/-!
What calls on a disk leave alone.

Directories stay directories and files keep their bytes, except for the one file that a rename
replaces.  Where a path leads is decided by its words; the disk only decides whether one gets there.
So a file that could be found is found again, with the same bytes.
-/

namespace SegmentOffload

namespace Disk

/-! ### Nodes -/

theorem node?_nil (disk : Disk) : disk.node? [] = some .directory := rfl

theorem node?_of_ne_nil (disk : Disk) {location : Location} (below : location ≠ []) :
    disk.node? location =
      (disk.nodes.find? fun entry => entry.1 == location).map Prod.snd := by
  rw [node?, if_neg (by rw [List.isEmpty_iff]; exact below)]

theorem node?_erase_self (disk : Disk) {location : Location} (below : location ≠ []) :
    (disk.erase location).node? location = none := by
  rw [node?_of_ne_nil _ below, erase, Option.map_eq_none_iff, List.find?_eq_none]
  intro entry listed found
  rw [List.mem_filter] at listed
  rw [beq_iff_eq] at found
  rw [found, bne_self_eq_false] at listed
  cases listed.2

theorem node?_erase_of_ne (disk : Disk) {location other : Location} (apart : other ≠ location) :
    (disk.erase location).node? other = disk.node? other := by
  by_cases root : other = []
  · rw [root]
    rfl
  · rw [node?_of_ne_nil _ root, node?_of_ne_nil _ root, erase, List.find?_filter]
    congr 2
    funext entry
    by_cases here : entry.1 = other
    · have kept : (entry.1 != location) = true := by
        rw [bne_iff_ne, here]
        exact apart
      simp only [kept, true_and, Bool.decide_eq_true]
    · have otherwise : (entry.1 == other) = false := by
        rw [beq_eq_false_iff_ne]
        exact here
      simp only [otherwise, Bool.false_eq_true, and_false, decide_false]

theorem node?_put_self (disk : Disk) {location : Location} (below : location ≠ []) (node : Node) :
    (disk.put location node).node? location = some node := by
  have gone := disk.node?_erase_self below
  rw [node?_of_ne_nil _ below, Option.map_eq_none_iff] at gone
  rw [node?_of_ne_nil _ below, put, List.find?_append, gone]
  simp only [Option.none_or, List.find?_cons, beq_self_eq_true, Option.map_some]

theorem node?_put_of_ne (disk : Disk) {location other : Location} (apart : other ≠ location)
    (node : Node) : (disk.put location node).node? other = disk.node? other := by
  by_cases root : other = []
  · rw [root]
    rfl
  · have elsewhere : [(location, node)].find? (fun entry => entry.1 == other) = none := by
      rw [List.find?_eq_none]
      intro entry listed found
      rw [List.mem_singleton.mp listed, beq_iff_eq] at found
      exact apart found.symm
    have kept := disk.node?_erase_of_ne apart
    rw [node?_of_ne_nil _ root] at kept ⊢
    rw [put, List.find?_append, elsewhere, Option.or_none]
    exact kept

/-! ### Where paths lead -/

/-- Where a path leads from the working directory, by its words alone. -/
def place (disk : Disk) (path : String) : Location :=
  (Path.components path).foldl Location.step (disk.start path)

theorem walk_eq_ok {disk : Disk} {here location : Location} {components : List String}
    (walked : disk.walk here components = .ok location) :
    location = components.foldl Location.step here := by
  induction components generalizing here with
  | nil =>
    cases walked
    rfl
  | cons component rest ih =>
    unfold walk at walked
    split at walked
    · cases walked
    · split at walked
      · cases walked
      · exact ih walked
    · cases walked

theorem follow_eq_ok {disk : Disk} {path : String} {location : Location}
    (followed : disk.follow path = .ok location) : location = disk.place path := by
  unfold follow at followed
  split at followed
  · cases followed
  · exact walk_eq_ok followed

/-! ### Turns -/

theorem walk_turns (disk : Disk) (turns : List Wire.Turn) (here : Location)
    (components : List String) :
    Disk.walk { disk with turns } here components = disk.walk here components := by
  induction components generalizing here with
  | nil => rfl
  | cons component rest ih =>
    unfold walk
    simp only [ih]
    rfl

theorem stat_turns (disk : Disk) (turns : List Wire.Turn) (path : String) :
    Disk.stat { disk with turns } path = disk.stat path := by
  unfold stat locate follow
  rw [walk_turns]
  rfl

/-! ### What paths name -/

theorem stat_of_unfollowed {disk : Disk} {path : String} {error : IoError}
    (unfollowed : disk.follow path = .error error) :
    disk.stat path = if holdsNul path then .error .nulInPath else .error error := by
  unfold stat locate
  rw [unfollowed]

theorem stat_of_followed {disk : Disk} {path : String} {location : Location}
    (followed : disk.follow path = .ok location) :
    disk.stat path =
      if holdsNul path then .error .nulInPath
      else
        match disk.node? location with
        | none => .error .notFound
        | some .directory => .ok .directory
        | some node => if Path.endsWithSlash path then .error .notADirectory else .ok node := by
  unfold stat locate
  rw [followed]
  cases there : disk.node? location with
  | none => simp only [there]
  | some node =>
    cases Path.endsWithSlash path with
    | true =>
      cases node with
      | directory => simp only [there]
      | file content => simp only [there, if_true]
      | socket => simp only [there, if_true]
    | false =>
      cases node with
      | directory => simp only [there]
      | file content => simp only [there, Bool.false_eq_true, if_false]
      | socket => simp only [there, Bool.false_eq_true, if_false]

/-! ### Keeping -/

/-- Later, directories are still there, and so are files with their bytes, save at one location. -/
structure Keeps (replaced : Location) (earlier later : Disk) : Prop where
  working : later.working = earlier.working
  directories : ∀ location, earlier.node? location = some .directory →
    later.node? location = some .directory
  files : ∀ location content, location ≠ replaced → earlier.node? location = some (.file content) →
    later.node? location = some (.file content)

variable {replaced : Location} {earlier middle later : Disk}

theorem Keeps.refl (replaced : Location) (disk : Disk) : Keeps replaced disk disk := by
  constructor
  · rfl
  · intro location there
    exact there
  · intro location content _ there
    exact there

theorem Keeps.trans (first : Keeps replaced earlier middle) (second : Keeps replaced middle later) :
    Keeps replaced earlier later := by
  constructor
  · rw [second.working, first.working]
  · intro location there
    exact second.directories location (first.directories location there)
  · intro location content apart there
    exact second.files location content apart (first.files location content apart there)

/-- Changing one place keeps the others. -/
theorem Keeps.ofPlace (kept : Keeps replaced earlier middle) {location : Location}
    (working : later.working = middle.working)
    (elsewhere : ∀ other, other ≠ location → later.node? other = middle.node? other)
    (free : location = [] → later.node? [] = some .directory)
    (noDirectory : location ≠ [] → earlier.node? location ≠ some .directory)
    (noFile : ∀ content, location ≠ replaced → earlier.node? location ≠ some (.file content)) :
    Keeps replaced earlier later := by
  constructor
  · rw [working, kept.working]
  · intro other there
    by_cases here : other = location
    · by_cases root : location = []
      · rw [here, root]
        exact free root
      · rw [here] at there
        exact absurd there (noDirectory root)
    · rw [elsewhere other here]
      exact kept.directories other there
  · intro other content apart there
    by_cases here : other = location
    · rw [here] at apart there
      exact absurd there (noFile content apart)
    · rw [elsewhere other here]
      exact kept.files other content apart there

theorem Keeps.put_of_none (kept : Keeps replaced earlier middle) {location : Location} (node : Node)
    (none : earlier.node? location = none) :
    Keeps replaced earlier (middle.put location node) := by
  refine kept.ofPlace rfl (fun other apart => middle.node?_put_of_ne apart node) ?_ ?_ ?_
  · intro _
    rfl
  · intro _ impossible
    rw [none] at impossible
    cases impossible
  · intro content _ impossible
    rw [none] at impossible
    cases impossible

theorem Keeps.erase_of_none (kept : Keeps replaced earlier middle) {location : Location}
    (none : earlier.node? location = none) : Keeps replaced earlier (middle.erase location) := by
  refine kept.ofPlace rfl (fun other apart => middle.node?_erase_of_ne apart) ?_ ?_ ?_
  · intro _
    rfl
  · intro _ impossible
    rw [none] at impossible
    cases impossible
  · intro content _ impossible
    rw [none] at impossible
    cases impossible

theorem Keeps.withTurns (kept : Keeps replaced earlier middle) (turns : List Wire.Turn) :
    Keeps replaced earlier { middle with turns } := ⟨kept.working, kept.directories, kept.files⟩

theorem Keeps.withDrawn (kept : Keeps replaced earlier middle) (drawn : Nat) :
    Keeps replaced earlier { middle with drawn } := ⟨kept.working, kept.directories, kept.files⟩

theorem Keeps.walk (kept : Keeps replaced earlier later) {here location : Location}
    {components : List String} (walked : earlier.walk here components = .ok location) :
    later.walk here components = .ok location := by
  induction components generalizing here with
  | nil => exact walked
  | cons component rest ih =>
    unfold Disk.walk at walked ⊢
    cases there : earlier.node? here with
    | none =>
      rw [there] at walked
      cases walked
    | some node =>
      rw [there] at walked
      cases node with
      | directory =>
        rw [kept.directories here there]
        simp only at walked ⊢
        split at walked
        · cases walked
        · rename_i short
          rw [if_neg short]
          exact ih walked
      | file content => cases walked
      | socket => cases walked

theorem Keeps.follow (kept : Keeps replaced earlier later) {path : String} {location : Location}
    (followed : earlier.follow path = .ok location) : later.follow path = .ok location := by
  unfold Disk.follow at followed ⊢
  split at followed
  · cases followed
  · rename_i named
    rw [if_neg named, Disk.start, kept.working]
    exact kept.walk followed

/-- A path names a file exactly when it leads to one and does not end with a slash. -/
theorem stat_eq_file_iff {disk : Disk} {path : String} {content : Bytes} :
    disk.stat path = .ok (.file content) ↔
      holdsNul path = false ∧ Path.endsWithSlash path = false ∧
        ∃ location, disk.follow path = .ok location ∧
          disk.node? location = some (.file content) := by
  constructor
  · intro found
    unfold stat locate at found
    split at found
    · cases found
    · rename_i free
      rw [Bool.not_eq_true] at free
      cases followed : disk.follow path with
      | error error =>
        rw [followed] at found
        cases found
      | ok location =>
        cases there : disk.node? location with
        | none =>
          simp only [followed, there] at found
          cases found
        | some node =>
          cases node with
          | directory =>
            simp only [followed, there] at found
            cases found
          | socket =>
            by_cases slash : Path.endsWithSlash path
            · simp only [followed, there, if_pos slash] at found
              cases found
            · simp only [followed, there, if_neg slash] at found
              cases found
          | file bytes =>
            by_cases slash : Path.endsWithSlash path
            · simp only [followed, there, if_pos slash] at found
              cases found
            · simp only [followed, there, if_neg slash] at found
              cases found
              rw [Bool.not_eq_true] at slash
              exact ⟨free, slash, location, rfl, there⟩
  · intro given
    rcases given with ⟨free, slash, location, followed, there⟩
    unfold stat locate
    simp only [free, slash, followed, there, Bool.false_eq_true, if_false]

/-- A file that is not the replaced one is found again with its bytes. -/
theorem Keeps.stat (kept : Keeps replaced earlier later) {path : String} {content : Bytes}
    (apart : earlier.place path ≠ replaced) (found : earlier.stat path = .ok (.file content)) :
    later.stat path = .ok (.file content) := by
  obtain ⟨free, slash, location, followed, there⟩ := stat_eq_file_iff.mp found
  rw [← follow_eq_ok followed] at apart
  apply stat_eq_file_iff.mpr
  exact ⟨free, slash, location, kept.follow followed, kept.files location content apart there⟩

theorem Keeps.place (kept : Keeps replaced earlier later) (path : String) :
    later.place path = earlier.place path := by
  rw [Disk.place, Disk.place, Disk.start, Disk.start, kept.working]

/-! ### The calls -/

theorem nodes_call {disk later : Disk} {outcome : Except IoError Unit}
    (called : disk.call = (outcome, later)) : later.nodes = disk.nodes := by
  unfold call at called
  split at called
  · cases called
    rfl
  · cases called
    rfl
  · cases called
    rfl

theorem node?_call {disk later : Disk} {outcome : Except IoError Unit}
    (called : disk.call = (outcome, later)) (location : Location) :
    later.node? location = disk.node? location := by
  rw [node?, node?, nodes_call called]

theorem keeps_call (replaced : Location) {disk later : Disk} {outcome : Except IoError Unit}
    (called : disk.call = (outcome, later)) : Keeps replaced disk later := by
  unfold call at called
  split at called
  · cases called
    exact Keeps.refl replaced disk
  · cases called
    exact (Keeps.refl replaced disk).withTurns _
  · cases called
    exact (Keeps.refl replaced disk).withTurns _

theorem keeps_makeDirectory (replaced : Location) {disk later : Disk} {path : String}
    {outcome : Except IoError Unit} (made : disk.makeDirectory path = (outcome, later)) :
    Keeps replaced disk later := by
  unfold makeDirectory at made
  split at made
  · cases made
    exact Keeps.refl replaced disk
  · split at made
    · cases made
      exact Keeps.refl replaced disk
    · split at made
      · rename_i none _
        cases made
        exact (Keeps.refl replaced disk).put_of_none _ none
      · cases made
        exact Keeps.refl replaced disk

theorem keeps_ensureDirectory (replaced : Location) {disk later : Disk} {path : String}
    {outcome : Except IoError Unit} (made : disk.ensureDirectory path = (outcome, later)) :
    Keeps replaced disk later := by
  unfold ensureDirectory at made
  split at made
  · rename_i tried
    cases made
    exact keeps_makeDirectory replaced tried
  · rename_i tried
    cases made
    exact keeps_makeDirectory replaced tried

theorem keeps_makeLineage (replaced : Location) {disk later : Disk} {paths : List String}
    {outcome : Except IoError Unit} (made : disk.makeLineage paths = (outcome, later)) :
    Keeps replaced disk later := by
  induction paths generalizing disk later outcome with
  | nil =>
    cases made
    exact Keeps.refl replaced disk
  | cons path rest ih =>
    unfold makeLineage at made
    split at made
    · rename_i first
      have begun := keeps_ensureDirectory replaced first
      split at made
      · rename_i others
        cases made
        exact begun.trans (ih others)
      · rename_i others
        exact (begun.trans (ih others)).trans (keeps_ensureDirectory replaced made)
    · rename_i first
      cases made
      exact keeps_ensureDirectory replaced first

theorem keeps_makeDirectories (replaced : Location) {disk later : Disk} {path : String}
    {outcome : Except IoError Unit} (made : disk.makeDirectories path = (outcome, later)) :
    Keeps replaced disk later := by
  unfold makeDirectories at made
  split at made
  · rename_i called
    cases made
    exact keeps_call replaced called
  · rename_i called
    exact (keeps_call replaced called).trans (keeps_makeLineage replaced made)

end Disk

end SegmentOffload
