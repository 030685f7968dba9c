import SegmentOffload.Proofs.SharedDisks

/-!
Making a file on a disk that several share.

First the directory of the file and those above it are made, from the nearest one that is there on.
Somebody else may make one of them first; but whether the directory can be there in the end is
settled at the start.  Once it is there, a temporary file can be made in it, and where a renamed file
will be depends on nothing that the others do.
-/

namespace SegmentOffload

namespace Disk

open SegmentOffload.Path (dots)

variable {origin disk later : Disk} {path : String} {location : Location} {places : List Location}
  {front rest : List String}

/-! ### Opening directories -/

/-- What making the directory at a path and those above it comes to, by what there is at the
start. -/
def opening (origin : Disk) (path : String) : Except IoError Unit :=
  if holdsNul path then .error .nulInPath
  else
    match origin.follow path with
    | .error .notFound =>
      if (Path.components path).all fun word => word.utf8ByteSize ≤ longestName then .ok ()
      else .error .nameTooLong
    | .error error => .error error
    | .ok location =>
      match origin.node? location with
      | none => .ok ()
      | some .directory => .ok ()
      | some _ => .error .alreadyExists

theorem opening_of_found (free : holdsNul path = false)
    (followed : origin.follow path = .ok location) :
    origin.opening path =
      match origin.node? location with
      | none => .ok ()
      | some .directory => .ok ()
      | some _ => .error .alreadyExists := by
  unfold opening
  rw [free, followed]
  rfl

theorem isDirectory_eq_true_iff : disk.isDirectory path = true ↔
    holdsNul path = false ∧ ∃ location, disk.follow path = .ok location ∧
      disk.node? location = some .directory := by
  have named := @stat_eq_ok_iff disk path .directory
  unfold isDirectory
  constructor
  · intro there
    split at there
    · rename_i node found
      cases node with
      | directory =>
        obtain ⟨free, _, location, followed, directory⟩ := named.mp found
        exact ⟨free, location, followed, directory⟩
      | file content => cases there
      | socket => cases there
    · cases there
  · rintro ⟨free, location, followed, directory⟩
    rw [named.mpr ⟨free, fun other => absurd rfl other, location, followed, directory⟩]
    rfl

section
variable (shared : SharedBy places origin disk) (sound : origin.IsSound)
  (clear : ClearOf places origin path) (named : path.isEmpty = false)
include shared sound clear named

/-- Following a path to its end, or to something in the way, goes as it did at the start; and where
something was missing then, it goes as the opening does. -/
theorem SharedBy.follow_found (found : disk.follow path ≠ .error .notFound) :
    disk.follow path = origin.follow path ∨
      (origin.follow path = .error .notFound ∧
        ((disk.follow path = .error .nameTooLong ∧
            (holdsNul path = false → origin.opening path = .error .nameTooLong)) ∨
          (disk.follow path = .ok (origin.place path) ∧
            (holdsNul path = false → origin.opening path = .ok ()) ∧
            (disk.node? (origin.place path) = none ∨
              disk.node? (origin.place path) = some .directory)))) := by
  by_cases missing : origin.follow path = .error .notFound
  · refine .inr ⟨missing, ?_⟩
    unfold opening
    rw [missing]
    rcases shared.follow_cases sound clear named missing with missed | ⟨refused, word, listed, long⟩ |
      ⟨walked, short, _, onward⟩
    · exact absurd missed found
    · have unfit : (Path.components path).all (fun word => word.utf8ByteSize ≤ longestName) =
          false := by
        rw [List.all_eq_false]
        exact ⟨word, listed, by rw [decide_eq_true_iff]; omega⟩
      refine .inl ⟨refused, ?_⟩
      intro free
      simp only [free, unfit, Bool.false_eq_true, if_false]
    · have fit : (Path.components path).all (fun word => word.utf8ByteSize ≤ longestName) =
          true := by
        rw [List.all_eq_true]
        intro word listed
        rw [decide_eq_true_iff]
        exact short word listed
      refine .inr ⟨walked, ?_, onward⟩
      intro free
      simp only [free, fit, Bool.false_eq_true, if_false, if_true]
  · exact .inl (shared.toAdds.follow missing)

/-- Where a path leads now, nothing or a directory stands when one could be made at the start, and
otherwise what stood in the way. -/
theorem SharedBy.opening_of_followed (free : holdsNul path = false)
    (followed : disk.follow path = .ok location) :
    (origin.opening path = .ok () ∧
        (disk.node? location = none ∨ disk.node? location = some .directory)) ∨
      (origin.opening path = .error .alreadyExists ∧
        ∃ node, disk.node? location = some node ∧ node ≠ .directory) := by
  have here := follow_eq_ok followed
  rw [shared.toAdds.place] at here
  have found : disk.follow path ≠ .error .notFound := by
    rw [followed]
    intro impossible
    cases impossible
  rcases shared.follow_found sound clear named found with same | ⟨_, ⟨refused, _⟩ |
    ⟨_, opened, onward⟩⟩
  · rw [followed] at same
    rw [opening_of_found free same.symm]
    cases before : origin.node? location with
    | none =>
      rw [here] at before ⊢
      exact .inl ⟨rfl, shared.on_the_way clear (List.append_nil _).symm before⟩
    | some node =>
      have kept := shared.there _ _ before
      cases node with
      | directory => exact .inl ⟨rfl, .inr kept⟩
      | file content => exact .inr ⟨rfl, _, kept, fun impossible => nomatch impossible⟩
      | socket => exact .inr ⟨rfl, _, kept, fun impossible => nomatch impossible⟩
  · rw [followed] at refused
    cases refused
  · rw [here]
    exact .inl ⟨opened free, onward⟩

/-- What stops a path now stopped it at the start, or stops the names that are to be made. -/
theorem SharedBy.opening_of_stopped {error : IoError} (free : holdsNul path = false)
    (stopped : disk.follow path = .error error) (present : error ≠ .notFound) :
    origin.opening path = .error error := by
  have found : disk.follow path ≠ .error .notFound := by
    rw [stopped]
    intro impossible
    cases impossible
    exact present rfl
  rcases shared.follow_found sound clear named found with same | ⟨_, ⟨refused, opened⟩ |
    ⟨walked, _⟩⟩
  · rw [stopped] at same
    unfold opening
    rw [free, ← same]
    simp only [Bool.false_eq_true, if_false]
  · rw [stopped] at refused
    cases refused
    exact opened free
  · rw [stopped] at walked
    cases walked

/-- Where there is a directory in the end, one could be made. -/
theorem SharedBy.opening_of_isDirectory (there : disk.isDirectory path = true) :
    origin.opening path = .ok () := by
  obtain ⟨free, location, followed, directory⟩ := isDirectory_eq_true_iff.mp there
  rcases shared.opening_of_followed sound clear named free followed with
    ⟨opened, _⟩ | ⟨_, node, other, plain⟩
  · exact opened
  · rw [directory] at other
    cases other
    exact absurd rfl plain

/-- What can be made is at a path that ends with a name. -/
theorem SharedBy.named_of_free (followed : disk.follow path = .ok location)
    (free : disk.node? location = none) :
    (Path.components path).getLast?.any isName = true := by
  have place := follow_eq_ok followed
  rw [Disk.follow, named] at followed
  simp only [Bool.false_eq_true, if_false] at followed
  rcases List.eq_nil_or_concat (Path.components path) with none | ⟨init, word, whole⟩
  · rw [none] at followed
    cases followed
    rw [shared.toAdds.start, shared.there _ _ (sound.start path)] at free
    cases free
  · rw [List.concat_eq_append] at whole
    rw [whole, walk_append_eq_ok_iff, walk_cons_eq_ok_iff] at followed
    obtain ⟨_, directory, _, stepped⟩ := followed
    cases stepped
    rw [whole, List.getLast?_concat, Option.any_some, isName, Bool.and_eq_true, bne_iff_ne,
      bne_iff_ne]
    constructor
    · rintro rfl
      rw [Location.step, if_pos rfl, directory] at free
      cases free
    · rintro rfl
      have walked := clear.climbs init.length (by
        rw [whole, List.length_append, List.length_singleton]
        omega) (by rw [whole, List.getElem?_concat_length])
      rw [whole, ← List.length_singleton (a := ".."), ← List.length_append, List.take_length,
        walk_isOk_iff, walk_append_eq_ok_iff, walk_cons_eq_ok_iff] at walked
      have parent := shared.there _ _ (sound.tree _ _ walked.2.1)
      rw [shared.toAdds.start] at free
      change disk.node? (List.dropLast _) = none at free
      rw [parent] at free
      cases free

theorem SharedBy.makeDirectory_cases {outcome : Except IoError Unit}
    (made : disk.makeDirectory path = (outcome, later)) :
    (outcome = .error .notFound ∧ later = disk ∧ holdsNul path = false ∧
        origin.follow path = .error .notFound) ∨
      (outcome = .ok () ∧ origin.opening path = .ok () ∧
        disk.node? (origin.place path) = none ∧
        later = disk.put (origin.place path) .directory ∧ later.isDirectory path = true) ∨
      ∃ error, error ≠ .notFound ∧ outcome = .error error ∧ later = disk ∧
        (origin.opening path = .error error ∨
          (origin.opening path = .ok () ∧ disk.isDirectory path = true)) := by
  unfold makeDirectory at made
  split at made
  · rename_i nul
    cases made
    refine .inr (.inr ⟨.nulInPath, by decide, rfl, rfl, .inl ?_⟩)
    rw [opening, if_pos nul]
  · rename_i free
    rw [Bool.not_eq_true] at free
    split at made
    · rename_i error stopped
      cases made
      by_cases missed : error = .notFound
      · refine .inl ⟨by rw [missed], rfl, free, ?_⟩
        by_contra found
        have same := shared.toAdds.follow found
        rw [stopped, missed] at same
        exact found same.symm
      · have closed := shared.opening_of_stopped sound clear named free stopped missed
        exact .inr (.inr ⟨error, missed, rfl, rfl, .inl closed⟩)
    · rename_i place followed
      have here := follow_eq_ok followed
      rw [shared.toAdds.place] at here
      have opening := shared.opening_of_followed sound clear named free followed
      cases there : disk.node? place with
      | none =>
        rw [there, shared.named_of_free sound clear named followed there] at made
        cases made
        have below : place ≠ [] := by
          rintro rfl
          cases there
        have plain : disk.node? place ≠ some .directory := by
          rw [there]
          exact (Option.some_ne_none _).symm
        have kept := keeps_put disk plain .directory
        have directory : (disk.put place .directory).isDirectory path = true :=
          isDirectory_eq_true_iff.mpr
            ⟨free, place, kept.follow followed, disk.node?_put_self below _⟩
        rw [← here]
        rcases opening with ⟨opened, _⟩ | ⟨_, node, other, _⟩
        · exact .inr (.inl ⟨rfl, opened, there, rfl, directory⟩)
        · rw [there] at other
          cases other
      | some node =>
        rw [there] at made
        cases made
        refine .inr (.inr ⟨.alreadyExists, by decide, rfl, rfl, ?_⟩)
        rcases opening with ⟨opened, none | directory⟩ | ⟨closed, _⟩
        · rw [there] at none
          cases none
        · exact .inr ⟨opened, isDirectory_eq_true_iff.mpr ⟨free, place, followed, directory⟩⟩
        · exact .inl closed

end

/-! ### Parents -/

theorem start_congr {other : String} (same : Path.isAbsolute other = Path.isAbsolute path) :
    disk.start other = disk.start path := by
  rw [Disk.start, Disk.start, same]

section
variable {other : String} (start : origin.start other = origin.start path)
  (whole : Path.components path = Path.components other ++ rest)
include start whole

theorem Climbs.of_front (climbs : origin.Climbs path) : origin.Climbs other := by
  intro index inside dots
  have up := climbs index
  rw [whole, List.length_append, List.getElem?_append_left inside,
    List.take_append_of_le_length (Nat.succ_le_of_lt inside), ← start] at up
  exact up (by omega) dots

theorem Undrawn.of_front (undrawn : origin.Undrawn path) : origin.Undrawn other := by
  intro front behind split absent
  rw [split, List.append_assoc] at whole
  rw [leads, start] at absent ⊢
  exact undrawn front _ whole absent

end

theorem ClearOf.parent {parent : String} (clear : ClearOf places origin path)
    (found : Path.parent? path = some parent) : ClearOf places origin parent := by
  obtain ⟨same, _, before, name, behind, whole, _⟩ := Path.components_parent found
  have start : origin.start parent = origin.start path := start_congr same
  refine ⟨clear.climbs.of_front start whole, clear.undrawn.of_front start whole, ?_⟩
  intro front rest split absent
  rw [split, List.append_assoc] at whole
  rw [leads, start] at absent ⊢
  exact clear.free front _ whole absent

theorem walk_append {here : Location} {front : List String}
    (walked : disk.walk here front = .ok location) (rest : List String) :
    disk.walk here (front ++ rest) = disk.walk location rest := by
  induction front generalizing here with
  | nil =>
    cases walked
    rfl
  | cons component front ih =>
    rw [walk_cons_eq_ok_iff] at walked
    obtain ⟨directory, short, onward⟩ := walked
    rw [List.cons_append, walk, directory]
    dsimp only
    rw [if_neg (Nat.not_lt.mpr short)]
    exact ih onward

theorem walk_dots (directory : disk.node? location = some .directory) (count : Nat) :
    disk.walk location (dots count) = .ok location := by
  induction count with
  | zero => rfl
  | succ count ih =>
    rw [dots, List.replicate_succ, walk_cons_eq_ok_iff]
    exact ⟨directory, by decide, ih⟩

theorem foldl_step_dots (count : Nat) (here : Location) :
    (dots count).foldl Location.step here = here := by
  induction count with
  | zero => rfl
  | succ count ih =>
    rw [dots, List.replicate_succ, List.foldl_cons, Location.step, if_pos rfl]
    exact ih

/-- Nothing is missing on the way to a name in a directory that is there. -/
theorem follow_in_directory {parent name : String} {before : Nat}
    (start : disk.start parent = disk.start path) (named : path.isEmpty = false)
    (whole : Path.components path = Path.components parent ++ (dots before ++ [name]))
    (walked : disk.walk (disk.start parent) (Path.components parent) = .ok location)
    (directory : disk.node? location = some .directory) :
    disk.follow path ≠ .error .notFound := by
  rw [Disk.follow, named]
  simp only [Bool.false_eq_true, if_false]
  rw [whole, ← start, walk_append walked, walk_append (walk_dots directory before), walk, directory]
  dsimp only
  split
  · intro impossible
    cases impossible
  · intro impossible
    cases impossible

/-- What is missing on the way to a path is above the place that the path names. -/
theorem Climbs.above (climbs : origin.Climbs path) (sound : origin.IsSound)
    (whole : Path.components path = front ++ rest) (moves : ∃ word ∈ rest, word ≠ ".")
    (absent : origin.node? (origin.leads path front) = none) :
    origin.leads path front <+: origin.place path ∧ origin.leads path front ≠ origin.place path := by
  obtain ⟨descends, _⟩ := climbs.missing sound whole absent
  obtain ⟨word, listed, moves⟩ := moves
  have place : origin.place path =
      origin.leads path front ++ rest.filter fun word => word ≠ "." := by
    rw [← foldl_step_of_descending descends, ← leads_append, ← whole]
    rfl
  refine ⟨⟨_, place.symm⟩, ?_⟩
  intro same
  rw [← same] at place
  have nothing := List.append_right_eq_self.mp place.symm
  have stays := List.filter_eq_nil_iff.mp nothing word listed
  rw [decide_eq_true_iff] at stays
  exact stays moves

/-- The directories on the way to a place are free of places that are not above it. -/
theorem Climbs.clearOf_above {directory : String} (climbs : origin.Climbs path)
    (sound : origin.IsSound) (undrawn : origin.Undrawn path)
    (leads : Path.LeadsTo directory path)
    (apart : ∀ place ∈ places, place ≠ origin.place path → place.Apart (origin.place path)) :
    ClearOf places origin directory := by
  obtain ⟨same, behind, whole, word, moving, moves⟩ := leads
  have start : origin.start directory = origin.start path := start_congr same
  refine ⟨climbs.of_front start whole, undrawn.of_front start whole, ?_⟩
  intro front rest split absent taken
  rw [split, List.append_assoc] at whole
  rw [Disk.leads, start] at absent taken
  obtain ⟨above, distinct⟩ := climbs.above sound whole
    ⟨word, List.mem_append_right _ moving, moves⟩ absent
  exact (apart _ taken distinct).1 above

theorem clearOf_current (sound : origin.IsSound) : ClearOf places origin "." := by
  have components : Path.components "." = dots 1 := by decide +kernel
  have there {front rest : List String} (split : Path.components "." = front ++ rest) :
      origin.node? (origin.leads "." front) = some .directory := by
    have stays : front = dots front.length :=
      (List.append_eq_replicate_iff.mp (split.symm.trans components)).2.1
    rw [leads, stays, foldl_step_dots, sound.start]
  refine ⟨?_, ?_, ?_⟩
  · intro index inside up
    rw [components] at up
    have stays := List.eq_of_mem_replicate (List.mem_of_getElem? up)
    exact absurd stays (by decide)
  · intro front rest split absent
    rw [there split] at absent
    cases absent
  · intro front rest split absent
    rw [there split] at absent
    cases absent

theorem IsSound.follow_current (sound : origin.IsSound) :
    origin.follow "." ≠ .error .notFound := by
  have components : Path.components "." = dots 1 := by decide +kernel
  have named : String.isEmpty "." = false := by decide
  rw [follow, named, components]
  simp only [Bool.false_eq_true, if_false]
  rw [walk_dots (sound.start ".")]
  intro impossible
  cases impossible

theorem follow_of_missing (missing : disk.makeDirectory path = (.error .notFound, later)) :
    disk.follow path = .error .notFound := by
  unfold makeDirectory at missing
  split at missing
  · cases missing
  · split at missing
    · rename_i error followed
      cases missing
      exact followed
    · split at missing
      · cases missing
      · cases missing

theorem isDirectory_root (disk : Disk) : disk.isDirectory "/" = true := by
  have free : holdsNul "/" = false := by decide +kernel
  have components : Path.components "/" = [] := by decide +kernel
  have absolute : Path.isAbsolute "/" = true := by decide +kernel
  rw [isDirectory_eq_true_iff]
  refine ⟨free, [], ?_, rfl⟩
  unfold follow
  rw [components, start, absolute]
  rfl

theorem opening_root (disk : Disk) : disk.opening "/" = .ok () := by
  obtain ⟨free, location, followed, directory⟩ := isDirectory_eq_true_iff.mp disk.isDirectory_root
  rw [opening_of_found free followed, directory]

/-- In a directory that is there, nothing is missing on the way to a directory to be made. -/
theorem found_of_parent {parent : String} (trimmed : Path.IsTrimmed path)
    (named : path.isEmpty = false) (found : Path.parent? path = some parent)
    (home : disk.node? disk.working = some .directory)
    (there : parent.isEmpty = false → disk.isDirectory parent = true) :
    disk.follow path ≠ .error .notFound := by
  obtain ⟨same, _, before, name, behind, whole, _, clean⟩ := Path.components_parent found
  rw [clean trimmed] at whole
  have start : disk.start parent = disk.start path := start_congr same
  by_cases bare : parent.isEmpty = true
  · rw [String.isEmpty_iff.mp bare] at start whole
    exact follow_in_directory start named whole rfl home
  · rw [Bool.not_eq_true] at bare
    obtain ⟨_, location, followed, directory⟩ := isDirectory_eq_true_iff.mp (there bare)
    exact follow_in_directory start named whole (walk_of_follow followed) directory

theorem walk_append_error {here : Location} {error : IoError}
    (failed : disk.walk here front = .error error) (rest : List String) :
    disk.walk here (front ++ rest) = .error error := by
  induction front generalizing here with
  | nil => cases failed
  | cons component front ih =>
    rw [List.cons_append]
    unfold walk at failed ⊢
    cases there : disk.node? here with
    | none =>
      rw [there] at failed
      exact failed
    | some node =>
      rw [there] at failed
      cases node with
      | directory =>
        dsimp only at failed ⊢
        split
        · rename_i long
          rw [if_pos long] at failed
          exact failed
        · rename_i fits
          rw [if_neg fits] at failed
          exact ih failed
      | file content => exact failed
      | socket => exact failed

theorem walk_of_missing {parent : String} (found : Path.parent? path = some parent)
    (missing : disk.follow path = .error .notFound) :
    disk.walk (disk.start path) (Path.components path) = .error .notFound := by
  rw [follow, Path.named_of_parent found] at missing
  exact missing

/-- Where a directory is missing because those above it are, it cannot be made when they cannot. -/
theorem opening_of_parent {parent : String} {error : IoError} (free : holdsNul path = false)
    (found : Path.parent? path = some parent) (named : parent.isEmpty = false)
    (missing : origin.follow path = .error .notFound)
    (refused : origin.opening parent = .error error) : origin.opening path = .error error := by
  obtain ⟨same, _, before, name, behind, whole, _⟩ := Path.components_parent found
  have start : origin.start parent = origin.start path := start_congr same
  have parentFree : holdsNul parent = false := by
    unfold holdsNul at free ⊢
    rw [List.any_eq_false] at free ⊢
    intro character listed
    exact free character ((Path.toList_parent found).2 character listed)
  have onward := walk_of_missing found missing
  rw [whole] at onward
  unfold opening at refused ⊢
  rw [free, missing]
  rw [parentFree] at refused
  simp only [Bool.false_eq_true, if_false] at refused ⊢
  cases followed : origin.follow parent with
  | error cause =>
    have walked := followed
    rw [follow, named] at walked
    simp only [Bool.false_eq_true, if_false] at walked
    have further := walk_append_error walked (dots before ++ name :: dots behind)
    rw [start, onward] at further
    cases further
    rw [followed] at refused
    dsimp only at refused
    split at refused
    · cases refused
    · rename_i long
      rw [if_neg]
      · exact refused
      · intro short
        rw [List.all_eq_true] at long short
        apply long
        intro word listed
        apply short
        rw [whole]
        exact List.mem_append_left _ listed
  | ok location =>
    rw [followed] at refused
    dsimp only at refused
    split at refused
    · cases refused
    · cases refused
    · rename_i node other there
      have walked := walk_append (walk_of_follow followed) (dots before ++ name :: dots behind)
      obtain ⟨first, more, some⟩ := List.exists_cons_of_ne_nil
        (List.append_ne_nil_of_right_ne_nil (dots before) (List.cons_ne_nil name (dots behind)))
      rw [start, onward, some, walk, there] at walked
      cases node with
      | directory => exact absurd rfl other
      | file content => cases walked
      | socket => cases walked

/-! ### Temporary files -/

theorem isDrawn_temporaryName (disk : Disk) (location : Location) :
    Location.IsDrawn disk.naming (location ++ [disk.temporaryName location]) :=
  ⟨disk.drawn, disk.children location, List.getLast?_concat⟩

/-- In a directory that is there, a temporary file can be made. -/
theorem makeTemporary_of_isDirectory {directory : String} {ready : Disk}
    (there : disk.isDirectory directory = true) (called : disk.call = (.ok (), ready)) :
    let file := disk.place directory ++ [ready.temporaryName (disk.place directory)]
    disk.makeTemporary directory =
      (.ok file, { ready.put file (.file []) with drawn := ready.drawn + 1 }) := by
  obtain ⟨free, location, followed, found⟩ := isDirectory_eq_true_iff.mp there
  have place := follow_eq_ok followed
  have now := (keeps_call [] called).follow followed
  have still : ready.node? location = some .directory := by
    rw [node?_call called]
    exact found
  have stat : ready.stat directory = .ok .directory := by
    rw [stat_of_followed now, free, still]
    rfl
  have locate : ready.locate directory = .ok location := by
    unfold Disk.locate
    rw [now]
    simp only [still]
  unfold Disk.makeTemporary
  rw [called]
  dsimp only
  rw [stat]
  dsimp only
  rw [locate, place]

/-! ### Taking a place -/

theorem walk_congr {one other : Disk} {here : Location} {components : List String}
    (same : ∀ front component rest, components = front ++ component :: rest →
      one.node? (front.foldl Location.step here) = other.node? (front.foldl Location.step here)) :
    one.walk here components = other.walk here components := by
  induction components generalizing here with
  | nil => rfl
  | cons component rest ih =>
    have first := same [] component rest rfl
    change one.node? here = other.node? here at first
    unfold walk
    rw [first]
    cases other.node? here with
    | none => rfl
    | some node =>
      cases node with
      | directory =>
        dsimp only
        split
        · rfl
        · apply ih
          intro front next others whole
          exact same (component :: front) next others (by rw [whole]; rfl)
      | file content => rfl
      | socket => rfl

/-- Where a renamed file will be depends on nothing but what its path meets. -/
theorem destination_congr {one other : Disk} (working : one.working = other.working)
    (same : ∀ front rest, Path.components path = front ++ rest →
      one.node? (one.leads path front) = other.node? (one.leads path front)) :
    one.destination path = other.destination path := by
  have start : other.start path = one.start path := by
    rw [Disk.start, Disk.start, working]
  have upTo : one.walk (one.start path) ((Path.components path).dropLast ++ ["."]) =
      other.walk (other.start path) ((Path.components path).dropLast ++ ["."]) := by
    rw [start]
    apply walk_congr
    intro front component rest whole
    have within : front <+: (Path.components path).dropLast := by
      apply List.prefix_of_prefix_length_le ⟨_, whole.symm⟩ (List.prefix_append _ _)
      have sizes := congrArg List.length whole
      rw [List.length_append, List.length_append, List.length_cons, List.length_cons,
        List.length_nil] at sizes
      omega
    obtain ⟨behind, rejoined⟩ := within.trans (List.dropLast_prefix _)
    exact same front behind rejoined.symm
  have whole : one.follow path = other.follow path := by
    unfold follow
    rw [start]
    split
    · rfl
    · apply walk_congr
      intro front component rest split
      exact same front _ split
  unfold destination
  dsimp only
  rw [upTo, whole]
  cases followed : other.follow path with
  | error error =>
    cases other.walk (other.start path) ((Path.components path).dropLast ++ ["."]) with
    | error first => rfl
    | ok parent => rfl
  | ok location =>
    rw [followed] at whole
    have here := same _ [] (List.append_nil _).symm
    have place := follow_eq_ok whole
    change one.node? (one.place path) = other.node? (one.place path) at here
    rw [← place] at here
    cases other.walk (other.start path) ((Path.components path).dropLast ++ ["."]) with
    | error first => rfl
    | ok parent => simp only [here]

/-- A disk on which the directory of a path was opened, and nothing was done at its end. -/
structure OpenedFor (origin : Disk) (path : String) (disk : Disk) : Prop extends
    Adds origin disk where
  opened : disk.isDirectory (Path.directory path) = true
  own : ¬(origin.place path).IsDrawn origin.naming →
    disk.node? (origin.place path) = origin.node? (origin.place path)

/-- What was missing at the start is a directory by now, or the path ends there. -/
theorem OpenedFor.on_the_way (opened : OpenedFor origin path disk) (sound : origin.IsSound)
    (whole : Path.components path = front ++ rest)
    (absent : origin.node? (origin.leads path front) = none) :
    disk.node? (origin.leads path front) = some .directory ∨
      origin.leads path front = origin.place path := by
  cases found : Path.parent? path with
  | none =>
    obtain ⟨count, all⟩ := Path.components_of_orphan found
    have stays : front = dots front.length :=
      (List.append_eq_replicate_iff.mp (whole.symm.trans all)).2.1
    rw [leads, stays, foldl_step_dots, sound.start] at absent
    cases absent
  | some parent =>
    obtain ⟨same, _, before, name, behind, parts, _⟩ := Path.components_parent found
    rw [← List.append_assoc] at parts
    have inside {others : List String}
        (split : Path.components parent ++ dots before = front ++ others) :
        disk.node? (origin.leads path front) = some .directory := by
      have directory := opened.opened
      rw [Path.directory, found] at directory
      dsimp only at directory
      by_cases bare : parent.isEmpty = true
      · rw [String.isEmpty_iff.mp bare] at split
        have stays : front = dots front.length :=
          (List.append_eq_replicate_iff.mp split.symm).2.1
        rw [leads, stays, foldl_step_dots, sound.start] at absent
        cases absent
      · rw [if_neg bare] at directory
        obtain ⟨_, location, followed, there⟩ := isDirectory_eq_true_iff.mp directory
        have walked := walk_of_follow followed
        have further := walk_append walked (dots before)
        rw [walk_dots there, split, walk_append_eq_ok_iff, start_congr same,
          opened.toAdds.start] at further
        cases others with
        | nil =>
          have here := further.2
          cases here
          exact there
        | cons component others => exact (walk_cons_eq_ok_iff.mp further.2).1
    rcases List.append_eq_append_iff.mp (whole.symm.trans parts) with ⟨more, split, _⟩ |
      ⟨more, split, left⟩
    · exact .inl (inside split)
    · cases more with
      | nil =>
        rw [List.append_nil] at split
        have split' : Path.components parent ++ dots before = front ++ [] := by
          rw [List.append_nil, split]
        exact .inl (inside split')
      | cons first more =>
        right
        rw [List.cons_append, List.cons.injEq] at left
        have stays : rest = dots rest.length := (List.append_eq_replicate_iff.mp left.2.symm).2.2
        have place : origin.place path = origin.leads path (front ++ rest) := by
          rw [← whole]
          rfl
        rw [place, leads_append, stays, foldl_step_dots]

/-- On all disks where the directory of a path is open, a renamed file takes the same place, or none
for the same reason. -/
theorem OpenedFor.destination_eq {one other : Disk} (first : OpenedFor origin path one)
    (second : OpenedFor origin path other) (sound : origin.IsSound)
    (undrawn : origin.Undrawn path) : one.destination path = other.destination path := by
  apply destination_congr (first.working.trans second.working.symm)
  intro front rest whole
  rw [leads, first.toAdds.start]
  change one.node? (origin.leads path front) = other.node? (origin.leads path front)
  cases before : origin.node? (origin.leads path front) with
  | some node => rw [first.there _ node before, second.there _ node before]
  | none =>
    have visible := undrawn front rest whole before
    rcases first.on_the_way sound whole before with directory | place
    · rcases second.on_the_way sound whole before with same | place
      · rw [directory, same]
      · rw [place] at visible ⊢
        rw [first.own visible, second.own visible]
    · rw [place] at visible ⊢
      rw [first.own visible, second.own visible]

theorem exists_destination (sound : origin.IsSound) (undrawn : origin.Undrawn path) :
    ∃ destination : Except IoError Location, ∀ disk, OpenedFor origin path disk →
      disk.destination path = destination := by
  by_cases any : ∃ disk, OpenedFor origin path disk
  · obtain ⟨one, opened⟩ := any
    exact ⟨one.destination path, fun other also => also.destination_eq opened sound undrawn⟩
  · exact ⟨.error .notFound, fun disk opened => absurd ⟨disk, opened⟩ any⟩

end Disk

end SegmentOffload
