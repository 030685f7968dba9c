import Mathlib.Data.List.Flatten
import SegmentOffload.Proofs.FileDrafts
import SegmentOffload.Proofs.TextBytes

/-!
A disk that several share, each on the way to a path of its own.

Whatever was there at the start stays.  New are directories on the way to the places that the paths
name, files that took these places, and files under temporary names.  When no place is on the way to
another one, and nothing that a path misses has a temporary name, what the path meets is settled by
the disk at the start: a directory that is missing may be made by somebody else, but nothing else can
turn up in its stead.
-/

namespace SegmentOffload

namespace Location

/-- Neither of two locations is on the way to the other. -/
def Apart (one other : Location) : Prop :=
  ¬one <+: other ∧ ¬other <+: one

instance (one other : Location) : Decidable (one.Apart other) :=
  inferInstanceAs (Decidable (_ ∧ _))

instance : Std.Symm Apart :=
  ⟨fun _ _ apart => ⟨apart.2, apart.1⟩⟩

/-- The last name is one that can be drawn. -/
def IsDrawn (naming : Naming) (location : Location) : Prop :=
  ∃ drawn taken, location.getLast? = some (naming.draw drawn taken)

end Location

namespace Disk

variable {origin disk later : Disk} {path : String} {location : Location} {places : List Location}
  {front more rest : List String}

/-! ### Missing directories -/

/-- Whatever there is, is in a directory, and relative paths start in one. -/
structure IsSound (disk : Disk) : Prop where
  tree : disk.IsTree
  home : disk.node? disk.working = some .directory

theorem IsSound.start (sound : origin.IsSound) (path : String) :
    origin.node? (origin.start path) = some .directory := by
  unfold Disk.start
  split
  · rfl
  · exact sound.home

/-- Where some components lead from the start of a path. -/
def leads (disk : Disk) (path : String) (front : List String) : Location :=
  front.foldl Location.step (disk.start path)

theorem leads_append (disk : Disk) (path : String) (front more : List String) :
    disk.leads path (front ++ more) = more.foldl Location.step (disk.leads path front) :=
  List.foldl_append

/-- A path goes up over what is there, and from then on only down, from a directory. -/
theorem Climbs.settled (climbs : origin.Climbs path) (sound : origin.IsSound) :
    ∃ settled descent, Path.components path = settled ++ descent ∧ ".." ∉ descent ∧
      origin.walk (origin.start path) settled = .ok (origin.leads path settled) ∧
      origin.node? (origin.leads path settled) = some .directory := by
  obtain ⟨settled, descent, whole, descends, walked, shape⟩ := climbs.split
  refine ⟨settled, descent, whole, descends, walked, ?_⟩
  rcases shape with rfl | ⟨init, rfl⟩
  · exact sound.start path
  · rw [walk_append_eq_ok_iff, walk_cons_eq_ok_iff] at walked
    have parent := sound.tree _ _ walked.2.1
    rw [leads_append]
    exact parent

/-- Behind something that is missing, a path only goes down. -/
theorem Climbs.missing (climbs : origin.Climbs path) (sound : origin.IsSound)
    (whole : Path.components path = front ++ rest)
    (absent : origin.node? (origin.leads path front) = none) :
    ".." ∉ rest ∧ ∃ above names, names ≠ [] ∧ (∀ name ∈ names, name ∈ front) ∧
      origin.leads path front = above ++ names := by
  obtain ⟨settled, descent, other, descends, walked, directory⟩ := climbs.settled sound
  rw [whole] at other
  have sides : (∃ more, front = settled ++ more ∧ descent = more ++ rest) ∨
      ∃ component more, settled = front ++ component :: more := by
    rcases List.append_eq_append_iff.mp other with ⟨more, same, left⟩ | ⟨more, same, left⟩
    · cases more with
      | nil =>
        rw [List.append_nil] at same
        exact .inl ⟨[], by rw [same, List.append_nil], left.symm⟩
      | cons component more => exact .inr ⟨component, more, same⟩
    · exact .inl ⟨more, same, left⟩
  rcases sides with ⟨more, rfl, rfl⟩ | ⟨component, more, rfl⟩
  · have above : ".." ∉ more := fun member => descends (List.mem_append_left _ member)
    refine ⟨fun member => descends (List.mem_append_right _ member), origin.leads path settled,
      more.filter fun word => word ≠ ".", ?_, ?_, ?_⟩
    · intro none
      rw [leads_append, foldl_step_of_descending above, none, List.append_nil, directory] at absent
      cases absent
    · intro name listed
      exact List.mem_append_right _ (List.mem_of_mem_filter listed)
    · rw [leads_append, foldl_step_of_descending above]
  · rw [walk_append_eq_ok_iff, walk_cons_eq_ok_iff] at walked
    change origin.node? (front.foldl Location.step (origin.start path)) = none at absent
    rw [walked.2.1] at absent
    cases absent

/-- What is missing is on the way to what lies behind it, and that is missing too. -/
theorem Climbs.missing_behind (climbs : origin.Climbs path) (sound : origin.IsSound)
    (whole : Path.components path = front ++ (more ++ rest))
    (absent : origin.node? (origin.leads path front) = none) :
    origin.leads path front <+: origin.leads path (front ++ more) ∧
      origin.node? (origin.leads path (front ++ more)) = none := by
  obtain ⟨descends, _⟩ := climbs.missing sound whole absent
  have down : ".." ∉ more := fun member => descends (List.mem_append_left _ member)
  rw [leads_append, foldl_step_of_descending down]
  refine ⟨List.prefix_append _ _, ?_⟩
  by_cases stays : more.filter (fun word => word ≠ ".") = []
  · rw [stays, List.append_nil]
    exact absent
  · by_contra present
    obtain ⟨node, there⟩ := Option.ne_none_iff_exists'.mp present
    have directory := sound.tree.above there stays
    rw [absent] at directory
    cases directory

/-- Nothing that a path misses has a temporary name. -/
def Undrawn (origin : Disk) (path : String) : Prop :=
  ∀ front rest, Path.components path = front ++ rest →
    origin.node? (origin.leads path front) = none →
    ¬(origin.leads path front).IsDrawn origin.naming

/-- It is enough that no temporary name is a component of the path. -/
theorem Climbs.undrawn (climbs : origin.Climbs path) (sound : origin.IsSound)
    (avoids : ∀ drawn taken, origin.naming.draw drawn taken ∉ Path.components path) :
    origin.Undrawn path := by
  intro front rest whole absent
  obtain ⟨_, above, names, nonempty, listed, leads⟩ := climbs.missing sound whole absent
  rw [leads, Location.IsDrawn, List.getLast?_append_of_ne_nil _ nonempty,
    List.getLast?_eq_some_getLast nonempty]
  rintro ⟨drawn, taken, same⟩
  apply avoids drawn taken
  rw [← Option.some.inj same, whole]
  exact List.mem_append_left _ (listed _ (List.getLast_mem nonempty))

theorem Undrawn.place (undrawn : origin.Undrawn path)
    (absent : origin.node? (origin.place path) = none) :
    ¬(origin.place path).IsDrawn origin.naming :=
  undrawn _ [] (List.append_nil _).symm absent

/-! ### Sharing -/

/-- What no call changes: where relative paths start, and how names are drawn. -/
def ground (disk : Disk) : Location × Naming :=
  (disk.working, disk.naming)

theorem working_of_ground (same : later.ground = disk.ground) : later.working = disk.working :=
  congrArg Prod.fst same

/-- What can be on a disk that was shared from some time on. -/
structure SharedBy (places : List Location) (origin disk : Disk) : Prop extends Adds origin disk where
  naming : disk.naming = origin.naming
  new : ∀ location node, origin.node? location = none → disk.node? location = some node →
    location.IsDrawn origin.naming ∨
      (node = .directory ∧ ∃ place ∈ places, location <+: place ∧ location ≠ place) ∨
      location ∈ places

theorem SharedBy.refl (places : List Location) (disk : Disk) : SharedBy places disk disk where
  working := rfl
  naming := rfl
  there := fun _ _ there => there
  new := by
    intro location node absent there
    rw [absent] at there
    cases there

theorem SharedBy.ofSame (shared : SharedBy places origin disk)
    (ground : later.ground = disk.ground)
    (same : ∀ location, later.node? location = disk.node? location) :
    SharedBy places origin later where
  working := (working_of_ground ground).trans shared.working
  naming := (congrArg Prod.snd ground).trans shared.naming
  there := fun location node there => (same location).trans (shared.there location node there)
  new := by
    intro location node absent there
    rw [same] at there
    exact shared.new location node absent there

/-- Changing what was not there at the start, to something that may be there. -/
theorem SharedBy.change (shared : SharedBy places origin disk)
    (ground : later.ground = disk.ground) (absent : origin.node? location = none)
    (elsewhere : ∀ other, other ≠ location → later.node? other = disk.node? other)
    (here : ∀ node, later.node? location = some node → location.IsDrawn origin.naming ∨
      (node = .directory ∧ ∃ place ∈ places, location <+: place ∧ location ≠ place) ∨
      location ∈ places) :
    SharedBy places origin later where
  working := (working_of_ground ground).trans shared.working
  naming := (congrArg Prod.snd ground).trans shared.naming
  there := by
    intro other node there
    rw [elsewhere]
    · exact shared.there other node there
    · rintro rfl
      rw [absent] at there
      cases there
  new := by
    intro other node none there
    by_cases same : other = location
    · rw [same] at there ⊢
      exact here node there
    · rw [elsewhere other same] at there
      exact shared.new other node none there

/-- What is missing was missing. -/
theorem SharedBy.absent (shared : SharedBy places origin disk)
    (free : disk.node? location = none) : origin.node? location = none := by
  cases there : origin.node? location with
  | none => rfl
  | some node =>
    rw [shared.there location node there] at free
    cases free

/-- A path that meets no temporary file, and no place that is not taken at the start. -/
structure ClearOf (places : List Location) (origin : Disk) (path : String) : Prop where
  climbs : origin.Climbs path
  undrawn : origin.Undrawn path
  free : ∀ front rest, Path.components path = front ++ rest →
    origin.node? (origin.leads path front) = none → origin.leads path front ∉ places

/-- What is missing on the way is still missing, or a directory now. -/
theorem SharedBy.on_the_way (shared : SharedBy places origin disk)
    (clear : ClearOf places origin path) (whole : Path.components path = front ++ rest)
    (absent : origin.node? (origin.leads path front) = none) :
    disk.node? (origin.leads path front) = none ∨
      disk.node? (origin.leads path front) = some .directory := by
  cases there : disk.node? (origin.leads path front) with
  | none => exact .inl rfl
  | some node =>
    rcases shared.new _ node absent there with drawn | ⟨rfl, _⟩ | taken
    · exact absurd drawn (clear.undrawn front rest whole absent)
    · exact .inr rfl
    · exact absurd taken (clear.free front rest whole absent)

section
variable (shared : SharedBy places origin disk) (sound : origin.IsSound)
  (clear : ClearOf places origin path)
include shared sound clear

theorem SharedBy.walk_behind (whole : Path.components path = front ++ rest)
    (absent : origin.node? (origin.leads path front) = none) :
    disk.walk (origin.leads path front) rest ≠ .error .notADirectory := by
  induction rest generalizing front with
  | nil =>
    intro impossible
    cases impossible
  | cons component rest ih =>
    unfold Disk.walk
    rcases shared.on_the_way clear whole absent with none | directory
    · rw [none]
      intro impossible
      cases impossible
    · rw [directory]
      dsimp only
      split
      · intro impossible
        cases impossible
      · have onward : Path.components path = (front ++ [component]) ++ rest := by
          rw [whole, List.append_assoc]
          rfl
        have split : Path.components path = front ++ ([component] ++ rest) := whole
        have behind := clear.climbs.missing_behind sound split absent
        rw [leads_append] at behind
        have next := ih onward (by rw [leads_append]; exact behind.2)
        rw [leads_append] at next
        exact next

/-- Where a walk missed something at the start, a later one does not meet anything but
directories. -/
theorem SharedBy.walk_missing (whole : Path.components path = front ++ rest)
    (missing : origin.walk (origin.leads path front) rest = .error .notFound) :
    disk.walk (origin.leads path front) rest ≠ .error .notADirectory ∧
      origin.node? (origin.place path) = none := by
  induction rest generalizing front with
  | nil => cases missing
  | cons component rest ih =>
    cases there : origin.node? (origin.leads path front) with
    | none =>
      refine ⟨shared.walk_behind sound clear whole there, ?_⟩
      have split : Path.components path = front ++ (component :: rest ++ []) := by
        rw [List.append_nil, whole]
      have behind := clear.climbs.missing_behind sound split there
      rw [← whole] at behind
      exact behind.2
    | some node =>
      have still := shared.there _ node there
      unfold Disk.walk at missing ⊢
      rw [there] at missing
      rw [still]
      cases node with
      | directory =>
        dsimp only at missing ⊢
        split at missing
        · cases missing
        · rename_i fits
          rw [if_neg fits]
          have onward : Path.components path = (front ++ [component]) ++ rest := by
            rw [whole, List.append_assoc]
            rfl
          have next := ih onward (by rw [leads_append]; exact missing)
          rw [leads_append] at next
          exact next
      | file content => cases missing
      | socket => cases missing

end

theorem walk_cases (disk : Disk) (here : Location) (components : List String) :
    disk.walk here components = .error .notFound ∨
      disk.walk here components = .error .notADirectory ∨
      (disk.walk here components = .error .nameTooLong ∧
        ∃ word ∈ components, longestName < word.utf8ByteSize) ∨
      (disk.walk here components = .ok (components.foldl Location.step here) ∧
        ∀ word ∈ components, word.utf8ByteSize ≤ longestName) := by
  induction components generalizing here with
  | nil =>
    refine .inr (.inr (.inr ⟨rfl, ?_⟩))
    intro word impossible
    cases impossible
  | cons component rest ih =>
    unfold walk
    cases disk.node? here with
    | none => exact .inl rfl
    | some node =>
      cases node with
      | directory =>
        dsimp only
        by_cases long : longestName < component.utf8ByteSize
        · rw [if_pos long]
          exact .inr (.inr (.inl ⟨rfl, component, List.mem_cons_self, long⟩))
        · rw [if_neg long]
          rcases ih (here.step component) with missed | blocked | ⟨refused, word, listed, further⟩ |
            ⟨walked, short⟩
          · exact .inl missed
          · exact .inr (.inl blocked)
          · exact .inr (.inr (.inl ⟨refused, word, List.mem_cons_of_mem _ listed, further⟩))
          · refine .inr (.inr (.inr ⟨walked, ?_⟩))
            intro word listed
            rcases List.mem_cons.mp listed with rfl | later
            · exact Nat.le_of_not_lt long
            · exact short word later
      | file content => exact .inr (.inl rfl)
      | socket => exact .inr (.inl rfl)

theorem walk_of_follow (followed : disk.follow path = .ok location) :
    disk.walk (disk.start path) (Path.components path) = .ok location := by
  unfold Disk.follow at followed
  split at followed
  · cases followed
  · exact followed

/-- Following a path that led to something missing at the start. -/
theorem SharedBy.follow_cases (shared : SharedBy places origin disk) (sound : origin.IsSound)
    (clear : ClearOf places origin path) (named : path.isEmpty = false)
    (missing : origin.follow path = .error .notFound) :
    disk.follow path = .error .notFound ∨
      (disk.follow path = .error .nameTooLong ∧
        ∃ word ∈ Path.components path, longestName < word.utf8ByteSize) ∨
      (disk.follow path = .ok (origin.place path) ∧
        (∀ word ∈ Path.components path, word.utf8ByteSize ≤ longestName) ∧
        origin.node? (origin.place path) = none ∧
        (disk.node? (origin.place path) = none ∨
          disk.node? (origin.place path) = some .directory)) := by
  unfold Disk.follow at missing ⊢
  rw [named] at missing ⊢
  simp only [Bool.false_eq_true, if_false] at missing ⊢
  rw [shared.toAdds.start]
  have begun : Path.components path = [] ++ Path.components path := rfl
  obtain ⟨free, absent⟩ := shared.walk_missing sound clear begun missing
  rcases disk.walk_cases (origin.start path) (Path.components path) with missed | blocked | long |
    ⟨walked, short⟩
  · exact .inl missed
  · exact absurd blocked free
  · exact .inr (.inl long)
  · have onward := shared.on_the_way clear (List.append_nil _).symm absent
    exact .inr (.inr ⟨walked, short, absent, onward⟩)

/-! ### What a path names -/

/-- At the end of a path there is what was there at the start, unless it could be changed. -/
theorem SharedBy.node?_place (shared : SharedBy places origin disk) (undrawn : origin.Undrawn path)
    (own : ¬(origin.place path).IsDrawn origin.naming →
      disk.node? (origin.place path) = origin.node? (origin.place path)) :
    disk.node? (origin.place path) = origin.node? (origin.place path) := by
  cases before : origin.node? (origin.place path) with
  | some node => exact shared.there _ node before
  | none =>
    rw [← before]
    exact own (undrawn.place before)

theorem SharedBy.stat_iff (shared : SharedBy places origin disk) (sound : origin.IsSound)
    (climbs : origin.Climbs path) (undrawn : origin.Undrawn path)
    (own : ¬(origin.place path).IsDrawn origin.naming →
      disk.node? (origin.place path) = origin.node? (origin.place path)) {node : Node} :
    disk.stat path = .ok node ↔ origin.stat path = .ok node :=
  shared.toAdds.stat_iff sound.tree climbs fun _ => shared.node?_place undrawn own

/-- What a path to a socket names is settled, by something that is there or because nobody makes
anything there. -/
def IsSettled (places : List Location) (origin : Disk) (socket : String) : Prop :=
  (∃ node, origin.stat socket = .ok node) ∨
    (origin.Climbs socket ∧ origin.Undrawn socket ∧
      ∀ place ∈ places, (origin.place socket).Apart place)

theorem Climbs.clearOf (climbs : origin.Climbs path) (sound : origin.IsSound)
    (undrawn : origin.Undrawn path) (apart : ∀ place ∈ places, ¬place <+: origin.place path) :
    ClearOf places origin path := by
  refine ⟨climbs, undrawn, ?_⟩
  intro front rest whole absent taken
  have split : Path.components path = front ++ (rest ++ []) := by
    rw [List.append_nil, whole]
  have behind := climbs.missing_behind sound split absent
  rw [← whole] at behind
  exact apart _ taken behind.1

theorem size_le_of_mem_components {word : String} (listed : word ∈ Path.components path) :
    word.utf8ByteSize ≤ path.utf8ByteSize := by
  rw [Path.components_eq_map, List.mem_map] at listed
  obtain ⟨piece, kept, rfl⟩ := listed
  have front := Path.sublist_of_mem_pieces (List.mem_of_mem_filter kept)
  have bytes := (front.flatMap String.utf8EncodeChar).length_le
  have same := textBytes_eq_flatMap (String.ofList piece)
  rw [String.toList_ofList] at same
  rw [← textBytes_eq_flatMap, ← same] at bytes
  exact bytes

/-- Where nobody makes anything, there is what was there at the start. -/
theorem SharedBy.node?_of_apart (shared : SharedBy places origin disk)
    (apart : ∀ place ∈ places, location.Apart place)
    (visible : ¬location.IsDrawn origin.naming) :
    disk.node? location = origin.node? location := by
  cases before : origin.node? location with
  | some node => exact shared.there _ node before
  | none =>
    cases there : disk.node? location with
    | none => rfl
    | some node =>
      rcases shared.new _ node before there with drawn | ⟨_, place, listed, above, _⟩ | taken
      · exact absurd drawn visible
      · exact absurd above (apart place listed).1
      · exact absurd List.prefix_rfl (apart location taken).1

theorem SharedBy.stat_socket (shared : SharedBy places origin disk) (sound : origin.IsSound)
    {socket : String} (settled : IsSettled places origin socket)
    (short : socket.utf8ByteSize < socketPathLimit) (named : socket.isEmpty = false) :
    disk.stat socket = origin.stat socket := by
  rcases settled with ⟨node, found⟩ | ⟨climbs, undrawn, apart⟩
  · rw [found]
    exact shared.toAdds.stat found
  · have clear := climbs.clearOf sound undrawn fun place listed => (apart place listed).2
    have fits : ∀ word ∈ Path.components socket, word.utf8ByteSize ≤ longestName := by
      intro word listed
      have size := size_le_of_mem_components listed
      have limits : socketPathLimit ≤ longestName := by decide
      omega
    have still := shared.node?_place undrawn (shared.node?_of_apart apart)
    by_cases missing : origin.follow socket = .error .notFound
    · rcases shared.follow_cases sound clear named missing with missed | ⟨_, word, listed, long⟩ |
        ⟨walked, _, absent, _⟩
      · rw [stat_of_unfollowed missing, stat_of_unfollowed missed]
      · have size := fits word listed
        omega
      · rw [stat_of_unfollowed missing, stat_of_followed walked, still, absent]
    · have same := shared.toAdds.follow missing
      cases followed : origin.follow socket with
      | error error =>
        rw [followed] at same
        rw [stat_of_unfollowed followed, stat_of_unfollowed same]
      | ok place =>
        rw [followed] at same
        have here := follow_eq_ok followed
        rw [stat_of_followed followed, stat_of_followed same, here, still]

theorem SharedBy.reachSocket (shared : SharedBy places origin disk) (sound : origin.IsSound)
    {socket : String} (settled : IsSettled places origin socket) :
    disk.reachSocket socket = origin.reachSocket socket := by
  unfold Disk.reachSocket
  split
  · rfl
  · split
    · rfl
    · rename_i short
      split
      · rfl
      · rename_i named
        rw [Bool.not_eq_true] at named
        rw [shared.stat_socket sound settled (Nat.lt_of_not_le short) named]

end Disk

end SegmentOffload
