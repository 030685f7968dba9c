import Mathlib.Data.List.Induction
import SegmentOffload.Proofs.DiskFrame
import SegmentOffload.Proofs.PathWords

/-!
Directories that are made on the way to a path.

Making them adds directories that the path passes and nothing else.  So what the path names stays
what it was: nothing that was not there, as long as every directory that the path leaves upwards was
there before.  Two dots behind a missing directory are what makes the difference, for making that
directory lets the path lead somewhere.
-/

namespace SegmentOffload.Disk

open SegmentOffload.Path (LeadsTo)

variable {disk earlier middle later : Disk} {path : String} {location : Location}

/-! ### Trees -/

/-- Whatever there is, is in a directory. -/
def IsTree (disk : Disk) : Prop :=
  ∀ location node, disk.node? location = some node →
    disk.node? location.dropLast = some .directory

theorem isTree_of_nodes
    (inside : ∀ entry ∈ disk.nodes, disk.node? entry.1.dropLast = some .directory) :
    disk.IsTree := by
  intro location node there
  by_cases root : location = []
  · rw [root]
    rfl
  · rw [node?_of_ne_nil _ root, Option.map_eq_some_iff] at there
    obtain ⟨entry, found, _⟩ := there
    have same := List.find?_some found
    rw [beq_iff_eq] at same
    rw [← same]
    exact inside entry (List.mem_of_find?_eq_some found)

theorem IsTree.above (tree : disk.IsTree) {front rest : Location} {node : Node}
    (there : disk.node? (front ++ rest) = some node) (below : rest ≠ []) :
    disk.node? front = some .directory := by
  induction rest using List.reverseRecOn generalizing node with
  | nil => exact absurd rfl below
  | append_singleton init last ih =>
    have parent := tree _ _ there
    rw [← List.append_assoc, List.dropLast_concat] at parent
    by_cases none : init = []
    · rw [none, List.append_nil] at parent
      exact parent
    · exact ih parent none

/-! ### Walking on -/

theorem walk_cons_eq_ok_iff {here : Location} {component : String} {rest : List String} :
    disk.walk here (component :: rest) = .ok location ↔
      disk.node? here = some .directory ∧ component.utf8ByteSize ≤ longestName ∧
        disk.walk (here.step component) rest = .ok location := by
  rw [walk]
  split
  · rename_i none
    rw [none]
    constructor
    · intro impossible
      cases impossible
    · rintro ⟨impossible, _⟩
      cases impossible
  · rename_i directory
    rw [directory]
    split
    · rename_i long
      constructor
      · intro impossible
        cases impossible
      · rintro ⟨_, short, _⟩
        omega
    · rename_i short
      exact ⟨fun walked => ⟨rfl, Nat.le_of_not_lt short, walked⟩, fun given => given.2.2⟩
  · rename_i node other there
    rw [there]
    constructor
    · intro impossible
      cases impossible
    · rintro ⟨same, _⟩
      cases same
      exact absurd rfl other

theorem walk_append_eq_ok_iff {here : Location} {front rest : List String} :
    disk.walk here (front ++ rest) = .ok location ↔
      disk.walk here front = .ok (front.foldl Location.step here) ∧
        disk.walk (front.foldl Location.step here) rest = .ok location := by
  induction front generalizing here with
  | nil => exact ⟨fun walked => ⟨rfl, walked⟩, fun given => given.2⟩
  | cons component front ih =>
    rw [List.cons_append, walk_cons_eq_ok_iff, walk_cons_eq_ok_iff, ih, List.foldl_cons]
    tauto

/-- Components without two dots go down, and those that are one dot stay. -/
theorem foldl_step_of_descending {components : List String} (descends : ".." ∉ components)
    (here : Location) :
    components.foldl Location.step here = here ++ components.filter fun word => word ≠ "." := by
  induction components generalizing here with
  | nil => exact (List.append_nil here).symm
  | cons component rest ih =>
    have down : component ≠ ".." := by
      rintro rfl
      exact descends List.mem_cons_self
    rw [List.foldl_cons, ih fun member => descends (List.mem_cons_of_mem _ member)]
    by_cases stays : component = "."
    · rw [Location.step, if_pos stays, stays]
      rfl
    · rw [Location.step, if_neg stays, if_neg down,
        List.filter_cons_of_pos (by rw [decide_eq_true_iff]; exact stays), List.append_assoc]
      rfl

/-! ### More than there was -/

/-- Later, all that was there is still there. -/
structure Adds (earlier later : Disk) : Prop where
  working : later.working = earlier.working
  there : ∀ location node, earlier.node? location = some node → later.node? location = some node

theorem Adds.start (adds : Adds earlier later) (other : String) :
    later.start other = earlier.start other := by
  rw [Disk.start, Disk.start, adds.working]

theorem Adds.place (adds : Adds earlier later) (other : String) :
    later.place other = earlier.place other := by
  rw [Disk.place, Disk.place, adds.start]

/-- A walk that did not miss anything goes as before. -/
theorem Adds.walk (adds : Adds earlier later) {here : Location} {components : List String}
    (found : earlier.walk here components ≠ .error .notFound) :
    later.walk here components = earlier.walk here components := by
  induction components generalizing here with
  | nil => rfl
  | cons component rest ih =>
    unfold Disk.walk at found ⊢
    cases there : earlier.node? here with
    | none =>
      rw [there] at found
      exact absurd rfl found
    | some node =>
      rw [there] at found
      rw [adds.there here node there]
      cases node with
      | directory =>
        dsimp only at found ⊢
        split
        · rfl
        · rename_i short
          rw [if_neg short] at found
          exact ih found
      | file content => rfl
      | socket => rfl

theorem Adds.follow (adds : Adds earlier later)
    (found : earlier.follow path ≠ .error .notFound) :
    later.follow path = earlier.follow path := by
  unfold Disk.follow at found ⊢
  split
  · rfl
  · rename_i named
    rw [if_neg named] at found
    rw [adds.start]
    exact adds.walk found

/-- A walk down to something that was there was possible before. -/
theorem Adds.walk_back (adds : Adds earlier later) (tree : earlier.IsTree)
    {here : Location} {components : List String} {node : Node} (descends : ".." ∉ components)
    (there : earlier.node? location = some node)
    (walked : later.walk here components = .ok location) :
    earlier.walk here components = .ok location := by
  induction components generalizing here with
  | nil => exact walked
  | cons component rest ih =>
    have down := foldl_step_of_descending descends here
    rw [← walk_eq_ok walked] at down
    rw [walk_cons_eq_ok_iff] at walked ⊢
    obtain ⟨directory, short, onward⟩ := walked
    refine ⟨?_, short, ih (fun member => descends (List.mem_cons_of_mem _ member)) onward⟩
    generalize (component :: rest).filter (fun word => word ≠ ".") = names at down
    by_cases none : names = []
    · rw [none, List.append_nil] at down
      rw [down] at there
      have same := adds.there _ _ there
      rw [directory] at same
      cases same
      exact there
    · rw [down] at there
      exact tree.above there none

/-! ### New directories -/

/-- Some front of a path's components leads to a location, and a component behind it does more than
stay. -/
def OnTheWay (disk : Disk) (path : String) (location : Location) : Prop :=
  ∃ front rest, Path.components path = front ++ rest ∧ (∃ word ∈ rest, word ≠ ".") ∧
    location = front.foldl Location.step (disk.start path)

/-- A directory that was made for a path. -/
structure IsNew (path : String) (earlier later : Disk) (location : Location) : Prop where
  absent : earlier.node? location = none
  directory : later.node? location = some .directory
  inside : later.node? location.dropLast = some .directory
  onTheWay : earlier.OnTheWay path location

/-- Later, there are new directories on the way to a path, and all else is as it was. -/
structure Grown (path : String) (earlier later : Disk) : Prop where
  working : later.working = earlier.working
  nodes : ∀ location, later.node? location = earlier.node? location ∨
    IsNew path earlier later location

theorem Grown.refl (path : String) (disk : Disk) : Grown path disk disk := by
  constructor
  · rfl
  · intro location
    exact .inl rfl

theorem Grown.adds (grown : Grown path earlier later) : Adds earlier later := by
  refine ⟨grown.working, ?_⟩
  intro location node found
  rcases grown.nodes location with same | new
  · rw [same]
    exact found
  · rw [new.absent] at found
    cases found

theorem Grown.place (grown : Grown path earlier later) (other : String) :
    later.place other = earlier.place other :=
  grown.adds.place other

theorem Grown.there (grown : Grown path earlier later) {node : Node}
    (found : earlier.node? location = some node) : later.node? location = some node :=
  grown.adds.there location node found

/-- Only the turns that lie ahead differ, or the order in which things were put there. -/
theorem Grown.ofSame (grown : Grown path earlier middle) (working : later.working = middle.working)
    (same : ∀ location, later.node? location = middle.node? location) :
    Grown path earlier later := by
  constructor
  · rw [working, grown.working]
  · intro location
    rw [same location]
    rcases grown.nodes location with kept | new
    · exact .inl kept
    · right
      exact {
        absent := new.absent
        directory := by rw [same]; exact new.directory
        inside := by rw [same]; exact new.inside
        onTheWay := new.onTheWay }

theorem Grown.trans (first : Grown path earlier middle) (second : Grown path middle later) :
    Grown path earlier later := by
  constructor
  · rw [second.working, first.working]
  · intro location
    rcases second.nodes location with same | new
    · rw [same]
      rcases first.nodes location with kept | before
      · exact .inl kept
      · right
        exact {
          absent := before.absent
          directory := by rw [same]; exact before.directory
          inside := second.there before.inside
          onTheWay := before.onTheWay }
    · rcases first.nodes location with kept | before
      · right
        exact {
          absent := by rw [← kept]; exact new.absent
          directory := new.directory
          inside := new.inside
          onTheWay := by
            obtain ⟨front, rest, whole, moves, rfl⟩ := new.onTheWay
            rw [first.adds.start]
            exact ⟨front, rest, whole, moves, rfl⟩ }
      · have absent := new.absent
        rw [before.directory] at absent
        cases absent

theorem Grown.isTree (grown : Grown path earlier later) (tree : earlier.IsTree) : later.IsTree := by
  intro location node there
  rcases grown.nodes location with same | new
  · rw [same] at there
    exact grown.there (tree location node there)
  · exact new.inside

theorem grown_call {outcome : Except IoError Unit} (path : String)
    (called : disk.call = (outcome, later)) : Grown path disk later := by
  refine (Grown.refl path disk).ofSame ?_ (node?_call called)
  exact (keeps_call [] called).working

/-! ### Making them -/

/-- A path that ends with a name leads into the directory before it. -/
theorem follow_of_named (followed : disk.follow path = .ok location)
    (named : (Path.components path).getLast?.any isName = true) :
    ∃ parent name, location = parent ++ [name] ∧ disk.node? parent = some .directory := by
  rw [Disk.follow] at followed
  split at followed
  · cases followed
  · rcases List.eq_nil_or_concat (Path.components path) with none | ⟨init, name, last⟩
    · rw [none] at named
      cases named
    · rw [List.concat_eq_append] at last
      rw [last, List.getLast?_concat, Option.any_some, isName, Bool.and_eq_true, bne_iff_ne,
        bne_iff_ne] at named
      rw [last, walk_append_eq_ok_iff, walk_cons_eq_ok_iff] at followed
      obtain ⟨_, above, _, walked⟩ := followed
      rw [Location.step, if_neg named.1, if_neg named.2] at walked
      cases walked
      exact ⟨_, name, rfl, above⟩

theorem grown_makeDirectory {directory : String} {outcome : Except IoError Unit}
    (way : LeadsTo directory path ∨ directory = ".")
    (made : disk.makeDirectory directory = (outcome, later)) : Grown path disk later := by
  unfold makeDirectory at made
  split at made
  · cases made
    exact Grown.refl path disk
  · split at made
    · cases made
      exact Grown.refl path disk
    · rename_i location followed
      split at made
      · rename_i absent named
        cases made
        rcases way with leads | rfl
        · obtain ⟨start, rest, whole, moves⟩ := leads
          have place := follow_eq_ok followed
          obtain ⟨parent, name, rfl, above⟩ := follow_of_named followed named
          have below : parent ++ [name] ≠ [] := by simp
          have apart : parent ≠ parent ++ [name] := by simp
          constructor
          · rfl
          · intro other
            by_cases here : other = parent ++ [name]
            · rw [here]
              right
              exact {
                absent := absent
                directory := disk.node?_put_self below _
                inside := by
                  rw [List.dropLast_concat, disk.node?_put_of_ne apart]
                  exact above
                onTheWay := by
                  refine ⟨Path.components directory, rest, whole, moves, ?_⟩
                  rw [place, Disk.place, Disk.start, Disk.start, start] }
            · exact .inl (disk.node?_put_of_ne here _)
        · have noName : (Path.components ".").getLast?.any isName = false := by decide +kernel
          rw [noName] at named
          cases named
      · cases made
        exact Grown.refl path disk

theorem grown_ensureDirectory {directory : String} {outcome : Except IoError Unit}
    (way : LeadsTo directory path ∨ directory = ".")
    (made : disk.ensureDirectory directory = (outcome, later)) : Grown path disk later := by
  unfold ensureDirectory at made
  split at made
  · rename_i tried
    cases made
    exact grown_makeDirectory way tried
  · rename_i tried
    cases made
    exact grown_makeDirectory way tried

theorem grown_makeLineage {directories : List String} {outcome : Except IoError Unit}
    (ways : ∀ directory ∈ directories, LeadsTo directory path ∨ directory = ".")
    (made : disk.makeLineage directories = (outcome, later)) : Grown path disk later := by
  induction directories generalizing disk later outcome with
  | nil =>
    cases made
    exact Grown.refl path disk
  | cons directory rest ih =>
    have way := ways directory List.mem_cons_self
    have others := fun other listed => ways other (List.mem_cons_of_mem _ listed)
    unfold makeLineage at made
    split at made
    · rename_i first
      have begun := grown_ensureDirectory way first
      split at made
      · rename_i higher
        cases made
        exact begun.trans (ih others higher)
      · rename_i higher
        exact (begun.trans (ih others higher)).trans (grown_ensureDirectory way made)
    · rename_i first
      cases made
      exact grown_ensureDirectory way first

theorem grown_makeDirectories {outcome : Except IoError Unit}
    (made : disk.makeDirectories (Path.directory path) = (outcome, later)) :
    Grown path disk later := by
  unfold makeDirectories at made
  split at made
  · rename_i called
    cases made
    exact grown_call path called
  · rename_i called
    refine (grown_call path called).trans (grown_makeLineage ?_ made)
    intro directory listed
    exact Path.leadsTo_of_mem_ancestors listed

/-! ### What the path names -/

/-- Every directory that a path leaves upwards is there. -/
def Climbs (disk : Disk) (path : String) : Prop :=
  ∀ index < (Path.components path).length, (Path.components path)[index]? = some ".." →
    (disk.walk (disk.start path) ((Path.components path).take (index + 1))).isOk = true

instance (disk : Disk) (path : String) : Decidable (disk.Climbs path) :=
  inferInstanceAs (Decidable (∀ index < _, _ → _))

theorem walk_isOk_iff {here : Location} {components : List String} :
    (disk.walk here components).isOk = true ↔
      disk.walk here components = .ok (components.foldl Location.step here) := by
  cases walked : disk.walk here components with
  | error error =>
    constructor
    · intro impossible
      cases impossible
    · intro impossible
      cases impossible
  | ok location =>
    rw [walk_eq_ok walked]
    exact ⟨fun _ => rfl, fun _ => rfl⟩

/-- A path goes up over what is there, and from then on only down. -/
theorem Climbs.split (climbs : disk.Climbs path) :
    ∃ settled descent, Path.components path = settled ++ descent ∧ ".." ∉ descent ∧
      disk.walk (disk.start path) settled =
        .ok (settled.foldl Location.step (disk.start path)) ∧
      (settled = [] ∨ ∃ init, settled = init ++ [".."]) := by
  by_cases dots : ".." ∈ Path.components path
  · obtain ⟨back, front, reversed, free⟩ :=
      List.eq_append_cons_of_mem (List.mem_reverse.mpr dots)
    have whole : Path.components path = front.reverse ++ ".." :: back.reverse := by
      rw [← List.reverse_reverse (Path.components path), reversed, List.reverse_append,
        List.reverse_cons, List.append_assoc]
      rfl
    have up := climbs front.reverse.length
    rw [whole, List.take_length_add_append] at up
    refine ⟨front.reverse ++ [".."], back.reverse, ?_, ?_, ?_, .inr ⟨front.reverse, rfl⟩⟩
    · rw [whole, List.append_assoc]
      rfl
    · rw [List.mem_reverse]
      exact free
    · rw [← walk_isOk_iff]
      apply up
      · rw [List.length_append, List.length_cons]
        omega
      · rw [List.getElem?_append_right (Nat.le_refl _), Nat.sub_self]
        rfl
  · exact ⟨[], Path.components path, rfl, dots, rfl, .inl rfl⟩

/-- Nothing is made where a path leads, as long as it leaves upwards only what is there. -/
theorem Grown.node?_place (grown : Grown path earlier later) (climbs : earlier.Climbs path) :
    later.node? (earlier.place path) = earlier.node? (earlier.place path) := by
  rcases grown.nodes (earlier.place path) with same | new
  · exact same
  · obtain ⟨settled, descent, whole, descends, walked, _⟩ := climbs.split
    obtain ⟨front, rest, other, ⟨word, listed, moves⟩, place⟩ := new.onTheWay
    have absent := new.absent
    rw [whole] at other
    have sides : (∃ more, front = settled ++ more ∧ descent = more ++ rest) ∨
        ∃ component more, settled = front ++ component :: more := by
      rcases List.append_eq_append_iff.mp other with ⟨more, same, left⟩ | ⟨more, same, left⟩
      · exact .inl ⟨more, same, left⟩
      · cases more with
        | nil =>
          rw [List.append_nil] at same
          exact .inl ⟨[], by rw [same, List.append_nil], left.symm⟩
        | cons component more => exact .inr ⟨component, more, same⟩
    rcases sides with ⟨more, rfl, rfl⟩ | ⟨component, more, rfl⟩
    · -- what is made below what is settled stays above the end of the path
      have above : ".." ∉ more := fun member => descends (List.mem_append_left _ member)
      rw [Disk.place, whole, List.foldl_append, foldl_step_of_descending descends,
        List.foldl_append, foldl_step_of_descending above] at place
      have same := List.append_cancel_left place
      rw [List.filter_append, List.append_right_eq_self, List.filter_eq_nil_iff] at same
      have stays := same word listed
      rw [decide_eq_true_iff] at stays
      exact absurd moves stays
    · -- what is settled was passed before
      rw [walk_append_eq_ok_iff, walk_cons_eq_ok_iff, ← place] at walked
      rw [walked.2.1] at absent
      cases absent

theorem Grown.keeps (grown : Grown path earlier later) (replaced : Location) :
    Keeps replaced earlier later := by
  constructor
  · exact grown.working
  · intro location there
    exact grown.there there
  · intro location content _ there
    exact grown.there there

theorem stat_eq_ok_iff {node : Node} :
    disk.stat path = .ok node ↔
      holdsNul path = false ∧ (node ≠ .directory → Path.endsWithSlash path = false) ∧
        ∃ location, disk.follow path = .ok location ∧ disk.node? location = some node := by
  unfold stat locate
  cases nul : holdsNul path with
  | true => simp
  | false =>
    cases followed : disk.follow path with
    | error error => simp
    | ok location =>
      cases there : disk.node? location with
      | none => simp [there]
      | some found =>
        cases found with
        | directory => grind
        | file content => grind
        | socket => grind

/-- What a path names, it names later too. -/
theorem Adds.stat (adds : Adds earlier later) {node : Node}
    (found : earlier.stat path = .ok node) : later.stat path = .ok node := by
  rw [stat_eq_ok_iff] at found ⊢
  obtain ⟨free, slash, location, followed, there⟩ := found
  refine ⟨free, slash, location, ?_, adds.there location node there⟩
  rw [adds.follow, followed]
  rw [followed]
  intro impossible
  cases impossible

/-- What a path names is the same when what is at its end is the same. -/
theorem Adds.stat_iff (adds : Adds earlier later) (tree : earlier.IsTree)
    (climbs : earlier.Climbs path)
    (same : later.follow path = .ok (earlier.place path) →
      later.node? (earlier.place path) = earlier.node? (earlier.place path)) {node : Node} :
    later.stat path = .ok node ↔ earlier.stat path = .ok node := by
  constructor
  · rw [stat_eq_ok_iff, stat_eq_ok_iff]
    rintro ⟨free, slash, location, followed, there⟩
    have place := follow_eq_ok followed
    rw [adds.place] at place
    rw [place] at followed there
    rw [same followed] at there
    obtain ⟨settled, descent, whole, descends, walked, _⟩ := climbs.split
    refine ⟨free, slash, _, ?_, there⟩
    unfold Disk.follow at followed ⊢
    split at followed
    · cases followed
    · rename_i named
      rw [adds.start, whole, walk_append_eq_ok_iff] at followed
      rw [if_neg named, whole, walk_append_eq_ok_iff]
      exact ⟨walked, adds.walk_back tree descends there followed.2⟩
  · exact adds.stat

/-- Where a path names the same on two disks, it names something on both or on neither. -/
theorem stat_alike
    (same : ∀ node, later.stat path = .ok node ↔ earlier.stat path = .ok node) :
    (∃ node, later.stat path = .ok node ∧ earlier.stat path = .ok node) ∨
      ∃ after before, later.stat path = .error after ∧ earlier.stat path = .error before := by
  cases before : earlier.stat path with
  | ok node => exact .inl ⟨node, (same node).mpr before, rfl⟩
  | error error =>
    cases after : later.stat path with
    | error other => exact .inr ⟨other, error, rfl, rfl⟩
    | ok node =>
      rw [(same node).mp after] at before
      cases before

theorem isPresent_congr
    (same : ∀ node, later.stat path = .ok node ↔ earlier.stat path = .ok node) :
    later.isPresent path = earlier.isPresent path := by
  unfold Disk.isPresent
  rcases stat_alike same with ⟨node, after, before⟩ | ⟨_, _, after, before⟩
  · rw [after, before]
  · rw [after, before]

/-- What a path names is the same on a grown disk. -/
theorem Grown.stat_iff (grown : Grown path earlier later) (tree : earlier.IsTree)
    (climbs : earlier.Climbs path) {node : Node} :
    later.stat path = .ok node ↔ earlier.stat path = .ok node :=
  grown.adds.stat_iff tree climbs fun _ => grown.node?_place climbs

theorem Grown.isPresent (grown : Grown path earlier later) (tree : earlier.IsTree)
    (climbs : earlier.Climbs path) : later.isPresent path = earlier.isPresent path :=
  isPresent_congr fun _ => grown.stat_iff tree climbs

theorem Keeps.climbs {replaced : Location} (kept : Keeps replaced earlier later)
    (climbs : earlier.Climbs path) : later.Climbs path := by
  intro index inside dots
  have walked := climbs index inside dots
  rw [walk_isOk_iff] at walked ⊢
  rw [Disk.start, kept.working]
  exact kept.walk walked

end SegmentOffload.Disk
