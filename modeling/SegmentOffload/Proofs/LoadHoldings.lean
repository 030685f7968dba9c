import SegmentOffload.Proofs.ImpartialPeers
import SegmentOffload.Proofs.LoadSteps
import SegmentOffload.Proofs.OpenedDirectories

/-!
What loads that share a host can count on.

A load holds what it made there: a directory that is open, a temporary file, a connection, and in
the end the file at its place.  It changes nothing but these and what nobody else has a use for: a
directory on the way to its place, which others may want too, or a place under a temporary name that
is free.  So every load keeps what it holds, whatever the others do.
-/

namespace SegmentOffload

open Disk (SharedBy IsSettled)
open Host (onDisk onClient onNetwork)

namespace Load

/-! ### Holdings -/

/-- A connection that a load has made. -/
structure Link where
  connection : Nat
  line : Line
  /-- Whether nothing was said there. -/
  isFresh : Bool

/-- What a load has on the host while it is at work. -/
structure Holding where
  path : String
  /-- A directory that is there. -/
  opened : Option String
  /-- The temporary file, and what is in it. -/
  draft : Option (Location × Bytes)
  link : Option Link
  /-- What the load has put at its path. -/
  placed : Option Bytes

namespace Holding

def start (path : String) : Holding := ⟨path, none, none, none, none⟩

/-- The disk has what a load holds, and otherwise what it had at the start or may have by now. -/
structure OnDisk (origin : Disk) (places : List Location) (held : Holding) (disk : Disk) : Prop where
  shared : SharedBy places origin disk
  opened : ∀ directory, held.opened = some directory → disk.isDirectory directory = true
  draft : ∀ location content, held.draft = some (location, content) →
    location.IsDrawn origin.naming ∧ origin.node? location = none ∧
      disk.node? location = some (.file content)
  own : held.placed = none → ¬(origin.place held.path).IsDrawn origin.naming →
    disk.node? (origin.place held.path) = origin.node? (origin.place held.path)
  placed : ∀ content, held.placed = some content → ¬(origin.place held.path).IsDrawn origin.naming ∧
    disk.stat held.path = .ok (.file content)

structure OnNetwork {π : Type} [Peer π] {config : ClientConfig} {chunks : List Chunk}
    (terms : Impartial π config chunks) (held : Holding) (network : Network π) : Prop where
  ready : terms.ready network.lines.length network.peer
  link : ∀ link, held.link = some link → network.openLine? link.connection = some link.line
  fresh : ∀ link, held.link = some link → link.isFresh = true →
    terms.awaits link.connection network.peer

/-- Two loads hold nothing in common, and their places are not on the way to each other. -/
structure Apart (origin : Disk) (held others : Holding) : Prop where
  places : (origin.place held.path).Apart (origin.place others.path)
  drafts : ∀ location content other, held.draft = some (location, content) →
    others.draft ≠ some (location, other)
  links : ∀ link other, held.link = some link → others.link = some other →
    link.connection ≠ other.connection

theorem Apart.symm {origin : Disk} {held others : Holding} (apart : held.Apart origin others) :
    others.Apart origin held where
  places := ⟨apart.places.2, apart.places.1⟩
  drafts := fun location content other there here => apart.drafts location other content here there
  links := fun link other there here => Ne.symm (apart.links other link here there)

end Holding

/-- What loads know of a host that they share. -/
def rules {π : Type} [Peer π] {config : ClientConfig} {chunks : List Chunk}
    (terms : Impartial π config chunks) (origin : Disk) (places : List Location) :
    Discipline Nat Holding (Host π) where
  knows _ held host :=
    held.OnDisk origin places host.disk ∧ held.OnNetwork terms host.client.network
  apart := Holding.Apart origin
  apart_symm := Holding.Apart.symm

/-- Where a load can be among others. -/
structure Setting (origin : Disk) (socket path : String) (places : List Location) : Prop where
  sound : origin.IsSound
  climbs : origin.Climbs path
  undrawn : origin.Undrawn path
  listed : origin.place path ∈ places
  apart : ∀ place ∈ places, place ≠ origin.place path → place.Apart (origin.place path)
  settled : IsSettled places origin socket

/-! ### Changes of the disk -/

variable {origin now later : Disk} {places : List Location} {held after others : Holding}
  {location : Location}

/-- A file that a path names is still there when directories are kept, and the file. -/
theorem stat_file_kept {replaced : Location} {path : String} {content : Bytes}
    (kept : Disk.Keeps replaced now later) (found : now.stat path = .ok (.file content))
    (still : later.node? (now.place path) = now.node? (now.place path)) :
    later.stat path = .ok (.file content) := by
  rw [Disk.stat_eq_file_iff] at found ⊢
  obtain ⟨free, slash, location, followed, there⟩ := found
  have place := Disk.follow_eq_ok followed
  rw [← place] at still
  exact ⟨free, slash, location, kept.follow followed, still.trans there⟩

theorem isDirectory_kept {replaced : Location} {path : String}
    (kept : Disk.Keeps replaced now later) (there : now.isDirectory path = true) :
    later.isDirectory path = true := by
  rw [Disk.isDirectory_eq_true_iff] at there ⊢
  obtain ⟨free, location, followed, directory⟩ := there
  exact ⟨free, location, kept.follow followed, kept.directories location directory⟩

namespace Holding

/-- Nothing changed but the turns that lie ahead. -/
theorem OnDisk.ofSame (known : held.OnDisk origin places now)
    (ground : later.ground = now.ground)
    (same : ∀ location, later.node? location = now.node? location) :
    held.OnDisk origin places later := by
  have kept : Disk.Keeps [] now later :=
    ⟨Disk.working_of_ground ground, fun _ there => (same _).trans there,
      fun _ _ _ there => (same _).trans there⟩
  refine ⟨known.shared.ofSame ground same, ?_, ?_, ?_, ?_⟩
  · intro directory opened
    exact isDirectory_kept kept (known.opened directory opened)
  · intro location content there
    rw [same]
    exact known.draft location content there
  · intro free visible
    rw [same]
    exact known.own free visible
  · intro content placed
    obtain ⟨visible, found⟩ := known.placed content placed
    exact ⟨visible, stat_file_kept kept found (same _)⟩

theorem OnDisk.withTurns (known : held.OnDisk origin places now) (turns : List Wire.Turn) :
    held.OnDisk origin places { now with turns } :=
  known.ofSame rfl fun _ => rfl

/-- Where something changed that was not there at the start, what a load holds elsewhere is kept. -/
theorem OnDisk.change (known : held.OnDisk origin places now)
    (ground : later.ground = now.ground) (absent : origin.node? location = none)
    (plain : now.node? location ≠ some .directory)
    (elsewhere : ∀ other, other ≠ location → later.node? other = now.node? other)
    (here : ∀ node, later.node? location = some node → location.IsDrawn origin.naming ∨
      (node = .directory ∧ ∃ place ∈ places, location <+: place ∧ location ≠ place) ∨
      location ∈ places)
    (notDraft : ∀ content, held.draft ≠ some (location, content))
    (notOwn : location = origin.place held.path → location.IsDrawn origin.naming) :
    held.OnDisk origin places later := by
  have kept : Disk.Keeps location now later := by
    refine ⟨Disk.working_of_ground ground, ?_, ?_⟩
    · intro other there
      rw [elsewhere]
      · exact there
      · rintro rfl
        exact plain there
    · intro other content apart there
      rw [elsewhere other apart]
      exact there
  have away (visible : ¬(origin.place held.path).IsDrawn origin.naming) :
      later.node? (origin.place held.path) = now.node? (origin.place held.path) := by
    apply elsewhere
    intro same
    rw [same] at visible
    exact visible (notOwn same.symm)
  refine ⟨known.shared.change ground absent elsewhere here, ?_, ?_, ?_, ?_⟩
  · intro directory opened
    exact isDirectory_kept kept (known.opened directory opened)
  · intro other content there
    obtain ⟨drawn, free, file⟩ := known.draft other content there
    refine ⟨drawn, free, ?_⟩
    rw [elsewhere]
    · exact file
    · rintro rfl
      exact notDraft content there
  · intro free visible
    rw [away visible]
    exact known.own free visible
  · intro content placed
    obtain ⟨visible, found⟩ := known.placed content placed
    refine ⟨visible, stat_file_kept kept found ?_⟩
    rw [known.shared.toAdds.place]
    exact away visible

end Holding

/-- Where a load may change the disk, and to what. -/
inductive Mine (origin now later : Disk) (held : Holding) (location : Location) : Prop where
  /-- Under a temporary name, in a place that is free or its own. -/
  | temporary (drawn : location.IsDrawn origin.naming)
      (own : now.node? location = none ∨ ∃ content, held.draft = some (location, content))
  | directory (free : now.node? location = none) (made : later.node? location = some .directory)
      (above : location <+: origin.place held.path) (apart : location ≠ origin.place held.path)
  | place (visible : ¬location.IsDrawn origin.naming) (own : location = origin.place held.path)

/-- A change that a load made on the disk. -/
structure DiskStep (origin : Disk) (places : List Location) (held after : Holding)
    (now later : Disk) : Prop where
  own : after.OnDisk origin places later
  others : ∀ others : Holding, others.OnDisk origin places now → held.Apart origin others →
    others.OnDisk origin places later
  drafts : ∀ location content, after.draft = some (location, content) →
    now.node? location = none ∨ ∃ before, held.draft = some (location, before)
  link : after.link = held.link
  path : after.path = held.path

theorem Mine.spares (mine : Mine origin now later held location)
    (listed : origin.place held.path ∈ places) (ground : later.ground = now.ground)
    (absent : origin.node? location = none) (plain : now.node? location ≠ some .directory)
    (elsewhere : ∀ other, other ≠ location → later.node? other = now.node? other)
    (known : others.OnDisk origin places now) (apart : held.Apart origin others) :
    others.OnDisk origin places later := by
  apply known.change ground absent plain elsewhere
  · intro node there
    cases mine with
    | temporary drawn own => exact .inl drawn
    | directory free made above apart =>
      rw [made] at there
      cases there
      exact .inr (.inl ⟨rfl, _, listed, above, apart⟩)
    | place visible own =>
      rw [own]
      exact .inr (.inr listed)
  · intro content draft
    obtain ⟨drawn, _, file⟩ := known.draft location content draft
    cases mine with
    | temporary drawn own =>
      rcases own with free | ⟨before, mine⟩
      · rw [free] at file
        cases file
      · exact apart.drafts location before content mine draft
    | directory free made above apart =>
      rw [free] at file
      cases file
    | place visible own => exact visible drawn
  · intro same
    cases mine with
    | temporary drawn own => exact drawn
    | directory free made above distinct =>
      rw [same] at above
      exact absurd above apart.places.2
    | place visible own =>
      have met : origin.place held.path = origin.place others.path := own.symm.trans same
      exact absurd (met ▸ List.prefix_rfl) apart.places.1

theorem DiskStep.ofSame (known : held.OnDisk origin places now)
    (ground : later.ground = now.ground)
    (same : ∀ location, later.node? location = now.node? location) :
    DiskStep origin places held held now later where
  own := known.ofSame ground same
  others := fun _ known _ => known.ofSame ground same
  drafts := fun _ content mine => .inr ⟨content, mine⟩
  link := rfl
  path := rfl

theorem DiskStep.opened {directory : String} (stepped : DiskStep origin places held after now later)
    (there : later.isDirectory directory = true) :
    DiskStep origin places held { after with opened := some directory } now later := by
  obtain ⟨own, others, drafts, link, path⟩ := stepped
  refine ⟨⟨own.shared, ?_, own.draft, own.own, own.placed⟩, others, drafts, link, path⟩
  intro other same
  cases same
  exact there

theorem DiskStep.ofMine (mine : Mine origin now later held location)
    (listed : origin.place held.path ∈ places) (ground : later.ground = now.ground)
    (absent : origin.node? location = none) (plain : now.node? location ≠ some .directory)
    (elsewhere : ∀ other, other ≠ location → later.node? other = now.node? other)
    (own : after.OnDisk origin places later)
    (drafts : ∀ location content, after.draft = some (location, content) →
      now.node? location = none ∨ ∃ before, held.draft = some (location, before))
    (link : after.link = held.link) (path : after.path = held.path) :
    DiskStep origin places held after now later where
  own
  others _ known apart := mine.spares listed ground absent plain elsewhere known apart
  drafts
  link
  path

/-- Making a directory on the way to the load's own place. -/
theorem DiskStep.makeDirectory (known : held.OnDisk origin places now)
    (listed : origin.place held.path ∈ places) (free : now.node? location = none)
    (above : location <+: origin.place held.path) (apart : location ≠ origin.place held.path) :
    DiskStep origin places held held now (now.put location .directory) := by
  have below : location ≠ [] := by
    rintro rfl
    cases free
  have absent := known.shared.absent free
  have made := now.node?_put_self below .directory
  have elsewhere := fun other apart =>
    now.node?_put_of_ne (apart : other ≠ location) .directory
  have plain : now.node? location ≠ some .directory := by
    rw [free]
    intro impossible
    cases impossible
  have ground : (now.put location .directory).ground = now.ground := rfl
  refine .ofMine (.directory free made above apart) listed ground absent plain elsewhere ?_
    (fun _ content mine => .inr ⟨content, mine⟩) rfl rfl
  apply known.change ground absent plain elsewhere
  · intro node there
    rw [made] at there
    cases there
    exact .inr (.inl ⟨rfl, _, listed, above, apart⟩)
  · intro content draft
    obtain ⟨_, _, file⟩ := known.draft location content draft
    rw [free] at file
    cases file
  · intro same
    exact absurd same apart

/-! ### Files -/

theorem DiskStep.andSame {last : Disk} (stepped : DiskStep origin places held after now later)
    (ground : last.ground = later.ground)
    (same : ∀ location, last.node? location = later.node? location) :
    DiskStep origin places held after now last :=
  ⟨stepped.own.ofSame ground same, fun others known apart =>
    (stepped.others others known apart).ofSame ground same, stepped.drafts, stepped.link,
    stepped.path⟩

theorem DiskStep.apart (stepped : DiskStep origin places held after now later)
    (known : others.OnDisk origin places now) (apart : held.Apart origin others) :
    after.Apart origin others := by
  refine ⟨?_, ?_, ?_⟩
  · rw [stepped.path]
    exact apart.places
  · intro location content before mine draft
    obtain ⟨_, _, file⟩ := known.draft location before draft
    rcases stepped.drafts location content mine with free | ⟨earlier, own⟩
    · rw [free] at file
      cases file
    · exact apart.drafts location earlier before own draft
  · rw [stepped.link]
    exact apart.links

/-- A step after which the load has no temporary file. -/
theorem DiskStep.andThen {middle : Disk} {between : Holding}
    (first : DiskStep origin places held between now middle)
    (second : DiskStep origin places between after middle later) (closed : after.draft = none) :
    DiskStep origin places held after now later where
  own := second.own
  others others known apart :=
    second.others others (first.others others known apart) (first.apart known apart)
  drafts := by
    intro location content draft
    rw [closed] at draft
    cases draft
  link := second.link.trans first.link
  path := second.path.trans first.path

theorem Holding.OnDisk.dropDraft (known : held.OnDisk origin places now) :
    { held with draft := none }.OnDisk origin places now := by
  refine ⟨known.shared, known.opened, ?_, known.own, known.placed⟩
  intro location content impossible
  cases impossible

/-- Changing what is under a temporary name, in a place that is free or the load's own. -/
theorem DiskStep.temporary (known : held.OnDisk origin places now)
    (listed : origin.place held.path ∈ places) (drawn : location.IsDrawn origin.naming)
    (absent : origin.node? location = none)
    (own : now.node? location = none ∨ ∃ content, held.draft = some (location, content))
    (ground : later.ground = now.ground)
    (elsewhere : ∀ other, other ≠ location → later.node? other = now.node? other) :
    DiskStep origin places held { held with draft := none } now later := by
  have plain : now.node? location ≠ some .directory := by
    intro directory
    rcases own with free | ⟨content, draft⟩
    · rw [free] at directory
      cases directory
    · rw [(known.draft location content draft).2.2] at directory
      cases directory
  refine .ofMine (.temporary drawn own) listed ground absent plain elsewhere ?_ ?_ rfl rfl
  · apply known.dropDraft.change ground absent plain elsewhere
    · exact fun _ _ => .inl drawn
    · intro content impossible
      cases impossible
    · exact fun _ => drawn
  · intro location content impossible
    cases impossible

theorem DiskStep.erase {content : Bytes} (known : held.OnDisk origin places now)
    (listed : origin.place held.path ∈ places) (draft : held.draft = some (location, content)) :
    DiskStep origin places held { held with draft := none } now (now.erase location) := by
  obtain ⟨drawn, absent, _⟩ := known.draft location content draft
  have ground : (now.erase location).ground = now.ground := rfl
  exact .temporary known listed drawn absent (.inr ⟨content, draft⟩) ground
    fun other apart => now.node?_erase_of_ne apart

/-- Writing a temporary file. -/
theorem DiskStep.write (known : held.OnDisk origin places now)
    (listed : origin.place held.path ∈ places) (drawn : location.IsDrawn origin.naming)
    (absent : origin.node? location = none)
    (own : now.node? location = none ∨ ∃ content, held.draft = some (location, content))
    (content : Bytes) :
    DiskStep origin places held { held with draft := some (location, content) } now
      (now.put location (.file content)) := by
  have ground : (now.put location (.file content)).ground = now.ground := rfl
  have below : location ≠ [] := by
    rintro rfl
    obtain ⟨_, _, impossible⟩ := drawn
    cases impossible
  obtain ⟨mine, others, _, link, path⟩ := DiskStep.temporary known listed drawn absent own ground
    fun other apart => now.node?_put_of_ne apart (.file content)
  refine ⟨⟨mine.shared, mine.opened, ?_, mine.own, mine.placed⟩, others, ?_, link, path⟩
  · intro other bytes same
    cases same
    exact ⟨drawn, absent, now.node?_put_self below _⟩
  · intro other bytes same
    cases same
    exact own

/-- Putting a file at the load's own place. -/
theorem DiskStep.place {content : Bytes} (known : held.OnDisk origin places now)
    (listed : origin.place held.path ∈ places) (visible : ¬(origin.place held.path).IsDrawn origin.naming)
    (absent : origin.node? (origin.place held.path) = none)
    (plain : now.node? (origin.place held.path) ≠ some .directory)
    (found : (now.put (origin.place held.path) (.file content)).stat held.path =
      .ok (.file content)) :
    DiskStep origin places held { held with placed := some content } now
      (now.put (origin.place held.path) (.file content)) := by
  have ground : (now.put (origin.place held.path) (.file content)).ground = now.ground := rfl
  have elsewhere := fun other apart =>
    now.node?_put_of_ne (apart : other ≠ origin.place held.path) (.file content)
  have kept := now.keeps_put plain (.file content)
  refine .ofMine (.place visible rfl) listed ground absent plain elsewhere ?_
    (fun _ bytes mine => .inr ⟨bytes, mine⟩) rfl rfl
  refine ⟨known.shared.change ground absent elsewhere fun _ _ => .inr (.inr listed), ?_, ?_, ?_, ?_⟩
  · intro directory opened
    exact isDirectory_kept kept (known.opened directory opened)
  · intro location bytes draft
    obtain ⟨drawn, free, file⟩ := known.draft location bytes draft
    refine ⟨drawn, free, ?_⟩
    rw [elsewhere]
    · exact file
    · rintro rfl
      exact visible drawn
  · intro impossible
    cases impossible
  · intro bytes same
    cases same
    exact ⟨visible, found⟩

/-! ### Calls -/

variable {π α β : Type} [Peer π] {config : ClientConfig} {chunks : List Chunk}
  {terms : Impartial π config chunks} {task : Nat} {turns : List Wire.Turn}

/-- Whatever the other loads do, some steps of a load are allowed and end as they should.  The turns
that lie ahead of the disk are those of this load alone. -/
def Does (terms : Impartial π config chunks) (origin : Disk) (places : List Location) (task : Nat)
    (post : α → List Wire.Turn → Holding → Prop) (steps : Steps (Host π) α)
    (turns : List Wire.Turn) (held : Holding) : Prop :=
  (steps.withOwn (fun host => host.disk.turns) Host.withTurns turns).Meets
    (rules terms origin places) task (fun result after => post result.1 result.2 after) held

theorem does_done {post : α → List Wire.Turn → Holding → Prop} {answer : α}
    (given : post answer turns held) :
    Does terms origin places task post (.done answer) turns held := given

theorem Does.bind {post : α → List Wire.Turn → Holding → Prop}
    {further : β → List Wire.Turn → Holding → Prop} {steps : Steps (Host π) α}
    {rest : α → Steps (Host π) β} (does : Does terms origin places task post steps turns held)
    (onward : ∀ answer turns held, post answer turns held →
      Does terms origin places task further (rest answer) turns held) :
    Does terms origin places task further (steps.bind rest) turns held := by
  unfold Does at does ⊢
  rw [Steps.withOwn_bind]
  exact Steps.Meets.bind does fun result held given => onward result.1 result.2 held given

theorem Does.mono {post weaker : α → List Wire.Turn → Holding → Prop} {steps : Steps (Host π) α}
    (does : Does terms origin places task post steps turns held)
    (weaken : ∀ answer turns held, post answer turns held → weaker answer turns held) :
    Does terms origin places task weaker steps turns held :=
  Steps.Meets.mono does fun result held given => weaken result.1 result.2 held given

theorem does_call {post : α → List Wire.Turn → Holding → Prop} {act : Host π → α × Host π}
    (step : ∀ host : Host π, (rules terms origin places).knows task held host →
      host.disk.turns = turns → ∃ after,
        (rules terms origin places).Allows task held after host (act host).2 ∧
          post (act host).1 (act host).2.disk.turns after) :
    Does terms origin places task post (.call act) turns held := by
  intro host known
  obtain ⟨after, allowed, given⟩ := step (host.withTurns turns)
    ⟨known.1.withTurns turns, known.2⟩ rfl
  refine ⟨after, ⟨⟨allowed.own.1.withTurns _, allowed.own.2⟩, ?_⟩, given⟩
  intro other others distinct knows apart
  obtain ⟨later, still⟩ :=
    allowed.others other others distinct ⟨knows.1.withTurns turns, knows.2⟩ apart
  exact ⟨⟨later.1.withTurns _, later.2⟩, still⟩

theorem does_onDisk {post : α → List Wire.Turn → Holding → Prop} {act : Disk → α × Disk}
    (step : ∀ disk, held.OnDisk origin places disk → disk.turns = turns → ∃ after,
      DiskStep origin places held after disk (act disk).2 ∧
        post (act disk).1 (act disk).2.turns after) :
    Does terms origin places task post (onDisk act) turns held := by
  apply does_call
  intro host known turns
  obtain ⟨after, stepped, given⟩ := step host.disk known.1 turns
  refine ⟨after, ⟨⟨stepped.own, ?_⟩, ?_⟩, given⟩
  · refine ⟨known.2.ready, ?_, ?_⟩
    · rw [stepped.link]
      exact known.2.link
    · rw [stepped.link]
      exact known.2.fresh
  · intro other others _ knows apart
    exact ⟨⟨stepped.others others knows.1 apart, knows.2⟩, stepped.apart knows.1 apart⟩

/-- A step that changes neither the disk nor the network, whatever it looks at. -/
theorem does_look {post : α → List Wire.Turn → Holding → Prop} {act : Host π → α × Host π}
    (step : ∀ host : Host π, held.OnDisk origin places host.disk → host.disk.turns = turns →
      (act host).2.disk = host.disk ∧ (act host).2.client.network = host.client.network ∧
        post (act host).1 turns held) :
    Does terms origin places task post (.call act) turns held := by
  apply does_call
  intro host known same
  obtain ⟨disk, network, given⟩ := step host known.1 same
  refine ⟨held, ⟨?_, ?_⟩, by rw [disk, same]; exact given⟩
  · change _ ∧ _
    rw [disk, network]
    exact known
  · intro other others _ knows apart
    refine ⟨?_, apart⟩
    change _ ∧ _
    rw [disk, network]
    exact knows

/-- A step on one connection, which is its own or made last. -/
theorem does_onConnection {post : α → List Wire.Turn → Holding → Prop} {act : Host π → α × Host π}
    (step : ∀ host : Host π, held.OnDisk origin places host.disk →
      held.OnNetwork terms host.client.network → ∃ connection link,
        (act host).2.disk = host.disk ∧
        host.client.network.Aside terms connection (act host).2.client.network ∧
        (connection = host.client.network.lines.length ∨
          ∃ before, held.link = some before ∧ before.connection = connection) ∧
        (∀ made, link = some made → made.connection = connection ∧
          (act host).2.client.network.openLine? connection = some made.line ∧
            (made.isFresh = true → terms.awaits connection (act host).2.client.network.peer)) ∧
        post (act host).1 turns { held with link }) :
    Does terms origin places task post (.call act) turns held := by
  apply does_call
  intro host known same
  obtain ⟨connection, link, disk, aside, own, made, given⟩ := step host known.1 known.2
  have foreign (others : Holding) (knows : others.OnNetwork terms host.client.network)
      (apart : held.Apart origin others) (other : Link) (there : others.link = some other) :
      other.connection ≠ connection := by
    rcases own with rfl | ⟨before, mine, rfl⟩
    · have found := (Network.openLine?_eq_some_iff.mp (knows.link other there)).1
      obtain ⟨inside, _⟩ := List.getElem?_eq_some_iff.mp found
      exact Nat.ne_of_lt inside
    · exact Ne.symm (apart.links before other mine there)
  refine ⟨{ held with link }, ⟨?_, ?_⟩, by rw [disk, same]; exact given⟩
  · change _ ∧ _
    rw [disk]
    refine ⟨⟨known.1.shared, known.1.opened, known.1.draft, known.1.own, known.1.placed⟩,
      aside.ready, ?_, ?_⟩
    · intro mine there
      obtain ⟨rfl, found, _⟩ := made mine there
      exact found
    · intro mine there fresh
      obtain ⟨rfl, _, awaits⟩ := made mine there
      exact awaits fresh
  · intro other others _ knows apart
    have away := foreign others knows.2 apart
    refine ⟨?_, apart.places, apart.drafts, ?_⟩
    · change _ ∧ _
      rw [disk]
      refine ⟨knows.1, aside.ready, ?_, ?_⟩
      · intro theirs there
        exact aside.lines _ _ (away theirs there) (knows.2.link theirs there)
      · intro theirs there fresh
        exact aside.awaits _ (away theirs there) (knows.2.fresh theirs there fresh)
    · intro mine theirs mineThere theirsThere
      rw [(made mine mineThere).1]
      exact Ne.symm (away theirs theirsThere)

end Load

end SegmentOffload
