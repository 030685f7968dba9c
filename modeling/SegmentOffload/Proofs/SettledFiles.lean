import SegmentOffload.Proofs.LoadHoldings

/-!
What the calls of a load on the disk come to among others.

Whether the directory of a file can be made, and where the file will be, is settled by the disk as it
was at the start; whether a call fails besides, by the turns that lie ahead of the load.  So each
call, or the few that make a directory and those above it, comes to the same whoever else is at work.
-/

namespace SegmentOffload

open Disk (SharedBy ClearOf OpenedFor IsSettled)
open Host (onDisk onClient onNetwork)
open SegmentOffload.Path (LeadsTo IsTrimmed)

namespace Load

variable {π α : Type} [Peer π] {config : ClientConfig} {chunks : List Chunk}
  {terms : Impartial π config chunks} {origin disk : Disk} {places : List Location}
  {path directory socket : String} {held : Holding} {task : Nat} {turns : List Wire.Turn}

/-! ### Directories -/

/-- How a call goes by the turns that lie ahead, and which are left. -/
def called : List Wire.Turn → Except IoError Unit × List Wire.Turn
  | [] => (.ok (), [])
  | .fail error :: turns => (.error error, turns)
  | _ :: turns => (.ok (), turns)

theorem call_eq (disk : Disk) :
    disk.call = ((called disk.turns).1, { disk with turns := (called disk.turns).2 }) := by
  obtain ⟨nodes, turns, working, naming, drawn⟩ := disk
  cases turns with
  | nil => rfl
  | cons turn rest =>
    cases turn with
    | _ => rfl

theorem does_diskCall : Does terms origin places task
    (fun outcome left after => outcome = (called turns).1 ∧ left = (called turns).2 ∧ after = held)
    (onDisk (π := π) Disk.call) turns held := by
  apply does_onDisk
  rintro disk known rfl
  rw [call_eq]
  exact ⟨held, DiskStep.ofSame known rfl (fun _ => rfl), rfl, rfl, rfl⟩

/-- A directory is there, because a load has seen it or because it is the root. -/
def Holding.Opens (held : Holding) (directory : String) : Prop :=
  held.opened = some directory ∨ directory = "/"

theorem Holding.OnDisk.isDirectory (known : held.OnDisk origin places disk)
    (opens : held.Opens directory) : disk.isDirectory directory = true := by
  rcases opens with opened | rfl
  · exact known.opened directory opened
  · exact disk.isDirectory_root

/-- What one attempt at a directory comes to. -/
inductive Tried (origin : Disk) (directory : String) (held : Holding) :
    Except IoError Unit → Holding → Prop where
  | missing (free : Disk.holdsNul directory = false)
      (missing : origin.follow directory = .error .notFound) :
      Tried origin directory held (.error .notFound) held
  | opened {outcome : Except IoError Unit} (found : outcome ≠ .error .notFound)
      (open' : origin.opening directory = .ok ()) :
      Tried origin directory held outcome { held with opened := some directory }
  | refused {error : IoError} (found : error ≠ .notFound)
      (closed : origin.opening directory = .error error) :
      Tried origin directory held (.error error) held

theorem Tried.holding {opened : Option String} {outcome : Except IoError Unit} {after : Holding}
    (tried : Tried origin directory { held with opened } outcome after) :
    ∃ opened, after = { held with opened } := by
  cases tried with
  | missing free missing => exact ⟨opened, rfl⟩
  | opened found open' => exact ⟨some directory, rfl⟩
  | refused found closed => exact ⟨opened, rfl⟩

theorem Setting.clearOf (setting : Setting origin socket path places)
    (way : LeadsTo directory path ∨ directory = ".") : ClearOf places origin directory := by
  rcases way with leads | rfl
  · exact setting.climbs.clearOf_above setting.sound setting.undrawn leads setting.apart
  · exact Disk.clearOf_current setting.sound

theorem does_makeDirectory (setting : Setting origin socket held.path places)
    (way : LeadsTo directory held.path ∨ directory = ".") (named : directory.isEmpty = false) :
    Does terms origin places task
      (fun outcome left after => left = turns ∧ Tried origin directory held outcome after ∧
        (outcome = .error .notFound → ∃ disk, held.OnDisk origin places disk ∧
          disk.follow directory = .error .notFound))
      (onDisk (π := π) fun disk => disk.makeDirectory directory) turns held := by
  have sound := setting.sound
  have clear := setting.clearOf way
  apply does_onDisk
  rintro disk known rfl
  cases made : disk.makeDirectory directory with
  | mk outcome later =>
    rcases known.shared.makeDirectory_cases sound clear named made with
      ⟨rfl, rfl, free, missing⟩ | ⟨rfl, opened, free, rfl, there⟩ |
      ⟨error, found, rfl, rfl, closed | ⟨opened, there⟩⟩
    · refine ⟨held, DiskStep.ofSame known rfl (fun _ => rfl), rfl, .missing free missing, ?_⟩
      intro _
      exact ⟨later, known, Disk.follow_of_missing made⟩
    · have absent := known.shared.absent free
      have place : origin.place directory <+: origin.place held.path ∧
          origin.place directory ≠ origin.place held.path := by
        rcases way with ⟨same, rest, whole, moves⟩ | rfl
        · have start : origin.start directory = origin.start held.path := Disk.start_congr same
          rw [Disk.place, start] at absent ⊢
          exact setting.climbs.above sound whole moves absent
        · have current : Path.components "." = Path.dots 1 := by decide +kernel
          rw [Disk.place, current, Disk.foldl_step_dots, sound.start] at absent
          cases absent
      refine ⟨_, (DiskStep.makeDirectory known setting.listed free place.1 place.2).opened there, rfl,
        .opened ?_ opened, ?_⟩
      · intro impossible
        cases impossible
      · intro impossible
        cases impossible
    · refine ⟨held, DiskStep.ofSame known rfl (fun _ => rfl), rfl, .refused found closed, ?_⟩
      intro impossible
      cases impossible
      exact absurd rfl found
    · refine ⟨_, (DiskStep.ofSame known rfl (fun _ => rfl)).opened there, rfl, .opened ?_ opened, ?_⟩
      · intro impossible
        cases impossible
        exact found rfl
      · intro impossible
        cases impossible
        exact absurd rfl found

/-- After an attempt that nothing was missing for, the directory is there, or it cannot be. -/
theorem does_settleStep {outcome : Except IoError Unit} {after : Holding}
    (tried : Tried origin directory held outcome after)
    (setting : Setting origin socket held.path places)
    (way : LeadsTo directory held.path ∨ directory = ".") (named : directory.isEmpty = false)
    (found : outcome ≠ .error .notFound) :
    Does terms origin places task
      (fun settled left last => left = turns ∧ last = after ∧ settled = origin.opening directory ∧
        (settled = .ok () → last = { held with opened := some directory }))
      (settleStep (π := π) directory outcome) turns after := by
  cases tried with
  | missing free missing => exact absurd rfl found
  | opened _ opened =>
    cases outcome with
    | ok nothing => exact does_done ⟨rfl, rfl, opened.symm, fun _ => rfl⟩
    | error error =>
      unfold settleStep
      apply does_onDisk
      rintro disk known rfl
      have there := known.opened directory rfl
      refine ⟨_, DiskStep.ofSame known rfl (fun _ => rfl), rfl, rfl, ?_, fun _ => rfl⟩
      rw [if_pos there, opened]
  | refused _ closed =>
    unfold settleStep
    apply does_onDisk
    rintro disk known rfl
    have absent : ¬disk.isDirectory directory = true := by
      intro there
      rw [known.shared.opening_of_isDirectory setting.sound (setting.clearOf way) named there]
        at closed
      cases closed
    refine ⟨_, DiskStep.ofSame known rfl (fun _ => rfl), rfl, rfl, ?_, ?_⟩
    · rw [if_neg absent, closed]
    · intro impossible
      rw [if_neg absent] at impossible
      cases impossible

/-- What is known once a directory and those above it were made. -/
def Opened (origin : Disk) (directory : String) (turns : List Wire.Turn) (held : Holding)
    (outcome : Except IoError Unit) (left : List Wire.Turn) (after : Holding) : Prop :=
  left = turns ∧ (∃ opened, after = { held with opened }) ∧
    (outcome = if directory.isEmpty then .ok () else origin.opening directory) ∧
    (outcome = .ok () → directory.isEmpty = false → after.Opens directory)

theorem opened_of_orphan (trimmed : IsTrimmed directory) (orphan : Path.parent? directory = none) :
    Opened origin directory turns held (.ok ()) turns held := by
  refine ⟨rfl, ⟨held.opened, rfl⟩, ?_⟩
  rcases Path.eq_of_orphan trimmed orphan with rfl | rfl
  · refine ⟨rfl, ?_⟩
    intro _ impossible
    cases impossible
  · exact ⟨origin.opening_root.symm, fun _ _ => .inr rfl⟩

/-- Where nothing is missing any more, the directory is there in the end, or it cannot be. -/
theorem does_openStep {opened : Option String} {outcome : Except IoError Unit} {after : Holding}
    (setting : Setting origin socket held.path places)
    (way : LeadsTo directory held.path ∨ directory = ".") (named : directory.isEmpty = false)
    (tried : Tried origin directory { held with opened } outcome after)
    (present : outcome ≠ .error .notFound) :
    Does terms origin places task (Opened origin directory turns held)
      (settleStep (π := π) directory outcome) turns after := by
  apply (does_settleStep tried setting way named present).mono
  rintro settled left last ⟨rfl, rfl, rfl, there⟩
  refine ⟨rfl, tried.holding, ?_, ?_⟩
  · rw [named]
    rfl
  · intro ok _
    rw [there ok]
    exact .inl rfl

/-- Making a directory and those above it comes to what it would come to alone. -/
theorem does_lineageSteps {steps : Nat} (setting : Setting origin socket held.path places)
    (fits : directory.length ≤ steps) (trimmed : IsTrimmed directory)
    (way : LeadsTo directory held.path ∨ directory = ".") :
    Does terms origin places task (Opened origin directory turns held)
      (lineageSteps (π := π) (Path.lineage steps directory)) turns held := by
  induction steps generalizing directory held with
  | zero =>
    have empty : directory = "" := by
      rw [← String.length_eq_zero_iff]
      omega
    exact does_done (opened_of_orphan trimmed (by rw [empty]; decide +kernel))
  | succ steps ih =>
    unfold Path.lineage
    split
    · rename_i parent found
      have named := Path.named_of_parent found
      unfold lineageSteps
      apply (does_makeDirectory setting way named).bind
      rintro outcome left after ⟨rfl, tried, _⟩
      cases tried with
      | missing free missing =>
        obtain ⟨_, parentTrimmed, _⟩ := Path.components_parent found
        have shorter := (Path.toList_parent found).1
        have leads : LeadsTo directory held.path := by
          rcases way with leads | rfl
          · exact leads
          · exact absurd missing setting.sound.follow_current
        refine Does.bind (ih setting (by omega) parentTrimmed (.inl (leads.parent found))) ?_
        rintro outcome left after ⟨rfl, ⟨opened, rfl⟩, same, there⟩
        cases outcome with
        | error error =>
          refine does_done ⟨rfl, ⟨opened, rfl⟩, ?_, ?_⟩
          · rw [named]
            cases bare : parent.isEmpty with
            | true =>
              rw [bare] at same
              cases same
            | false =>
              rw [bare] at same
              exact (Disk.opening_of_parent free found bare missing same.symm).symm
          · intro impossible
            cases impossible
        | ok nothing =>
          refine Does.bind (does_makeDirectory setting way named) ?_
          rintro outcome left after ⟨rfl, tried, met⟩
          apply does_openStep setting way named tried
          intro missed
          obtain ⟨disk, known, still⟩ := met missed
          have home := known.shared.there _ _ setting.sound.home
          rw [← known.shared.working] at home
          exact Disk.found_of_parent trimmed named found home
            (fun bare => known.isDirectory (there rfl bare)) still
      | opened present opened =>
        split
        · exact absurd rfl present
        · exact does_openStep setting way named (.opened present opened) present
      | refused present closed =>
        split
        · rename_i impossible
          cases impossible
          exact absurd rfl present
        · have tried : Tried origin directory held _ _ := .refused present closed
          apply does_openStep setting way named tried
          intro impossible
          cases impossible
          exact present rfl
    · rename_i orphan
      exact does_done (opened_of_orphan trimmed orphan)

/-! ### Files -/

/-- In a directory that is there, only the turns decide about a temporary file. -/
theorem does_makeTemporary (setting : Setting origin socket held.path places)
    (opens : held.Opens directory) : Does terms origin places task
      (fun outcome left after => left = (called turns).2 ∧
        match (called turns).1 with
        | .error error => outcome = .error error ∧ after = held
        | .ok () => ∃ temporary, outcome = .ok temporary ∧
            after = { held with draft := some (temporary, []) })
      (onDisk (π := π) fun disk => disk.makeTemporary directory) turns held := by
  apply does_onDisk
  rintro disk known rfl
  have taken := call_eq disk
  cases outcome : (called disk.turns).1 with
  | error error =>
    rw [outcome] at taken
    have refused : disk.makeTemporary directory =
        (.error error, { disk with turns := (called disk.turns).2 }) := by
      rw [Disk.makeTemporary, taken]
    rw [refused]
    exact ⟨held, DiskStep.ofSame known rfl fun _ => rfl, rfl, rfl, rfl⟩
  | ok nothing =>
    rw [outcome] at taken
    rw [Disk.makeTemporary_of_isDirectory (known.isDirectory opens) taken]
    have free := disk.node?_temporaryName (disk.place directory)
    have drawn := disk.isDrawn_temporaryName (disk.place directory)
    rw [known.shared.naming] at drawn
    refine ⟨_, (DiskStep.write known setting.listed drawn (known.shared.absent free) (.inl free)
      []).andSame rfl fun _ => rfl, rfl, _, rfl, rfl⟩

/-- What making the directory of a file and a temporary file in it comes to. -/
def preparing (origin : Disk) (path : String) (turns : List Wire.Turn) :
    Except Failure Unit × List Wire.Turn :=
  match called turns with
  | (.error error, turns) => (.error (.ofIo error), turns)
  | (.ok (), turns) =>
    match origin.opening (Path.directory path) with
    | .error error => (.error (.ofIo error), turns)
    | .ok () =>
      match called turns with
      | (.error error, turns) =>
        (.error ((Failure.ofIo error).remark
          ("Failed to create temp file in " ++ Path.directory path)), turns)
      | (.ok (), turns) => (.ok (), turns)

/-- What is known once a file was prepared. -/
def Prepared (verdict : Except Failure Unit × List Wire.Turn) (held : Holding)
    (outcome : Except Failure Location) (left : List Wire.Turn) (after : Holding) : Prop :=
  left = verdict.2 ∧ ∃ opened,
    match verdict.1 with
    | .error failure => outcome = .error failure ∧ after = { held with opened }
    | .ok () => ∃ temporary, outcome = .ok temporary ∧
        { held with opened }.Opens (Path.directory held.path) ∧
        after = { held with opened, draft := some (temporary, []) }

theorem does_prepareSteps (setting : Setting origin socket held.path places) :
    Does terms origin places task (Prepared (preparing origin held.path turns) held)
      (prepareSteps (π := π) held.path) turns held := by
  obtain ⟨trimmed, named⟩ := Path.isTrimmed_directory held.path
  unfold prepareSteps preparing
  apply does_diskCall.bind
  rintro outcome left after ⟨rfl, rfl, rfl⟩
  cases first : called turns with
  | mk result left =>
    cases result with
    | error error => exact does_done ⟨rfl, after.opened, rfl, rfl⟩
    | ok nothing =>
      dsimp only
      refine Does.bind (does_lineageSteps setting (Nat.le_refl _) trimmed
        (Path.leadsTo_directory after.path)) ?_
      rintro outcome rest last ⟨rfl, ⟨opened, rfl⟩, same, there⟩
      rw [named] at same
      simp only [Bool.false_eq_true, if_false] at same
      rw [← same]
      cases outcome with
      | error error => exact does_done ⟨rfl, opened, rfl, rfl⟩
      | ok nothing =>
        have opens := there rfl named
        refine Does.bind (does_makeTemporary setting opens) ?_
        rintro outcome remaining final ⟨rfl, made⟩
        cases second : called rest with
        | mk result remaining =>
          rw [second] at made
          cases result with
          | error error =>
            obtain ⟨rfl, rfl⟩ := made
            exact does_done ⟨rfl, opened, rfl, rfl⟩
          | ok nothing =>
            obtain ⟨temporary, rfl, rfl⟩ := made
            exact does_done ⟨rfl, opened, temporary, rfl, opens, rfl⟩

theorem does_append {temporary : Location} {content : Bytes}
    (draft : held.draft = some (temporary, content))
    (setting : Setting origin socket held.path places) (data : Bytes) :
    Does terms origin places task
      (fun outcome left after =>
        let written := Wire.writeAll data turns
        left = written.turns ∧ outcome = written.outcome ∧
          after = { held with draft := some (temporary, content ++ written.accepted) })
      (onDisk (π := π) fun disk => disk.append temporary data) turns held := by
  apply does_onDisk
  rintro disk known rfl
  obtain ⟨drawn, absent, file⟩ := known.draft temporary content draft
  unfold Disk.append
  rw [file]
  exact ⟨_, (DiskStep.write known setting.listed drawn absent (.inr ⟨content, draft⟩)
    _).andSame rfl fun _ => rfl, rfl, rfl, rfl⟩

theorem does_erase {temporary : Location} {content : Bytes}
    (draft : held.draft = some (temporary, content))
    (setting : Setting origin socket held.path places) :
    Does terms origin places task
      (fun _ left after => left = turns ∧ after = { held with draft := none })
      (onDisk (π := π) fun disk => ((), disk.erase temporary)) turns held := by
  apply does_onDisk
  rintro disk known rfl
  exact ⟨_, DiskStep.erase known setting.listed draft, rfl, rfl⟩

/-- What giving a file its name comes to, by where it would be. -/
def naming (turns : List Wire.Turn) (destination : Except IoError Location) :
    Except IoError Location :=
  match (called turns).1 with
  | .error error => .error error
  | .ok () => destination

/-- A path that named nothing at the start names nothing that a rename could replace. -/
theorem absent_of_destination {location : Location} (known : held.OnDisk origin places disk)
    (setting : Setting origin socket held.path places) (placed : held.placed = none)
    (absent : origin.isPresent held.path = false)
    (found : disk.destination held.path = .ok location) :
    location = origin.place held.path ∧ origin.node? (origin.place held.path) = none ∧
      ¬(origin.place held.path).IsDrawn origin.naming := by
  obtain ⟨free, slash, followed, plain⟩ := Disk.destination_eq_ok found
  have place := Disk.follow_eq_ok followed
  rw [known.shared.toAdds.place] at place
  rw [place] at followed plain
  have none : origin.node? (origin.place held.path) = none := by
    cases there : origin.node? (origin.place held.path) with
    | none => rfl
    | some node =>
      have now : disk.stat held.path = .ok node :=
        Disk.stat_eq_ok_iff.mpr
          ⟨free, fun _ => slash, _, followed, known.shared.there _ node there⟩
      rw [known.shared.stat_iff setting.sound setting.climbs setting.undrawn (known.own placed)]
        at now
      rw [Disk.isPresent, now] at absent
      cases absent
  exact ⟨place, none, setting.undrawn.place none⟩

/-- A file takes its place, or the load still has it under its temporary name. -/
theorem does_persist {temporary : Location} {content : Bytes}
    {destination : Except IoError Location} (setting : Setting origin socket held.path places)
    (settled : ∀ disk, OpenedFor origin held.path disk → disk.destination held.path = destination)
    (draft : held.draft = some (temporary, content)) (placed : held.placed = none)
    (opens : held.Opens (Path.directory held.path))
    (absent : origin.isPresent held.path = false) :
    Does terms origin places task
      (fun outcome left after => left = (called turns).2 ∧
        match naming turns destination with
        | .error error => outcome = .error error ∧ after = held
        | .ok _ => outcome = .ok () ∧
            after = { held with draft := none, placed := some content })
      (onDisk (π := π) fun disk => disk.persist temporary held.path) turns held := by
  apply does_onDisk
  rintro disk known rfl
  have same := call_eq disk
  let ready : Disk := { disk with turns := (called disk.turns).2 }
  have still : DiskStep origin places held held disk ready :=
    DiskStep.ofSame known rfl fun _ => rfl
  have there := settled ready
    ⟨still.own.shared.toAdds, still.own.isDirectory opens, still.own.own placed⟩
  obtain ⟨_, _, file⟩ := still.own.draft temporary content draft
  unfold Disk.persist naming
  rw [same]
  cases (called disk.turns).1 with
  | error error => exact ⟨held, still, rfl, rfl, rfl⟩
  | ok nothing =>
    dsimp only
    rw [there]
    cases result : destination with
    | error error => exact ⟨held, still, rfl, rfl, rfl⟩
    | ok location =>
      rw [result] at there
      obtain ⟨here, none, visible⟩ := absent_of_destination still.own setting placed absent there
      obtain ⟨free, slash, followed, plain⟩ := Disk.destination_eq_ok there
      rw [here] at followed plain ⊢
      dsimp only
      rw [file]
      have erased := DiskStep.erase still.own setting.listed draft
      have plainly : (ready.erase temporary).node? (origin.place held.path) ≠ some .directory :=
        Disk.noDirectory_erase plain
      have found : ((ready.erase temporary).put (origin.place held.path) (.file content)).stat
          held.path = .ok (.file content) := by
        rw [Disk.stat_eq_file_iff]
        refine ⟨free, slash, origin.place held.path, ?_, ?_⟩
        · exact (Disk.keeps_put _ plainly _).follow ((Disk.keeps_erase file).follow followed)
        · exact Disk.node?_put_self _ (Disk.ne_nil_of_not_directory plain) _
      have named := erased.andThen
        (DiskStep.place erased.own setting.listed visible none plainly found) rfl
      exact ⟨_, still.andThen named rfl, rfl, rfl, rfl⟩

end Load

end SegmentOffload
