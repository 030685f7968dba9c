import SegmentOffload.Proofs.LoadOutcomes
import SegmentOffload.Proofs.SettledFiles
import SegmentOffload.Proofs.SettledPulls

/-!
What a load comes to among others.

The bytes that arrive, the calls on the disk and the place of the file are settled one by one, so the
load as a whole is: its outcome and what it puts at its path are the same whoever else is at work,
and the same as when nobody is.
-/

namespace SegmentOffload

open Disk (OpenedFor)
open Host (onDisk)

/-! ### Plans -/

theorem ReadPlan.mem_of_collapse {last : Option Chunk} {rows : List Chunk} {plan : ReadPlan}
    {chunk : Chunk} (collapsed : (collapse last rows).outcome = .ok plan)
    (listed : chunk ∈ plan.chunks) : chunk ∈ rows := by
  induction rows generalizing last plan with
  | nil =>
    cases collapsed
    cases listed
  | cons row rest ih =>
    unfold collapse at collapsed
    split at collapsed
    · rename_i kept _
      split at collapsed
      · dsimp only at collapsed
        cases later : (collapse (some kept) rest).outcome with
        | error error =>
          rw [later] at collapsed
          cases collapsed
        | ok smaller =>
          rw [later] at collapsed
          cases collapsed
          exact List.mem_cons_of_mem _ (ih later listed)
      · cases collapsed
    · dsimp only at collapsed
      cases later : (collapse (some row) rest).outcome with
      | error error =>
        rw [later] at collapsed
        cases collapsed
      | ok smaller =>
        rw [later] at collapsed
        cases collapsed
        rcases List.mem_cons.mp listed with rfl | behind
        · exact List.mem_cons_self
        · exact List.mem_cons_of_mem _ (ih later behind)

/-- The chunks of a segment that a peer is asked for: the empty ones never are. -/
def ChunkCatalog.asked {γ : Type} [ChunkCatalog γ] (catalog : γ) (segment : Segment) : List Chunk :=
  match fetch catalog segment with
  | .error _ => []
  | .ok rows => rows.filter fun chunk => !chunk.isEmpty

theorem ChunkCatalog.mem_asked_of_plan {γ : Type} [ChunkCatalog γ] {catalog : γ}
    {segment : Segment} {rows : List Chunk} {plan : ReadPlan} {chunk : Chunk}
    (fetched : fetch catalog segment = .ok rows)
    (resolved : (ReadPlan.resolve rows).outcome = .ok plan) (listed : chunk ∈ plan.chunks) :
    chunk ∈ asked catalog segment := by
  have sorted := ReadPlan.mem_of_collapse resolved listed
  rw [List.mem_mergeSort] at sorted
  rw [asked, fetched]
  exact sorted

namespace Load

variable {π γ : Type} [Peer π] [ChunkCatalog γ] {config : ClientConfig} {chunks : List Chunk}
  {terms : Impartial π config chunks} {origin : Disk} {places : List Location}
  {path : String} {held : Holding} {task connection : Nat} {turns : List Wire.Turn}
  {download : Download} {line? : Option Line} {temporary : Location} {content : Bytes}

/-! ### Copying -/

/-- Copying moves the same bytes into the temporary file, and ends in the same way. -/
theorem copySteps_settled (terms : Impartial π config chunks) (sound : origin.IsSound)
    (capacity pulls moved : Nat) (content : Bytes) (turns : List Wire.Turn)
    (stands : Stands config chunks download line?) :
    ∃ outcome next left? written rest, Stands config chunks next left? ∧
      (turns = [] → rest = []) ∧
      ∀ {places : List Location} {task connection : Nat} {held : Holding} {temporary : Location},
        Setting origin config.socketPath held.path places →
        held.link = linkOver connection line? → held.draft = some (temporary, content) →
        Does terms origin places task
          (fun answer left after => left = rest ∧ ∃ number,
            answer = (outcome, next.through number) ∧
            after = { held with
              link := linkOver number left?
              draft := some (temporary, written) })
          (copySteps capacity temporary pulls (download.through connection) moved) turns held := by
  induction pulls generalizing moved content turns download line? with
  | zero =>
    refine ⟨.error .emptyBuffer, download, line?, content, turns, stands, id, ?_⟩
    intro places task connection held temporary setting link draft
    refine does_done ⟨rfl, connection, rfl, ?_⟩
    rw [← link, ← draft]
  | succ pulls ih =>
    unfold copySteps
    obtain ⟨outcome, next, left?, stood, pulled⟩ :=
      pullSteps_settled terms sound capacity stands
    cases outcome with
    | error error =>
      refine ⟨.error (.source error), next, left?, content, turns, stood, id, ?_⟩
      intro places task connection held temporary setting link draft
      apply (pulled setting.settled link).bind
      rintro answer left after ⟨rfl, number, rfl, rfl⟩
      refine does_done ⟨rfl, number, rfl, ?_⟩
      rw [← draft]
    | ok given =>
      cases given with
      | endOfStream =>
        refine ⟨.ok moved, next, left?, content, turns, stood, id, ?_⟩
        intro places task connection held temporary setting link draft
        apply (pulled setting.settled link).bind
        rintro answer left after ⟨rfl, number, rfl, rfl⟩
        refine does_done ⟨rfl, number, rfl, ?_⟩
        rw [← draft]
      | bytes data =>
        have freely : turns = [] → (Wire.writeAll data turns).turns = [] := by
          rintro rfl
          rw [Wire.writeAll_nil]
        cases wrote : (Wire.writeAll data turns).outcome with
        | error error =>
          refine ⟨.error (.sink error), next, left?,
            content ++ (Wire.writeAll data turns).accepted, (Wire.writeAll data turns).turns, stood,
            freely, ?_⟩
          intro places task connection held temporary setting link draft
          apply (pulled setting.settled link).bind
          rintro answer left after ⟨rfl, number, rfl, rfl⟩
          have stays : { held with link := linkOver number left? }.draft =
            some (temporary, content) := draft
          apply (does_append stays setting data).bind
          rintro answer rest after ⟨rfl, rfl, rfl⟩
          rw [wrote]
          exact does_done ⟨rfl, number, rfl, rfl⟩
        | ok nothing =>
          obtain ⟨outcome, last, rest?, written, rest, ended, none, onward⟩ :=
            ih (moved + data.length) (content ++ (Wire.writeAll data turns).accepted)
              (Wire.writeAll data turns).turns stood
          refine ⟨outcome, last, rest?, written, rest, ended, none ∘ freely, ?_⟩
          intro places task connection held temporary setting link draft
          apply (pulled setting.settled link).bind
          rintro answer left after ⟨rfl, number, rfl, rfl⟩
          have stays : { held with link := linkOver number left? }.draft =
            some (temporary, content) := draft
          apply (does_append stays setting data).bind
          rintro answer rest after ⟨rfl, rfl, rfl⟩
          rw [wrote]
          let filled : Holding :=
            { held with
              link := linkOver number left?
              draft := some (temporary, content ++ (Wire.writeAll data left).accepted) }
          exact @onward places task number filled temporary setting rfl rfl

/-! ### The end -/

/-- What a load came to, but for where the file is that a failure keeps. -/
def nameless : Except Failure LoadOutcome → Except Failure LoadOutcome
  | .error (.failed remarks (.persist error _)) => .error (.failed remarks (.persist error []))
  | outcome => outcome

theorem nameless_of_free {failure : Failure} (free : failure.kept? = none) :
    nameless (.error failure) = .error failure := by
  unfold nameless
  split
  · rename_i same
    cases same
    cases free
  · rfl

/-- What a load comes to. -/
structure Verdict where
  outcome : Except Failure LoadOutcome
  /-- What it has put at its path. -/
  placed : Option Bytes
  /-- The turns that it has left. -/
  turns : List Wire.Turn

/-- A load has come to what it should, and holds no file but the one that its failure keeps. -/
structure Verdict.Comes (verdict : Verdict) (path : String) (answer : Except Failure LoadOutcome)
    (left : List Wire.Turn) (after : Holding) : Prop where
  outcome : nameless answer = verdict.outcome
  kept : keptBy answer = after.draft.map Prod.fst
  left : left = verdict.turns
  placed : after.placed = verdict.placed
  path : after.path = path

theorem Verdict.comes_of_free {failure : Failure} {placed : Option Bytes}
    (free : failure.kept? = none) (draft : held.draft = none) (nothing : held.placed = placed)
    (name : held.path = path) :
    Verdict.Comes ⟨.error failure, placed, turns⟩ path (.error failure) turns held where
  outcome := nameless_of_free free
  kept := by
    rw [draft]
    exact free
  left := rfl
  placed := nothing
  path := name

theorem does_discardSteps {failure : Failure} (free : failure.kept? = none)
    (draft : held.draft = some (temporary, content))
    (setting : Setting origin config.socketPath held.path places) :
    Does terms origin places task (Verdict.Comes ⟨.error failure, held.placed, turns⟩ held.path)
      (discardSteps (π := π) temporary failure) turns held := by
  apply (does_erase draft setting).bind
  rintro _ left after ⟨rfl, rfl⟩
  exact does_done (Verdict.comes_of_free free rfl rfl rfl)

/-- What follows once so many bytes were copied, by where the file would be. -/
def publishing (segment : Segment) (path : String) (plan : ReadPlan) (promised : UInt64)
    (destination : Except IoError Location) (moved : Nat) (content : Bytes)
    (turns : List Wire.Turn) : Verdict :=
  if moved ≠ promised.toNat then
    ⟨.error (.stated s!"loaded {moved} bytes for {segment.label}, read plan promised {promised}"),
      none, turns⟩
  else
    match called turns with
    | (.error error, turns) => ⟨.error (.ofIo error), none, turns⟩
    | (.ok (), turns) =>
      match naming turns destination with
      | .error error =>
        ⟨.error (.failed ["Failed to move loaded segment to " ++ path] (.persist error [])), none,
          (called turns).2⟩
      | .ok _ =>
        ⟨.ok (.loaded moved plan.chunks.length plan.duplicates.length), some content,
          (called turns).2⟩

theorem does_publishSteps {destination : Except IoError Location}
    (draft : held.draft = some (temporary, content))
    (setting : Setting origin config.socketPath held.path places)
    (settled : ∀ disk, OpenedFor origin held.path disk → disk.destination held.path = destination)
    (placed : held.placed = none) (opens : held.Opens (Path.directory held.path))
    (absent : origin.isPresent held.path = false) (segment : Segment) (plan : ReadPlan)
    (promised : UInt64) (moved : Nat) :
    Does terms origin places task
      (Verdict.Comes (publishing segment held.path plan promised destination moved content turns)
        held.path)
      (publishSteps (π := π) segment held.path temporary plan promised moved) turns held := by
  unfold publishSteps publishing
  split
  · rw [← placed]
    exact does_discardSteps rfl draft setting
  · apply does_diskCall.bind
    rintro synced left after ⟨rfl, rfl, rfl⟩
    cases first : called turns with
    | mk synced left =>
      cases synced with
      | error error =>
        rw [← placed]
        exact does_discardSteps rfl draft setting
      | ok nothing =>
        dsimp only
        apply (does_persist setting settled draft placed opens absent).bind
        rintro named rest last ⟨rfl, met⟩
        cases found : naming left destination with
        | error error =>
          rw [found] at met
          obtain ⟨rfl, rfl⟩ := met
          refine does_done ⟨rfl, ?_, rfl, placed, rfl⟩
          rw [draft]
          rfl
        | ok location =>
          rw [found] at met
          obtain ⟨rfl, rfl⟩ := met
          exact does_done ⟨rfl, rfl, rfl, rfl, rfl⟩

/-- What follows once copying has come to an end. -/
def finishing (segment : Segment) (path : String) (plan : ReadPlan) (promised : UInt64)
    (destination : Except IoError Location) (ended : Except TransferError Nat) (content : Bytes)
    (turns : List Wire.Turn) : Verdict :=
  match ended with
  | .error error =>
    ⟨.error (error.toFailure.remark ("Failed to load " ++ segment.label)), none, turns⟩
  | .ok moved => publishing segment path plan promised destination moved content turns

theorem does_finishSteps {destination : Except IoError Location}
    (draft : held.draft = some (temporary, content)) (link : held.link = linkOver connection line?)
    (stands : Stands config chunks download line?)
    (setting : Setting origin config.socketPath held.path places)
    (settled : ∀ disk, OpenedFor origin held.path disk → disk.destination held.path = destination)
    (placed : held.placed = none) (opens : held.Opens (Path.directory held.path))
    (absent : origin.isPresent held.path = false) (segment : Segment) (plan : ReadPlan)
    (promised : UInt64) (ended : Except TransferError Nat) :
    Does terms origin places task
      (Verdict.Comes (finishing segment held.path plan promised destination ended content turns)
        held.path)
      (finishSteps (π := π) segment held.path temporary plan promised
        (ended, download.through connection)) turns held := by
  unfold finishSteps finishing
  apply (does_hangUpStep stands link).bind
  rintro _ left after ⟨rfl, rfl⟩
  let hung : Holding := { held with link := none }
  have kept : hung.draft = some (temporary, content) := draft
  cases ended with
  | error error =>
    have nothing : hung.placed = none := placed
    rw [← nothing]
    exact does_discardSteps (kept?_toFailure error _) kept setting
  | ok moved =>
    exact does_publishSteps kept setting settled placed opens absent segment plan promised moved

/-! ### Loading -/

theorem freely_publishing {segment : Segment} {plan : ReadPlan} {promised : UInt64}
    {destination : Except IoError Location} {moved : Nat} :
    (publishing segment path plan promised destination moved content []).turns = [] := by
  unfold publishing
  split
  · rfl
  · dsimp only [called]
    split
    · rfl
    · rfl

theorem freely_finishing {segment : Segment} {plan : ReadPlan} {promised : UInt64}
    {destination : Except IoError Location} {ended : Except TransferError Nat} :
    (finishing segment path plan promised destination ended content []).turns = [] := by
  unfold finishing
  split
  · rfl
  · exact freely_publishing

theorem freely_preparing : (preparing origin path []).2 = [] := by
  unfold preparing
  dsimp only [called]
  split
  · rfl
  · rfl

theorem kept?_preparing {failure : Failure}
    (failed : (preparing origin path turns).1 = .error failure) : failure.kept? = none := by
  unfold preparing at failed
  split at failed
  · cases failed
    rfl
  · split at failed
    · cases failed
      rfl
    · split at failed
      · cases failed
        rfl
      · cases failed

omit [Peer π] in
/-- The plan is the same on every host. -/
theorem plan_settled (π : Type) (catalog : γ) (segment : Segment) :
    ∃ planned, (∀ host : Host π, (plan catalog segment host).1 = planned) ∧
      match planned with
      | .error failure => failure.kept? = none
      | .ok (readPlan, _) => ∀ chunk ∈ readPlan.chunks, chunk ∈ ChunkCatalog.asked catalog segment := by
  unfold plan
  cases fetched : ChunkCatalog.fetch catalog segment with
  | error error => exact ⟨_, fun _ => rfl, rfl⟩
  | ok rows =>
    unfold planOf
    dsimp only
    cases resolved : (ReadPlan.resolve rows).outcome with
    | error error => exact ⟨_, fun _ => rfl, rfl⟩
    | ok readPlan =>
      dsimp only
      cases gaps segment readPlan with
      | mk outcome journal =>
        cases outcome with
        | error overflow => exact ⟨_, fun _ => rfl, rfl⟩
        | ok nothing =>
          dsimp only
          cases readPlan.totalBytes with
          | error overflow => exact ⟨_, fun _ => rfl, rfl⟩
          | ok total =>
            exact ⟨_, fun _ => rfl, fun _ => ChunkCatalog.mem_asked_of_plan fetched resolved⟩

theorem does_plan {catalog : γ} {segment : Segment}
    {planned : Except Failure (ReadPlan × UInt64)}
    (settled : ∀ host : Host π, (plan catalog segment host).1 = planned) :
    Does terms origin places task
      (fun answer left after => left = turns ∧ answer = planned ∧ after = held)
      (.call (plan catalog segment)) turns held := by
  apply does_look
  intro host _ _
  obtain ⟨disk, network, _⟩ := plan_cases (rfl : plan catalog segment host = (_, _))
  exact ⟨disk, network, rfl, settled host, rfl⟩

theorem stands_ofPlan {plan : ReadPlan} (listed : ∀ chunk ∈ plan.chunks, chunk ∈ chunks) :
    Stands config chunks (Download.ofPlan config plan) none := by
  refine ⟨rfl, ?_, ?_⟩
  · intro chunk kept
    exact listed chunk (List.mem_of_mem_filter kept)
  · simp [Download.ofPlan, Download.ofChunks]

/-- Copying what a plan says and giving the file its name comes to the same. -/
theorem copy_settled (terms : Impartial π config chunks) (sound : origin.IsSound)
    (undrawn : origin.Undrawn path) (absent : origin.isPresent path = false) (segment : Segment)
    {plan : ReadPlan} (listed : ∀ chunk ∈ plan.chunks, chunk ∈ chunks) (promised : UInt64)
    (turns : List Wire.Turn) :
    ∃ verdict : Verdict, (turns = [] → verdict.turns = []) ∧
      ∀ {places : List Location} {task : Nat} {opened : Option String} {temporary : Location},
        Setting origin config.socketPath path places →
        Holding.Opens ⟨path, opened, none, none, none⟩ (Path.directory path) →
        Does terms origin places task (verdict.Comes path)
          ((drainSteps config plan temporary).bind
            (finishSteps segment path temporary plan promised)) turns
          ⟨path, opened, some (temporary, []), none, none⟩ := by
  obtain ⟨destination, settled⟩ := Disk.exists_destination sound undrawn
  have stands : Stands config chunks (Download.ofPlan config plan) none := stands_ofPlan listed
  have resting (connection : Nat) :
      (Download.ofPlan config plan).through connection = Download.ofPlan config plan := rfl
  unfold drainSteps
  by_cases positive : 0 < config.readBufferSize.toNat
  · obtain ⟨outcome, next, left?, written, rest, stood, freely, copied⟩ :=
      copySteps_settled terms sound config.readBufferSize.toNat
        ((Download.ofPlan config plan).outstanding + 1) 0 [] turns stands
    refine ⟨finishing segment path plan promised destination outcome written rest, ?_, ?_⟩
    · intro none
      rw [freely none]
      exact freely_finishing
    · intro places task opened temporary setting opens
      simp only [if_pos positive]
      apply Does.bind (@copied places task 0
        ⟨path, opened, some (temporary, []), none, none⟩ temporary setting rfl rfl)
      rintro answer left after ⟨rfl, number, rfl, rfl⟩
      let full : Holding := ⟨path, opened, some (temporary, written), linkOver number left?, none⟩
      have draft : full.draft = some (temporary, written) := rfl
      have link : full.link = linkOver number left? := rfl
      exact does_finishSteps draft link stood setting settled rfl opens absent segment plan promised
        outcome
  · refine ⟨finishing segment path plan promised destination (.error .emptyBuffer) [] turns, ?_, ?_⟩
    · rintro rfl
      exact freely_finishing
    · intro places task opened temporary setting opens
      simp only [if_neg positive]
      let empty : Holding := ⟨path, opened, some (temporary, []), none, none⟩
      have draft : empty.draft = some (temporary, []) := rfl
      have link : empty.link = linkOver 0 none := rfl
      exact does_finishSteps draft link stands setting settled rfl opens absent segment plan promised
        (.error .emptyBuffer)

theorem does_isPresent (setting : Setting origin config.socketPath path places) :
    Does terms origin places task
      (fun answer left after =>
        left = turns ∧ answer = origin.isPresent path ∧ after = .start path)
      (onDisk (π := π) fun disk => (disk.isPresent path, disk)) turns (.start path) := by
  apply does_onDisk
  rintro disk known rfl
  have same : disk.isPresent path = origin.isPresent path := Disk.isPresent_congr fun _ =>
    known.shared.stat_iff setting.sound setting.climbs setting.undrawn (known.own rfl)
  exact ⟨.start path, DiskStep.ofSame known rfl (fun _ => rfl), rfl, same, rfl⟩

/-- Where nothing is at the path, a load goes on from its plan. -/
theorem does_begin {catalog : γ} {segment : Segment}
    {planned : Except Failure (ReadPlan × UInt64)}
    {post : Except Failure LoadOutcome → List Wire.Turn → Holding → Prop}
    {rest : Except Failure (ReadPlan × UInt64) → Steps (Host π) (Except Failure LoadOutcome)}
    (setting : Setting origin config.socketPath path places)
    (absent : origin.isPresent path = false)
    (settled : ∀ host : Host π, (plan catalog segment host).1 = planned)
    (onward : Does terms origin places task post (rest planned) turns (.start path)) :
    Does terms origin places task post
      ((onDisk fun disk => (disk.isPresent path, disk)).bind fun isPresent =>
        if isPresent then .done (.ok .alreadyPresent)
        else (Steps.call (plan catalog segment)).bind rest) turns (.start path) := by
  refine Does.bind (does_isPresent setting) ?_
  rintro answer left after ⟨rfl, rfl, rfl⟩
  rw [absent]
  refine Does.bind (does_plan settled) ?_
  rintro answer rest after ⟨rfl, rfl, rfl⟩
  exact onward

theorem does_prepare {prepared : Except Failure Unit × List Wire.Turn}
    (setting : Setting origin config.socketPath path places)
    (settled : preparing origin path turns = prepared) :
    Does terms origin places task (Prepared prepared (.start path)) (prepareSteps (π := π) path)
      turns (.start path) := by
  rw [← settled]
  exact @does_prepareSteps π _ config chunks terms origin places _ (.start path) task turns setting

/-- A load comes to the same whoever else is at work. -/
theorem load_settled {catalog : γ} (terms : Impartial π config chunks) {segment : Segment}
    (asked : ∀ chunk ∈ ChunkCatalog.asked catalog segment, chunk ∈ chunks)
    (sound : origin.IsSound) (undrawn : origin.Undrawn path) (turns : List Wire.Turn) :
    ∃ verdict : Verdict, (turns = [] → verdict.turns = []) ∧
      ∀ {places : List Location} {task : Nat}, Setting origin config.socketPath path places →
        Does terms origin places task (verdict.Comes path)
          (loadSteps config catalog segment path) turns (.start path) := by
  unfold loadSteps
  cases present : origin.isPresent path with
  | true =>
    refine ⟨⟨.ok .alreadyPresent, none, turns⟩, id, ?_⟩
    intro places task setting
    refine Does.bind (does_isPresent setting) ?_
    rintro answer left after ⟨rfl, rfl, rfl⟩
    rw [present]
    exact does_done ⟨rfl, rfl, rfl, rfl, rfl⟩
  | false =>
    obtain ⟨planned, settled, told⟩ := plan_settled π catalog segment
    cases planned with
    | error failure =>
      refine ⟨⟨.error failure, none, turns⟩, id, ?_⟩
      intro places task setting
      exact does_begin setting present settled (does_done (Verdict.comes_of_free told rfl rfl rfl))
    | ok planned =>
      obtain ⟨plan, promised⟩ := planned
      cases prepared : preparing origin path turns with
      | mk outcome left =>
        have freely : turns = [] → left = [] := by
          rintro rfl
          rw [← freely_preparing, prepared]
        cases outcome with
        | error failure =>
          have free := kept?_preparing (congrArg Prod.fst prepared)
          refine ⟨⟨.error failure, none, left⟩, freely, ?_⟩
          intro places task setting
          refine does_begin setting present settled ?_
          refine Does.bind (does_prepare setting prepared) ?_
          rintro answer final after ⟨rfl, opened, made⟩
          obtain ⟨rfl, rfl⟩ := made
          exact does_done (Verdict.comes_of_free free rfl rfl rfl)
        | ok nothing =>
          have chosen (chunk : Chunk) (listed : chunk ∈ plan.chunks) : chunk ∈ chunks :=
            asked chunk (told chunk listed)
          obtain ⟨verdict, none, copied⟩ :=
            copy_settled terms sound undrawn present segment chosen promised left
          refine ⟨verdict, none ∘ freely, ?_⟩
          intro places task setting
          refine does_begin setting present settled ?_
          refine Does.bind (does_prepare setting prepared) ?_
          rintro answer final after ⟨rfl, opened, made⟩
          obtain ⟨temporary, rfl, opens, rfl⟩ := made
          exact copied setting opens

end Load

end SegmentOffload
