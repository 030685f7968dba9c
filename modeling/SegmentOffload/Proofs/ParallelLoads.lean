import Mathlib.Data.List.Pairwise
import SegmentOffload.Proofs.SettledLoads

/-!
Loads that run beside each other.

Loads are tasks of a pool, each with turns of its own ahead of its calls on the disk, and any of them
may take the next step.  Where their places lie apart, every load ends as it does alone, and its path
names afterwards what it names then, whether or not the files are still there that failures keep.
Loading one file after the other is no different.
-/

namespace SegmentOffload

open Disk (SharedBy IsSettled)

namespace Load

variable {π γ : Type} [Peer π] [ChunkCatalog γ] {config : ClientConfig} {catalog : γ}
  {chunks : List Chunk}
  {origin disk : Disk} {places : List Location} {path socket : String} {held : Holding}
  {task : Nat} {turns : List Wire.Turn} {jobs : List Job} {host : Host π}

/-! ### One load -/

/-- What a path names once its load has ended. -/
theorem Holding.OnDisk.stat_iff (known : held.OnDisk origin places disk)
    (setting : Setting origin socket held.path places) {node : Node} :
    disk.stat held.path = .ok node ↔
      match held.placed with
      | none => origin.stat held.path = .ok node
      | some content => node = .file content := by
  cases placed : held.placed with
  | none =>
    exact known.shared.stat_iff setting.sound setting.climbs setting.undrawn (known.own placed)
  | some content =>
    rw [(known.placed content placed).2]
    constructor
    · intro same
      cases same
      rfl
    · rintro rfl
      rfl

/-- What a load that is alone comes to, and what it leaves to the others. -/
theorem Does.run {α : Type} {terms : Impartial π config chunks}
    {post : α → List Wire.Turn → Holding → Prop} {steps : Steps (Host π) α}
    (does : Does terms origin places task post steps turns held)
    (known : (rules terms origin places).knows task held host) :
    let alone := steps.run (host.withTurns turns)
    ∃ after, post alone.1 alone.2.disk.turns after ∧
      (rules terms origin places).Allows task held after host alone.2 := by
  intro alone
  obtain ⟨after, ended, allowed⟩ := Steps.Meets.run does known
  have same := Steps.run_withOwn (fun host : Host π => host.disk.turns) Host.withTurns
    (fun _ => rfl) (fun _ _ _ => rfl) (fun _ _ => rfl) turns steps host
  rw [same] at ended allowed
  refine ⟨after, ended, ⟨allowed.own.1.withTurns alone.2.disk.turns, allowed.own.2⟩, ?_⟩
  intro other others distinct knows apart
  obtain ⟨still, between⟩ := allowed.others other others distinct knows apart
  exact ⟨⟨still.1.withTurns alone.2.disk.turns, still.2⟩, between⟩

/-- A load with nobody else at work, and with turns of its own. -/
def alone (config : ClientConfig) (catalog : γ) (host : Host π) (job : Job)
    (turns : List Wire.Turn) : Except Failure LoadOutcome × Host π :=
  load config catalog job.segment job.path (host.withTurns turns)

/-- A path names the same on a disk as after a load that was alone. -/
def NamesAs (alone : Except Failure LoadOutcome × Host π) (path : String) (disk : Disk) : Prop :=
  ∀ node, disk.stat path = .ok node ↔ alone.2.disk.stat path = .ok node

/-- A load has ended as it does alone.  Its temporary file is gone, or the failure keeps it. -/
structure EndsAs (origin : Disk) (places : List Location)
    (alone : Except Failure LoadOutcome × Host π) (path : String)
    (answer : Except Failure LoadOutcome) (left : List Wire.Turn) (after : Holding) : Prop where
  outcome : nameless answer = nameless alone.1
  kept : keptBy answer = after.draft.map Prod.fst
  left : left = alone.2.disk.turns
  name : after.path = path
  file : ∀ disk, { after with draft := none }.OnDisk origin places disk → NamesAs alone path disk

theorem knows_start (terms : Impartial π config chunks)
    (ready : terms.ready host.client.network.lines.length host.client.network.peer)
    (places : List Location) (task : Nat) (path : String) :
    (rules terms host.disk places).knows task (.start path) host := by
  refine ⟨⟨.refl places host.disk, ?_, ?_, fun _ _ => rfl, ?_⟩, ready, ?_, ?_⟩
  · intro directory impossible
    cases impossible
  · intro location content impossible
    cases impossible
  · intro content impossible
    cases impossible
  · intro link impossible
    cases impossible
  · intro link impossible
    cases impossible

theorem does_load (terms : Impartial π config chunks)
    (ready : terms.ready host.client.network.lines.length host.client.network.peer) {job : Job}
    (asked : ChunkCatalog.asked catalog job.segment ⊆ chunks)
    (setting : Setting host.disk config.socketPath job.path places) (turns : List Wire.Turn) :
    let last := alone config catalog host job turns
    (turns = [] → last.2.disk.turns = []) ∧
      ∀ task, Does terms host.disk places task (EndsAs host.disk places last job.path)
        (loadSteps config catalog job.segment job.path) turns (.start job.path) := by
  intro last
  obtain ⟨verdict, freely, does⟩ :=
    load_settled terms (fun _ => @asked _) setting.sound setting.undrawn turns
  obtain ⟨mine, comes, allowed⟩ :=
    (does setting).run (knows_start terms ready places 0 job.path)
  rw [run_loadSteps] at comes allowed
  have left : last.2.disk.turns = _ := comes.left
  have settled : Setting host.disk config.socketPath mine.path places := by
    rw [comes.path]
    exact setting
  have there (node : Node) : last.2.disk.stat mine.path = .ok node ↔ _ :=
    allowed.own.1.stat_iff settled
  refine ⟨fun none => left.trans (freely none), fun task => (does setting).mono ?_⟩
  intro answer turns after met
  refine ⟨met.outcome.trans comes.outcome.symm, met.kept, met.left.trans left.symm, met.path, ?_⟩
  intro disk known node
  have here : disk.stat after.path = .ok node ↔ _ := known.stat_iff (met.path ▸ setting)
  rw [met.path, met.placed] at here
  rw [comes.path, comes.placed] at there
  exact here.trans (there node).symm

/-! ### Letting go -/

/-- Letting go of what came of a load, and so of the temporary file that it may have. -/
theorem DiskStep.letGo {answer : Except Failure LoadOutcome}
    (kept : keptBy answer = held.draft.map Prod.fst) (known : held.OnDisk origin places disk)
    (listed : origin.place held.path ∈ places) :
    DiskStep origin places held { held with draft := none } disk (Load.letGo [answer] disk) := by
  cases draft : held.draft with
  | none =>
    have stays : { held with draft := none } = held := by rw [← draft]
    have same : Load.letGo [answer] disk = disk := by
      rw [draft] at kept
      cases answer with
      | ok outcome => rfl
      | error failure =>
        change failure.letGo disk = disk
        change failure.kept? = none at kept
        rw [Failure.letGo, kept]
    rw [stays, same]
    exact DiskStep.ofSame known rfl fun _ => rfl
  | some file =>
    obtain ⟨temporary, content⟩ := file
    have erased : Load.letGo [answer] disk = disk.erase temporary := by
      rw [draft] at kept
      cases answer with
      | ok outcome => cases kept
      | error failure =>
        change failure.letGo disk = disk.erase temporary
        change failure.kept? = some temporary at kept
        rw [Failure.letGo, kept]
    rw [erased]
    exact DiskStep.erase known listed draft

section
variable {answers : List (Except Failure LoadOutcome)} {afters : List Holding}
  (kept : List.Forall₂ (fun answer after => keptBy answer = after.draft.map Prod.fst) answers afters)
  (known : ∀ after ∈ afters, after.OnDisk origin places disk)
  (listed : ∀ after ∈ afters, origin.place after.path ∈ places)
  (apart : afters.Pairwise (Holding.Apart origin))
include kept known listed apart

/-- Letting go of what came of some loads is nothing to another one. -/
theorem Holding.OnDisk.letGo (others : held.OnDisk origin places disk)
    (aside : ∀ after ∈ afters, after.Apart origin held) :
    held.OnDisk origin places (Load.letGo answers disk) := by
  induction kept generalizing disk with
  | nil => exact others
  | @cons answer after answers afters first rest ih =>
    obtain ⟨away, onward⟩ := List.pairwise_cons.mp apart
    have stepped := DiskStep.letGo first (known after List.mem_cons_self)
      (listed after List.mem_cons_self)
    apply ih
    · intro next there
      exact stepped.others next (known next (List.mem_cons_of_mem _ there)) (away next there)
    · exact fun next there => listed next (List.mem_cons_of_mem _ there)
    · exact onward
    · exact stepped.others held others (aside after List.mem_cons_self)
    · exact fun next there => aside next (List.mem_cons_of_mem _ there)

/-- Without their temporary files, the loads have what they had. -/
theorem onDisk_letGo : ∀ after ∈ afters,
    { after with draft := none }.OnDisk origin places (letGo answers disk) := by
  induction kept generalizing disk with
  | nil =>
    intro after impossible
    cases impossible
  | @cons answer after answers afters first rest ih =>
    obtain ⟨away, onward⟩ := List.pairwise_cons.mp apart
    have mine := known after List.mem_cons_self
    have stepped := DiskStep.letGo first mine (listed after List.mem_cons_self)
    have others (next : Holding) (there : next ∈ afters) :=
      known next (List.mem_cons_of_mem _ there)
    have still (next : Holding) (there : next ∈ afters) :
        next.OnDisk origin places (letGo [answer] disk) :=
      stepped.others next (others next there) (away next there)
    have places (next : Holding) (there : next ∈ afters) :=
      listed next (List.mem_cons_of_mem _ there)
    intro next there
    rcases List.mem_cons.mp there with rfl | behind
    · apply Holding.OnDisk.letGo rest still places onward stepped.own
      exact fun other behind => (stepped.apart (others other behind) (away other behind)).symm
    · exact ih still places onward next behind

end

/-! ### Jobs -/

/-- The chunks that the loads of some jobs ask the peer for. -/
def askedBy (catalog : γ) (jobs : List Job) : List Chunk :=
  jobs.flatMap fun job => ChunkCatalog.asked catalog job.segment

theorem asked_subset {job : Job} (listed : job ∈ jobs) :
    ChunkCatalog.asked catalog job.segment ⊆ askedBy catalog jobs :=
  fun _ there => List.mem_flatMap.mpr ⟨job, listed, there⟩

/-- Where the files of some jobs will be. -/
def placesOf (origin : Disk) (jobs : List Job) : List Location :=
  jobs.map fun job => origin.place job.path

/-- The places of some jobs lie apart, and what the socket's path names is settled. -/
structure Spread (origin : Disk) (socket : String) (jobs : List Job) : Prop where
  climbs : ∀ job ∈ jobs, origin.Climbs job.path
  undrawn : ∀ job ∈ jobs, origin.Undrawn job.path
  apart : (placesOf origin jobs).Pairwise Location.Apart
  settled : IsSettled (placesOf origin jobs) origin socket

theorem Spread.setting (spread : Spread origin socket jobs) (sound : origin.IsSound) {job : Job}
    (listed : job ∈ jobs) : Setting origin socket job.path (placesOf origin jobs) := by
  refine ⟨sound, spread.climbs job listed, spread.undrawn job listed, List.mem_map_of_mem listed, ?_,
    spread.settled⟩
  intro place there other
  exact spread.apart.forall there (List.mem_map_of_mem listed) other

/-! ### Side by side -/

/-- Loads as tasks of a pool, each with turns of its own ahead of its calls on the disk. -/
def beside (config : ClientConfig) (catalog : γ) (jobs : List Job)
    (turns : Nat → List Wire.Turn) (host : Host π) :
    Pool (Host π) (Except Failure LoadOutcome × List Wire.Turn) where
  tasks := jobs.mapIdx fun index job =>
    (loadSteps config catalog job.segment job.path).withOwn (fun host => host.disk.turns)
      Host.withTurns (turns index)
  state := host

def startAt (jobs : List Job) (index : Nat) : Holding :=
  .start ((jobs[index]?.map Job.path).getD "")

theorem startAt_eq {index : Nat} {job : Job} (found : jobs[index]? = some job) :
    startAt jobs index = .start job.path := by
  rw [startAt, found]
  rfl

theorem apart_start {one other : Job}
    (apart : (origin.place one.path).Apart (origin.place other.path)) :
    Holding.Apart origin (.start one.path) (.start other.path) := by
  refine ⟨apart, ?_, ?_⟩
  · intro location content other impossible
    cases impossible
  · intro link other impossible
    cases impossible

theorem obeys_beside (terms : Impartial π config chunks)
    (asked : ∀ job ∈ jobs, ChunkCatalog.asked catalog job.segment ⊆ chunks) (sound : host.disk.IsSound)
    (ready : terms.ready host.client.network.lines.length host.client.network.peer)
    (spread : Spread host.disk config.socketPath jobs) (turns : Nat → List Wire.Turn) :
    (beside config catalog jobs turns host).Obeys
      (rules terms host.disk (placesOf host.disk jobs))
      (fun index result after => ∀ job, jobs[index]? = some job →
        EndsAs host.disk (placesOf host.disk jobs) (alone config catalog host job (turns index))
          job.path result.1 result.2 after)
      (startAt jobs) := by
  refine ⟨?_, ?_, ?_⟩
  · intro index _
    exact knows_start terms ready _ index _
  · intro index steps found
    change (jobs.mapIdx _)[index]? = some steps at found
    rw [List.getElem?_mapIdx] at found
    obtain ⟨job, there, rfl⟩ := Option.map_eq_some_iff.mp found
    rw [startAt_eq there]
    have listed := List.mem_of_getElem? there
    have does := does_load terms ready (asked job listed) (spread.setting sound listed) (turns index)
    apply Steps.Meets.mono (does.2 index)
    intro result after ended other same
    rw [there] at same
    cases same
    exact ended
  · intro index other distinct below below'
    change index < (jobs.mapIdx _).length at below
    change other < (jobs.mapIdx _).length at below'
    rw [List.length_mapIdx] at below below'
    rw [startAt_eq (List.getElem?_eq_getElem below), startAt_eq (List.getElem?_eq_getElem below')]
    apply apart_start
    have pairs := List.pairwise_iff_getElem.mp spread.apart
    have places {index : Nat} (below : index < jobs.length) :
        ∃ inside : index < (placesOf host.disk jobs).length,
          (placesOf host.disk jobs)[index] = host.disk.place jobs[index].path :=
      ⟨by rw [placesOf, List.length_map]; exact below, List.getElem_map _⟩
    obtain ⟨inside, here⟩ := places below
    obtain ⟨inside', there⟩ := places below'
    rw [← here, ← there]
    rcases Nat.lt_or_gt_of_ne distinct with before | after
    · exact pairs index other inside inside' before
    · exact symm (pairs other index inside' inside after)

/-- Whoever takes which step, a load that has ended has ended as it does alone. -/
theorem answer_beside (terms : Impartial π config chunks)
    (asked : ∀ job ∈ jobs, ChunkCatalog.asked catalog job.segment ⊆ chunks)
    (sound : host.disk.IsSound)
    (ready : terms.ready host.client.network.lines.length host.client.network.peer)
    (spread : Spread host.disk config.socketPath jobs) (turns : Nat → List Wire.Turn)
    (schedule : List Nat) {index : Nat} {job : Job} (found : jobs[index]? = some job)
    {outcome : Except Failure LoadOutcome} {left : List Wire.Turn} :
    let last := alone config catalog host job (turns index)
    let pool := (beside config catalog jobs turns host).run schedule
    pool.answer? index = some (outcome, left) →
      nameless outcome = nameless last.1 ∧ left = last.2.disk.turns ∧
        NamesAs last job.path pool.state.disk := by
  intro last pool answered
  obtain ⟨held, obeys⟩ := (obeys_beside terms asked sound ready spread turns).run schedule
  obtain ⟨ended, known⟩ := obeys.answered answered
  have met := ended job found
  exact ⟨met.outcome, met.left, met.file _ known.1.dropDraft⟩

/-- Some loads have ended as they do alone. -/
inductive AllEnd (origin : Disk) (places : List Location) :
    List Job → List (Except Failure LoadOutcome × Host π) → List (Except Failure LoadOutcome) →
      List Holding → Prop where
  | nil : AllEnd origin places [] [] [] []
  | cons {job : Job} {last : Except Failure LoadOutcome × Host π}
      {answer : Except Failure LoadOutcome} {left : List Wire.Turn} {after : Holding}
      {jobs : List Job} {lasts : List (Except Failure LoadOutcome × Host π)}
      {answers : List (Except Failure LoadOutcome)} {afters : List Holding}
      (first : EndsAs origin places last job.path answer left after)
      (rest : AllEnd origin places jobs lasts answers afters) :
      AllEnd origin places (job :: jobs) (last :: lasts) (answer :: answers) (after :: afters)

namespace AllEnd

variable {lasts : List (Except Failure LoadOutcome × Host π)}
  {answers : List (Except Failure LoadOutcome)} {afters : List Holding}

omit [Peer π]

theorem outcomes (ended : AllEnd origin places jobs lasts answers afters) :
    answers.map nameless = lasts.map fun last => nameless last.1 := by
  induction ended with
  | nil => rfl
  | cons first rest ih => rw [List.map_cons, List.map_cons, first.outcome, ih]

theorem kept (ended : AllEnd origin places jobs lasts answers afters) :
    List.Forall₂ (fun answer after => keptBy answer = after.draft.map Prod.fst) answers afters := by
  induction ended with
  | nil => exact .nil
  | cons first rest ih => exact .cons first.kept ih

theorem path_mem (ended : AllEnd origin places jobs lasts answers afters) :
    ∀ after ∈ afters, ∃ job ∈ jobs, after.path = job.path := by
  induction ended with
  | nil =>
    intro after impossible
    cases impossible
  | cons first rest ih =>
    intro after listed
    rcases List.mem_cons.mp listed with rfl | behind
    · exact ⟨_, List.mem_cons_self, first.name⟩
    · obtain ⟨job, there, same⟩ := ih after behind
      exact ⟨job, List.mem_cons_of_mem _ there, same⟩

theorem files (ended : AllEnd origin places jobs lasts answers afters)
    (known : ∀ after ∈ afters, { after with draft := none }.OnDisk origin places disk) :
    List.Forall₂ (fun job last => NamesAs last job.path disk) jobs lasts := by
  induction ended with
  | nil => exact .nil
  | cons first rest ih =>
    refine .cons (first.file disk (known _ List.mem_cons_self)) (ih ?_)
    exact fun after listed => known after (List.mem_cons_of_mem _ listed)

/-- Letting go of what came of the loads changes none of their files. -/
theorem letGo (ended : AllEnd origin places jobs lasts answers afters)
    (listed : ∀ job ∈ jobs, origin.place job.path ∈ places)
    (known : ∀ after ∈ afters, after.OnDisk origin places disk)
    (apart : afters.Pairwise (Holding.Apart origin)) :
    List.Forall₂ (fun job last => NamesAs last job.path (Load.letGo answers disk)) jobs lasts := by
  apply ended.files
  apply onDisk_letGo ended.kept known ?_ apart
  intro after there
  obtain ⟨job, member, same⟩ := ended.path_mem after there
  rw [same]
  exact listed job member

theorem of_indexed {held : Nat → Holding}
    {last : Nat → Job → Except Failure LoadOutcome × Host π}
    (all : answers.length = jobs.length)
    (ended : ∀ (index : Nat) job, jobs[index]? = some job → ∃ answer left,
      answers[index]? = some answer ∧
        EndsAs origin places (last index job) job.path answer left (held index)) :
    AllEnd origin places jobs (jobs.mapIdx last) answers ((List.range jobs.length).map held) := by
  induction jobs generalizing answers held last with
  | nil =>
    rw [List.length_eq_zero_iff.mp all]
    exact .nil
  | cons job rest ih =>
    cases answers with
    | nil => cases all
    | cons answer answers =>
      obtain ⟨_, left, same, first⟩ := ended 0 job rfl
      cases same
      rw [List.mapIdx_cons, List.length_cons, List.range_succ_eq_map, List.map_cons, List.map_map]
      refine .cons first (ih (Nat.succ.inj all) ?_)
      exact fun index other found => ended (index + 1) other found

end AllEnd

/-- Once all loads have ended, letting go of what they came to changes none of their files. -/
theorem letGo_beside (terms : Impartial π config chunks)
    (asked : ∀ job ∈ jobs, ChunkCatalog.asked catalog job.segment ⊆ chunks)
    (sound : host.disk.IsSound)
    (ready : terms.ready host.client.network.lines.length host.client.network.peer)
    (spread : Spread host.disk config.socketPath jobs) (turns : Nat → List Wire.Turn)
    (schedule : List Nat) {answers : List (Except Failure LoadOutcome)}
    (all : answers.length = jobs.length) :
    let pool := (beside config catalog jobs turns host).run schedule
    (∀ (index : Nat) outcome, answers[index]? = some outcome →
      ∃ left, pool.answer? index = some (outcome, left)) →
    List.Forall₂ (fun job last => NamesAs last job.path (letGo answers pool.state.disk)) jobs
      (jobs.mapIdx fun index job => alone config catalog host job (turns index)) := by
  intro pool answered
  obtain ⟨held, obeys⟩ := (obeys_beside terms asked sound ready spread turns).run schedule
  have count : pool.tasks.length = jobs.length :=
    (Pool.length_run _ schedule).trans List.length_mapIdx
  have ended : AllEnd host.disk (placesOf host.disk jobs) jobs
      (jobs.mapIdx fun index job => alone config catalog host job (turns index)) answers
      ((List.range jobs.length).map held) := by
    apply AllEnd.of_indexed all
    intro index job found
    obtain ⟨below, _⟩ := List.getElem?_eq_some_iff.mp found
    have there := List.getElem?_eq_getElem (all ▸ below : index < answers.length)
    obtain ⟨left, met⟩ := answered index _ there
    exact ⟨_, left, there, (obeys.answered met).1 job found⟩
  apply ended.letGo
  · exact fun job listed => List.mem_map_of_mem listed
  · intro after listed
    obtain ⟨index, below, rfl⟩ := List.mem_map.mp listed
    rw [List.mem_range, ← count] at below
    exact (obeys.knows index below).1
  · rw [List.pairwise_map]
    apply List.Pairwise.imp_of_mem ?_ List.nodup_range
    intro one other first second distinct
    rw [List.mem_range, ← count] at first second
    exact obeys.apart one other distinct first second

/-! ### One after the other -/

/-- What some loads come to alone, each with the turns that those before it have left. -/
def inTurn (config : ClientConfig) (catalog : γ) (host : Host π) :
    List Job → List Wire.Turn → List (Except Failure LoadOutcome × Host π)
  | [], _ => []
  | job :: rest, turns =>
    let last := alone config catalog host job turns
    last :: inTurn config catalog host rest last.2.disk.turns

/-- A load that comes later ends as it does alone at the start. -/
theorem load_later (terms : Impartial π config chunks)
    (ready : terms.ready host.client.network.lines.length host.client.network.peer) {job : Job}
    (asked : ChunkCatalog.asked catalog job.segment ⊆ chunks)
    (setting : Setting host.disk config.socketPath job.path places) {now : Host π}
    (known : (rules terms host.disk places).knows task (.start job.path) now) :
    let loaded := load config catalog job.segment job.path now
    ∃ after, EndsAs host.disk places (alone config catalog host job now.disk.turns) job.path
        loaded.1 loaded.2.disk.turns after ∧
      (rules terms host.disk places).Allows task (.start job.path) after now loaded.2 := by
  obtain ⟨after, ended, allowed⟩ :=
    ((does_load terms ready asked setting now.disk.turns).2 task).run known
  rw [run_loadSteps] at ended allowed
  exact ⟨after, ended, allowed⟩

theorem loadEach_settled (terms : Impartial π config chunks)
    (ready : terms.ready host.client.network.lines.length host.client.network.peer)
    {rest : List Job} {now : Host π}
    (asked : ∀ job ∈ rest, ChunkCatalog.asked catalog job.segment ⊆ chunks)
    (settings : ∀ job ∈ rest, Setting host.disk config.socketPath job.path places)
    (apart : (placesOf host.disk rest).Pairwise Location.Apart)
    (known : ∀ job ∈ rest, (rules terms host.disk places).knows 1 (.start job.path) now) :
    let loaded := loadEach config catalog rest now
    ∃ afters, AllEnd host.disk places rest (inTurn config catalog host rest now.disk.turns) loaded.1
        afters ∧
      (∀ after ∈ afters, (rules terms host.disk places).knows 1 after loaded.2) ∧
      afters.Pairwise (Holding.Apart host.disk) ∧
      ∀ others, (rules terms host.disk places).knows 1 others now →
        (∀ job ∈ rest, Holding.Apart host.disk (.start job.path) others) →
        (rules terms host.disk places).knows 1 others loaded.2 ∧
          ∀ after ∈ afters, after.Apart host.disk others := by
  induction rest generalizing now with
  | nil =>
    refine ⟨[], .nil, ?_, .nil, fun _ knows _ => ⟨knows, ?_⟩⟩
    · intro after impossible
      cases impossible
    · intro after impossible
      cases impossible
  | cons job rest ih =>
    intro loaded
    obtain ⟨mine, ended, allowed⟩ := @load_later π γ _ _ config catalog chunks places 0 host terms
      ready job (asked job List.mem_cons_self) (settings job List.mem_cons_self) now
      (known job List.mem_cons_self)
    let middle : Host π := (load config catalog job.segment job.path now).2
    let silent : Host π := { middle with
      client := { middle.client with journal := now.client.journal } }
    obtain ⟨first, onward⟩ := List.pairwise_cons.mp apart
    have behind {other : Job} (listed : other ∈ rest) :
        Holding.Apart host.disk (.start job.path) (.start other.path) :=
      apart_start (first _ (List.mem_map_of_mem listed))
    have still (others : Holding) (knows : (rules terms host.disk places).knows 1 others now)
        (aside : Holding.Apart host.disk (.start job.path) others) :=
      allowed.others 1 others (by decide) knows aside
    have next {other : Job} (listed : other ∈ rest) :=
      still _ (known other (List.mem_cons_of_mem _ listed)) (behind listed)
    obtain ⟨afters, later, knows, pairs, others⟩ :=
      @ih silent (fun other listed => asked other (List.mem_cons_of_mem _ listed))
        (fun other listed => settings other (List.mem_cons_of_mem _ listed)) onward
        fun other listed => (next listed).1
    have left : silent.disk.turns = _ := ended.left
    rw [left] at later
    obtain ⟨mineStill, mineApart⟩ :=
      others mine allowed.own fun other listed => Holding.Apart.symm (next listed).2
    refine ⟨mine :: afters, .cons ended later, ?_, ?_, ?_⟩
    · intro after listed
      rcases List.mem_cons.mp listed with rfl | there
      · exact mineStill
      · exact knows after there
    · exact .cons (fun after there => (mineApart after there).symm) pairs
    · intro other knows aside
      obtain ⟨between, distinct⟩ := still other knows (aside job List.mem_cons_self)
      obtain ⟨there, away⟩ := others other between fun next listed =>
        aside next (List.mem_cons_of_mem _ listed)
      refine ⟨there, ?_⟩
      intro after listed
      rcases List.mem_cons.mp listed with rfl | behind
      · exact distinct
      · exact away after behind

/-- When no call on the disk will fail, each load is alone from the start. -/
theorem inTurn_of_free (terms : Impartial π config chunks)
    (ready : terms.ready host.client.network.lines.length host.client.network.peer)
    (free : host.disk.turns = []) {rest : List Job}
    (asked : ∀ job ∈ rest, ChunkCatalog.asked catalog job.segment ⊆ chunks)
    (settings : ∀ job ∈ rest, Setting host.disk config.socketPath job.path places) :
    inTurn config catalog host rest [] =
      rest.map fun job => load config catalog job.segment job.path host := by
  have same : host.withTurns [] = host := by rw [Host.withTurns, ← free]
  induction rest with
  | nil => rfl
  | cons job rest ih =>
    have left := (does_load terms ready (asked job List.mem_cons_self)
      (settings job List.mem_cons_self) []).1 rfl
    have onward := ih (fun other listed => asked other (List.mem_cons_of_mem _ listed))
      fun other listed => settings other (List.mem_cons_of_mem _ listed)
    rw [inTurn, List.map_cons, left, onward, alone, same]

/-- What becomes of the outcomes of several loads: an overflow in one ends all. -/
def gathered (outcomes : List (Except Failure LoadOutcome)) :
    Except Failure (List (Except Failure LoadOutcome)) :=
  match outcomes.findSome? overflow? with
  | some overflow => .error (.overflow overflow)
  | none => .ok outcomes

theorem overflow?_nameless (outcome : Except Failure LoadOutcome) :
    overflow? (nameless outcome) = overflow? outcome := by
  unfold nameless
  split
  · rfl
  · rfl

theorem gathered_map (outcomes : List (Except Failure LoadOutcome)) :
    (gathered outcomes).map (List.map nameless) = gathered (outcomes.map nameless) := by
  have same : overflow? ∘ nameless = overflow? := funext overflow?_nameless
  unfold gathered
  rw [List.findSome?_map, same]
  cases outcomes.findSome? overflow? with
  | none => rfl
  | some overflow => rfl

/-- When an overflow ends all, the outcomes are let go of. -/
theorem loadAll_cases (config : ClientConfig) (catalog : γ) (jobs : List Job) (host : Host π) :
    let each := loadEach config catalog jobs host
    let all := loadAll config catalog jobs host
    all.1 = gathered each.1 ∧
      match all.1 with
      | .error _ => all.2.disk = letGo each.1 each.2.disk
      | .ok outcomes => outcomes = each.1 ∧ all.2 = each.2 := by
  unfold loadAll gathered
  dsimp only
  cases (loadEach config catalog jobs host).1.findSome? overflow? with
  | none => exact ⟨rfl, rfl, rfl⟩
  | some overflow => exact ⟨rfl, rfl⟩

/-! ### Independence -/

/-- Several loads at a host do not depend on each other. -/
structure Independent (config : ClientConfig) (catalog : γ) (host : Host π)
    (jobs : List Job) : Prop where
  /-- In whatever order the loads take their steps, each that has ended came to what it comes to
  alone, and so did its file. -/
  interleaved : ∀ turns schedule index job outcome left, jobs[index]? = some job →
    let pool := (beside config catalog jobs turns host).run schedule
    let last := alone config catalog host job (turns index)
    pool.answer? index = some (outcome, left) →
      nameless outcome = nameless last.1 ∧ left = last.2.disk.turns ∧
        NamesAs last job.path pool.state.disk
  /-- When every load gets its turn again and again, all end. -/
  ends : ∀ turns picks, Pool.IsFair picks jobs.length → ∃ count, ∀ index < jobs.length,
    let pool := (beside config catalog jobs turns host).run (Pool.firstSteps picks count)
    (pool.answer? index).isSome
  /-- Once all have ended, letting go of what they came to changes none of their files. -/
  released : ∀ turns schedule (outcomes : List (Except Failure LoadOutcome)),
    outcomes.length = jobs.length →
    let pool := (beside config catalog jobs turns host).run schedule
    (∀ (index : Nat) outcome, outcomes[index]? = some outcome →
      ∃ left, pool.answer? index = some (outcome, left)) →
    List.Forall₂ (fun job last => NamesAs last job.path (letGo outcomes pool.state.disk)) jobs
      (jobs.mapIdx fun index job => alone config catalog host job (turns index))
  /-- One after the other they come to the same. -/
  inOrder :
    let loaded := loadAll config catalog jobs host
    let last := inTurn config catalog host jobs host.disk.turns
    loaded.1.map (List.map nameless) = gathered (last.map fun last => nameless last.1) ∧
      List.Forall₂ (fun job last => NamesAs last job.path loaded.2.disk) jobs last ∧
      ∀ outcomes, loaded.1 = .ok outcomes →
        List.Forall₂ (fun job last => NamesAs last job.path (letGo outcomes loaded.2.disk)) jobs last
  /-- No load leaves a call to fail in another one's stead. -/
  undisturbed : host.disk.turns = [] → inTurn config catalog host jobs host.disk.turns =
    jobs.map fun job => load config catalog job.segment job.path host

theorem Spread.independent (spread : Spread host.disk config.socketPath jobs)
    (terms : Impartial π config (askedBy catalog jobs))
    (ready : terms.ready host.client.network.lines.length host.client.network.peer)
    (sound : host.disk.IsSound) : Independent config catalog host jobs := by
  have settings : ∀ job ∈ jobs, Setting host.disk config.socketPath job.path _ :=
    fun job listed => spread.setting sound listed
  have asked : ∀ job ∈ jobs, ChunkCatalog.asked catalog job.segment ⊆ askedBy catalog jobs :=
    fun job listed => asked_subset listed
  refine ⟨?_, ?_, ?_, ?_, ?_⟩
  · intro turns schedule index job outcome left found
    exact answer_beside terms asked sound ready spread turns schedule found
  · intro turns picks fair
    have count : (beside config catalog jobs turns host).tasks.length = jobs.length :=
      List.length_mapIdx
    have ended := (beside config catalog jobs turns host).all_answered (count.symm ▸ fair)
    rw [count] at ended
    exact ended
  · intro turns schedule outcomes all
    exact letGo_beside terms asked sound ready spread turns schedule all
  · obtain ⟨afters, ended, knows, pairs, _⟩ := loadEach_settled terms ready asked settings
      spread.apart fun job _ => knows_start terms ready _ 1 job.path
    have known (after : Holding) (listed : after ∈ afters) := (knows after listed).1
    have now := ended.files fun after listed => (known after listed).dropDraft
    have later := ended.letGo (fun job listed => List.mem_map_of_mem listed) known pairs
    obtain ⟨same, disk⟩ := loadAll_cases config catalog jobs host
    refine ⟨by rw [same, gathered_map, ended.outcomes], ?_⟩
    cases told : (loadAll config catalog jobs host).1 with
    | error failure =>
      rw [told] at disk
      rw [disk]
      refine ⟨later, ?_⟩
      intro outcomes impossible
      cases impossible
    | ok outcomes =>
      rw [told] at disk
      obtain ⟨rfl, whole⟩ := disk
      rw [whole]
      refine ⟨now, ?_⟩
      intro outcomes well
      cases well
      exact later
  · intro free
    rw [free]
    exact inTurn_of_free terms ready free asked settings

end Load

end SegmentOffload
