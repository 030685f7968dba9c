import Mathlib.Data.List.Basic
import SegmentOffload.Commands
import SegmentOffload.Proofs.CatalogAgreement
import SegmentOffload.Proofs.ChunkPaths
import SegmentOffload.Proofs.ParallelLoads

/-!
The command that loads several blocks of a relation.

The files of different blocks have different names in one directory, so none is on the way to
another one and the loads do not depend on each other.
-/

namespace SegmentOffload

/-! ### Names below a directory -/

namespace Path

variable {base name : String}

theorem isAbsolute_of_free (free : '/' ∉ name.toList) : isAbsolute name = false := by
  unfold isAbsolute
  cases parts : name.toList with
  | nil => rfl
  | cons first rest =>
    rw [parts] at free
    rw [List.head?_cons, beq_eq_false_iff_ne]
    rintro same
    cases same
    exact free List.mem_cons_self

/-- A name below a directory is one more component. -/
theorem components_join (free : '/' ∉ name.toList) (named : name.toList ≠ []) :
    components (join base name) = components base ++ [name] := by
  have last : words name.toList = [name.toList] := words_of_free free named
  have single : [name] = (words name.toList).map String.ofList := by
    rw [last, List.map_singleton, String.ofList_toList]
  rw [components_eq_map, components_eq_map, single, ← List.map_append]
  apply congrArg (List.map String.ofList)
  unfold join
  rw [isAbsolute_of_free free]
  simp only [Bool.false_eq_true, if_false]
  split
  · rename_i flush
    rw [String.toList_append]
    rcases Bool.or_eq_true_iff.mp flush with empty | slash
    · rw [String.isEmpty_iff.mp empty]
      rfl
    · obtain ⟨front, ends⟩ := List.getLast?_eq_some_iff.mp (beq_iff_eq.mp slash)
      rw [ends, List.append_assoc, List.singleton_append, words_append_slash, words_append_slash]
      change _ = words front ++ [] ++ _
      rw [List.append_nil]
  · rw [String.toList_append, String.toList_append, List.append_assoc]
    exact words_append_slash base.toList name.toList

theorem isAbsolute_join (free : '/' ∉ name.toList) :
    isAbsolute (join base name) = isAbsolute base := by
  unfold join
  rw [isAbsolute_of_free free]
  simp only [Bool.false_eq_true, if_false]
  split
  · rename_i flush
    rcases Bool.or_eq_true_iff.mp flush with empty | slash
    · rw [String.isEmpty_iff.mp empty, String.empty_append]
      exact isAbsolute_of_free free
    · obtain ⟨front, ends⟩ := List.getLast?_eq_some_iff.mp (beq_iff_eq.mp slash)
      unfold isAbsolute
      rw [String.toList_append, ends]
      cases front with
      | nil => rfl
      | cons first rest => rfl
  · rename_i apart
    unfold isAbsolute
    rw [String.toList_append, String.toList_append]
    cases parts : base.toList with
    | nil =>
      rw [String.toList_eq_nil_iff.mp parts] at apart
      exact absurd rfl apart
    | cons first rest => rfl

end Path

namespace Disk

variable {disk : Disk} {base name : String}

theorem place_join (free : '/' ∉ name.toList) (named : name.toList ≠ []) (down : name ≠ "..")
    (moves : name ≠ ".") : disk.place (Path.join base name) = disk.place base ++ [name] := by
  rw [place, place, Path.components_join free named, start_congr (Path.isAbsolute_join free),
    List.foldl_append, List.foldl_cons, List.foldl_nil, Location.step, if_neg moves, if_neg down]

theorem Climbs.join (climbs : disk.Climbs base) (free : '/' ∉ name.toList)
    (named : name.toList ≠ []) (down : name ≠ "..") : disk.Climbs (Path.join base name) := by
  unfold Climbs
  rw [Path.components_join free named, start_congr (Path.isAbsolute_join free)]
  intro index below up
  rw [List.length_append, List.length_singleton] at below
  rcases Nat.lt_succ_iff_lt_or_eq.mp below with before | rfl
  · rw [List.getElem?_append_left before] at up
    rw [List.take_append_of_le_length (Nat.succ_le_of_lt before)]
    exact climbs index before up
  · rw [List.getElem?_concat_length] at up
    cases up
    exact absurd rfl down

end Disk

/-! ### Names of files -/

theorem toList_segmentFileName (relfilenode blockNumber : UInt32) :
    (segmentFileName relfilenode blockNumber).toList =
      decimalDigits relfilenode.toNat ++
        if blockNumber = 0 then [] else '.' :: decimalDigits blockNumber.toNat := by
  unfold segmentFileName
  split
  · rw [toList_decimal, List.append_nil]
  · rw [String.toList_append, String.toList_append, toList_decimal, toList_decimal,
      List.append_assoc]
    rfl

theorem slash_notMem_segmentFileName (relfilenode blockNumber : UInt32) :
    '/' ∉ (segmentFileName relfilenode blockNumber).toList := by
  rw [toList_segmentFileName]
  intro member
  rcases List.mem_append.mp member with front | behind
  · exact notMem_decimalDigits (by decide) front
  · split at behind
    · cases behind
    · rcases List.mem_cons.mp behind with impossible | digits
      · exact absurd impossible (by decide)
      · exact notMem_decimalDigits (by decide) digits

/-- The name of a file begins with a digit. -/
theorem head_segmentFileName (relfilenode blockNumber : UInt32) :
    ∃ first rest, (segmentFileName relfilenode blockNumber).toList = first :: rest ∧
      first.isDigit = true := by
  rw [toList_segmentFileName]
  cases digits : decimalDigits relfilenode.toNat with
  | nil => exact absurd digits (decimalDigits_ne_nil _)
  | cons first rest =>
    have member : first ∈ decimalDigits relfilenode.toNat := by
      rw [digits]
      exact List.mem_cons_self
    exact ⟨first, _, rfl, isDigit_of_mem_decimalDigits member⟩

theorem segmentFileName_ne {relfilenode blockNumber : UInt32} {other : String}
    (mark : (other.toList.head?.any Char.isDigit) = false) :
    segmentFileName relfilenode blockNumber ≠ other := by
  obtain ⟨first, rest, parts, digit⟩ := head_segmentFileName relfilenode blockNumber
  rintro rfl
  rw [parts, List.head?_cons, Option.any_some, digit] at mark
  cases mark

theorem segmentFileName_injective {relfilenode block other : UInt32}
    (same : segmentFileName relfilenode block = segmentFileName relfilenode other) :
    block = other := by
  have lists := congrArg String.toList same
  rw [toList_segmentFileName, toList_segmentFileName, List.append_right_inj] at lists
  split at lists
  · rename_i first
    split at lists
    · rename_i second
      rw [first, second]
    · cases lists
  · split at lists
    · cases lists
    · rw [List.cons.injEq] at lists
      exact UInt32.toNat_inj.mp (decimalDigits_injective lists.2)

/-! ### Jobs -/

theorem Location.apart_of_names {here : Location} {one other : String} (distinct : one ≠ other) :
    (here ++ [one]).Apart (here ++ [other]) := by
  constructor
  · intro above
    rw [List.prefix_append_right_inj, List.cons_prefix_cons] at above
    exact distinct above.1
  · intro above
    rw [List.prefix_append_right_inj, List.cons_prefix_cons] at above
    exact distinct above.1.symm

namespace Commands

open CommandLine (Invocation RelationChoice)
open Load (Job Spread Independent placesOf)

variable {π : Type} [Peer π] {config : ClientConfig} {choice : RelationChoice}
  {blocks : List UInt32} {directory : String} {jobs : List Job} {disk : Disk}

/-- Where the file of a block goes. -/
def pathOf (choice : RelationChoice) (directory : String) (block : UInt32) : String :=
  Path.join directory (segmentFileName choice.relfilenode block)

theorem paths_of_loadJobs (chosen : loadJobs config choice blocks directory = .ok jobs) :
    jobs.map Job.path = blocks.map (pathOf choice directory) := by
  unfold loadJobs at chosen
  induction blocks generalizing jobs with
  | nil =>
    cases chosen
    rfl
  | cons block rest ih =>
    rw [List.mapM_cons] at chosen
    cases first : chosenSegment config choice block with
    | error failure =>
      rw [first] at chosen
      cases chosen
    | ok segment =>
      rw [first] at chosen
      cases later : loadJobs config choice rest directory with
      | error failure =>
        unfold loadJobs at later
        rw [later] at chosen
        cases chosen
      | ok more =>
        have behind := ih later
        unfold loadJobs at later
        rw [later] at chosen
        cases chosen
        rw [List.map_cons, List.map_cons, behind]
        rfl

theorem toList_segmentFileName_ne_nil (relfilenode block : UInt32) :
    (segmentFileName relfilenode block).toList ≠ [] := by
  obtain ⟨first, rest, parts, _⟩ := head_segmentFileName relfilenode block
  rw [parts]
  exact List.cons_ne_nil first rest

theorem place_pathOf (disk : Disk) (choice : RelationChoice) (directory : String) (block : UInt32) :
    disk.place (pathOf choice directory block) =
      disk.place directory ++ [segmentFileName choice.relfilenode block] :=
  Disk.place_join (slash_notMem_segmentFileName _ _) (toList_segmentFileName_ne_nil _ _)
    (segmentFileName_ne (by decide)) (segmentFileName_ne (by decide))

/-- The files of different blocks get in nobody's way. -/
theorem spread_of_loadJobs {socket : String}
    (chosen : loadJobs config choice blocks directory = .ok jobs) (distinct : blocks.Nodup)
    (climbs : disk.Climbs directory) (undrawn : ∀ job ∈ jobs, disk.Undrawn job.path)
    (settled : Disk.IsSettled (placesOf disk jobs) disk socket) : Spread disk socket jobs := by
  have paths := paths_of_loadJobs chosen
  refine ⟨?_, undrawn, ?_, settled⟩
  · intro job listed
    have named : job.path ∈ jobs.map Job.path := List.mem_map_of_mem listed
    rw [paths, List.mem_map] at named
    obtain ⟨block, _, path⟩ := named
    rw [← path]
    exact climbs.join (slash_notMem_segmentFileName _ _) (toList_segmentFileName_ne_nil _ _)
      (segmentFileName_ne (by decide))
  · have places : placesOf disk jobs =
        blocks.map fun block => disk.place (pathOf choice directory block) := by
      rw [placesOf, ← Function.comp_def disk.place, ← List.map_map, paths, List.map_map]
      rfl
    rw [places, List.pairwise_map]
    apply distinct.imp
    intro one other apart
    rw [place_pathOf, place_pathOf]
    exact Location.apart_of_names fun same => apart (segmentFileName_injective same)

theorem openCatalog_of_written {environment : Environment} {invocation : Invocation}
    {path : String} {rows : List CatalogRow}
    (named : catalogPath environment invocation = .ok path)
    (there : disk.stat path = .ok (.file (Catalog.written rows))) :
    openCatalog environment invocation disk = .ok ⟨path, rows⟩ := by
  unfold openCatalog
  rw [named]
  dsimp only
  rw [Catalog.openFile_of_written there]

/-! ### What is printed -/

theorem join_lines (results : List (Job × Except Failure LoadOutcome)) :
    String.join (results.map fun result => loadLine result.1 result.2) =
      String.join ((results.filter fun result => result.2.isOk).map fun result =>
        loadLine result.1 result.2) := by
  induction results with
  | nil => rfl
  | cons result rest ih =>
    obtain ⟨job, outcome⟩ := result
    rw [List.map_cons, String.join_cons, ih]
    cases outcome with
    | error failure =>
      rw [List.filter_cons_of_neg Bool.false_ne_true]
      exact String.empty_append
    | ok result => rw [List.filter_cons_of_pos rfl, List.map_cons, String.join_cons]

theorem isSome_entry (job : Job) (outcome : Except Failure LoadOutcome) :
    ( loadEntry? job outcome).isSome = !outcome.isOk := by
  cases outcome with
  | ok result => rfl
  | error failure => rfl

/-- What the command prints and how it ends, by what the loads came to. -/
theorem runLoad_eq {environment : Environment} {invocation : Invocation} {host : Host π}
    {catalog : Catalog} {outcomes : List (Except Failure LoadOutcome)}
    (opened : openCatalog environment invocation host.disk = .ok catalog)
    (chosen : loadJobs config choice blocks directory = .ok jobs)
    (loaded : (Load.loadAll config catalog jobs host).1 = .ok outcomes) :
    let run := runLoad config environment invocation choice blocks directory host
    let results := jobs.zip outcomes
    let failed := results.countP fun result => !result.2.isOk
    run.output = String.join (results.map fun result => loadLine result.1 result.2) ∧
      run.outcome = if failed = 0 then .ok ()
        else .error (.stated s!"{failed} of {jobs.length} segments failed to load") := by
  intro run results failed
  let entries := results.filterMap fun result => loadEntry? result.1 result.2
  have count : entries.length = failed := by
    rw [List.length_filterMap_eq_countP]
    exact List.countP_congr fun result _ => by rw [isSome_entry]
  have none : entries.isEmpty = true ↔ failed = 0 := by
    rw [List.isEmpty_iff, ← List.length_eq_zero_iff, count]
  cases ended : Load.loadAll config catalog jobs host with
  | mk result later =>
    rw [ended] at loaded
    cases loaded
    let released : Host π := { later with disk := Load.letGo outcomes later.disk }
    have same : run = if entries.isEmpty then
          .printed (String.join (results.map fun result => loadLine result.1 result.2))
            (released.reportAll entries)
        else ⟨String.join (results.map fun result => loadLine result.1 result.2),
          .error (.stated s!"{entries.length} of {jobs.length} segments failed to load"),
          released.reportAll entries⟩ := by
      unfold run runLoad
      rw [opened]
      dsimp only
      rw [chosen]
      dsimp only
      rw [ended]
    rw [same, count]
    by_cases fine : failed = 0
    · rw [if_pos (none.mpr fine), if_pos fine]
      exact ⟨rfl, rfl⟩
    · rw [if_neg (mt none.mp fine), if_neg fine]
      exact ⟨rfl, rfl⟩

end Commands

namespace Load

variable {π : Type} [Peer π] {host : Host π}

theorem gathered_of_none {outcomes : List (Except Failure LoadOutcome)}
    (none : ∀ outcome ∈ outcomes, overflow? outcome = none) : gathered outcomes = .ok outcomes := by
  rw [gathered, List.findSome?_eq_none_iff.mpr none]

theorem isOk_nameless (outcome : Except Failure LoadOutcome) :
    (nameless outcome).isOk = outcome.isOk := by
  unfold nameless
  split
  · rfl
  · rfl

theorem loadLine_nameless (job : Job) (outcome : Except Failure LoadOutcome) :
    Commands.loadLine job (nameless outcome) = Commands.loadLine job outcome := by
  unfold nameless
  split
  · rfl
  · rfl

/-- What is told of jobs and outcomes does not depend on where the kept files are. -/
theorem map_zip_congr {α : Type} (told : Job × Except Failure LoadOutcome → α)
    (blind : ∀ job outcome, told (job, nameless outcome) = told (job, outcome))
    {outcomes others : List (Except Failure LoadOutcome)}
    (same : outcomes.map nameless = others.map nameless) (jobs : List Job) :
    (jobs.zip outcomes).map told = (jobs.zip others).map told := by
  have forget (outcomes : List (Except Failure LoadOutcome)) :
      (jobs.zip (outcomes.map nameless)).map told = (jobs.zip outcomes).map told := by
    rw [List.zip_map_right, List.map_map]
    exact List.map_congr_left fun result _ => blind result.1 result.2
  rw [← forget outcomes, same, forget]

open Commands in
/-- Loads whose places lie apart do not depend on each other.  So the command that loads several
blocks prints a line for each of them whose load succeeds, and counts the others. -/
theorem loads_do_not_depend_on_each_other (config : ClientConfig) (sound : host.disk.IsSound) :
    (∀ {γ : Type} [ChunkCatalog γ] (catalog : γ) (jobs : List Job)
      (terms : Impartial π config (askedBy catalog jobs)),
      terms.ready host.client.network.lines.length host.client.network.peer →
      Spread host.disk config.socketPath jobs → Independent config catalog host jobs) ∧
    ∀ environment invocation choice blocks directory (catalog : Catalog) (jobs : List Job)
      (terms : Impartial π config (askedBy catalog jobs)),
      terms.ready host.client.network.lines.length host.client.network.peer →
      openCatalog environment invocation host.disk = .ok catalog →
      loadJobs config choice blocks directory = .ok jobs → blocks.Nodup →
      host.disk.Climbs directory → (∀ job ∈ jobs, host.disk.Undrawn job.path) →
      Disk.IsSettled (placesOf host.disk jobs) host.disk config.socketPath →
      Independent config catalog host jobs ∧
      let outcomes := (inTurn config catalog host jobs host.disk.turns).map Prod.fst
      (∀ outcome ∈ outcomes, overflow? outcome = none) →
      let run := runLoad config environment invocation choice blocks directory host
      let results := jobs.zip outcomes
      let failed := results.countP fun result => !result.2.isOk
      run.output = String.join ((results.filter fun result => result.2.isOk).map fun result =>
          loadLine result.1 result.2) ∧
        run.outcome = if failed = 0 then .ok ()
          else .error (.stated s!"{failed} of {jobs.length} segments failed to load") := by
  refine ⟨fun catalog jobs terms ready spread => spread.independent terms ready sound, ?_⟩
  intro environment invocation choice blocks directory catalog jobs terms ready opened chosen
    distinct climbs undrawn settled
  have independent := (spread_of_loadJobs chosen distinct climbs undrawn settled).independent terms
    ready sound
  refine ⟨independent, ?_⟩
  intro outcomes fine run results failed
  have together := independent.inOrder.1
  have alone : (inTurn config catalog host jobs host.disk.turns).map
      (fun last => nameless last.1) = outcomes.map nameless := by
    rw [List.map_map]
    rfl
  rw [alone, ← gathered_map, gathered_of_none fine] at together
  cases ended : (loadAll config catalog jobs host).1 with
  | error failure =>
    rw [ended] at together
    cases together
  | ok answers =>
    rw [ended] at together
    have same : answers.map nameless = outcomes.map nameless := Except.ok.inj together
    obtain ⟨output, result⟩ := runLoad_eq opened chosen ended
    have lines := map_zip_congr (fun result => loadLine result.1 result.2) loadLine_nameless same
      jobs
    have marks := map_zip_congr (fun result => !result.2.isOk)
      (fun _ outcome => by rw [isOk_nameless]) same jobs
    have count := congrArg (List.countP id) marks
    rw [List.countP_map, List.countP_map] at count
    rw [← join_lines results]
    change (jobs.zip answers).countP (fun result => !result.2.isOk) = failed at count
    rw [count] at result
    exact ⟨output.trans (congrArg String.join lines), result⟩

/-! ### Loads at work -/

/-- Three blocks of a relation, one with a row whose object is stored, one with a row whose object
is missing, and one without rows. -/
def threeBlocks : Catalog where
  path := "/catalog"
  rows := [⟨soleSegment, Download.frontChunk⟩,
    ⟨{ soleSegment with blockNumber := 2 }, { Download.frontChunk with remotePath := "q" }⟩]

/-- A host with the catalog, a file in the place of the second block, and a store. -/
def served : Host ObjectStore where
  client := ⟨⟨{ ObjectStore.empty with objects := [("p", [1, 2, 3, 4, 5])] }, []⟩, []⟩
  disk := { Disk.empty with
    nodes := [(["s"], .socket), (["catalog"], .file (Catalog.written threeBlocks.rows)),
      (["there"], .directory), (["there", "7.1"], .file [7])] }

def servedConfig : ClientConfig := { impatient with socketPath := "/s" }

def relationChoice : CommandLine.RelationChoice where
  segmentIndex := none
  tableSpaceOid := 1663
  databaseOid := 5
  relationHash := some "relation"
  relation := none
  schema := "public"
  relfilenode := 7

def loadThree : CommandLine.Invocation where
  config := none
  socket := none
  tableSpace := none
  retryLimit := none
  catalog := some "/catalog"
  verbose := 0
  quiet := false
  command := .load relationChoice [0, 1, 2] "/there"

def threeJobs : List Job :=
  [⟨soleSegment, "/there/7"⟩, ⟨{ soleSegment with blockNumber := 1 }, "/there/7.1"⟩,
    ⟨{ soleSegment with blockNumber := 2 }, "/there/7.2"⟩]

/-- A name with other first characters is not drawn. -/
theorem draw_longer_ne {word : String} (plain : word.toList.take 4 ≠ ".tmp".toList) (drawn : Nat)
    (taken : List String) : Naming.longer.draw drawn taken ≠ word := by
  rintro rfl
  apply plain
  change (".tmp" ++ _ : String).toList.take 4 = _
  rw [String.toList_append]
  rfl

/-- What comes of the command that loads the three blocks. -/
def threeLoaded : Commands.Run ObjectStore :=
  Commands.runLoad servedConfig .empty loadThree relationChoice [0, 1, 2] "/there" served

theorem one_of_three_blocks_fails :
    Independent servedConfig threeBlocks served threeJobs ∧
      threeLoaded.output = "/there/7\t4\n/there/7.1\tpresent\n" ∧
      threeLoaded.outcome = .error (.stated "1 of 3 segments failed to load") := by
  have understands :
      ObjectStore.UnderstandsDownload servedConfig (askedBy threeBlocks threeJobs) := by
    constructor
    · decide
    · decide
    · decide +kernel
  let terms := ObjectStore.impartial understands (by decide) [("p", [1, 2, 3, 4, 5])]
  have ready : terms.ready served.client.network.lines.length served.client.network.peer :=
    ⟨rfl, rfl, rfl, rfl⟩
  have sound : served.disk.IsSound := ⟨Disk.isTree_of_nodes (by decide), by decide⟩
  have opened : Commands.openCatalog .empty loadThree served.disk = .ok threeBlocks := by
    have path : Commands.catalogPath .empty loadThree = .ok "/catalog" := by decide +kernel
    have found : served.disk.stat "/catalog" = .ok (.file (Catalog.written threeBlocks.rows)) :=
      Disk.stat_eq_file_iff.mpr ⟨by decide, by decide, ["catalog"], by decide +kernel, rfl⟩
    exact Commands.openCatalog_of_written path found
  have chosen : Commands.loadJobs servedConfig relationChoice [0, 1, 2] "/there" =
      .ok threeJobs := by decide +kernel
  have climbs : served.disk.Climbs "/there" := by decide +kernel
  have undrawn : ∀ job ∈ threeJobs, served.disk.Undrawn job.path := by
    intro job listed
    have climbs : ∀ job ∈ threeJobs, served.disk.Climbs job.path := by decide +kernel
    have plain : ∀ job ∈ threeJobs, ∀ word ∈ Path.components job.path,
        word.toList.take 4 ≠ ".tmp".toList := by decide +kernel
    apply (climbs job listed).undrawn sound
    exact fun drawn taken member => draw_longer_ne (plain job listed _ member) drawn taken rfl
  have settled : Disk.IsSettled (placesOf served.disk threeJobs) served.disk "/s" :=
    .inl ⟨.socket, by decide +kernel⟩
  obtain ⟨independent, printed⟩ := (loads_do_not_depend_on_each_other servedConfig sound).2 .empty
    loadThree relationChoice [0, 1, 2] "/there" threeBlocks threeJobs terms ready opened chosen
    (by decide) climbs undrawn settled
  let outcomes := (inTurn servedConfig threeBlocks served threeJobs served.disk.turns).map Prod.fst
  let results := threeJobs.zip outcomes
  have fine : ∀ outcome ∈ outcomes, overflow? outcome = none := by decide +kernel
  have lines : String.join ((results.filter fun result => result.2.isOk).map fun result =>
      Commands.loadLine result.1 result.2) = "/there/7\t4\n/there/7.1\tpresent\n" := by
    decide +kernel
  have failed : (results.countP fun result => !result.2.isOk) = 1 := by decide +kernel
  obtain ⟨output, ended⟩ := printed fine
  refine ⟨independent, output.trans lines, ?_⟩
  rw [failed] at ended
  exact ended

/-- A way to draw one name again and again, as long as it is not taken. -/
def preferring (name : String) : Naming where
  draw drawn taken := if name ∈ taken then Naming.longer.draw drawn taken else name
  fresh := by
    intro drawn taken
    split
    · exact Naming.longer.fresh drawn taken
    · assumption

/-- Where a directory that somebody makes leads a path to something, where a file takes the place of
the socket, where a temporary file has the name of another load's file, or where the sum of offset
and length is not a word, a load does not come to what it comes to alone. -/
theorem loads_meet_over_directories_files_and_overflows :
    let blank : Segment := { soleSegment with blockNumber := 1 }
    let upwards := [Job.mk blank "/missing/y", Job.mk soleSegment "/missing/../x"]
    let here := [Job.mk blank "/s", Job.mk soleSegment "/there/y"]
    let named := [Job.mk blank "/there/z/", Job.mk soleSegment "/there/y"]
    let drawing : Host Unreachable :=
      { cutOff with disk := { cutOff.disk with naming := preferring "y" } }
    let endless : Catalog := ⟨"/catalog",
      [⟨soleSegment, { Download.frontChunk with startOffset := 18446744073709551615 }⟩]⟩
    let aside := [Job.mk soleSegment "/there/y", Job.mk blank "/there/z"]
    cutOff.disk.IsSound ∧ (∀ config chunks, Nonempty (Impartial Unreachable config chunks)) ∧
      (∀ jobs ∈ [upwards, here, named, aside],
        (placesOf cutOff.disk jobs).Pairwise Location.Apart) ∧
      (load impatient soleRow soleSegment "/missing/../x" cutOff).1.isOk = false ∧
      (loadAll impatient soleRow upwards cutOff).1 =
        .ok [.ok (.loaded 0 0 0), .ok .alreadyPresent] ∧
      (loadEach servedConfig soleRow here cutOff).1[1]? ≠
        some (load servedConfig soleRow soleSegment "/there/y" cutOff).1 ∧
      (load impatient soleRow soleSegment "/there/y" drawing).1.isOk = false ∧
      (loadEach impatient soleRow named drawing).1[1]? = some (.ok .alreadyPresent) ∧
      (load impatient endless blank "/there/z" cutOff).1 = .ok (.loaded 0 0 0) ∧
      (loadAll impatient endless aside cutOff).1 = .error (.overflow .addition) := by
  intro blank upwards here named drawing endless aside
  refine ⟨⟨Disk.isTree_of_nodes (by decide), by decide⟩, ?_, ?_⟩
  · exact fun config chunks => ⟨Unreachable.impartial config chunks⟩
  · decide +kernel

end Load

end SegmentOffload
