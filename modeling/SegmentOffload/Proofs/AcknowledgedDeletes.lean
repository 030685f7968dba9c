import SegmentOffload.Commands
import SegmentOffload.Peer.ObjectStore
import SegmentOffload.Proofs.CatalogAgreement
import SegmentOffload.Proofs.UploadCalls

/-!
Deleting an object, and forgetting it.

A removal is one exchange on one connection: the request, its end, and the acknowledgement.  The
catalog is looked at only behind the acknowledgement, so whatever the peer does, a row is dropped
only when its object is known to be gone; and the file is written anew only for rows that are
dropped.
-/

namespace SegmentOffload

open Wire (DeleteRequest Message)

variable {π : Type} [Peer π]

/-! ### The exchange -/

namespace RemovalMode

/-- All that there is to say for a removal. -/
def exchange (request : DeleteRequest) : Bytes :=
  (Message.delete request).encode ++ Message.commandComplete.encode

/-- A connection is made, the request and its end go out whole, and the first message that can be
read there is the acknowledgement. -/
def Acknowledged (request : DeleteRequest) (config : ClientConfig) (disk : Disk)
    (network : Network π) : Prop :=
  ∃ session opened requested,
    Session.connect disk config.socketPath request.remotePath network = (.ok session, opened) ∧
      session.send (Message.delete request).encode "requesting delete" opened =
        (.ok (), requested) ∧
      session.Acknowledged "finishing delete" network.lines (exchange request) requested

theorem remotePath_request (mode : RemovalMode) (config : ClientConfig) (remotePath : String) :
    (mode.request config remotePath).remotePath = remotePath := by
  cases mode with
  | direct => rfl
  | garbage segmentIndex confirm => rfl

section

variable {request : DeleteRequest} {config : ClientConfig} {disk : Disk}
  {network opened requested : Network π} {session : Session}

theorem not_acknowledged_of_refused {error : ClientError}
    (refused : Session.connect disk config.socketPath request.remotePath network =
      (.error error, opened)) :
    ¬Acknowledged request config disk network := by
  rintro ⟨_, _, _, connected, _⟩
  rw [refused] at connected
  cases connected

theorem not_acknowledged_of_unsent {error : ClientError}
    (connected : Session.connect disk config.socketPath request.remotePath network =
      (.ok session, opened))
    (unsent : session.send (Message.delete request).encode "requesting delete" opened =
      (.error error, requested)) :
    ¬Acknowledged request config disk network := by
  rintro ⟨_, _, _, again, sent, _⟩
  rw [connected] at again
  cases again
  rw [unsent] at sent
  cases sent

/-- Behind a request that went out, all hangs on what the end of the exchange brings. -/
theorem acknowledged_iff_of_sent
    (connected : Session.connect disk config.socketPath request.remotePath network =
      (.ok session, opened))
    (sent : session.send (Message.delete request).encode "requesting delete" opened =
      (.ok (), requested)) :
    Acknowledged request config disk network ↔
      session.Acknowledged "finishing delete" network.lines (exchange request) requested := by
  constructor
  · rintro ⟨_, _, _, again, sentAgain, answered⟩
    rw [connected] at again
    cases again
    rw [sent] at sentAgain
    cases sentAgain
    exact answered
  · intro answered
    exact ⟨session, opened, requested, connected, sent, answered⟩

end

/-- A removal goes well exactly when it is acknowledged, and says nothing beyond its exchange. -/
theorem remove_cases {mode : RemovalMode} {config : ClientConfig} {remotePath : String}
    {disk : Disk} {client later : Client π} {outcome : Except ClientError Unit}
    (removed : mode.remove config remotePath disk client = (outcome, later)) :
    let request := mode.request config remotePath
    (outcome = .ok () ↔ Acknowledged request config disk client.network) ∧
      Leaves client.network.lines (exchange request) 0 later.network.lines := by
  have named := remotePath_request mode config remotePath
  rw [remove] at removed
  generalize mode.request config remotePath = request at named removed ⊢
  rw [← named] at removed
  have front : (Message.delete request).encode <+: exchange request := List.prefix_append _ _
  cases connected : Session.connect disk config.socketPath request.remotePath client.network with
  | mk result opened =>
    simp only [connected] at removed
    cases result with
    | error error =>
      obtain ⟨same, _⟩ := Session.connect_refused connected
      cases removed
      refine ⟨⟨nofun, ?_⟩, [], ?_, Nat.zero_le _, List.nil_prefix⟩
      · intro acknowledged
        exact absurd acknowledged (not_acknowledged_of_refused connected)
      · exact same.trans (List.append_nil _).symm
    | ok session =>
      have holds := Session.connect_holds connected
      cases sent : session.send (Message.delete request).encode "requesting delete" opened with
      | mk result requested =>
        obtain ⟨_, holding, line, lines, said⟩ := Session.send_of_holds holds sent
        rw [List.nil_append] at holding said
        simp only [sent] at removed
        cases result with
        | error error =>
          cases removed
          refine ⟨⟨nofun, ?_⟩, leaves_last lines (said.trans front)⟩
          intro acknowledged
          exact absurd acknowledged (not_acknowledged_of_unsent connected sent)
        | ok nothing =>
          cases completed : session.complete "finishing delete" requested with
          | mk result last =>
            have held := holding rfl
            obtain ⟨_, acknowledged, line, lines, said, _⟩ :=
              Session.complete_of_holds held completed
            obtain ⟨released, dropped, _, kept⟩ := Network.release_last lines
            simp only [completed] at removed
            cases removed
            constructor
            · exact acknowledged.trans (acknowledged_iff_of_sent connected sent).symm
            · refine leaves_last ?_ (kept ▸ said)
              rw [Session.close, held.1]
              exact dropped

theorem remove_eq_ok_iff (mode : RemovalMode) (config : ClientConfig) (remotePath : String)
    (disk : Disk) (client : Client π) :
    (mode.remove config remotePath disk client).1 = .ok () ↔
      Acknowledged (mode.request config remotePath) config disk client.network :=
  (remove_cases rfl).1

end RemovalMode

/-! ### The catalog's file -/

namespace Catalog

/-- The rows that do not point at a remote object. -/
def apartFrom (remotePath : String) (rows : List CatalogRow) : List CatalogRow :=
  rows.filter fun row => row.chunk.remotePath ≠ remotePath

variable {path remotePath : String} {rows : List CatalogRow} {disk later : Disk}

theorem removeChunk_of_free (free : apartFrom remotePath rows = rows) :
    removeChunk ⟨path, rows⟩ remotePath disk = (.ok 0, ⟨path, rows⟩, disk) := by
  change (rows.filter fun row => row.chunk.remotePath ≠ remotePath) = rows at free
  simp only [removeChunk, retain, free, Nat.sub_self, if_true]

/-- Rows that point at the object are dropped by saving the others. -/
theorem removeChunk_of_listed (listed : apartFrom remotePath rows ≠ rows) :
    removeChunk ⟨path, rows⟩ remotePath disk =
      match save disk path (apartFrom remotePath rows) with
      | (.ok (), later) => (.ok (rows.length - (apartFrom remotePath rows).length),
          ⟨path, apartFrom remotePath rows⟩, later)
      | (.error error, later) => (.error error, ⟨path, rows⟩, later) := by
  have fewer : rows.length - (apartFrom remotePath rows).length ≠ 0 := by
    have within : (apartFrom remotePath rows).length ≤ rows.length := List.length_filter_le _ _
    have different : (apartFrom remotePath rows).length ≠ rows.length := by
      intro same
      exact listed ((List.filter_sublist).eq_of_length same)
    omega
  unfold removeChunk retain replace
  change (if rows.length - (apartFrom remotePath rows).length = 0 then _ else _) = _
  rw [if_neg fewer]
  cases saved : save disk path (apartFrom remotePath rows) with
  | mk result last =>
    change save disk path (rows.filter _) = _ at saved
    rw [saved]
    cases result with
    | ok nothing => rfl
    | error error => rfl

end Catalog

namespace Commands

open Catalog (apartFrom openFile save)
open CommandLine (Invocation)

/-- What becomes of the catalog at a path when a removed object is dropped from it, with what the
file says beforehand. -/
inductive Forgets (path remotePath : String) (earlier : Disk) :
    Except Failure Unit → Disk → Prop
  /-- Where there is no file none is made. -/
  | missing (absent : earlier.isPresent path = false) :
      Forgets path remotePath earlier (.ok ()) earlier
  | unreadable {error : ClientError} (there : earlier.isPresent path = true)
      (unread : openFile earlier path = .error error) :
      Forgets path remotePath earlier (.error (.ofClient error)) earlier
  /-- Without a row that points at the object, the file is not written. -/
  | untouched {rows : List CatalogRow} (there : earlier.isPresent path = true)
      (opened : openFile earlier path = .ok ⟨path, rows⟩)
      (free : apartFrom remotePath rows = rows) :
      Forgets path remotePath earlier (.ok ()) earlier
  | dropped {rows : List CatalogRow} {later : Disk} (there : earlier.isPresent path = true)
      (opened : openFile earlier path = .ok ⟨path, rows⟩)
      (listed : apartFrom remotePath rows ≠ rows)
      (saved : (save earlier path (apartFrom remotePath rows)).1 = .ok ())
      (reopens : openFile later path = .ok ⟨path, apartFrom remotePath rows⟩) :
      Forgets path remotePath earlier (.ok ()) later
  /-- A file that cannot be saved keeps its rows. -/
  | unsaved {rows : List CatalogRow} {error : ClientError} {later : Disk}
      (there : earlier.isPresent path = true)
      (opened : openFile earlier path = .ok ⟨path, rows⟩)
      (listed : apartFrom remotePath rows ≠ rows)
      (failed : (save earlier path (apartFrom remotePath rows)).1 = .error error)
      (keeps : earlier.IsTree → openFile later path = .ok ⟨path, rows⟩) :
      Forgets path remotePath earlier (.error (.ofClient error)) later

theorem forgets {environment : Environment} {invocation : Invocation} {path remotePath : String}
    {disk later : Disk} {outcome : Except Failure Unit}
    (named : catalogPath environment invocation = .ok path)
    (forgotten : forgetChunk environment invocation remotePath disk = (outcome, later)) :
    Forgets path remotePath disk outcome later := by
  rw [forgetChunk, named] at forgotten
  cases there : disk.isPresent path with
  | false =>
    simp only [there, Bool.false_eq_true, if_false] at forgotten
    cases forgotten
    exact .missing there
  | true =>
    simp only [there, if_true] at forgotten
    cases opened : openFile disk path with
    | error error =>
      rw [opened] at forgotten
      cases forgotten
      exact .unreadable there opened
    | ok catalog =>
      obtain ⟨other, rows⟩ := catalog
      have same : other = path := Catalog.path_of_openFile opened
      subst other
      rw [opened] at forgotten
      dsimp only at forgotten
      by_cases free : apartFrom remotePath rows = rows
      · rw [Catalog.removeChunk_of_free free] at forgotten
        cases forgotten
        exact .untouched there opened free
      · rw [Catalog.removeChunk_of_listed free] at forgotten
        cases saved : save disk path (apartFrom remotePath rows) with
        | mk result last =>
          have ended := Catalog.save_cases saved
          have outcome := congrArg Prod.fst saved
          rw [saved] at forgotten
          cases result with
          | ok nothing =>
            have placed :
                Disk.Placed path disk (Catalog.written (apartFrom remotePath rows)) last :=
              ended
            cases forgotten
            exact .dropped there opened free outcome (Catalog.openFile_of_written placed.stat)
          | error error =>
            have grown : Disk.Grown path disk last := ended
            cases forgotten
            refine .unsaved there opened free outcome fun tree => ?_
            have climbs := Disk.climbs_of_isPresent there
            rw [Catalog.openFile_of_stat fun node => grown.stat_iff tree climbs]
            exact opened

/-- A catalog that can be saved holds the other rows afterwards, all of them and in their order. -/
theorem Forgets.reopens {path remotePath : String} {rows : List CatalogRow} {earlier later : Disk}
    {outcome : Except Failure Unit} (forgets : Forgets path remotePath earlier outcome later)
    (there : earlier.isPresent path = true) (opened : openFile earlier path = .ok ⟨path, rows⟩)
    (saved : (save earlier path (apartFrom remotePath rows)).1 = .ok ()) :
    outcome = .ok () ∧ openFile later path = .ok ⟨path, apartFrom remotePath rows⟩ := by
  cases forgets with
  | missing absent =>
    rw [there] at absent
    cases absent
  | unreadable _ unread =>
    rw [opened] at unread
    cases unread
  | untouched _ again free =>
    rw [opened] at again
    cases again
    rw [free]
    exact ⟨rfl, opened⟩
  | dropped _ again _ _ reopens =>
    rw [opened] at again
    cases again
    exact ⟨rfl, reopens⟩
  | unsaved _ again _ failed _ =>
    rw [opened] at again
    cases again
    rw [saved] at failed
    cases failed

/-! ### The command -/

/-- What comes of deleting an object: nothing is said beyond one exchange, nothing is changed on the
disk before it is acknowledged, and then the catalog forgets the object. -/
structure Deletes (config : ClientConfig) (environment : Environment) (invocation : Invocation)
    (remotePath : String) (host : Host π) (run : Run π) : Prop where
  said : Leaves host.client.network.lines
    ((Message.delete { remotePath, confirm := true, garbage := false, port := config.port
                       segmentIndex := 18446744073709551615 }).encode ++
      Message.commandComplete.encode) 0 run.host.client.network.lines
  unacknowledged :
    ¬RemovalMode.Acknowledged (RemovalMode.direct.request config remotePath) config host.disk
      host.client.network →
    (∃ failure, run.outcome = .error failure) ∧ run.host.disk = host.disk
  acknowledged :
    RemovalMode.Acknowledged (RemovalMode.direct.request config remotePath) config host.disk
      host.client.network →
    match catalogPath environment invocation with
    | .error error => run.outcome = .error (.ofClient error) ∧ run.host.disk = host.disk
    | .ok path => Forgets path remotePath host.disk run.outcome run.host.disk

theorem runDelete_deletes (config : ClientConfig) (environment : Environment)
    (invocation : Invocation) (remotePath : String) (host : Host π) :
    Deletes config environment invocation remotePath host
      (runDelete config environment invocation remotePath host) := by
  cases removed : RemovalMode.direct.remove config remotePath host.disk host.client with
  | mk outcome client =>
    obtain ⟨answered, said⟩ := RemovalMode.remove_cases removed
    rw [runDelete, Holdings.deleteChunk, Holdings.remarked, removed]
    cases outcome with
    | error error =>
      refine ⟨said, fun _ => ⟨⟨_, rfl⟩, rfl⟩, ?_⟩
      intro acknowledged
      cases answered.mpr acknowledged
    | ok nothing =>
      refine ⟨said, fun refused => absurd (answered.mp rfl) refused, ?_⟩
      intro _
      split
      · rename_i error nameless
        change (forgetChunk environment invocation remotePath host.disk).1 = _ ∧
          (forgetChunk environment invocation remotePath host.disk).2 = _
        rw [forgetChunk, nameless]
        exact ⟨rfl, rfl⟩
      · rename_i path named
        exact forgets named rfl

/-- The command that deletes an object says one exchange at most, fails and leaves the disk as it is
unless that was acknowledged, and then drops exactly the rows that point at the object. -/
theorem deletes_forget_behind_acknowledgement (environment : Environment)
    {invocation : Invocation} {remotePath : String}
    (deletes : invocation.command = .delete remotePath) (host : Host π) :
    let run := run environment invocation host
    match (configFor environment invocation host.disk).1 with
    | .error error => run.outcome = .error (.ofClient error) ∧
        run.host.client.network.lines = host.client.network.lines ∧ run.host.disk = host.disk
    | .ok config => Deletes config environment invocation remotePath host run := by
  intro after
  cases configured : configFor environment invocation host.disk with
  | mk outcome journal =>
    have same : after = run environment invocation host := rfl
    rw [run, configured] at same
    cases outcome with
    | error error =>
      rw [same]
      exact ⟨rfl, rfl, rfl⟩
    | ok config =>
      have reported :=
        runDelete_deletes config environment invocation remotePath (host.reportAll journal)
      simp only [deletes] at same
      rw [same]
      exact ⟨reported.said, reported.unacknowledged, reported.acknowledged⟩

def deletion : Invocation where
  config := none
  socket := some "/s"
  tableSpace := none
  retryLimit := none
  catalog := some "/catalog"
  verbose := 0
  quiet := false
  command := .delete "p"

def socketOnly : ClientConfig := { ClientConfig.default with socketPath := "/s" }

/-- A store behind a socket, and a catalog of two objects. -/
def stockedHost (faults : List Fault) : Host ObjectStore where
  client := ⟨⟨{ ObjectStore.empty with objects := [("p", [1, 2, 3, 4])], faults }, []⟩, []⟩
  disk := { Disk.empty with
    nodes := [(["s"], .socket),
      (["catalog"], .file (Catalog.written [Catalog.sampleRow "p", Catalog.sampleRow "q"]))] }

/-- The object is forgotten when the store says that it is gone; when it says anything else, the
command fails and the disk stays as it is. -/
theorem delete_forgets_only_what_is_gone :
    (run .empty deletion (stockedHost [])).outcome = .ok () ∧
      openFile (run .empty deletion (stockedHost [])).host.disk "/catalog" =
        .ok ⟨"/catalog", [Catalog.sampleRow "q"]⟩ ∧
      (∃ failure, (run .empty deletion (stockedHost [.wrongReply])).outcome = .error failure) ∧
      (run .empty deletion (stockedHost [.wrongReply])).host.disk =
        (stockedHost [.wrongReply]).disk := by
  have configured : (configFor .empty deletion (stockedHost []).disk).1 = .ok socketOnly := by
    decide +kernel
  have deletes (faults : List Fault) : Deletes socketOnly .empty deletion "p" (stockedHost faults)
      (run .empty deletion (stockedHost faults)) := by
    have same : (configFor .empty deletion (stockedHost faults).disk).1 = .ok socketOnly := configured
    have known := deletes_forget_behind_acknowledgement .empty
      (show deletion.command = .delete "p" from rfl) (stockedHost faults)
    simp only [same] at known
    exact known
  obtain ⟨removed, refused⟩ :
      (RemovalMode.direct.remove socketOnly "p" (stockedHost []).disk
          (stockedHost []).client).1 = .ok () ∧
        (RemovalMode.direct.remove socketOnly "p" (stockedHost [.wrongReply]).disk
          (stockedHost [.wrongReply]).client).1 ≠ .ok () := by
    decide +kernel
  have named : catalogPath .empty deletion = .ok "/catalog" := by decide +kernel
  have stat : (stockedHost []).disk.stat "/catalog" =
      .ok (.file (Catalog.written [Catalog.sampleRow "p", Catalog.sampleRow "q"])) :=
    Disk.stat_eq_file_iff.mpr ⟨by decide, by decide, ["catalog"], by decide +kernel, rfl⟩
  have there : (stockedHost []).disk.isPresent "/catalog" = true := by
    rw [Disk.isPresent, stat]
  have dropped : apartFrom "p" [Catalog.sampleRow "p", Catalog.sampleRow "q"] =
      [Catalog.sampleRow "q"] := by
    decide +kernel
  have saved : (save (stockedHost []).disk "/catalog"
      (apartFrom "p" [Catalog.sampleRow "p", Catalog.sampleRow "q"])).1 = .ok () := by
    rw [dropped]
    decide +kernel
  have forgets := (deletes []).acknowledged ((RemovalMode.remove_eq_ok_iff ..).mp removed)
  rw [named] at forgets
  obtain ⟨well, reopens⟩ :=
    Forgets.reopens forgets there (Catalog.openFile_of_written stat) saved
  rw [dropped] at reopens
  refine ⟨well, reopens, (deletes [.wrongReply]).unacknowledged ?_⟩
  intro acknowledged
  exact refused ((RemovalMode.remove_eq_ok_iff ..).mpr acknowledged)

end Commands

end SegmentOffload
