import SegmentOffload.Offload
import SegmentOffload.Proofs.ChunkPaths
import SegmentOffload.Proofs.StoreUpload
import SegmentOffload.Proofs.TemporaryFiles

/-!
What moving a range of a file into the store changes.

Whatever becomes of an offload, no object but the one at the new chunk's path changes and the disk
keeps its files.  When it is said to have gone well the object holds exactly the range, and the
chunk describes it.
-/

namespace SegmentOffload

open Wire (Message PutRequest)
open ObjectStore (Holds Uploading UnderstandsUpload insertInto)
open Disk (Keeps)

variable {objects : List (String × Bytes)} {replaced : Location}

/-! ### Uploads -/

namespace Upload

theorem start_spec {upload after : Upload} (understands : UnderstandsUpload upload.announcement)
    (pending : upload.phase = .pending) {disk : Disk} {client later : Client ObjectStore}
    (holds : Holds objects client.network) {outcome : Except ClientError Unit}
    (started : upload.start disk client = (outcome, after, later)) :
    Holds objects later.network ∧ (outcome = .ok () →
      ∃ session, after = { upload with phase := .opened session } ∧
        Uploading objects upload.announcement [] session.connection later.network) := by
  cases announced : upload.announce disk client.network with
  | mk result network =>
    obtain ⟨kept, begun⟩ := ObjectStore.announce_spec understands holds announced
    cases result with
    | ok session =>
      simp only [start, pending, announced] at started
      cases started
      exact ⟨kept, fun _ => ⟨session, rfl, begun session rfl⟩⟩
    | error error =>
      simp only [start, pending, announced, giveUp, hangUp] at started
      cases started
      refine ⟨kept, ?_⟩
      intro impossible
      cases impossible

theorem write_spec {upload after : Upload} {session : Session}
    (opened : upload.phase = .opened session) {request : PutRequest} {sent data : Bytes}
    (nonempty : data ≠ []) (within : (Message.copyData data).encode.length ≤ Wire.maximumSize)
    {disk : Disk} {client later : Client ObjectStore}
    (uploading : Uploading objects request sent session.connection client.network)
    {outcome : Except ClientError Unit}
    (wrote : upload.write data disk client = (outcome, after, later)) :
    Holds objects later.network ∧ (outcome = .ok () →
      after = { upload with written := upload.written + data.length } ∧
        Uploading objects request (sent ++ data) session.connection later.network) := by
  have filled : data.isEmpty = false := by
    rw [List.isEmpty_eq_false_iff]
    exact nonempty
  cases told : session.send (Message.copyData data).encode "uploading chunk data"
      client.network with
  | mk result network =>
    obtain ⟨kept, taken⟩ := ObjectStore.sendPiece_spec within uploading told
    cases result with
    | ok _ =>
      simp only [write, start, opened, filled, sendPiece, told, Bool.false_eq_true, if_false]
        at wrote
      cases wrote
      refine ⟨kept, fun _ => ⟨?_, taken rfl⟩⟩
      rw [opened]
    | error error =>
      simp only [write, start, opened, filled, sendPiece, told, giveUp, hangUp,
        Bool.false_eq_true, if_false] at wrote
      cases wrote
      refine ⟨kept.release _, ?_⟩
      intro impossible
      cases impossible

theorem close_spec {upload after : Upload} {session : Session}
    (opened : upload.phase = .opened session) {request : PutRequest} {sent : Bytes}
    {client later : Client ObjectStore}
    (uploading : Uploading objects request sent session.connection client.network)
    {outcome : Except ClientError Unit}
    (closed : upload.close client = (outcome, after, later)) :
    (Holds (insertInto request.remotePath sent objects) later.network ∨
        Holds objects later.network ∧ outcome ≠ .ok ()) ∧
      (outcome = .ok () → after = { upload with phase := .closed }) := by
  cases completed : session.complete "finishing upload" client.network with
  | mk result network =>
    have ended := ObjectStore.complete_spec uploading completed
    cases result with
    | ok _ =>
      simp only [close, opened, completed, hangUp] at closed
      cases closed
      rcases ended with stored | ⟨_, impossible⟩
      · exact ⟨Or.inl (stored.release _), fun _ => rfl⟩
      · exact absurd rfl impossible
    | error error =>
      simp only [close, opened, completed, giveUp, hangUp] at closed
      cases closed
      constructor
      · rcases ended with stored | ⟨kept, failed⟩
        · exact Or.inl (stored.release _)
        · exact Or.inr ⟨kept.release _, failed⟩
      · intro impossible
        cases impossible

end Upload

/-! ### Reading the file -/

namespace Offload

/-- Data that is a range of a file. -/
def IsRange (node : Node) (offset : Nat) (data : Bytes) : Prop :=
  data ≠ [] → ∃ content, node = .file content ∧ data = (content.drop offset).take data.length

theorem keeps_readAt (replaced : Location) {disk later : Disk} {node : Node} {offset limit : Nat}
    {outcome : Except IoError Bytes} (read : disk.readAt node offset limit = (outcome, later)) :
    Keeps replaced disk later := by
  have same := Keeps.refl replaced disk
  unfold Disk.readAt at read
  split at read
  · cases read
    exact same
  · cases read
    exact same
  · split at read
    · cases read
      exact same
    · cases read
      exact same.withTurns _
    · cases read
      exact same.withTurns _
    · cases read
      exact same.withTurns _

theorem isRange_readAt {disk later : Disk} {node : Node} {offset limit : Nat} {data : Bytes}
    (read : disk.readAt node offset limit = (.ok data, later)) :
    data.length ≤ limit ∧ IsRange node offset data := by
  have range : ∀ (content : Bytes) (most : Nat), most ≤ limit →
      ((content.drop offset).take most).length ≤ limit ∧
        IsRange (.file content) offset ((content.drop offset).take most) := by
    intro content most small
    refine ⟨Nat.le_trans (List.length_take_le _ _) small, ?_⟩
    intro _
    refine ⟨content, rfl, ?_⟩
    rw [List.length_take, ← List.take_eq_take_min]
  unfold Disk.readAt at read
  split at read
  · cases read
  · cases read
  · rename_i content
    split at read
    · cases read
      exact range content limit (Nat.le_refl _)
    · cases read
    · rename_i most _ _
      cases read
      exact range content _ (Nat.min_le_right _ _)
    · cases read
      exact range content limit (Nat.le_refl _)

theorem IsRange.append {node : Node} {offset : Nat} {data more : Bytes}
    (first : IsRange node offset data) (second : IsRange node (offset + data.length) more) :
    IsRange node offset (data ++ more) := by
  intro nonempty
  by_cases none : data = []
  · rw [none, List.nil_append] at nonempty ⊢
    rw [none] at second
    exact second nonempty
  · obtain ⟨content, file, front⟩ := first none
    by_cases last : more = []
    · rw [last, List.append_nil]
      exact ⟨content, file, front⟩
    · obtain ⟨other, same, back⟩ := second last
      rw [file] at same
      cases same
      refine ⟨content, file, ?_⟩
      rw [List.length_append, List.take_add, ← front, List.drop_drop, ← back]

/-! ### Sending -/

theorem run_cases {π : Type} [Peer π] {progress later : Progress π}
    {step : Upload → Client π → Except ClientError Unit × Upload × Client π}
    {outcome : Except Failure Unit} (ran : progress.run step = (outcome, later)) :
    ∃ result, step progress.upload progress.host.client =
        (result, later.upload, later.host.client) ∧
      (outcome = .ok () ↔ result = .ok ()) ∧ later.host.disk = progress.host.disk := by
  cases stepped : step progress.upload progress.host.client with
  | mk result rest =>
    simp only [Progress.run, stepped] at ran
    cases ran
    refine ⟨result, rfl, ?_, rfl⟩
    cases result with
    | ok _ => exact ⟨fun _ => rfl, fun _ => rfl⟩
    | error error =>
      constructor
      · intro impossible
        cases impossible
      · intro impossible
        cases impossible

theorem run_start_spec {progress later : Progress ObjectStore}
    (understands : UnderstandsUpload progress.upload.announcement)
    (pending : progress.upload.phase = .pending)
    (holds : Holds objects progress.host.client.network) {outcome : Except Failure Unit}
    (ran : progress.run (fun upload client => upload.start progress.host.disk client) =
      (outcome, later)) :
    Holds objects later.host.client.network ∧ later.host.disk = progress.host.disk ∧
      (outcome = .ok () → ∃ session,
        later.upload = { progress.upload with phase := .opened session } ∧
        Uploading objects progress.upload.announcement [] session.connection
          later.host.client.network) := by
  rcases run_cases ran with ⟨result, started, answered, sameDisk⟩
  rcases Upload.start_spec understands pending holds started with ⟨kept, begun⟩
  exact ⟨kept, sameDisk, fun well => begun (answered.mp well)⟩

theorem run_write_spec {progress later : Progress ObjectStore} {session : Session}
    (opened : progress.upload.phase = .opened session) {request : PutRequest} {sent data : Bytes}
    (nonempty : data ≠ []) (within : (Message.copyData data).encode.length ≤ Wire.maximumSize)
    {disk : Disk} (uploading :
      Uploading objects request sent session.connection progress.host.client.network)
    {outcome : Except Failure Unit}
    (ran : progress.run (fun upload client => upload.write data disk client) = (outcome, later)) :
    Holds objects later.host.client.network ∧ later.host.disk = progress.host.disk ∧
      (outcome = .ok () →
        later.upload = { progress.upload with written := progress.upload.written + data.length } ∧
        Uploading objects request (sent ++ data) session.connection
          later.host.client.network) := by
  rcases run_cases ran with ⟨result, wrote, answered, sameDisk⟩
  rcases Upload.write_spec opened nonempty within uploading wrote with ⟨kept, taken⟩
  exact ⟨kept, sameDisk, fun well => taken (answered.mp well)⟩

/-- However the end of an upload goes, the store holds what was sent or what it held before; when it
goes well it holds what was sent. -/
theorem run_close_spec {progress later : Progress ObjectStore} {session : Session}
    (opened : progress.upload.phase = .opened session) {request : PutRequest} {sent : Bytes}
    (uploading : Uploading objects request sent session.connection progress.host.client.network)
    {outcome : Except Failure Unit} (ran : progress.run Upload.close = (outcome, later)) :
    (Holds objects later.host.client.network ∨
        Holds (insertInto request.remotePath sent objects) later.host.client.network) ∧
      later.host.disk = progress.host.disk ∧
      (outcome = .ok () → later.upload = { progress.upload with phase := .closed } ∧
        Holds (insertInto request.remotePath sent objects) later.host.client.network) := by
  rcases run_cases ran with ⟨result, closed, answered, sameDisk⟩
  rcases Upload.close_spec opened uploading closed with ⟨stored | ⟨kept, failed⟩, after⟩
  · exact ⟨Or.inr stored, sameDisk, fun well => ⟨after (answered.mp well), stored⟩⟩
  · refine ⟨Or.inl kept, sameDisk, ?_⟩
    intro well
    exact absurd (answered.mp well) failed

def PiecesFit (bufferSize : Nat) : Prop :=
  ∀ data : Bytes, data.length ≤ bufferSize →
    (Message.copyData data).encode.length ≤ Wire.maximumSize

/-- Sending a range keeps the objects and the files.  When it goes well the store has taken exactly
as many bytes as were asked for, and they are a range of the file. -/
theorem sendRange_spec (replaced : Location) {node : Node} {bufferSize offset remaining : Nat}
    (fit : PiecesFit bufferSize) {progress later : Progress ObjectStore} {session : Session}
    (opened : progress.upload.phase = .opened session) {request : PutRequest} {sent : Bytes}
    (uploading :
      Uploading objects request sent session.connection progress.host.client.network)
    {outcome : Except Failure Unit}
    (done : sendRange node bufferSize offset remaining progress = (outcome, later)) :
    Holds objects later.host.client.network ∧
      Keeps replaced progress.host.disk later.host.disk ∧
      (outcome = .ok () → ∃ data, data.length = remaining ∧ IsRange node offset data ∧
        later.upload = { progress.upload with written := progress.upload.written + remaining } ∧
        Uploading objects request (sent ++ data) session.connection
          later.host.client.network) := by
  fun_induction sendRange node bufferSize offset remaining progress generalizing sent with
  | case1 offset progress =>
    cases done
    refine ⟨uploading.toHolds, Keeps.refl replaced _, fun _ => ⟨[], rfl, ?_, rfl, ?_⟩⟩
    · intro impossible
      exact absurd rfl impossible
    · rw [List.append_nil]
      exact uploading
  | case2 offset remaining progress owing error disk read =>
    cases done
    refine ⟨uploading.toHolds, keeps_readAt replaced read, ?_⟩
    intro impossible
    cases impossible
  | case3 offset remaining progress owing disk read =>
    cases done
    refine ⟨uploading.toHolds, keeps_readAt replaced read, ?_⟩
    intro impossible
    cases impossible
  | case4 offset remaining progress owing first rest disk read data reading failure failed =>
    rename_i ran
    cases done
    have limited : data.length ≤ min remaining bufferSize := (isRange_readAt read).1
    have nonempty : data ≠ [] := List.cons_ne_nil _ _
    have running : reading.upload.phase = .opened session := opened
    rcases run_write_spec running nonempty (fit data (by omega)) uploading ran with
      ⟨kept, sameDisk, _⟩
    rw [sameDisk]
    refine ⟨kept, keeps_readAt replaced read, ?_⟩
    intro impossible
    cases impossible
  | case5 offset remaining progress owing first rest disk read data reading moved ran =>
    rename_i ih
    have limited : data.length ≤ min remaining bufferSize := (isRange_readAt read).1
    have nonempty : data ≠ [] := List.cons_ne_nil _ _
    have running : reading.upload.phase = .opened session := opened
    rcases run_write_spec running nonempty (fit data (by omega)) uploading ran with
      ⟨_, sameDisk, taken⟩
    rcases taken rfl with ⟨written, further⟩
    have stillOpened : moved.upload.phase = .opened session := by
      rw [written]
      exact opened
    rcases ih stillOpened further done with ⟨holds, keeps, finished⟩
    rw [sameDisk] at keeps
    refine ⟨holds, (keeps_readAt replaced read).trans keeps, ?_⟩
    intro well
    rcases finished well with ⟨more, length, moreRange, upload, last⟩
    refine ⟨data ++ more, ?_, (isRange_readAt read).2.append moreRange, ?_, ?_⟩
    · rw [List.length_append, length]
      omega
    · have sum : progress.upload.written + data.length + (remaining - data.length) =
          progress.upload.written + remaining := by omega
      rw [upload, written]
      dsimp only
      rw [← sum]
    · rw [← List.append_assoc]
      exact last

/-- A whole transfer leaves the objects alone or stores one at the upload's path; when it goes well
the object is the range. -/
theorem transfer_spec (replaced : Location) {config : ClientConfig} {path : String} {node : Node}
    {offset length : Nat} (fit : PiecesFit config.readBufferSize.toNat)
    (progress : Progress ObjectStore) {later : Progress ObjectStore}
    (understands : UnderstandsUpload progress.upload.announcement)
    (pending : progress.upload.phase = .pending) (unwritten : progress.upload.written = 0)
    (holds : Holds objects progress.host.client.network) {outcome : Except Failure Unit}
    (done : transfer config path node offset length progress = (outcome, later)) :
    (Holds objects later.host.client.network ∨ ∃ data,
        Holds (insertInto progress.upload.remotePath data objects) later.host.client.network) ∧
      Keeps replaced progress.host.disk later.host.disk ∧
      (outcome = .ok () → ∃ data, data.length = length ∧ IsRange node offset data ∧
        later.upload = { progress.upload with phase := .closed, written := length } ∧
        Holds (insertInto progress.upload.remotePath data objects)
          later.host.client.network) := by
  cases ran : progress.run fun upload client => upload.start progress.host.disk client with
  | mk began begun =>
    rcases run_start_spec understands pending holds ran with ⟨kept, sameDisk, connected⟩
    have startKeeps : Keeps replaced progress.host.disk begun.host.disk := by
      rw [sameDisk]
      exact Keeps.refl replaced _
    cases began with
    | error failure =>
      simp only [transfer, ran] at done
      cases done
      refine ⟨Or.inl kept, startKeeps, ?_⟩
      intro impossible
      cases impossible
    | ok _ =>
      rcases connected rfl with ⟨session, opened, uploading⟩
      have phase : begun.upload.phase = .opened session := by
        rw [opened]
      cases sent : sendRange node config.readBufferSize.toNat offset length begun with
      | mk moving moved =>
        rcases sendRange_spec replaced fit phase uploading sent with ⟨movedHolds, keeps, finished⟩
        have keepsAll := startKeeps.trans keeps
        cases moving with
        | error failure =>
          simp only [transfer, ran, sent] at done
          cases done
          refine ⟨Or.inl movedHolds, keepsAll, ?_⟩
          intro impossible
          cases impossible
        | ok _ =>
          rcases finished rfl with ⟨data, size, range, upload, complete⟩
          rw [List.nil_append] at complete
          have movedPhase : moved.upload.phase = .opened session := by
            rw [upload]
            exact phase
          cases ended : moved.run Upload.close with
          | mk ending last =>
            rcases run_close_spec movedPhase complete ended with ⟨either, sameLast, stored⟩
            rw [← sameLast] at keepsAll
            have some : Holds objects last.host.client.network ∨ ∃ data,
                Holds (insertInto progress.upload.remotePath data objects)
                  last.host.client.network := by
              rcases either with same | stored
              · exact Or.inl same
              · exact Or.inr ⟨data, stored⟩
            cases ending with
            | error failure =>
              simp only [transfer, ran, sent, ended] at done
              cases done
              refine ⟨some, keepsAll, ?_⟩
              intro impossible
              cases impossible
            | ok _ =>
              simp only [transfer, ran, sent, ended] at done
              cases done
              rcases stored rfl with ⟨closed, holdsData⟩
              refine ⟨some, keepsAll, fun _ => ⟨data, size, range, ?_, holdsData⟩⟩
              rw [closed, upload, opened, unwritten, Nat.zero_add]

/-! ### Offloads -/

/-- Client and store have the same connections. -/
def Matched (host : Host ObjectStore) : Prop :=
  Holds host.client.network.peer.objects host.client.network

def object? (host : Host ObjectStore) (path : String) : Option Bytes :=
  host.client.network.peer.object? path

theorem object?_of_holds {objects : List (String × Bytes)} {host : Host ObjectStore}
    (holds : Holds objects host.client.network) (path : String) :
    object? host path = (objects.find? fun object => object.1 == path).map Prod.snd := by
  rw [object?, ObjectStore.object?, holds.objects]

theorem matched_of_holds {objects : List (String × Bytes)} {host : Host ObjectStore}
    (holds : Holds objects host.client.network) : Matched host :=
  ⟨holds.matched, rfl⟩

/-- Nothing has changed but one object, files that hold no segment, and what is under way. -/
structure ChangesAt (replaced : Location) (path : String) (host later : Host ObjectStore) :
    Prop where
  matched : Matched later
  keeps : Keeps replaced host.disk later.disk
  others : ∀ other, other ≠ path → object? later other = object? host other

theorem changesAt_refl (replaced : Location) (path : String) {host : Host ObjectStore}
    (matched : Matched host) : ChangesAt replaced path host host :=
  ⟨matched, Keeps.refl replaced _, fun _ _ => rfl⟩

theorem changesAt_of_holds {replaced : Location} {path : String} {host later : Host ObjectStore}
    (keeps : Keeps replaced host.disk later.disk)
    (holds : Holds host.client.network.peer.objects later.client.network ∨ ∃ data,
      Holds (insertInto path data host.client.network.peer.objects) later.client.network) :
    ChangesAt replaced path host later := by
  rcases holds with same | ⟨data, stored⟩
  · refine ⟨matched_of_holds same, keeps, ?_⟩
    intro other _
    rw [object?_of_holds same]
    rfl
  · refine ⟨matched_of_holds stored, keeps, ?_⟩
    intro other apart
    rw [object?_of_holds stored, ObjectStore.find?_insertInto_of_ne apart]
    rfl

/-- What it takes for the store to understand every message of an offload: no text holds the
character that ends texts, and all messages are small enough. -/
structure UnderstandsOffload (config : ClientConfig) (segment : Segment)
    (logPosition : UInt64) : Prop where
  digest : NulFree segment.relationHash
  storageClass : NulFree config.storageClass
  tableSpace : NulFree config.tableSpace
  announcements : ∀ modificationCount plannedLength,
    (Message.put (Upload.new config segment modificationCount logPosition
      plannedLength).announcement).encode.length ≤ Wire.maximumSize
  pieces : PiecesFit config.readBufferSize.toNat

theorem UnderstandsOffload.announcement {config : ClientConfig} {segment : Segment}
    {logPosition : UInt64} (understands : UnderstandsOffload config segment logPosition)
    (modificationCount plannedLength : UInt64) : UnderstandsUpload
      (Upload.new config segment modificationCount logPosition plannedLength).announcement where
  free := ⟨nulFree_chunkPath understands.digest _ _, understands.storageClass,
    understands.tableSpace⟩
  within := understands.announcements modificationCount plannedLength

theorem length_encode_put_le (request : PutRequest) :
    (Message.put request).encode.length ≤ (textBytes request.remotePath).length +
      (textBytes request.storageClass).length + (textBytes request.tableSpace).length + 200 := by
  have size := length_textBytes_word_le request.multipartChunkSize
  have choice : ∀ multipart : Bool,
      (textBytes (if multipart then "1" else "0")).length = 1 := by decide +kernel
  have storageKey : (textBytes Wire.Settings.storageClass).length = 12 := by decide +kernel
  have sizeKey : (textBytes Wire.Settings.multipartChunkSize).length = 18 := by decide +kernel
  have uploadKey : (textBytes Wire.Settings.multipartUpload).length = 15 := by decide +kernel
  have spaceKey : (textBytes Wire.Settings.tableSpace).length = 10 := by decide +kernel
  rw [Message.length_encode, Wire.headerSize]
  simp only [Message.body, PutRequest.settings, Wire.Settings.bytes, List.flatMap_cons,
    List.flatMap_nil, List.append_nil, List.length_append, Wire.length_textField, length_wordBytes,
    storageKey, sizeKey, uploadKey, spaceKey, choice]
  omega

/-- Texts that leave some room within a message are short enough for every count and every log
position. -/
theorem understandsOffload_of_short {config : ClientConfig} {segment : Segment}
    (digest : NulFree segment.relationHash) (storageClass : NulFree config.storageClass)
    (tableSpace : NulFree config.tableSpace)
    (texts : (textBytes segment.filePath).length + (textBytes config.storageClass).length +
      (textBytes config.tableSpace).length + 256 ≤ Wire.maximumSize)
    (buffer : config.readBufferSize.toNat + 20 ≤ Wire.maximumSize) (logPosition : UInt64) :
    UnderstandsOffload config segment logPosition where
  digest := digest
  storageClass := storageClass
  tableSpace := tableSpace
  announcements := by
    intro modificationCount plannedLength
    have path := length_chunkPath_le segment modificationCount logPosition
    apply Nat.le_trans (length_encode_put_le _)
    change (textBytes (segment.chunkPath modificationCount logPosition)).length +
      (textBytes config.storageClass).length + (textBytes config.tableSpace).length + 200 ≤ _
    omega
  pieces := by
    intro data short
    rw [Message.length_encode, Wire.headerSize, Message.body, List.length_append,
      length_wordBytes]
    omega

def describedChunk (config : ClientConfig) (segment : Segment)
    (modificationCount logPosition startOffset : UInt64) (length : Nat) : Chunk where
  modificationCount
  logPosition
  remotePath := segment.chunkPath modificationCount logPosition
  byteLength := UInt64.ofNat length
  startOffset
  encrypted := config.encrypt

theorem stat_of_openNode {disk : Disk} {path : String} {node : Node}
    (opened : disk.openNode path = .ok node) : disk.stat path = .ok node := by
  unfold Disk.openNode at opened
  split at opened
  · cases opened
  · cases opened
  · rename_i found
    cases opened
    exact found

theorem range_of_openNode {disk : Disk} {path : String} {node : Node}
    (opened : disk.openNode path = .ok node) {logicalEnd alreadyOffloaded : UInt64}
    (long : logicalEnd.toNat ≤ node.size) (order : ¬logicalEnd < alreadyOffloaded)
    (ahead : logicalEnd ≠ alreadyOffloaded) {data : Bytes}
    (size : data.length = logicalEnd.toNat - alreadyOffloaded.toNat)
    (range : IsRange node alreadyOffloaded.toNat data) :
    alreadyOffloaded.toNat < logicalEnd.toNat ∧
      ∃ content, disk.stat path = .ok (.file content) ∧ logicalEnd.toNat ≤ content.length ∧
        data = (content.drop alreadyOffloaded.toNat).take
          (logicalEnd.toNat - alreadyOffloaded.toNat) := by
  have positive : alreadyOffloaded.toNat < logicalEnd.toNat := by
    have apart : logicalEnd.toNat ≠ alreadyOffloaded.toNat :=
      fun same => ahead (UInt64.toNat_inj.mp same)
    have notLess : ¬logicalEnd.toNat < alreadyOffloaded.toNat := order
    omega
  have nonempty : data ≠ [] := by
    rw [← List.length_pos_iff, size]
    omega
  rcases range nonempty with ⟨content, file, same⟩
  have found := stat_of_openNode opened
  rw [file] at found long
  rw [size] at same
  exact ⟨positive, content, found, long, same⟩

theorem holds_abandon {upload : Upload} {client : Client ObjectStore}
    (holds : Holds objects client.network) : Holds objects (upload.abandon client).network := by
  cases phase : upload.phase with
  | opened session =>
    simp only [Upload.abandon, Upload.hangUp, phase]
    exact holds.release _
  | _ =>
    simp only [Upload.abandon, phase]
    exact holds

/-- An offload changes at most the object at the path of its chunk, and when it goes well that
object holds the range that the chunk describes. -/
theorem offload_spec (replaced : Location) {config : ClientConfig} {segment : Segment}
    {modificationCount logPosition logicalEnd alreadyOffloaded : UInt64} {path : String}
    (understands : UnderstandsOffload config segment logPosition)
    {host later : Host ObjectStore} (matched : Matched host) {outcome : Except Failure Chunk}
    (done : offload config segment modificationCount logPosition path logicalEnd alreadyOffloaded
      host = (outcome, later)) :
    ChangesAt replaced (segment.chunkPath modificationCount logPosition) host later ∧
      ∀ chunk, outcome = .ok chunk → logicalEnd ≠ alreadyOffloaded →
        alreadyOffloaded.toNat < logicalEnd.toNat ∧
        ∃ content, host.disk.stat path = .ok (.file content) ∧
          logicalEnd.toNat ≤ content.length ∧
          chunk = describedChunk config segment modificationCount logPosition alreadyOffloaded
            (logicalEnd.toNat - alreadyOffloaded.toNat) ∧
          object? later (segment.chunkPath modificationCount logPosition) =
            some ((content.drop alreadyOffloaded.toNat).take
              (logicalEnd.toNat - alreadyOffloaded.toNat)) := by
  have untouched := changesAt_refl replaced
    (segment.chunkPath modificationCount logPosition) matched
  unfold offload at done
  cases opened : host.disk.openNode path with
  | error error =>
    rw [opened] at done
    cases done
    refine ⟨untouched, ?_⟩
    intro chunk impossible
    cases impossible
  | ok node =>
    simp only [opened] at done
    by_cases short : node.size < logicalEnd.toNat
    · rw [if_pos short] at done
      cases done
      refine ⟨untouched, ?_⟩
      intro chunk impossible
      cases impossible
    · by_cases past : logicalEnd < alreadyOffloaded
      · rw [if_neg short, if_pos past] at done
        cases done
        refine ⟨untouched, ?_⟩
        intro chunk impossible
        cases impossible
      · rw [if_neg short, if_neg past] at done
        let begun : Progress ObjectStore :=
          ⟨Upload.new config segment modificationCount logPosition (UInt64.ofNat node.size), host⟩
        cases moved : transfer config path node alreadyOffloaded.toNat
            (logicalEnd.toNat - alreadyOffloaded.toNat) begun with
        | mk result progress =>
          obtain ⟨either, keeps, finished⟩ := transfer_spec replaced understands.pieces begun
            (understands.announcement modificationCount _) rfl rfl matched moved
          rw [moved] at done
          cases result with
          | error failure =>
            cases done
            refine ⟨changesAt_of_holds keeps ?_, ?_⟩
            · rcases either with same | ⟨data, stored⟩
              · exact Or.inl (holds_abandon same)
              · exact Or.inr ⟨data, holds_abandon stored⟩
            · intro chunk impossible
              cases impossible
          | ok _ =>
            cases done
            refine ⟨changesAt_of_holds keeps either, ?_⟩
            intro chunk made ahead
            cases made
            rcases finished rfl with ⟨data, size, range, upload, stored⟩
            rcases range_of_openNode opened (Nat.le_of_not_lt short) past ahead size range with
              ⟨positive, content, found, long, same⟩
            refine ⟨positive, content, found, long, ?_, ?_⟩
            · rw [upload]
              rfl
            · rw [object?_of_holds stored, ← same]
              exact congrArg (Option.map Prod.snd) (ObjectStore.find?_insertInto_self _ _ _)

/-- A catalog with one row more, for a range of a segment's file that the store now holds. -/
structure Records (config : ClientConfig) (segment : Segment)
    (modificationCount logPosition startOffset : UInt64) (path : String) (catalog after : Catalog)
    (host later : Host ObjectStore) (content : Bytes) : Prop where
  file : host.disk.stat path = .ok (.file content)
  further : startOffset.toNat < (UInt64.ofNat content.length).toNat
  rows : after = { catalog with
    rows := catalog.rows ++ [⟨segment, describedChunk config segment modificationCount logPosition
      startOffset ((UInt64.ofNat content.length).toNat - startOffset.toNat)⟩] }
  stored : object? later (segment.chunkPath modificationCount logPosition) =
    some ((content.drop startOffset.toNat).take
      ((UInt64.ofNat content.length).toNat - startOffset.toNat))

/-- An offload that fails, for whatever reason and at whatever point, leaves the catalog as it
was. -/
theorem catalog_of_failed_offload {π : Type} [Peer π] {config : ClientConfig}
    {catalog after : Catalog} {segment : Segment} {logPosition : UInt64} {path : String}
    {host later : Host π} {failure : Failure}
    (done : offloadAndRecord config catalog segment logPosition path host =
      (.error failure, after, later)) : after = catalog := by
  unfold offloadAndRecord at done
  split at done
  · cases done
    rfl
  · split at done
    · cases done
      rfl
    · simp only at done
      split at done
      · cases done
      · split at done
        · cases done
          rfl
        · split at done
          · cases done
          · rename_i error _ _ recorded
            cases done
            exact (Catalog.record_cases recorded).2.2 error rfl

/-- What an offload with its record changes: nothing, or the one object and the one row that belong
to the next chunk of the segment. -/
theorem offloadAndRecord_spec {config : ClientConfig} {catalog after : Catalog}
    {segment : Segment} {logPosition : UInt64} {path : String}
    (understands : UnderstandsOffload config segment logPosition)
    {host later : Host ObjectStore} (matched : Matched host)
    {outcome : Except Failure (Option Chunk)}
    (done : offloadAndRecord config catalog segment logPosition path host =
      (outcome, after, later)) :
    later = host ∧ after = catalog ∨
      ∃ alreadyOffloaded modificationCount,
        nextChunk catalog segment = .ok (alreadyOffloaded, modificationCount) ∧
        ChangesAt (host.disk.place catalog.path)
          (segment.chunkPath modificationCount logPosition) host later ∧
        (after = catalog ∨ ∃ content, Records config segment modificationCount logPosition
          alreadyOffloaded path catalog after host later content) := by
  unfold offloadAndRecord at done
  cases next : nextChunk catalog segment with
  | error overflow =>
    rw [next] at done
    cases done
    exact Or.inl ⟨rfl, rfl⟩
  | ok pair =>
    rcases pair with ⟨alreadyOffloaded, modificationCount⟩
    simp only [next] at done
    cases found : host.disk.stat path with
    | error error =>
      rw [found] at done
      cases done
      exact Or.inl ⟨rfl, rfl⟩
    | ok node =>
      simp only [found] at done
      by_cases nothing : UInt64.ofNat node.size = alreadyOffloaded
      · rw [if_pos nothing] at done
        cases done
        exact Or.inl ⟨rfl, rfl⟩
      · rw [if_neg nothing] at done
        cases moved : offload config segment modificationCount logPosition path
            (UInt64.ofNat node.size) alreadyOffloaded host with
        | mk result middle =>
          rcases offload_spec (host.disk.place catalog.path) understands matched moved with
            ⟨changes, finished⟩
          rw [moved] at done
          cases result with
          | error failure =>
            cases done
            exact Or.inr ⟨_, _, rfl, changes, Or.inl rfl⟩
          | ok chunk =>
            cases recorded : catalog.record ⟨segment, chunk⟩ middle.disk with
            | mk answer rest =>
              rcases Catalog.record_cases recorded with ⟨keeps, written, unwritten⟩
              rw [changes.keeps.place] at keeps
              have all : ChangesAt (host.disk.place catalog.path)
                  (segment.chunkPath modificationCount logPosition) host
                  { middle with disk := rest.2 } :=
                ⟨changes.matched, changes.keeps.trans keeps, changes.others⟩
              simp only [recorded] at done
              cases answer with
              | error error =>
                cases done
                exact Or.inr ⟨_, _, rfl, all, Or.inl (unwritten error rfl)⟩
              | ok _ =>
                cases done
                refine Or.inr ⟨_, _, rfl, all, Or.inr ?_⟩
                rcases finished chunk rfl nothing with
                  ⟨further, content, file, _, described, stored⟩
                rw [found] at file
                cases file
                refine ⟨content, found, further, ?_, stored⟩
                rw [written rfl, described]
                rfl

end Offload

end SegmentOffload
