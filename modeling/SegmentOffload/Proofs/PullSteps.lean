import SegmentOffload.Host
import SegmentOffload.Proofs.DownloadLoop
import SegmentOffload.Proofs.Interleaving

/-!
A pull, step by step.

Connecting, asking, reading and hanging up are a step each, so others may take theirs in between.
With nobody else at work the steps together are the pull.
-/

namespace SegmentOffload

variable {π α : Type} [Peer π]

/-! ### Steps on a host -/

namespace Host

omit [Peer π] in
def withTurns (turns : List Wire.Turn) (host : Host π) : Host π :=
  { host with disk := { host.disk with turns } }

def onDisk (act : Disk → α × Disk) : Steps (Host π) α :=
  .call fun host => ((act host.disk).1, { host with disk := (act host.disk).2 })

def onClient (act : Client π → α × Client π) : Steps (Host π) α :=
  .call fun host => ((act host.client).1, { host with client := (act host.client).2 })

def onNetwork (act : Network π → α × Network π) : Steps (Host π) α :=
  onClient fun client =>
    ((act client.network).1, { client with network := (act client.network).2 })

omit [Peer π] in
@[simp] theorem run_onDisk (act : Disk → α × Disk) (host : Host π) :
    (onDisk act).run host = ((act host.disk).1, { host with disk := (act host.disk).2 }) := rfl

omit [Peer π] in
@[simp] theorem run_onClient (act : Client π → α × Client π) (host : Host π) :
    (onClient act).run host = ((act host.client).1, { host with client := (act host.client).2 }) :=
  rfl

end Host

open Host (onDisk onClient onNetwork)

/-! ### Pulling -/

namespace Download

def connectStep (config : ClientConfig) (remotePath : String) :
    Steps (Host π) (Except ClientError Session) :=
  .call fun host =>
    let (outcome, network) :=
      Session.connect host.disk config.socketPath remotePath host.client.network
    (outcome, { host with client := { host.client with network } })

/-- Connect, and ask for a chunk from an offset on. -/
def requestSteps (config : ClientConfig) (chunk : Chunk) (offset : Nat) :
    Steps (Host π) (Except ClientError Session) :=
  (connectStep config chunk.remotePath).bind fun
    | .error error => .done (.error error)
    | .ok session =>
      (onNetwork (session.send (question config chunk offset).encode "requesting chunk")).bind
        fun outcome => .done (outcome.map fun _ => session)

def hangUpStep (download : Download) : Steps (Host π) Unit :=
  onClient fun client => ((), download.hangUp client)

def readSteps (session : Session) (capacity : Nat) (download : Download) :
    Steps (Host π) (Except ClientError Pulled × Download) :=
  (onNetwork (session.read (min capacity download.remaining))).bind fun
    | .error error =>
      .done (.error (.transport "reading chunk" download.currentPath error), download)
    | .ok [] => .done (.error download.endedEarly, download)
    | .ok data =>
      let advanced := download.advance data.length
      if advanced.remaining = 0 then
        download.hangUpStep.bind fun _ => .done (.ok (.bytes data), advanced)
      else .done (.ok (.bytes data), advanced)

def attemptSteps (capacity : Nat) (download : Download) :
    Steps (Host π) (Except ClientError Pulled × Download) :=
  match download.phase with
  | .streaming session => readSteps session capacity download
  | _ =>
    match download.chunks[download.position]? with
    | none => .done (.ok .endOfStream, { download with phase := .exhausted })
    | some chunk =>
      (requestSteps download.config chunk download.offset).bind fun
        | .error error => .done (.error error, download.begin chunk)
        | .ok session =>
          readSteps session capacity { download.begin chunk with phase := .streaming session }

def reportStep (entry : LogEntry) : Steps (Host π) Unit :=
  onClient fun client => ((), client.report entry)

def giveUpStep (error : ClientError) (download : Download) :
    Steps (Host π) (Except ClientError Pulled × Download) :=
  onClient fun client =>
    ((.error (download.giveUp error client).1, (download.giveUp error client).2.1),
      (download.giveUp error client).2.2)

/-- What follows an attempt: nothing when it went well. -/
def afterAttempt (onFailure : ClientError → Download →
      Steps (Host π) (Except ClientError Pulled × Download)) :
    Except ClientError Pulled × Download → Steps (Host π) (Except ClientError Pulled × Download)
  | (.ok pulled, download) => .done (.ok pulled, download)
  | (.error error, failed) => failed.hangUpStep.bind fun _ => onFailure error failed.afterFailure

/-- Attempt again and again, forgiving so many failures. -/
def patientSteps (capacity : Nat) : (patience : Nat) → Download →
    Steps (Host π) (Except ClientError Pulled × Download)
  | 0, download => (attemptSteps capacity download).bind (afterAttempt giveUpStep)
  | patience + 1, download =>
    (attemptSteps capacity download).bind <| afterAttempt fun error download =>
      if error.isRetryable then
        (reportStep (download.retryEntry error)).bind fun _ =>
          patientSteps capacity patience download
      else giveUpStep error download

def pullSteps (capacity : Nat) (download : Download) :
    Steps (Host π) (Except ClientError Pulled × Download) :=
  match download.phase with
  | .failed account => .done (.error (download.exhaustedRetries account), download)
  | .exhausted => .done (.ok .endOfStream, download)
  | _ =>
    if capacity = 0 then .done (.ok (.bytes []), download)
    else patientSteps capacity download.patience download

/-! ### Pulling alone -/

def Attempt.result : Attempt π → Except ClientError Pulled × Download
  | .bytes data download _ => (.ok (.bytes data), download)
  | .endOfStream download _ => (.ok .endOfStream, download)
  | .failure error download _ => (.error error, download)

def Attempt.client : Attempt π → Client π
  | .bytes _ _ client => client
  | .endOfStream _ client => client
  | .failure _ _ client => client

theorem run_requestSteps (config : ClientConfig) (chunk : Chunk) (offset : Nat) (host : Host π) :
    (requestSteps config chunk offset).run host =
      ((request config chunk offset host.disk host.client.network).1,
        { host with client := { host.client with
            network := (request config chunk offset host.disk host.client.network).2 } }) := by
  unfold requestSteps request connectStep
  rw [Steps.run_bind, Steps.run_call]
  cases connected : Session.connect host.disk config.socketPath chunk.remotePath
      host.client.network with
  | mk outcome network =>
    cases outcome with
    | error error => rfl
    | ok session =>
      dsimp only
      rw [Steps.run_bind, onNetwork, Host.run_onClient]
      dsimp only
      cases sent : session.send (question config chunk offset).encode "requesting chunk"
          network with
      | mk outcome later =>
        cases outcome with
        | error error => rfl
        | ok nothing => rfl

theorem run_readSteps (session : Session) (capacity : Nat) (download : Download)
    (host : Host π) :
    (readSteps session capacity download).run host =
      ((readFrom session capacity download host.client).result,
        { host with client := (readFrom session capacity download host.client).client }) := by
  unfold readSteps readFrom
  rw [Steps.run_bind, onNetwork, Host.run_onClient]
  dsimp only
  cases session.read (min capacity download.remaining) host.client.network with
  | mk outcome network =>
    cases outcome with
    | error error => rfl
    | ok data =>
      cases data with
      | nil => rfl
      | cons first rest =>
        by_cases complete : (download.advance (first :: rest).length).remaining = 0
        · simp only [if_pos complete]
          rfl
        · simp only [if_neg complete]
          rfl

theorem run_attemptSteps (capacity : Nat) (download : Download) (host : Host π) :
    (attemptSteps capacity download).run host =
      ((download.attempt capacity host.disk host.client).result,
        { host with client := (download.attempt capacity host.disk host.client).client }) := by
  unfold attemptSteps
  split
  · rename_i session phase
    rw [attempt_of_streaming phase]
    exact run_readSteps session capacity download host
  · rename_i idle
    cases found : download.chunks[download.position]? with
    | none =>
      rw [attempt_of_unwanted (by rw [wanted?_of_idle idle, found]) idle]
      rfl
    | some chunk =>
      dsimp only
      rw [attempt_of_wanted (by rw [wanted?_of_idle idle, found]), Steps.run_bind,
        run_requestSteps]
      cases request download.config chunk download.offset host.disk host.client.network with
      | mk outcome network =>
        cases outcome with
        | error error => rfl
        | ok session => exact run_readSteps session capacity _ _

theorem run_afterAttempt_failure {onFailure : ClientError → Download →
      Steps (Host π) (Except ClientError Pulled × Download)} (error : ClientError)
    (failed : Download) (host : Host π) :
    (afterAttempt onFailure (.error error, failed)).run host =
      (onFailure error failed.afterFailure).run
        { host with client := failed.hangUp host.client } := rfl

theorem run_patientSteps (capacity patience : Nat) (download : Download) (host : Host π) :
    (patientSteps capacity patience download).run host =
      let (outcome, later, client) :=
        pullPatiently capacity host.disk patience download host.client
      ((outcome, later), { host with client }) := by
  induction patience generalizing download host with
  | zero =>
    unfold patientSteps pullPatiently
    rw [Steps.run_bind, run_attemptSteps]
    cases download.attempt capacity host.disk host.client with
    | bytes data later client => rfl
    | endOfStream later client => rfl
    | failure error failed client => rfl
  | succ patience ih =>
    unfold patientSteps pullPatiently
    rw [Steps.run_bind, run_attemptSteps]
    cases download.attempt capacity host.disk host.client with
    | bytes data later client => rfl
    | endOfStream later client => rfl
    | failure error failed client =>
      dsimp only [Attempt.result, Attempt.client]
      rw [run_afterAttempt_failure]
      cases retryable : error.isRetryable with
      | false =>
        rw [if_neg Bool.false_ne_true]
        rfl
      | true =>
        rw [if_pos rfl, Steps.run_bind, reportStep, Host.run_onClient]
        exact ih failed.afterFailure _

theorem run_pullSteps (capacity : Nat) (download : Download) (host : Host π) :
    (pullSteps capacity download).run host =
      let (outcome, later, client) := download.pull capacity host.disk host.client
      ((outcome, later), { host with client }) := by
  unfold pullSteps pull
  cases download.phase with
  | failed account => rfl
  | exhausted => rfl
  | _ =>
    dsimp only
    split
    · rfl
    · exact run_patientSteps capacity _ download host

/-! ### Reaching the peer -/

/-- A pull only asks the disk whether sockets can be reached. -/
theorem pull_congr {disk other : Disk}
    (same : ∀ socket, disk.reachSocket socket = other.reachSocket socket) (capacity : Nat)
    (download : Download) (client : Client π) :
    download.pull capacity disk client = download.pull capacity other client := by
  have connecting (socket : String) (network : Network π) :
      network.connect disk socket = network.connect other socket := by
    rw [Network.connect, Network.connect, same]
  have asking (config : ClientConfig) (chunk : Chunk) (offset : Nat) (network : Network π) :
      request config chunk offset disk network = request config chunk offset other network := by
    rw [request, request, Session.connect, Session.connect, connecting]
  have attempting (download : Download) (client : Client π) :
      download.attempt capacity disk client = download.attempt capacity other client := by
    unfold attempt
    simp only [asking]
  have patiently (patience : Nat) (download : Download) (client : Client π) :
      pullPatiently capacity disk patience download client =
        pullPatiently capacity other patience download client := by
    induction patience generalizing download client with
    | zero =>
      unfold pullPatiently
      rw [attempting]
    | succ patience ih =>
      unfold pullPatiently
      rw [attempting]
      cases download.attempt capacity other client with
      | bytes data later client => rfl
      | endOfStream later client => rfl
      | failure error failed client =>
        dsimp only
        cases error.isRetryable with
        | false => rfl
        | true => exact ih _ _
  unfold pull
  simp only [patiently]

end Download

end SegmentOffload
