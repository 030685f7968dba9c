import SegmentOffload.Proofs.Connections
import SegmentOffload.Proofs.DownloadAccounts

/-!
What one pull of a download hands out, whatever its peer does.

The peer may refuse connections, fail in the middle of a question, deliver in any pieces, interrupt,
fail, and stop early, as long as the bytes it does deliver are the front of what it was asked for.
Two facts are carried through every attempt: the cursor agrees with what was handed out, and what is
about to arrive on an open connection is what follows the cursor.
-/

namespace SegmentOffload

open Wire (arrivingBytes)

/-- A peer that answers questions for some chunks truthfully, as far as it answers them.  The
predicate says which states of the peer are meant after a number of connections. -/
structure ServesObjects {π : Type} [Peer π] (objects : String → Bytes) (config : ClientConfig)
    (chunks : List Chunk) (meant : Nat → π → Prop) : Prop where
  declining : ∀ {count peer error later}, meant count peer →
    Peer.accept count peer = (.error error, later) → meant count later
  accepting : ∀ {count peer opening later}, meant count peer →
    Peer.accept count peer = (.ok opening, later) → meant (count + 1) later
  /-- What the peer hears of a question may be cut off. -/
  hearing : ∀ {count peer opening later}, meant count peer →
    Peer.accept count peer = (.ok opening, later) →
    ∀ chunk ∈ chunks, ∀ offset < chunk.byteLength.toNat,
      let question := (Download.question config chunk offset).encode
      meant (count + 1)
        (Peer.hear count (Wire.writeAll question opening.turns).accepted later).2
  /-- The answer is the front of the object behind the offset, in any pieces and with any failures
  in between. -/
  answering : ∀ {count peer opening later}, meant count peer →
    Peer.accept count peer = (.ok opening, later) →
    ∀ chunk ∈ chunks, ∀ offset < chunk.byteLength.toNat,
      let question := (Download.question config chunk offset).encode
      arrivingBytes (opening.reaction.arrivals ++ (Peer.hear count question later).1.arrivals) <+:
        (objects chunk.remotePath).drop offset
  releasing : ∀ {count peer connection}, meant count peer →
    meant count (Peer.release connection peer)

theorem Wire.Message.encode_ne_nil (message : Wire.Message) : message.encode ≠ [] := by
  intro none
  rw [Wire.Message.encode, Wire.Header.bytes, List.append_assoc, List.cons_append] at none
  exact List.cons_ne_nil _ _ (List.append_eq_nil_iff.mp none).2

namespace Download

variable {π : Type} [Peer π] {objects : String → Bytes} {config : ClientConfig}
  {chunks : List Chunk} {meant : Nat → π → Prop} {handed : Bytes}

/-! ### Connections -/

/-- The peer is as it is meant to be after the connections that were made. -/
def Reached (meant : Nat → π → Prop) (network : Network π) : Prop :=
  meant network.lines.length network.peer

/-- What is about to arrive where a download streams from is what follows its cursor. -/
structure Attached (objects : String → Bytes) (meant : Nat → π → Prop) (download : Download)
    (client : Client π) : Prop where
  reached : Reached meant client.network
  begun : ∀ session, download.phase = .streaming session → download.remaining ≠ 0
  arriving : ∀ session line, download.phase = .streaming session →
    client.network.openLine? session.connection = some line →
    arrivingBytes line.arrivals <+: (objects download.currentPath).drop download.consumed

theorem reached_release (serves : ServesObjects objects config chunks meant)
    {network : Network π} (reached : Reached meant network) (connection : Nat) :
    Reached meant (network.release connection) := by
  obtain ⟨count, untouched | told⟩ := network.release_cases connection
  · rw [Reached, count, untouched]
    exact reached
  · rw [Reached, count, told]
    exact serves.releasing reached

theorem reached_hangUp (serves : ServesObjects objects config chunks meant)
    {client : Client π} (reached : Reached meant client.network) (download : Download) :
    Reached meant (download.hangUp client).network := by
  unfold hangUp
  split
  · exact reached_release serves reached _
  · exact reached

/-- Asking for a chunk leads to an answer that follows the offset, or to no session. -/
theorem request_spec (serves : ServesObjects objects config chunks meant) {chunk : Chunk}
    (listed : chunk ∈ chunks) {offset : Nat} (inside : offset < chunk.byteLength.toNat)
    {disk : Disk} {network later : Network π} {outcome : Except ClientError Session}
    (reached : Reached meant network)
    (asked : request config chunk offset disk network = (outcome, later)) :
    Reached meant later ∧ ∀ session, outcome = .ok session →
      ∃ line, later.openLine? session.connection = some line ∧
        arrivingBytes line.arrivals <+: (objects chunk.remotePath).drop offset := by
  cases connected : network.connect disk config.socketPath with
  | mk result middle =>
    cases result with
    | error error =>
      simp only [request, Session.connect, connected] at asked
      cases asked
      constructor
      · rcases Network.connect_eq_error connected with same | ⟨peer, declined, same⟩
        · rw [same]
          exact reached
        · rw [same]
          exact serves.declining reached declined
      · intro session impossible
        cases impossible
    | ok connection =>
      obtain ⟨opening, peer, accepted, rfl, rfl⟩ := Network.connect_eq_ok connected
      have found := Network.openLine?_connected network opening peer
      cases sent : Network.send network.lines.length (question config chunk offset).encode
          ⟨peer, network.lines ++ [.ofOpening opening]⟩ with
      | mk result last =>
        have heard : Reached meant last := by
          obtain ⟨count, told⟩ := Network.send_cases found sent
          rw [Reached, count, List.length_append]
          rcases told with untouched | told
          · rw [untouched]
            exact serves.accepting reached accepted
          · rw [told]
            exact serves.hearing reached accepted chunk listed offset inside
        cases result with
        | error error =>
          simp only [request, Session.connect, connected, Session.send, sent] at asked
          cases asked
          refine ⟨reached_release serves heard _, ?_⟩
          intro session impossible
          cases impossible
        | ok _ =>
          simp only [request, Session.connect, connected, Session.send, sent] at asked
          cases asked
          refine ⟨heard, ?_⟩
          intro session made
          cases made
          rcases Network.send_eq_ok found (Wire.Message.encode_ne_nil _) sent with
            ⟨_, line, held, arrivals⟩
          refine ⟨line, held, ?_⟩
          rw [arrivals]
          exact serves.answering reached accepted chunk listed offset inside

/-! ### Attempts -/

/-- The accounts and the connection of a download, both in order. -/
structure OnTrack (objects : String → Bytes) (config : ClientConfig) (chunks : List Chunk)
    (meant : Nat → π → Prop) (handed : Bytes) (download : Download) (client : Client π) :
    Prop where
  accounts : Accounts objects config chunks handed download
  attached : Attached objects meant download client

omit [Peer π] in
theorem attached_of_not_streaming {download : Download} {client : Client π}
    (reached : Reached meant client.network)
    (idle : ∀ session, download.phase ≠ .streaming session) :
    Attached objects meant download client where
  reached := reached
  begun := by
    intro session streaming
    exact absurd streaming (idle session)
  arriving := by
    intro session line streaming
    exact absurd streaming (idle session)

/-- What an attempt may come to: bytes of one chunk that come next, the end with everything handed
out, or a failure that changes nothing. -/
def Attempt.IsSound (objects : String → Bytes) (config : ClientConfig) (chunks : List Chunk)
    (meant : Nat → π → Prop) (handed : Bytes) (capacity : Nat) : Attempt π → Prop
  | .bytes data later after =>
    data ≠ [] ∧ data.length ≤ capacity ∧ LiesWithinChunk objects chunks handed data ∧
      OnTrack objects config chunks meant (handed ++ data) later after
  | .endOfStream later after =>
    later.phase = .exhausted ∧ OnTrack objects config chunks meant handed later after
  | .failure _ later after =>
    Accounts objects config chunks handed later ∧ Reached meant after.network

/-- A chunk that is complete is let go of, one that is not is streamed further. -/
theorem advance_cases (count : Nat) (download : Download) :
    ((download.advance count).remaining = 0 ∧
        ∀ session, (download.advance count).phase ≠ .streaming session) ∨
      ((download.advance count).remaining ≠ 0 ∧
        (download.advance count).phase = download.phase ∧
        (download.advance count).currentPath = download.currentPath ∧
        (download.advance count).consumed = download.consumed + count) := by
  unfold advance
  dsimp only
  split
  · rename_i finished
    refine Or.inl ⟨finished, ?_⟩
    intro session streaming
    dsimp only at streaming
    split at streaming <;> cases streaming
  · rename_i owing
    exact Or.inr ⟨owing, rfl, rfl, rfl⟩

theorem readFrom_isSound (serves : ServesObjects objects config chunks meant) {session : Session}
    {capacity : Nat} {download : Download} {client : Client π}
    (track : OnTrack objects config chunks meant handed download client)
    (streaming : download.phase = .streaming session) :
    (readFrom session capacity download client).IsSound objects config chunks meant handed
      capacity := by
  obtain ⟨accounts, attached⟩ := track
  have begun := attached.begun session streaming
  unfold readFrom
  cases took : session.read (min capacity download.remaining) client.network with
  | mk outcome later =>
    obtain ⟨samePeer, sameCount, moved⟩ := Network.read_cases took
    have reached : Reached meant later := by
      rw [Reached, sameCount, samePeer]
      exact attached.reached
    cases outcome with
    | error error => exact ⟨accounts, reached⟩
    | ok data =>
      cases data with
      | nil => exact ⟨accounts, reached⟩
      | cons byte more =>
        have limited := Network.read_length_le took
        obtain ⟨line, rest, found, left, arrivals⟩ := moved _ rfl
        have arriving := attached.arriving session line streaming found
        rw [arrivals] at arriving
        have next : byte :: more <+: (objects download.currentPath).drop download.consumed :=
          (List.prefix_append _ _).trans arriving
        have within : (byte :: more).length ≤ download.remaining := by omega
        refine ⟨List.cons_ne_nil _ _, by omega, accounts.liesWithinChunk within begun next,
          accounts.advance within begun next, ?_⟩
        rcases download.advance_cases (byte :: more).length with
          ⟨finished, idle⟩ | ⟨owing, samePhase, samePath, further⟩
        · simp only [finished, if_true]
          exact attached_of_not_streaming (reached_hangUp serves reached download) idle
        · simp only [owing, if_false]
          exact {
            reached := reached
            begun := by
              intro _ _
              exact owing
            arriving := by
              intro other line' streams held
              rw [samePhase, streaming] at streams
              cases streams
              rw [left] at held
              cases held
              rw [samePath, further, ← List.drop_drop]
              obtain ⟨beyond, same⟩ := arriving
              refine ⟨beyond, ?_⟩
              rw [← same, List.append_assoc, List.drop_left] }

theorem position_begin (chunk : Chunk) (download : Download) :
    (download.begin chunk).position = download.position := by
  unfold begin
  split <;> rfl

theorem attempt_isSound (serves : ServesObjects objects config chunks meant) (capacity : Nat)
    (disk : Disk) {download : Download} {client : Client π}
    (track : OnTrack objects config chunks meant handed download client) :
    (download.attempt capacity disk client).IsSound objects config chunks meant handed
      capacity := by
  unfold attempt
  split
  · rename_i session streaming
    exact readFrom_isSound serves track streaming
  · rename_i idle
    split
    · rename_i none
      refine ⟨rfl, track.accounts.exhaust none, ?_⟩
      apply attached_of_not_streaming track.attached.reached
      intro session impossible
      cases impossible
    · rename_i chunk found
      obtain ⟨accounts, begun⟩ := track.accounts.begin found
      have listed : chunk ∈ chunks := by
        rw [track.accounts.sameChunks] at found
        exact List.mem_of_getElem? found
      have inside : (download.begin chunk).consumed < chunk.byteLength.toNat := by
        obtain ⟨other, here, size, _⟩ := accounts.within begun
        rw [position_begin, ← track.accounts.sameChunks, found] at here
        cases here
        omega
      dsimp only
      cases asked : request (download.begin chunk).config chunk (download.begin chunk).consumed
          disk client.network with
      | mk outcome later =>
        have question := asked
        rw [accounts.sameConfig] at question
        obtain ⟨reached, answered⟩ :=
          request_spec serves listed inside track.attached.reached question
        cases outcome with
        | error error => exact ⟨accounts, reached⟩
        | ok session =>
          obtain ⟨line, held, arriving⟩ := answered session rfl
          refine readFrom_isSound serves ⟨accounts.withPhase _ ?_, ?_⟩ rfl
          · intro impossible
            cases impossible
          · exact {
              reached := reached
              begun := by
                intro _ _
                exact begun
              arriving := by
                intro other line' streams found'
                cases streams
                rw [held] at found'
                cases found'
                have path : (download.begin chunk).currentPath = chunk.remotePath := by
                  rw [accounts.currentPath]
                  rw [position_begin, ← track.accounts.sameChunks]
                  exact found
                change _ <+: (objects (download.begin chunk).currentPath).drop _
                rw [path]
                exact arriving }

/-! ### Pulls -/

def pulledBytes : Except ClientError Pulled → Bytes
  | .ok (.bytes data) => data
  | _ => []

/-- What a pull may come to, told of its outcome and of what it leaves. -/
structure PullIsSound (objects : String → Bytes) (config : ClientConfig) (chunks : List Chunk)
    (meant : Nat → π → Prop) (handed : Bytes) (capacity : Nat)
    (outcome : Except ClientError Pulled) (later : Download) (after : Client π) : Prop where
  track : OnTrack objects config chunks meant (handed ++ pulledBytes outcome) later after
  limited : (pulledBytes outcome).length ≤ capacity
  lies : pulledBytes outcome ≠ [] → LiesWithinChunk objects chunks handed (pulledBytes outcome)
  nonempty : 0 < capacity → outcome ≠ .ok (.bytes [])
  ended : outcome = .ok .endOfStream → later.phase = .exhausted

omit [Peer π] in
theorem pullIsSound_of_nothing {capacity : Nat} {outcome : Except ClientError Pulled}
    {download : Download} {client : Client π} (nothing : pulledBytes outcome = [])
    (track : OnTrack objects config chunks meant handed download client)
    (nonempty : 0 < capacity → outcome ≠ .ok (.bytes []))
    (ended : outcome = .ok .endOfStream → download.phase = .exhausted) :
    PullIsSound objects config chunks meant handed capacity outcome download client where
  track := by
    rw [nothing, List.append_nil]
    exact track
  limited := by
    rw [nothing]
    exact Nat.zero_le _
  lies := by
    intro some
    exact absurd nothing some
  nonempty := nonempty
  ended := ended

omit [Peer π] in
theorem pullIsSound_of_bytes {capacity : Nat} {data : Bytes} {download : Download}
    {client : Client π}
    (sound : (Attempt.bytes data download client).IsSound objects config chunks meant handed
      capacity) :
    PullIsSound objects config chunks meant handed capacity (.ok (.bytes data)) download client := by
  obtain ⟨nonempty, limited, lies, track⟩ := sound
  exact {
    track := track
    limited := limited
    lies := by
      intro _
      exact lies
    nonempty := by
      intro _ none
      cases none
      exact nonempty rfl
    ended := by
      intro impossible
      cases impossible }

omit [Peer π] in
theorem pullIsSound_of_end {capacity : Nat} {download : Download} {client : Client π}
    (sound : (Attempt.endOfStream download client).IsSound objects config chunks meant handed
      capacity) :
    PullIsSound objects config chunks meant handed capacity (.ok .endOfStream) download client := by
  obtain ⟨exhausted, track⟩ := sound
  apply pullIsSound_of_nothing rfl track
  · intro _ impossible
    cases impossible
  · intro _
    exact exhausted

/-- A failure leaves the accounts as they were, and the connection is let go. -/
theorem onTrack_afterFailure (serves : ServesObjects objects config chunks meant)
    {failed : Download} {client : Client π}
    (accounts : Accounts objects config chunks handed failed)
    (reached : Reached meant client.network) :
    OnTrack objects config chunks meant handed failed.afterFailure (failed.hangUp client) := by
  constructor
  · exact accounts.withPhase _ (by intro impossible; cases impossible)
  · apply attached_of_not_streaming (reached_hangUp serves reached failed)
    intro session impossible
    cases impossible

omit [Peer π] in
theorem giveUp_isSound (capacity : Nat) {download : Download} {client : Client π}
    (error : ClientError)
    (track : OnTrack objects config chunks meant handed download client) :
    PullIsSound objects config chunks meant handed capacity
      (.error (download.giveUp error client).1) (download.giveUp error client).2.1
      (download.giveUp error client).2.2 := by
  refine pullIsSound_of_nothing rfl ⟨?_, ?_⟩ ?_ ?_
  · exact track.accounts.withPhase _ (by intro impossible; cases impossible)
  · refine attached_of_not_streaming track.attached.reached ?_
    intro session impossible
    cases impossible
  · intro _ impossible
    cases impossible
  · intro impossible
    cases impossible

theorem pullPatiently_isSound (serves : ServesObjects objects config chunks meant) {capacity : Nat}
    {disk : Disk} {patience : Nat} {download later : Download} {client after : Client π}
    {outcome : Except ClientError Pulled}
    (track : OnTrack objects config chunks meant handed download client)
    (pulled : pullPatiently capacity disk patience download client = (outcome, later, after)) :
    PullIsSound objects config chunks meant handed capacity outcome later after := by
  fun_induction pullPatiently capacity disk patience download client with
  | case1 patience download client data next now attempted =>
    have sound := attempt_isSound serves capacity disk track
    rw [attempted] at sound
    cases pulled
    exact pullIsSound_of_bytes sound
  | case2 patience download client next now attempted =>
    have sound := attempt_isSound serves capacity disk track
    rw [attempted] at sound
    cases pulled
    exact pullIsSound_of_end sound
  | case3 download client error failed now attempted hungUp left patience retryable ih =>
    have sound := attempt_isSound serves capacity disk track
    rw [attempted] at sound
    have kept := onTrack_afterFailure serves sound.1 sound.2
    refine ih ⟨kept.accounts, ?_⟩ pulled
    refine attached_of_not_streaming kept.attached.reached ?_
    intro session impossible
    cases impossible
  | case4 patience download client error failed now attempted hungUp left final last gone
      givenUp =>
    have sound := attempt_isSound serves capacity disk track
    rw [attempted] at sound
    have kept := onTrack_afterFailure serves sound.1 sound.2
    have ended := giveUp_isSound capacity error kept
    have same : failed.afterFailure.giveUp error (failed.hangUp now) = (final, last, gone) :=
      givenUp
    rw [same] at ended
    cases pulled
    exact ended

theorem pull_isSound (serves : ServesObjects objects config chunks meant) {capacity : Nat}
    {disk : Disk} {download later : Download} {client after : Client π}
    {outcome : Except ClientError Pulled}
    (track : OnTrack objects config chunks meant handed download client)
    (pulled : download.pull capacity disk client = (outcome, later, after)) :
    PullIsSound objects config chunks meant handed capacity outcome later after := by
  unfold pull at pulled
  split at pulled
  · cases pulled
    apply pullIsSound_of_nothing rfl track
    · intro _ impossible
      cases impossible
    · intro impossible
      cases impossible
  · rename_i ended
    cases pulled
    apply pullIsSound_of_nothing rfl track
    · intro _ impossible
      cases impossible
    · intro _
      exact ended
  · split at pulled
    · rename_i nothing
      cases pulled
      apply pullIsSound_of_nothing rfl track
      · intro positive
        omega
      · intro impossible
        cases impossible
    · exact pullPatiently_isSound serves track pulled

end Download

end SegmentOffload
