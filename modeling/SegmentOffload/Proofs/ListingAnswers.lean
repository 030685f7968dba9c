import SegmentOffload.Listing
import SegmentOffload.Peer.Scripted
import SegmentOffload.Proofs.Delivery
import SegmentOffload.Proofs.StoreRequests
import SegmentOffload.Proofs.Wire.UnbrokenStreams

/-!
Listings that are whole, and listings that break off.

A listing asks once and then takes what comes.  Whatever the peer sends, and however it is cut, the
parts that a listing has taken stand at the front of the stream, whole and in order; the listing is
given out exactly when the acknowledgement stands behind them, and otherwise it fails with just these
parts.  So a listing that was cut off anywhere is never taken for an answer.
-/

namespace SegmentOffload.Listing

open Wire (Message ObjectMeta unbrokenBytes)

/-! ### What a stream brings -/

/-- A stream begins with frames that are the parts of a listing, and so much is behind them. -/
def Brings (parts : List (List ObjectMeta)) (stream rest : Bytes) : Prop :=
  ∃ frames : List Bytes, stream = frames.flatten ++ rest ∧
    List.Forall₂ (fun frame part => Message.decode frame = .ok (.objectMeta part)) frames parts

/-- Behind the parts stands the acknowledgement. -/
def Answers (parts : List (List ObjectMeta)) (stream : Bytes) : Prop :=
  ∃ ready rest, Message.decode ready = .ok .readyForQuery ∧ Brings parts stream (ready ++ rest)

/-- No part begins here, and no acknowledgement. -/
def Stops (rest : Bytes) : Prop :=
  ∀ frame message, frame <+: rest → Message.decode frame = .ok message →
    message ≠ .readyForQuery ∧ ∀ part, message ≠ .objectMeta part

/-- Behind the parts stands neither a further part nor the acknowledgement. -/
def BreaksOff (parts : List (List ObjectMeta)) (stream rest : Bytes) : Prop :=
  Brings parts stream rest ∧ Stops rest

/-- A message that is there and does not belong to a listing is named. -/
def Explains (rest : Bytes) (reason : String) : Prop :=
  ∀ frame message, frame <+: rest → Message.decode frame = .ok message →
    reason = s!"unexpected {message.tag.name} in listing"

variable {parts others : List (List ObjectMeta)} {stream rest remains : Bytes}

theorem brings_nil (stream : Bytes) : Brings [] stream stream :=
  ⟨[], rfl, .nil⟩

theorem Brings.cons {frame : Bytes} {part : List ObjectMeta}
    (decoded : Message.decode frame = .ok (.objectMeta part)) (brings : Brings parts stream rest) :
    Brings (part :: parts) (frame ++ stream) rest := by
  obtain ⟨frames, rfl, decode⟩ := brings
  exact ⟨frame :: frames, by rw [List.flatten_cons, List.append_assoc], .cons decoded decode⟩

/-- What stands behind the first parts is found again when more parts are looked for. -/
theorem Brings.compare (brings : Brings parts stream rest)
    (again : Brings others stream remains) :
    (∃ more, others = parts ++ more ∧ Brings more rest remains) ∨
      ∃ more, parts = others ++ more ∧ Brings more remains rest := by
  induction parts generalizing others stream with
  | nil =>
    obtain ⟨frames, same, decode⟩ := brings
    cases decode
    cases same
    exact .inl ⟨others, rfl, again⟩
  | cons part parts ih =>
    obtain ⟨frames, same, decode⟩ := again
    cases decode with
    | nil =>
      rw [List.flatten_nil, List.nil_append] at same
      rw [← same]
      exact .inr ⟨part :: parts, rfl, brings⟩
    | cons decoded decode =>
      rename_i frame next frames others
      obtain ⟨own, whole, taken⟩ := brings
      cases taken with
      | cons first taken =>
        rename_i front own
        rw [whole, List.flatten_cons, List.flatten_cons, List.append_assoc, List.append_assoc]
          at same
        obtain ⟨rfl, alike⟩ := Wire.decode_front_unique first decoded same
        cases alike
        rcases ih ⟨own, rfl, taken⟩ ⟨frames, List.append_cancel_left same, decode⟩ with
          ⟨more, rfl, further⟩ | ⟨more, rfl, further⟩
        · exact .inl ⟨more, rfl, further⟩
        · exact .inr ⟨more, rfl, further⟩

/-- What stands first behind some parts, where further parts are found, is a part. -/
theorem Brings.first_isPart {frame left : Bytes} {message : Message}
    (brings : Brings parts (frame ++ left) remains)
    (decoded : Message.decode frame = .ok message) :
    parts = [] ∧ remains = frame ++ left ∨ ∃ part, message = .objectMeta part := by
  obtain ⟨frames, same, decode⟩ := brings
  cases decode with
  | nil => exact .inl ⟨rfl, same.symm⟩
  | cons first decode =>
    rw [List.flatten_cons, List.append_assoc] at same
    exact .inr ⟨_, (Wire.decode_front_unique decoded first same).2⟩

theorem Answers.unique (answers : Answers parts stream) (again : Answers others stream) :
    parts = others := by
  obtain ⟨ready, rest, decoded, brings⟩ := answers
  obtain ⟨other, remains, alike, taken⟩ := again
  rcases brings.compare taken with ⟨more, rfl, further⟩ | ⟨more, rfl, further⟩
  · rcases further.first_isPart decoded with ⟨rfl, _⟩ | ⟨part, impossible⟩
    · exact (List.append_nil parts).symm
    · cases impossible
  · rcases further.first_isPart alike with ⟨rfl, _⟩ | ⟨part, impossible⟩
    · exact List.append_nil others
    · cases impossible

/-- Nothing is found where a stream stops. -/
theorem Stops.brings (stops : Stops rest) (brings : Brings parts rest remains) :
    parts = [] ∧ remains = rest := by
  obtain ⟨frames, same, decode⟩ := brings
  cases decode with
  | nil => exact ⟨rfl, same.symm⟩
  | cons first decode =>
    rename_i frame part frames parts
    rw [List.flatten_cons, List.append_assoc] at same
    exact absurd rfl ((stops frame _ ⟨_, same.symm⟩ first).2 part)

theorem BreaksOff.unique (breaks : BreaksOff parts stream rest)
    (again : BreaksOff others stream remains) : parts = others ∧ rest = remains := by
  rcases breaks.1.compare again.1 with ⟨more, rfl, further⟩ | ⟨more, rfl, further⟩
  · obtain ⟨rfl, rfl⟩ := breaks.2.brings further
    exact ⟨(List.append_nil parts).symm, rfl⟩
  · obtain ⟨rfl, rfl⟩ := again.2.brings further
    exact ⟨List.append_nil others, rfl⟩

/-- A stream that answers does not break off. -/
theorem Answers.not_breaksOff (answers : Answers parts stream) :
    ¬BreaksOff others stream remains := by
  rintro ⟨taken, stops⟩
  obtain ⟨ready, rest, decoded, brings⟩ := answers
  rcases taken.compare brings with ⟨more, rfl, further⟩ | ⟨more, rfl, further⟩
  · obtain ⟨_, same⟩ := stops.brings further
    exact (stops ready _ ⟨rest, same⟩ decoded).1 rfl
  · rcases further.first_isPart decoded with ⟨_, rfl⟩ | ⟨part, impossible⟩
    · exact (stops ready _ ⟨rest, rfl⟩ decoded).1 rfl
    · cases impossible

/-- The front of an answer that ends before its acknowledgement does is no answer. -/
theorem not_answers_of_cut {whole ready : Bytes}
    (decoded : Message.decode ready = .ok .readyForQuery) (brings : Brings parts whole ready)
    (cut : stream <+: whole) (unfinished : stream ≠ whole) : ¬Answers others stream := by
  rintro ⟨other, remains, alike, frames, rfl, decode⟩
  obtain ⟨missing, rfl⟩ := cut
  have taken : Brings others (frames.flatten ++ (other ++ remains) ++ missing)
      (other ++ (remains ++ missing)) :=
    ⟨frames, by simp only [List.append_assoc], decode⟩
  have left : remains ++ missing = [] := by
    rcases brings.compare taken with ⟨more, _, further⟩ | ⟨more, _, further⟩
    · rw [← List.append_nil ready] at further
      rcases further.first_isPart decoded with ⟨_, same⟩ | ⟨part, impossible⟩
      · obtain ⟨rfl, _⟩ := Wire.decode_front_unique alike decoded same
        exact List.append_cancel_left same
      · cases impossible
    · rcases further.first_isPart alike with ⟨_, same⟩ | ⟨part, impossible⟩
      · rw [← List.append_nil ready] at same
        obtain ⟨rfl, _⟩ := Wire.decode_front_unique decoded alike same
        exact (List.append_cancel_left same).symm
      · cases impossible
  apply unfinished
  rw [(List.append_eq_nil_iff.mp left).2, List.append_nil]

/-! ### Collecting -/

variable {π : Type} [Peer π] {before : List Line} {line : Line} {session : Session}
  {start : String} {received : List ObjectMeta} {client later : Client π}
  {outcome : Except ClientError (List ObjectMeta)}

/-- What a stream makes of a listing that has received some entries. -/
def Concludes (start : String) (received : List ObjectMeta) (stream : Bytes)
    (outcome : Except ClientError (List ObjectMeta)) : Prop :=
  (∃ parts, Answers parts stream ∧ outcome = .ok (received ++ parts.flatten)) ∨
    ∃ parts rest reason, BreaksOff parts stream rest ∧ Explains rest reason ∧
      outcome = .error (.incompleteListing start (received ++ parts.flatten) reason)

theorem concludes_of_part {frame : Bytes} {part : List ObjectMeta}
    (decoded : Message.decode frame = .ok (.objectMeta part))
    (concludes : Concludes start (received ++ part) stream outcome) :
    Concludes start received (frame ++ stream) outcome := by
  rcases concludes with ⟨parts, ⟨ready, rest, alike, brings⟩, same⟩ |
    ⟨parts, rest, reason, ⟨brings, stops⟩, explains, same⟩
  · refine .inl ⟨part :: parts, ⟨ready, rest, alike, brings.cons decoded⟩, ?_⟩
    rw [same, List.flatten_cons, List.append_assoc]
  · refine .inr ⟨part :: parts, rest, reason, ⟨brings.cons decoded, stops⟩, explains, ?_⟩
    rw [same, List.flatten_cons, List.append_assoc]

theorem concludes_of_stop {reason : String} (stops : Stops stream)
    (explains : Explains stream reason) :
    Concludes start received stream (.error (.incompleteListing start received reason)) := by
  refine .inr ⟨[], stream, reason, ⟨brings_nil stream, stops⟩, explains, ?_⟩
  rw [List.flatten_nil, List.append_nil]

/-- Collecting takes what the stream of its line brings, and sends nothing. -/
theorem collect_concludes {fuel : Nat} (place : session.connection = before.length)
    (lines : client.network.lines = before ++ [line]) (held : line.isOpen = true)
    (enough : (unbrokenBytes line.arrivals).length < fuel)
    (collected : collect session start fuel received client = (outcome, later)) :
    Concludes start received (unbrokenBytes line.arrivals) outcome ∧
      ∃ told, later.network.lines = before ++ [told] ∧ told.sent = line.sent := by
  induction fuel generalizing client line received with
  | zero => exact absurd enough (Nat.not_lt_zero _)
  | succ fuel ih =>
    cases taken : client.network.receive before.length with
    | mk result network =>
      obtain ⟨found, same⟩ := Network.receive_last lines held taken
      cases read : Wire.readMessage line.arrivals with
      | mk reply arrivals =>
        rw [read] at found same
        simp only at found same
        rw [collect, Session.receive, place, taken, same] at collected
        cases reply with
        | error error =>
          obtain ⟨released, last, _, kept⟩ := Network.release_last found
          have nothing (frame : Bytes) (message : Message)
              (begins : frame <+: unbrokenBytes line.arrivals)
              (decoded : Message.decode frame = .ok message) : False := by
            obtain ⟨left, front⟩ := begins
            obtain ⟨_, alike, _⟩ := Wire.readMessage_of_decode decoded front.symm
            rw [read] at alike
            cases alike
          cases collected
          refine ⟨concludes_of_stop ?_ ?_, released, ?_, kept⟩
          · intro frame message begins decoded
            exact absurd decoded (nothing frame message begins)
          · intro frame message begins decoded
            exact absurd decoded (nothing frame message begins)
          · change (session.close network).lines = before ++ [released]
            rw [Session.close, place]
            exact last
        | ok message =>
          obtain ⟨frame, decoded, front⟩ := Wire.decode_of_readMessage read
          have only {other : Bytes} {next : Message} (begins : other <+: unbrokenBytes line.arrivals)
              (alike : Message.decode other = .ok next) : next = message := by
            obtain ⟨left, whole⟩ := begins
            exact (Wire.decode_front_unique alike decoded (whole.trans front)).2
          cases message with
          | objectMeta part =>
            have shorter : (unbrokenBytes arrivals).length < fuel := by
              have some := List.length_pos_iff.mpr (Wire.ne_nil_of_decode decoded)
              rw [front, List.length_append] at enough
              omega
            have open' : ({ line with arrivals } : Line).isOpen = true := held
            obtain ⟨concludes, told⟩ := ih found open' shorter collected
            rw [front]
            exact ⟨concludes_of_part decoded concludes, told⟩
          | readyForQuery =>
            cases collected
            refine ⟨.inl ⟨[], ⟨frame, unbrokenBytes arrivals, decoded, ?_⟩, ?_⟩, _, found, rfl⟩
            · rw [front]
              exact brings_nil _
            · rw [List.flatten_nil, List.append_nil]
          | _ =>
            cases collected
            refine ⟨concludes_of_stop ?_ ?_, _, found, rfl⟩
            · intro other next begins alike
              rw [only begins alike]
              exact ⟨Message.noConfusion, fun part => Message.noConfusion⟩
            · intro other next begins alike
              rw [only begins alike]

/-! ### Whole listings -/

variable {disk : Disk} {config : ClientConfig} {connected requested : Network π}

/-- A listing asks once, and concludes from what the peer sent until the stream breaks off. -/
theorem list_concludes (connects : Session.connect disk config.socketPath start client.network =
      (.ok session, connected))
    (sends : session.send (Message.list start).encode "requesting listing" connected =
      (.ok (), requested)) :
    ∃ line, requested.lines = client.network.lines ++ [line] ∧
      Concludes start [] (unbrokenBytes line.arrivals) (list config start disk client).1 ∧
      ∃ told, (list config start disk client).2.network.lines = client.network.lines ++ [told] ∧
        told.sent = (Message.list start).encode ∧ told.isOpen = false := by
  rcases (Session.connect_holds connects).send sends with ⟨_, asked⟩ | ⟨error, _, impossible, _⟩
  · obtain ⟨place, line, lines, held, sent⟩ := asked
    have found := Network.openLine?_last lines held
    have enough : (unbrokenBytes line.arrivals).length <
        arrivedSize session requested + 1 := by
      have some := Wire.length_unbrokenBytes_le line.arrivals
      rw [arrivedSize, place, found]
      simp only [Wire.arrivingSize_eq]
      omega
    have standing : ({ client with network := requested } : Client π).network.lines =
        client.network.lines ++ [line] := lines
    cases collected : collect session start (arrivedSize session requested + 1) []
      { client with network := requested } with
    | mk outcome later =>
      obtain ⟨concludes, told, last, kept⟩ := collect_concludes place standing held enough collected
      obtain ⟨released, gone, closed, same⟩ := Network.release_last last
      have listed : list config start disk client =
          (outcome, { later with network := session.close later.network }) := by
        rw [list, connects]
        simp only [sends, collected]
      rw [listed]
      refine ⟨line, lines, concludes, released, ?_, ?_, closed⟩
      · rw [Session.close, place]
        exact gone
      · rw [same, kept, sent, List.nil_append]
  · cases impossible

/-- A listing is whole or an error.  It asks once.  It gives out entries exactly when the stream that
comes back begins with parts and the acknowledgement behind them, and then the entries of the parts
in order; any other stream makes an error of the parts before the place where it breaks off, and every
stream does one or the other.  In particular no answer that was cut off is given out. -/
theorem list_answers_or_breaks_off
    (connects : Session.connect disk config.socketPath start client.network =
      (.ok session, connected))
    (sends : session.send (Message.list start).encode "requesting listing" connected =
      (.ok (), requested)) :
    ∃ line, requested.lines = client.network.lines ++ [line] ∧
      let stream := unbrokenBytes line.arrivals
      let result := list config start disk client
      (∃ told, result.2.network.lines = client.network.lines ++ [told] ∧
        told.sent = (Message.list start).encode ∧ told.isOpen = false) ∧
      (∀ entries, result.1 = .ok entries ↔
        ∃ parts, Answers parts stream ∧ entries = parts.flatten) ∧
      (∀ parts rest, BreaksOff parts stream rest →
        ∃ reason, result.1 = .error (.incompleteListing start parts.flatten reason) ∧
          Explains rest reason) ∧
      ((∃ parts, Answers parts stream) ∨ ∃ parts rest, BreaksOff parts stream rest) ∧
      ∀ whole parts ready, Message.decode ready = .ok .readyForQuery → Brings parts whole ready →
        stream <+: whole → stream ≠ whole → ∀ entries, result.1 ≠ .ok entries := by
  obtain ⟨line, lines, concludes, told⟩ := list_concludes connects sends
  have answered : ∀ entries, (list config start disk client).1 = .ok entries ↔
      ∃ parts, Answers parts (unbrokenBytes line.arrivals) ∧ entries = parts.flatten := by
    intro entries
    rcases concludes with ⟨parts, answers, same⟩ | ⟨parts, rest, reason, breaks, _, same⟩
    · rw [same, List.nil_append]
      constructor
      · intro given
        cases given
        exact ⟨parts, answers, rfl⟩
      · rintro ⟨others, again, rfl⟩
        rw [answers.unique again]
    · rw [same]
      constructor
      · intro impossible
        cases impossible
      · rintro ⟨others, again, _⟩
        exact absurd breaks again.not_breaksOff
  refine ⟨line, lines, told, answered, ?_, ?_, ?_⟩
  · intro parts rest breaks
    rcases concludes with ⟨others, answers, _⟩ | ⟨others, remains, reason, again, explains, same⟩
    · exact absurd breaks answers.not_breaksOff
    · obtain ⟨rfl, rfl⟩ := again.unique breaks
      exact ⟨reason, same, explains⟩
  · exact concludes.imp (fun ⟨parts, answers, _⟩ => ⟨parts, answers⟩)
      fun ⟨parts, rest, _, breaks, _⟩ => ⟨parts, rest, breaks⟩
  · intro whole parts ready decoded brings cut unfinished entries given
    obtain ⟨others, answers, _⟩ := (answered entries).mp given
    exact not_answers_of_cut decoded brings cut unfinished answers

def firstPart : List ObjectMeta := [⟨"a/1", 1⟩, ⟨"a/2", 2⟩]

def lastPart : List ObjectMeta := [⟨"a/3", 3⟩]

/-- A reply that ends inside its acknowledgement. -/
def cutReply : Bytes :=
  (Message.objectMeta firstPart).encode ++ (Message.objectMeta lastPart).encode ++
    Message.readyForQuery.encode.take 9

def cutClient : Client ScriptedPeer :=
  ⟨⟨.ofScript [⟨.frames 1, cutReply, false⟩], []⟩, []⟩

theorem cut_listing_is_incomplete :
    let result := list Download.socketConfig "a" Download.socketDisk cutClient
    (∃ told, result.2.network.lines = [told] ∧ told.sent = (Message.list "a").encode ∧
      told.isOpen = false) ∧
    ∃ reason, result.1 = .error (.incompleteListing "a" (firstPart ++ lastPart) reason) := by
  intro result
  let session : Session := ⟨Download.socketConfig.socketPath, "a", 0⟩
  let connected := (Session.connect Download.socketDisk Download.socketConfig.socketPath "a"
    cutClient.network).2
  let requested :=
    (session.send (Message.list "a").encode "requesting listing" connected).2
  have connects : Session.connect Download.socketDisk Download.socketConfig.socketPath "a"
      cutClient.network = (.ok session, connected) := by
    refine Prod.ext ?_ rfl
    decide +kernel
  have sends : session.send (Message.list "a").encode "requesting listing" connected =
      (.ok (), requested) := by
    refine Prod.ext ?_ rfl
    decide +kernel
  obtain ⟨line, lines, told, _, broken, _⟩ := list_answers_or_breaks_off connects sends
  have arrived : requested.lines.map (fun line => unbrokenBytes line.arrivals) = [cutReply] := by
    decide +kernel
  rw [lines] at arrived
  have stream : unbrokenBytes line.arrivals = cutReply := List.head_eq_of_cons_eq arrived
  have stops : Stops (Message.readyForQuery.encode.take 9) := by
    have unread : ∀ length < 10,
        (Message.decode ((Message.readyForQuery.encode.take 9).take length)).isOk = false := by
      decide +kernel
    intro frame message front decoded
    have failed := unread frame.length (Nat.lt_succ_of_le front.length_le)
    rw [← List.prefix_iff_eq_take.mp front, decoded] at failed
    cases failed
  have breaks : BreaksOff [firstPart, lastPart] (unbrokenBytes line.arrivals)
      (Message.readyForQuery.encode.take 9) := by
    rw [stream]
    refine ⟨⟨[(Message.objectMeta firstPart).encode, (Message.objectMeta lastPart).encode],
      ?_, ?_⟩, stops⟩
    · decide +kernel
    · exact .cons (by decide +kernel) (.cons (by decide +kernel) .nil)
  obtain ⟨reason, failed, _⟩ := broken _ _ breaks
  exact ⟨told, reason, failed⟩

end SegmentOffload.Listing
