import SegmentOffload.Client
import SegmentOffload.ClientConfig

/-!
Listing the objects whose paths begin with a text.

The proxy sends the entries in parts, each in a message, and an acknowledgement after the last part.
Anything else ends the listing with an error that carries the entries received so far; they are not
an answer.
-/

namespace SegmentOffload

open Wire (Message ObjectMeta Arrival)

namespace Listing

variable {π : Type} [Peer π]

def incomplete (start : String) (received : List ObjectMeta) (reason : String)
    (client : Client π) : Except ClientError (List ObjectMeta) × Client π :=
  (.error (.incompleteListing start received reason),
    client.report (.error ("listing aborted: " ++ reason)
      [("prefix", start), ("received", decimal received.length)]))

/-- Receive parts until the listing is acknowledged.  Every message takes bytes from those that have
arrived, which are the fuel. -/
def collect (session : Session) (start : String) :
    (fuel : Nat) → List ObjectMeta → Client π →
      Except ClientError (List ObjectMeta) × Client π
  | 0, received, client => incomplete start received "" client
  | fuel + 1, received, client =>
    match session.receive "reading listing" client.network with
    | (.error error, network) =>
      incomplete start received error.message { client with network }
    | (.ok (.objectMeta part), network) =>
      collect session start fuel (received ++ part) { client with network }
    | (.ok .readyForQuery, network) => (.ok received, { client with network })
    | (.ok other, network) =>
      incomplete start received s!"unexpected {other.tag.name} in listing" { client with network }

def arrivedSize (session : Session) (network : Network π) : Nat :=
  match network.openLine? session.connection with
  | some line => Wire.arrivingSize line.arrivals
  | none => 0

def list (config : ClientConfig) (start : String) (disk : Disk) (client : Client π) :
    Except ClientError (List ObjectMeta) × Client π :=
  match Session.connect disk config.socketPath start client.network with
  | (.error error, network) => (.error error, { client with network })
  | (.ok session, network) =>
    match session.send (Message.list start).encode "requesting listing" network with
    | (.error error, network) => (.error error, { client with network })
    | (.ok (), network) =>
      let fuel := arrivedSize session network + 1
      let (outcome, client) := collect session start fuel [] { client with network }
      (outcome, { client with network := session.close client.network })

def names (config : ClientConfig) (start : String) (disk : Disk) (client : Client π) :
    Except ClientError (List String) × Client π :=
  match list config start disk client with
  | (.ok entries, client) => (.ok (entries.map ObjectMeta.path), client)
  | (.error error, client) => (.error error, client)

end Listing

end SegmentOffload
