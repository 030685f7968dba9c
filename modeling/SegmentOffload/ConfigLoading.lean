import SegmentOffload.ClientConfig
import SegmentOffload.Disk
import SegmentOffload.Environment
import SegmentOffload.Journal
import SegmentOffload.Toml.Parse

/-!
Where a client's setup comes from.

The layers are, from the lowest to the highest, the defaults, one file, and the environment.  The
file is the one asked for, else the one that the environment names, else the user's own when it
exists.
-/

namespace SegmentOffload.ClientConfig

open Environment (expandTilde)

def fromFile (disk : Disk) (environment : Environment) (path : String) :
    Except ClientError ClientConfig :=
  let path := environment.expandTilde path
  match disk.text path with
  | .error error => .error (.config ("failed to read " ++ path ++ ": " ++ error.message))
  | .ok text =>
    match (Toml.parse text).bind ofToml? with
    | some config => .ok config
    | none => .error (.config ("failed to parse " ++ path))

def defaultPath? (environment : Environment) : Option String :=
  environment.configDirectory?.map fun directory =>
    Path.join (Path.join directory "yproxy-client") "config.toml"

def chosenPath? (disk : Disk) (environment : Environment) (explicit : Option String) :
    Option String :=
  match explicit with
  | some path => some path
  | none =>
    match environment.setting? "YPROXY_CLIENT_CONFIG" with
    | some path => some path
    | none => (defaultPath? environment).filter disk.isPresent

def possiblePaths (environment : Environment) (explicit : Option String) : List String :=
  (explicit.toList ++ (environment.setting? "YPROXY_CLIENT_CONFIG").toList ++
    (defaultPath? environment).toList).map environment.expandTilde

/-- The retry limit that the environment asks for, and what is reported of one that is no number. -/
def retryLimitOver (environment : Environment) (base : UInt32) : UInt32 × List LogEntry :=
  match environment.value? "YPROXY_RETRY_LIMIT" with
  | none => (base, [])
  | some raw =>
    match parseHalfWord (trimBlanks raw) with
    | .ok limit => (limit, [])
    | .error fault =>
      (base, [.warning ("invalid YPROXY_RETRY_LIMIT, ignoring: " ++ fault.message) []])

def withEnvironment (config : ClientConfig) (environment : Environment) :
    ClientConfig × List LogEntry :=
  let (retryLimit, journal) := retryLimitOver environment config.retryLimit
  ({ config with
      socketPath := (environment.setting? "YPROXY_SOCKET").getD config.socketPath
      retryLimit
      tableSpace := (environment.setting? "YPROXY_TABLE_SPACE").getD config.tableSpace },
    journal)

def fromChosenFile (disk : Disk) (environment : Environment) (explicit : Option String) :
    Except ClientError ClientConfig :=
  match chosenPath? disk environment explicit with
  | some path => fromFile disk environment path
  | none => .ok default

def load (disk : Disk) (environment : Environment) (explicit : Option String) :
    Except ClientError ClientConfig × List LogEntry :=
  match fromChosenFile disk environment explicit with
  | .error error => (.error error, [])
  | .ok base =>
    let (layered, journal) := base.withEnvironment environment
    let config := { layered with socketPath := environment.expandTilde layered.socketPath }
    match config.validate with
    | .error error => (.error error, journal)
    | .ok () => (.ok config, journal)

end SegmentOffload.ClientConfig
