import SegmentOffload.Path
import SegmentOffload.Wire.Stream

/-!
Directories, files and sockets, and the calls that change them.

A disk maps locations to nodes; the root is always a directory, and a path that does not start there
starts at the working directory.  A path is followed component by component, and everything before a
component has to be a directory.  Each call that moves bytes or changes the disk uses up one of the
turns that lie ahead of it, and fails when that turn does; after the last turn every call goes well.
A failed call leaves the disk as it was, apart from the directories that it made on its way.  A new
file is first written under a temporary name and then renamed, so its final name never shows an
unfinished file.  How temporary names are drawn is left open, but for that a name in use is never
drawn.
-/

namespace SegmentOffload

open Wire (Turn)

/-- Where something is: the names from the root on. -/
abbrev Location := List String

namespace Location

/-- Go one component further: one dot stays, two dots lead up, and the root is above itself. -/
def step (here : Location) (component : String) : Location :=
  if component = "." then here
  else if component = ".." then here.dropLast
  else here ++ [component]

/-- A location and all that lie on the way to it, without the root. -/
def upTo (location : Location) : List Location :=
  (List.range location.length).map fun index => location.take (index + 1)

def passed : Location → List String → List Location
  | here, [] => here.upTo
  | here, component :: rest => here.upTo ++ passed (here.step component) rest

def path (location : Location) : String :=
  "/" ++ "/".intercalate location

end Location

inductive Node where
  | directory
  | file (content : Bytes)
  /-- What a peer waits behind. -/
  | socket
deriving DecidableEq, Repr

def directorySize : Nat := 4096

namespace Node

def isDirectory : Node → Bool
  | directory => true
  | _ => false

def size : Node → Nat
  | directory => directorySize
  | file content => content.length
  | socket => 0

end Node

/-! ### Temporary names -/

/-- How names for temporary files are drawn: the name that comes after so many others, in a directory
in which some names are taken. -/
structure Naming where
  draw : (drawn : Nat) → (taken : List String) → String
  fresh : ∀ drawn taken, draw drawn taken ∉ taken

namespace Naming

theorem length_le_of_mem {name : String} {taken : List String} (member : name ∈ taken) :
    name.length ≤ (taken.flatMap String.toList).length := by
  induction taken with
  | nil => cases member
  | cons first rest ih =>
    rw [List.flatMap_cons, List.length_append, String.length_toList]
    rcases List.mem_cons.mp member with same | later
    · rw [same]
      omega
    · have shorter := ih later
      omega

/-- A way to draw names: each is longer than all that are taken. -/
def longer : Naming where
  draw _ taken := ".tmp" ++ String.ofList (taken.flatMap String.toList)
  fresh := by
    intro _ taken member
    have front : ".tmp".length = 4 := by decide
    have bound := length_le_of_mem member
    rw [String.length_append, front, String.length_ofList] at bound
    omega

end Naming

structure Disk where
  /-- Everything below the root, each location once. -/
  nodes : List (Location × Node)
  /-- How the calls that lie ahead go. -/
  turns : List Turn
  /-- Where relative paths start. -/
  working : Location
  naming : Naming
  /-- How many temporary names have been drawn. -/
  drawn : Nat

namespace Disk

/-- Nothing but the root, which is the working directory too. -/
def empty : Disk := ⟨[], [], [], .longer, 0⟩

def node? (disk : Disk) (location : Location) : Option Node :=
  if location.isEmpty then some .directory
  else (disk.nodes.find? fun entry => entry.1 == location).map Prod.snd

/-- Remove what is at a location, without what is below it. -/
def erase (disk : Disk) (location : Location) : Disk :=
  { disk with nodes := disk.nodes.filter fun entry => entry.1 != location }

def put (disk : Disk) (location : Location) (node : Node) : Disk :=
  { disk with nodes := (disk.erase location).nodes ++ [(location, node)] }

def call (disk : Disk) : Except IoError Unit × Disk :=
  match disk.turns with
  | [] => (.ok (), disk)
  | .fail error :: turns => (.error error, { disk with turns })
  | _ :: turns => (.ok (), { disk with turns })

/-! ### Following paths -/

def start (disk : Disk) (path : String) : Location :=
  if Path.isAbsolute path then [] else disk.working

/-- The longest name that a node can have, in bytes. -/
def longestName : Nat := 255

/-- Follow components from a location.  Everything on the way has to be a directory; the last
component may be missing. -/
def walk (disk : Disk) : Location → List String → Except IoError Location
  | here, [] => .ok here
  | here, component :: rest =>
    match disk.node? here with
    | none => .error .notFound
    | some .directory =>
      if longestName < component.utf8ByteSize then .error .nameTooLong
      else disk.walk (here.step component) rest
    | some _ => .error .notADirectory

/-- Follow a path, whether or not something is at its end. -/
def follow (disk : Disk) (path : String) : Except IoError Location :=
  if path.isEmpty then .error .notFound
  else disk.walk (disk.start path) (Path.components path)

/-- The location that a path names.  With a slash at its end it does not name a file. -/
def locate (disk : Disk) (path : String) : Except IoError Location :=
  match disk.follow path with
  | .error error => .error error
  | .ok location =>
    match disk.node? location with
    | none => .ok location
    | some .directory => .ok location
    | some _ => if Path.endsWithSlash path then .error .notADirectory else .ok location

def holdsNul (path : String) : Bool :=
  path.toList.any fun character => character.toNat == 0

def stat (disk : Disk) (path : String) : Except IoError Node :=
  if holdsNul path then .error .nulInPath
  else
    match disk.locate path with
    | .error error => .error error
    | .ok location =>
      match disk.node? location with
      | some node => .ok node
      | none => .error .notFound

def isPresent (disk : Disk) (path : String) : Bool :=
  match disk.stat path with
  | .ok _ => true
  | .error _ => false

def isDirectory (disk : Disk) (path : String) : Bool :=
  match disk.stat path with
  | .ok node => node.isDirectory
  | .error _ => false

/-- What is at a path, opened for reading. -/
def openNode (disk : Disk) (path : String) : Except IoError Node :=
  match disk.stat path with
  | .error error => .error error
  | .ok .socket => .error .noDevice
  | .ok node => .ok node

/-- The whole file at a path, as text. -/
def text (disk : Disk) (path : String) : Except IoError String :=
  match disk.openNode path with
  | .error error => .error error
  | .ok (.file content) =>
    match bytesText? content with
    | some text => .ok text
    | none => .error .invalidText
  | .ok _ => .error .isADirectory

/-- The shortest length that the path of a socket cannot have, in bytes. -/
def socketPathLimit : Nat := 108

def reachSocket (disk : Disk) (path : String) : Except IoError Unit :=
  if holdsNul path then .error .nulInSocketPath
  else if socketPathLimit ≤ path.utf8ByteSize then .error .socketPathTooLong
  else if path.isEmpty then .error .invalidArgument
  else
    match disk.stat path with
    | .error error => .error error
    | .ok .socket => .ok ()
    | .ok _ => .error .connectionRefused

/-- Read the file at a location from an offset on, at most `limit` bytes.  No bytes mean that the
file ends there. -/
def readAt (disk : Disk) (node : Node) (offset limit : Nat) :
    Except IoError Bytes × Disk :=
  match node with
  | .directory => (.error .isADirectory, disk)
  | .socket => (.error .noDevice, disk)
  | .file content =>
    match disk.turns with
    | [] => (.ok ((content.drop offset).take limit), disk)
    | .fail error :: turns => (.error error, { disk with turns })
    | .upTo most :: turns =>
      (.ok ((content.drop offset).take (min most limit)), { disk with turns })
    | _ :: turns => (.ok ((content.drop offset).take limit), { disk with turns })

/-! ### Making directories and files -/

def isName (component : String) : Bool :=
  component != "." && component != ".."

def makeDirectory (disk : Disk) (path : String) : Except IoError Unit × Disk :=
  if holdsNul path then (.error .nulInPath, disk)
  else
    match disk.follow path with
    | .error error => (.error error, disk)
    | .ok location =>
      match disk.node? location, (Path.components path).getLast?.any isName with
      | none, true => (.ok (), disk.put location .directory)
      | _, _ => (.error .alreadyExists, disk)

def ensureDirectory (disk : Disk) (path : String) : Except IoError Unit × Disk :=
  match disk.makeDirectory path with
  | (.ok (), disk) => (.ok (), disk)
  | (.error error, disk) => (if disk.isDirectory path then .ok () else .error error, disk)

/-- Make the first of some directories, each below the next one, and those of the others that are
missing. -/
def makeLineage (disk : Disk) : List String → Except IoError Unit × Disk
  | [] => (.ok (), disk)
  | path :: rest =>
    match disk.ensureDirectory path with
    | (.error .notFound, disk) =>
      match disk.makeLineage rest with
      | (.error error, disk) => (.error error, disk)
      | (.ok (), disk) => disk.ensureDirectory path
    | (outcome, disk) => (outcome, disk)

def makeDirectories (disk : Disk) (path : String) : Except IoError Unit × Disk :=
  match disk.call with
  | (.error error, disk) => (.error error, disk)
  | (.ok (), disk) => disk.makeLineage (Path.ancestors path)

/-- The names in a directory. -/
def children (disk : Disk) (location : Location) : List String :=
  disk.nodes.filterMap fun entry =>
    if entry.1.dropLast = location ∧ entry.1 ≠ [] then entry.1.getLast? else none

/-- The next temporary name in a directory. -/
def temporaryName (disk : Disk) (directory : Location) : String :=
  disk.naming.draw disk.drawn (disk.children directory)

/-- Make an empty file with a temporary name in a directory. -/
def makeTemporary (disk : Disk) (directory : String) : Except IoError Location × Disk :=
  match disk.call with
  | (.error error, disk) => (.error error, disk)
  | (.ok (), disk) =>
    match disk.stat directory with
    | .error error => (.error error, disk)
    | .ok .directory =>
      match disk.locate directory with
      | .error error => (.error error, disk)
      | .ok location =>
        let file := location ++ [disk.temporaryName location]
        (.ok file, { disk.put file (.file []) with drawn := disk.drawn + 1 })
    | .ok _ => (.error .notADirectory, disk)

/-- Add bytes at the end of a file, over as many writes as it takes. -/
def append (disk : Disk) (location : Location) (data : Bytes) : Except IoError Unit × Disk :=
  let content :=
    match disk.node? location with
    | some (.file content) => content
    | _ => []
  let written := Wire.writeAll data disk.turns
  (written.outcome,
    { disk with turns := written.turns }.put location (.file (content ++ written.accepted)))

def sync (disk : Disk) : Except IoError Unit × Disk :=
  disk.call

/-- Where a file that is renamed to a path will be.  The path has to end with a name, and what it
names must not be a directory. -/
def destination (disk : Disk) (path : String) : Except IoError Location :=
  let components := Path.components path
  if holdsNul path then .error .invalidArgument
  else if path.isEmpty then .error .notFound
  else
    match disk.walk (disk.start path) (components.dropLast ++ ["."]), disk.follow path with
    | .error error, _ => .error error
    | .ok _, outcome =>
      if !components.getLast?.any isName then .error .busy
      else
        match outcome with
        | .error error => .error error
        | .ok location =>
          if Path.endsWithSlash path then .error .notADirectory
          else if disk.node? location = some .directory then .error .isADirectory
          else .ok location

/-- Give a temporary file its final name, in place of any file that has it.  When that fails the
file keeps the temporary name. -/
def persist (disk : Disk) (temporary : Location) (path : String) : Except IoError Unit × Disk :=
  match disk.call with
  | (.error error, disk) => (.error error, disk)
  | (.ok (), disk) =>
    match disk.destination path with
    | .error error => (.error error, disk)
    | .ok location =>
      let content :=
        match disk.node? temporary with
        | some (.file content) => content
        | _ => []
      (.ok (), (disk.erase temporary).put location (.file content))

/-! ### Directories as a whole -/

/-- What this disk holds that another one does not, in the order in which it was put there. -/
def changesFrom (disk earlier : Disk) : List (Location × Node) :=
  disk.nodes.filter fun entry => earlier.node? entry.1 ≠ some entry.2

def eraseTree (disk : Disk) (location : Location) : Disk :=
  { disk with nodes := disk.nodes.filter fun entry => !location.isPrefixOf entry.1 }

end Disk

end SegmentOffload
