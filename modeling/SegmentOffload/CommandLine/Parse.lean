import SegmentOffload.CommandLine.Scan

/-!
The command line of the client.

Some options may stand before the command or after it; everything else belongs to one command.  What
follows a command is judged before what precedes it.
-/

namespace SegmentOffload.CommandLine

/-! ### What can be asked for -/

structure RelationChoice where
  segmentIndex : Option UInt32
  tableSpaceOid : UInt32
  databaseOid : UInt32
  relationHash : Option String
  relation : Option String
  schema : String
  relfilenode : UInt32
deriving DecidableEq, Repr

structure GarbageChoice where
  segmentIndex : Option UInt32
  relationHash : Option String
  relation : Option String
  schema : String
  tableSpaceOid : UInt32
  databaseOid : Option UInt32
  confirm : Bool
deriving DecidableEq, Repr

inductive Command where
  | offload (relation : RelationChoice) (block : UInt32) (file : String) (logPosition : UInt64)
  | load (relation : RelationChoice) (blocks : List UInt32) (directory : String)
  | delete (remotePath : String)
  | vacuum (garbage : GarbageChoice)
  | list (relation : RelationChoice) (json : Bool)
  | stat (relation : RelationChoice) (json : Bool)
deriving DecidableEq, Repr

structure Invocation where
  config : Option String
  socket : Option String
  tableSpace : Option String
  retryLimit : Option UInt32
  catalog : Option String
  verbose : Nat
  quiet : Bool
  command : Command
deriving DecidableEq, Repr

/-! ### Rules -/

def sharedOptions : List OptionRule :=
  [valued "config" .path, valued "socket" .path, valued "table-space" .text,
    valued "retry-limit" .halfWord, valued "catalog" .path, ⟨"verbose", some 'v', .count⟩,
    ⟨"quiet", some 'q', .switch⟩, ⟨"help", some 'h', .help⟩]

def sharedConflicts : List (String × String) := [("quiet", "verbose")]

def sharedEnvironmentNames : List (String × String) := [("config", "YPROXY_CLIENT_CONFIG")]

def relationOptions : List OptionRule :=
  [valued "segment-index" .halfWord, valued "tablespace-oid" .halfWord,
    valued "database-oid" .halfWord, valued "relation-hash" .text, valued "relation" .text,
    valued "schema" .text, valued "relfilenode" .halfWord]

def outerLevel : Level where
  options := sharedOptions ++ [⟨"version", some 'V', .version⟩]
  positional := none
  commands := ["offload", "load", "delete", "vacuum", "list", "stat", "help"]
  conflicts := sharedConflicts
  required := []
  alternatives := []
  dependencies := []
  environmentNames := sharedEnvironmentNames

/-- The level of a command that takes nothing but the shared options. -/
def bareLevel : Level where
  options := sharedOptions
  positional := none
  commands := []
  conflicts := sharedConflicts
  required := []
  alternatives := []
  dependencies := []
  environmentNames := sharedEnvironmentNames

/-- The level of a command about one relation, with its own options. -/
def relationLevel (options : List OptionRule) (required : List String) : Level :=
  { bareLevel with
    options := sharedOptions ++ relationOptions ++ options
    conflicts := sharedConflicts ++ [("relation-hash", "relation")]
    required := ["database-oid", "relfilenode"] ++ required
    alternatives := [("relation-hash", "relation")] }

def innerLevel (command : String) : Level :=
  match command with
  | "offload" =>
    relationLevel [valued "block" .halfWord, valued "file" .path, valued "lsn" .word] ["file"]
  | "load" =>
    relationLevel [⟨"blocks", none, .value .halfWords true⟩, valued "dest-dir" .path] ["dest-dir"]
  | "delete" => { bareLevel with positional := some "remote-path", required := ["remote-path"] }
  | "vacuum" =>
    { bareLevel with
      options := sharedOptions ++
        [valued "segment-index" .halfWord, valued "relation-hash" .text, valued "relation" .text,
          valued "schema" .text, valued "tablespace-oid" .halfWord,
          valued "database-oid" .halfWord, switched "confirm"]
      conflicts := sharedConflicts ++ [("relation-hash", "relation")]
      dependencies := [("relation-hash", "database-oid"), ("relation", "database-oid")] }
  | _ => relationLevel [switched "json"] []

/-! ### Reading -/

namespace Matches

def halfWord? (found : Matches) (name : String) : Option UInt32 :=
  (found.value? name).bind CommandLine.halfWord?

def relationChoice (found : Matches) : RelationChoice where
  segmentIndex := found.halfWord? "segment-index"
  tableSpaceOid := (found.halfWord? "tablespace-oid").getD 1663
  databaseOid := (found.halfWord? "database-oid").getD 0
  relationHash := found.value? "relation-hash"
  relation := found.value? "relation"
  schema := (found.value? "schema").getD "public"
  relfilenode := (found.halfWord? "relfilenode").getD 0

def garbageChoice (found : Matches) : GarbageChoice where
  segmentIndex := found.halfWord? "segment-index"
  relationHash := found.value? "relation-hash"
  relation := found.value? "relation"
  schema := (found.value? "schema").getD "public"
  tableSpaceOid := (found.halfWord? "tablespace-oid").getD 1663
  databaseOid := found.halfWord? "database-oid"
  confirm := found.has "confirm"

/-- The block numbers that were given; without any, the first block. -/
def blocks (found : Matches) : List UInt32 :=
  match found.given? "blocks" with
  | none => [0]
  | some given => given.values.flatMap fun value => (halfWords? value).getD []

def command (found : Matches) (name : String) : Command :=
  match name with
  | "offload" =>
    .offload found.relationChoice ((found.halfWord? "block").getD 0)
      ((found.value? "file").getD "") (((found.value? "lsn").bind word?).getD 0)
  | "load" => .load found.relationChoice found.blocks ((found.value? "dest-dir").getD "")
  | "delete" => .delete ((found.value? "remote-path").getD "")
  | "vacuum" => .vacuum found.garbageChoice
  | "list" => .list found.relationChoice (found.has "json")
  | _ => .stat found.relationChoice (found.has "json")

end Matches

def helpOn : List String → UsageError
  | [] => .help
  | [command] => if outerLevel.commands.contains command then .help else .unknownCommand
  | _ => .unknownCommand

def Invocation.ofMatches (outer inner : Matches) (name : String) : Invocation :=
  let value? (option : String) : Option String :=
    (innermost? option outer inner).bind fun given => given.values.head?
  { config := value? "config"
    socket := value? "socket"
    tableSpace := value? "table-space"
    retryLimit := (value? "retry-limit").bind halfWord?
    catalog := value? "catalog"
    verbose := min 255 (((innermost? "verbose" outer inner).map fun given =>
      given.values.length).getD 0)
    quiet := (innermost? "quiet" outer inner).isSome
    command := inner.command name }

def readInner (environment : Environment) (name : String) (arguments : List String) :
    Except UsageError Matches := do
  let level := innerLevel name
  let (progress, _) ← scan level false ⟨[], none⟩ arguments
  let found ← close level environment progress
  validate level found
  return found

/-- Read a command line, without the name of the program. -/
def parse (environment : Environment) (arguments : List String) :
    Except UsageError Invocation := do
  let (progress, call) ← scan outerLevel false ⟨[], none⟩ arguments
  match call with
  | some ("help", commands) => throw (helpOn commands)
  | some (name, rest) =>
    let inner ← readInner environment name rest
    let outer ← close outerLevel environment progress
    validate outerLevel outer
    return .ofMatches outer inner name
  | none =>
    let outer ← close outerLevel environment progress
    throw (if outer.isEmpty then .nothingAsked else .missingCommand)

end SegmentOffload.CommandLine
