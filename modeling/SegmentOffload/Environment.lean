import SegmentOffload.Path

/-!
The environment of a program: named values and the user's account, which say where the user's files
are.
-/

namespace SegmentOffload

structure Environment where
  /-- Named values; of a repeated name the first value counts. -/
  values : List (String × String)
  /-- The home directory that the system has on record for the user. -/
  accountHome : Option String
deriving DecidableEq, Repr

namespace Environment

/-- Nothing is named, and nothing is on record. -/
def empty : Environment := ⟨[], none⟩

def value? (environment : Environment) (name : String) : Option String :=
  (environment.values.find? fun entry => entry.1 == name).map Prod.snd

/-- The value of a variable without blanks around it, unless nothing is left. -/
def setting? (environment : Environment) (name : String) : Option String :=
  ((environment.value? name).map trimBlanks).filter fun value => !value.isEmpty

/-- The home directory that is set, or else that of the account.  An empty one is none. -/
def home? (environment : Environment) : Option String :=
  match (environment.value? "HOME").filter fun home => !home.isEmpty with
  | some home => some home
  | none => environment.accountHome.filter fun home => !home.isEmpty

/-- A base directory that a variable may name absolutely, otherwise found below the home. -/
def baseDirectory? (environment : Environment) (name usual : String) : Option String :=
  match (environment.value? name).filter Path.isAbsolute with
  | some directory => some directory
  | none => environment.home?.map fun home => Path.join home usual

def configDirectory? (environment : Environment) : Option String :=
  environment.baseDirectory? "XDG_CONFIG_HOME" ".config"

def dataDirectory? (environment : Environment) : Option String :=
  environment.baseDirectory? "XDG_DATA_HOME" ".local/share"

def expandTilde (environment : Environment) (path : String) : String :=
  match path.toList with
  | ['~'] => environment.home?.getD "."
  | '~' :: '/' :: rest =>
    match environment.home? with
    | some home => Path.join home (String.ofList rest)
    | none => path
  | _ => path

end Environment

end SegmentOffload
