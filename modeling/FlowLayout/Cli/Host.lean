/-!
# What the command line needs from its surroundings

The command line reads standard input, one environment variable, and files; it writes one
file. `Host` names these needs for any monad, so the command line is one definition for a
real system and for a `Workspace`: a fixed set of files under a working directory, a text on
standard input, and environment variables.

A relative path in a workspace is looked up the way the system does it, one part at a time
from the working directory: `.` stays, `..` goes up, and a name must be found in the directory
reached so far. Every directory a file lies in exists. A name that is a file ends the walk: if
anything follows it (another part, `.`, `..` or a trailing `/`) the path runs through a file.
A name that is missing ends the walk too, whatever follows. A name longer than 255 bytes, or
a path of 4096 bytes or more, is too long. Above the working directory nothing is known, so
only directories are found there.
-/

namespace FlowLayout.Cli

/-- Why a file could not be read or written. -/
inductive FileError where
  | notFound
  | isDirectory
  | notDirectory
  | nameTooLong
  | other (message : String)

/-- The wording of a file error. -/
def FileError.message : FileError → String
  | .notFound => "No such file or directory (os error 2)"
  | .isDirectory => "Is a directory (os error 21)"
  | .notDirectory => "Not a directory (os error 20)"
  | .nameTooLong => "File name too long (os error 36)"
  | .other m => m

/-- The surroundings of a run in a monad `m`. -/
class Host (m : Type → Type) where
  /-- All of standard input. -/
  readInput : m String
  /-- An environment variable, if set. -/
  setting? : String → m (Option String)
  /-- Whether a path names a file or directory. -/
  exists? : String → m Bool
  /-- The text of a file. -/
  readFile : String → m (Except FileError String)
  /-- Writes a file. -/
  writeFile : String → String → m (Except FileError Unit)

/-- A fixed working directory with its files, standard input and environment. -/
structure Workspace where
  stdin : String := ""
  env : List (String × String) := []
  files : List (String × String) := []

/-- What looking a path up finds. -/
inductive Lookup where
  | file (text : String)
  | directory
  /-- A part follows a file. -/
  | throughFile
  /-- A name before the last is missing. -/
  | missing
  /-- The last name is missing; `slash` when the path ends in `/`. -/
  | absent (slash : Bool)
  | tooLong

/-- Where a walk stands: a directory of the workspace by its parts, or above the working
directory, where nothing is known. -/
inductive Place where
  | inside (parts : List String)
  | above

/-- The parts of a path, the empty ones (from doubled or trailing `/`) kept. -/
def pathPieces (path : String) : List String := path.splitOn "/"

namespace Workspace

/-- The files of a workspace by their parts; file names are plain relative paths. -/
def entries (w : Workspace) : List (List String × String) :=
  w.files.map fun (name, text) => ((name.splitOn "/").filter (fun p => p != "" && p != "."), text)

/-- The text of the file at these parts, if there is one. -/
def fileAt? (w : Workspace) (parts : List String) : Option String :=
  (w.entries.find? (·.1 == parts)).map (·.2)

/-- Whether these parts name a directory: the working directory, or one a file lies in. -/
def isDirectory (w : Workspace) (parts : List String) : Bool :=
  parts.isEmpty || w.entries.any fun (p, _) => parts.isPrefixOf p && parts.length < p.length

/-- Walks the pieces of a path from a place. -/
def walk (w : Workspace) : Place → List String → Lookup
  | .above, [] => .directory
  | .inside _, [] => .directory
  | place, "" :: rest => walk w place rest
  | place, "." :: rest => walk w place rest
  | .above, ".." :: rest => walk w .above rest
  | .inside parts, ".." :: rest =>
    walk w (if parts.isEmpty then .above else .inside parts.dropLast) rest
  | .above, name :: rest =>
    if name.utf8ByteSize > 255 then .tooLong
    else if rest.all (· == "") then .absent (!rest.isEmpty) else .missing
  | .inside parts, name :: rest =>
    let here := parts ++ [name]
    if name.utf8ByteSize > 255 then .tooLong
    else match w.fileAt? here with
      | some text => if rest.isEmpty then .file text else .throughFile
      | none =>
        if w.isDirectory here then walk w (.inside here) rest
        else if rest.all (· == "") then .absent (!rest.isEmpty)
        else .missing

/-- What a path names. Absolute paths lie outside the workspace: only the root is found. -/
def lookup (w : Workspace) (path : String) : Lookup :=
  if path.isEmpty then .missing
  else if path.utf8ByteSize ≥ 4096 then .tooLong
  else if path.startsWith "/" then (if path.all (· == '/') then .directory else .missing)
  else walk w (.inside []) (pathPieces path)

/-- Reads a file of the workspace. A directory opens but does not read. -/
def read (w : Workspace) (path : String) : Except FileError String :=
  match w.lookup path with
  | .file text => .ok text
  | .directory => .error .isDirectory
  | .throughFile => .error .notDirectory
  | .missing | .absent _ => .error .notFound
  | .tooLong => .error .nameTooLong

/-- Whether a file could be written (created or replaced): its directory must exist, and the
path must not name a directory or end in `/`. -/
def write (w : Workspace) (path : String) : Except FileError Unit :=
  match w.lookup path with
  | .file _ => .ok ()
  | .absent false => .ok ()
  | .absent true | .directory => .error .isDirectory
  | .throughFile => .error .notDirectory
  | .missing => .error .notFound
  | .tooLong => .error .nameTooLong

end Workspace

/-- Runs against a workspace. -/
abbrev InWorkspace := ReaderM Workspace

instance : Host InWorkspace where
  readInput := do return (← read).stdin
  setting? name := do return ((← read).env.find? (·.1 == name)).map (·.2)
  exists? path := do
    return match (← read).lookup path with
      | .file _ | .directory => true
      | _ => false
  readFile path := do return (← read).read path
  writeFile path _ := do return (← read).write path

end FlowLayout.Cli
