/-! # Files

The program reads and creates files through `FileAccess`, in any monad. `Directory` is a working directory
of text files. It answers like the operating system does. Outside of it there are the usual directories of the
system and a few files in them, and nothing else.
-/

namespace Mcs51

/-- Why a file cannot be read or created. -/
inductive FileError
  | notFound
  | notADirectory
  | isADirectory
  | permissionDenied
  | nameTooLong
  /-- A path with a NUL character, which no file can have. -/
  | nulInPath
  /-- The content is no text. -/
  | notText
  | other (wording : String)
deriving DecidableEq, Repr

/-- The wording of an error, which is the operating system's. -/
def FileError.message : FileError → String
  | notFound => "No such file or directory (os error 2)"
  | notADirectory => "Not a directory (os error 20)"
  | isADirectory => "Is a directory (os error 21)"
  | permissionDenied => "Permission denied (os error 13)"
  | nameTooLong => "File name too long (os error 36)"
  | nulInPath => "file name contained an unexpected NUL byte"
  | notText => "stream did not contain valid UTF-8"
  | other wording => wording

/-- Reading and creating text files. Creating a file empties one that is there. -/
structure FileAccess (m : Type → Type) where
  read : String → m (Except FileError String)
  create : String → m (Except FileError Unit)

/-- A place where a file or a directory can be: the names on the way to it from the root of the system. -/
abbrev Location := List String

namespace Location

def root : Location :=
  []

/-- The directory for temporary files. -/
def temporary : Location :=
  ["tmp"]

/-- The directory of the running processes, in which nothing can be created. -/
def processes : Location :=
  ["proc"]

/-- The working directory. It is made for one run, so no path gives its name. -/
def working : Location :=
  temporary ++ [""]

/-- A place in a directory. -/
def child (place : Location) (name : String) : Location :=
  place ++ [name]

/-- The directory that a place is in. The root is in itself. -/
def parent (place : Location) : Location :=
  place.dropLast

/-- The directories that every system has. -/
def systemDirectories : List Location :=
  [["bin"], ["boot"], ["dev"], ["dev", "shm"], ["etc"], ["home"], ["lib"], ["lib64"], ["media"], ["mnt"],
    ["opt"], processes, processes ++ ["self"], ["root"], ["run"], ["sbin"], ["srv"], ["sys"], temporary, ["usr"],
    ["usr", "bin"], ["usr", "lib"], ["usr", "local"], ["usr", "local", "bin"], ["usr", "sbin"], ["usr", "share"],
    ["var"], ["var", "lib"], ["var", "log"], ["var", "tmp"], working]

end Location

/-- A path: where it starts and the names that it goes along. -/
structure Path where
  start : Location
  names : List String
  /-- The path ends with a slash, so that it asks for a directory. -/
  slashed : Bool
deriving DecidableEq, Repr

namespace Path

/-- Longest name, in bytes. -/
def maxNameSize : Nat := 255

/-- Longest path, in bytes. -/
def maxSize : Nat := 4095

def ofText (text : String) : Path where
  start := if text.toList.head? = some '/' then Location.root else Location.working
  names := (text.splitOn "/").filter (!·.isEmpty)
  slashed := text.toList.getLast? = some '/'

/-- Why a text is no path. -/
def fault? (text : String) : Option FileError :=
  if text.toList.contains '\x00' then some .nulInPath
  else if text.isEmpty then some .notFound
  else if maxSize < text.utf8ByteSize then some .nameTooLong
  else none

end Path

/-- What stands at a place. -/
inductive Entry
  | file (content : String)
  /-- A file that holds no text. -/
  | binary
  | directory
  | missing
deriving DecidableEq, Repr

def nullDevice : Location :=
  ["dev", "null"]

/-- The files that every system has, as far as it matters what they are. -/
def systemFiles : List (Location × Entry) :=
  [(["bin", "sh"], .binary), (["usr", "bin", "env"], .binary), (Location.processes ++ ["self", "exe"], .binary),
    (["etc", "hosts"], .file "127.0.0.1\tlocalhost\n"), (["etc", "group"], .file "root:x:0:\n"),
    (["etc", "passwd"], .file "root:x:0:0:root:/root:/bin/sh\n")]

/-- A working directory and the text files in it. Files can also be created outside of it. -/
structure Directory where
  files : List (Location × String)
deriving DecidableEq, Repr

namespace Directory

def ofFiles (files : List (String × String)) : Directory :=
  ⟨files.map fun file => (Location.working ++ (Path.ofText file.1).names, file.2)⟩

/-- Whether there is a file in a directory or further down in it. -/
def hasFileBelow (d : Directory) (place : Location) : Bool :=
  d.files.any fun file => place.isPrefixOf file.1

/-- What stands at a place. -/
def entry (d : Directory) (place : Location) : Entry :=
  if place = nullDevice then .file ""
  else
    match d.files.lookup place with
    | some content => .file content
    | none =>
      if place = Location.root || Location.systemDirectories.contains place || d.hasFileBelow place then
        .directory
      else (systemFiles.lookup place).getD .missing

/-- The place that names lead to from a place on. All places on the way must be directories. -/
def walk (d : Directory) (place : Location) : List String → Except FileError Location
  | [] => .ok place
  | name :: rest =>
    match d.entry place with
    | .file _ | .binary => .error .notADirectory
    | .missing => .error .notFound
    | .directory =>
      if name = "." then d.walk place rest
      else if name = ".." then d.walk (Location.parent place) rest
      else if Path.maxNameSize < name.utf8ByteSize then .error .nameTooLong
      else d.walk (Location.child place name) rest

def read (d : Directory) (path : String) : Except FileError String := do
  if let some e := Path.fault? path then throw e
  let path := Path.ofText path
  let place ← d.walk path.start (path.names ++ if path.slashed then ["."] else [])
  match d.entry place with
  | .file content => return content
  | .binary => throw .notText
  | .directory => throw .isADirectory
  | .missing => throw .notFound

/-- Create a file, or empty the one that is there. A path that asks for a directory only has to lead to a
directory up to its last name. -/
def create (d : Directory) (path : String) : Except FileError Directory := do
  if let some e := Path.fault? path then throw e
  let path := Path.ofText path
  if path.slashed then
    let _ ← d.walk path.start (path.names.dropLast ++ ["."])
    throw .isADirectory
  let place ← d.walk path.start path.names
  match d.entry place with
  | .directory => throw .isADirectory
  | .missing =>
    if Location.processes.isPrefixOf place then throw .notFound
    else return ⟨(place, "") :: d.files⟩
  | .file _ | .binary => return ⟨(place, "") :: d.files.filter (·.1 != place)⟩

/-- File access in a working directory. -/
def access : FileAccess (StateM Directory) where
  read path := fun d => (d.read path, d)
  create path := fun d =>
    match d.create path with
    | .ok d => (.ok (), d)
    | .error e => (.error e, d)

end Directory

end Mcs51
