/-!
# The working directory

What the command sees of the file system: the files and directories below the
directory that it works in, and how a path leads to one of them.

## Main Definitions

* `OpenFailure`, `ReadFailure` — why a file cannot be read
* `Place` — where the walk along a path has come to
* `WorkingDirectory` — files and directories by their location
* `WorkingDirectory.ofEntries` — the directory in which given entries have been made
* `WorkingDirectory.read` — the bytes of a file

## Design Notes

A location below the working directory is the list of the names that lead to it,
without empty names and without dots.  The same location is reached by many
paths, so paths are turned into locations both where entries are made and where
they are looked up.
-/

namespace LoxScan

/-- Why the system does not let a file be opened or read. -/
inductive OpenFailure where
  | notFound
  | isDirectory
  | notDirectory
  | nameTooLong
  /-- Any other reason that the system gives. -/
  | other (reason : String)
deriving DecidableEq, Repr

/-- The reason for a failure, as it is told. -/
def OpenFailure.reason : OpenFailure → String
  | notFound => "No such file or directory"
  | isDirectory => "Is a directory"
  | notDirectory => "Not a directory"
  | nameTooLong => "File name too long"
  | other reason => reason

/-- Why a file cannot be read: the system does not let it be, or its name is not one
that the system can be asked for. -/
inductive ReadFailure where
  | cannotOpen (failure : OpenFailure)
  | embeddedNul
deriving DecidableEq, Repr

/-- Where a path leads: to a file, to a directory below the working directory, or
to a directory outside it, with the names that lead there from the root. -/
inductive Place where
  | file (bytes : List UInt8)
  | directory (location : List String)
  | outside (location : List String)

/-- The files and the directories below the working directory, by their location. -/
structure WorkingDirectory where
  files : List (List String × List UInt8)
  directories : List (List String)

/-- The longest path that the system accepts, in bytes. -/
def longestPath : Nat := 4095

/-- The longest name in a path that the system accepts, in bytes. -/
def longestName : Nat := 255

/-- The names in a path. -/
def pathNames (path : String) : List String :=
  ((path.splitOn "/").filter (· ≠ ""))

/-! ## Outside the working directory -/

/-- The directories that every system has. -/
def standardDirectories : List (List String) :=
  [["bin"], ["boot"], ["dev"], ["etc"], ["home"], ["lib"], ["media"], ["mnt"], ["opt"], ["proc"],
    ["run"], ["sbin"], ["srv"], ["sys"], ["tmp"], ["usr"], ["var"]]

/-- The directory in which the working directory lies. -/
def parentLocation : List String := ["tmp"]

/-- A file that every system has, and that is empty whenever it is read. -/
def nullDevice : List String := ["dev", "null"]

/-- Where a name leads from a directory outside the working directory. -/
def enterOutside (location : List String) (name : String) : Except OpenFailure Place :=
  if name = "." then .ok (.outside location)
  else if name = ".." then .ok (.outside location.dropLast)
  else if longestName < name.utf8ByteSize then .error .nameTooLong
  else if location ++ [name] = nullDevice then .ok (.file [])
  else if location ++ [name] ∈ standardDirectories then .ok (.outside (location ++ [name]))
  else .error .notFound

/-! ## Making entries -/

/-- The location that a name leads to when whatever it names is made; none if it
leads out of the working directory. -/
def descend? (location : List String) (name : String) : Option (List String) :=
  if name = "." then some location
  else if name = ".." then if location = [] then none else some location.dropLast
  else some (location ++ [name])

/-- The location that names lead to, one after the other. -/
def locate? (location : List String) (names : List String) : Option (List String) :=
  names.foldlM descend? location

/-- The locations on the way along names, up to the last one. -/
def locationsAlong (location : List String) : List String → List (List String)
  | [] => []
  | name :: rest =>
    match descend? location name with
    | none => []
    | some next => next :: locationsAlong next rest

namespace WorkingDirectory

/-- The working directory in which directories and files have been made by their
paths, with every directory on the way to them.  Of several files at one location
the last one counts. -/
def ofEntries (files : List (String × List UInt8)) (directories : List String) :
    WorkingDirectory where
  files :=
    (files.filterMap fun (path, bytes) =>
      (locate? [] (pathNames path)).map fun location => (location, bytes)).reverse
  directories :=
    (directories.flatMap fun path => locationsAlong [] (pathNames path))
      ++ files.flatMap fun (path, _) => locationsAlong [] (pathNames path).dropLast

/-- A directory is there: the working directory itself, or one that has been made. -/
def hasDirectory (directory : WorkingDirectory) (location : List String) : Bool :=
  location.isEmpty || directory.directories.contains location

/-- Where one name leads from a place. -/
def enter (directory : WorkingDirectory) (place : Place) (name : String) :
    Except OpenFailure Place :=
  match place with
  | .file _ => .error .notDirectory
  | .outside location => enterOutside location name
  | .directory location =>
    if name = "." then .ok place
    else if name = ".." then
      .ok (if location.isEmpty then .outside parentLocation else .directory location.dropLast)
    else if longestName < name.utf8ByteSize then .error .nameTooLong
    else
      match directory.files.lookup (location ++ [name]) with
      | some bytes => .ok (.file bytes)
      | none =>
        if directory.hasDirectory (location ++ [name]) then .ok (.directory (location ++ [name]))
        else .error .notFound

/-- Where several names lead, one after the other. -/
def walk (directory : WorkingDirectory) (place : Place) : List String → Except OpenFailure Place
  | [] => .ok place
  | name :: rest =>
    match directory.enter place name with
    | .error failure => .error failure
    | .ok next => directory.walk next rest

/-- Where a path leads.  A path that begins with a slash begins at the root, and one
that ends with a slash leads to a directory. -/
def resolve (directory : WorkingDirectory) (path : String) : Except OpenFailure Place :=
  if path = "" then .error .notFound
  else if longestPath < path.utf8ByteSize then .error .nameTooLong
  else
    let origin := if path.toList.head? = some '/' then Place.outside [] else .directory []
    match directory.walk origin (pathNames path) with
    | .ok (.file bytes) =>
      if path.toList.getLast? = some '/' then .error .notDirectory else .ok (.file bytes)
    | result => result

/-- The bytes of a file. -/
def read (directory : WorkingDirectory) (path : String) : Except ReadFailure (List UInt8) :=
  if '\x00' ∈ path.toList then .error .embeddedNul
  else
    match directory.resolve path with
    | .ok (.file bytes) => .ok bytes
    | .ok _ => .error (.cannotOpen .isDirectory)
    | .error failure => .error (.cannotOpen failure)

end WorkingDirectory

end LoxScan
