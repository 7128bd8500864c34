import AppManifest.CommandLine.Basic

/-!
# A folder in memory

A folder holds files by name and has no folders in it. The command runs in it as it does on a disk
(`Folder.files`), with the texts that Linux gives to failures.
-/

namespace AppManifest

/-- Files by name. -/
abbrev Folder := Table String

/-- Why a file of a folder cannot be read or written. -/
inductive FileError where
  | noSuchFile
  | notAFolder
  | isAFolder
  | nameTooLong
deriving DecidableEq

namespace FileError

/-- The text of an error. -/
def message : FileError → String
  | .noSuchFile => "No such file or directory (os error 2)"
  | .notAFolder => "Not a directory (os error 20)"
  | .isAFolder => "Is a directory (os error 21)"
  | .nameTooLong => "File name too long (os error 36)"

end FileError

namespace Folder

/-- The longest name of a file, in bytes. -/
def maxNameSize : Nat :=
  255

/-- The longest path, in bytes. -/
def maxPathSize : Nat :=
  4095

/-- The names of a path, without the empty ones between neighbouring slashes. -/
def names (path : List Char) : List String :=
  let (name, names) := path.foldr
    (fun c (name, names) =>
      if c = '/' then ([], String.ofList name :: names) else (c :: name, names))
    ([], [])
  (String.ofList name :: names).filter fun name => !name.isEmpty

/-- Where a path leads. -/
inductive Target where
  /-- To a folder: this one, or one above it. -/
  | folder
  /-- To what has a name in this folder, or in one above it. Behind a slash at the end of the path
  only a folder may be meant. -/
  | named (here : Bool) (name : String) (slash : Bool)

/-- Goes to the folder of a name, from this folder (`here`) or from one above it. Nothing is known
of the folders above but that each leads further up. -/
def enter (folder : Folder) (here : Bool) (name : String) : Except FileError Bool :=
  if name = "." then .ok here
  else if name = ".." then .ok false
  else if maxNameSize < name.utf8ByteSize then .error .nameTooLong
  else if here && (folder.get? name).isSome then .error .notAFolder
  else .error .noSuchFile

/-- Follows a path. A path that starts with a slash starts at the uppermost folder. -/
def follow (folder : Folder) (path : String) : Except FileError Target :=
  if path.isEmpty then .error .noSuchFile
  else if maxPathSize < path.utf8ByteSize then .error .nameTooLong
  else do
    let names := names path.toList
    let here ← names.dropLast.foldlM folder.enter (path.toList.head? != some '/')
    match names.getLast? with
    | none | some "." | some ".." => return .folder
    | some name => return .named here name (path.toList.getLast? == some '/')

/-- Reads a file. -/
def read (folder : Folder) (path : String) : Except FileError String := do
  match ← folder.follow path with
  | .folder => .error .isAFolder
  | .named here name slash =>
      if maxNameSize < name.utf8ByteSize then .error .nameTooLong
      else
        match if here then folder.get? name else none with
        | some text => if slash then .error .notAFolder else .ok text
        | none => .error .noSuchFile

/-- Writes a file. What is written above the folder changes nothing in it. -/
def write (folder : Folder) (path text : String) : Except FileError Folder := do
  match ← folder.follow path with
  | .folder => .error .isAFolder
  | .named here name slash =>
      if slash then .error .isAFolder
      else if maxNameSize < name.utf8ByteSize then .error .nameTooLong
      else .ok (if here then folder.insert name text else folder)

/-- The files of a folder that changes as files are written. -/
def files : Files (StateM Folder) where
  read path := do return ((← get).read path).mapError FileError.message
  write path text := do
    match (← get).write path text with
    | .ok folder => set folder; return .ok ()
    | .error error => return .error error.message

end Folder

end AppManifest
