import DumpCheck.Path

/-!
# Files

`Files` is whatever gives the bytes of a file for its path. `FileTree` is a working directory held in
memory, which answers as a file system would.
-/

namespace DumpCheck

inductive ReadFailure
  /-- The system refuses, in its own words and with its own number. -/
  | system (description : Text) (code : Nat)
  /-- The path holds the character U+0000. -/
  | nulInPath
  /-- The bytes of the file are not UTF-8. -/
  | notText
  deriving Repr, DecidableEq

namespace ReadFailure

def notFound : ReadFailure := .system "No such file or directory".toList 2

def notDirectory : ReadFailure := .system "Not a directory".toList 20

def isDirectory : ReadFailure := .system "Is a directory".toList 21

def nameTooLong : ReadFailure := .system "File name too long".toList 36

/-- The failure with a number of the system, for those that have words of their own here. -/
def ofNumber? : (number : Nat) → Option ReadFailure
  | 2 => some notFound
  | 20 => some notDirectory
  | 21 => some isDirectory
  | 36 => some nameTooLong
  | _ => none

def message : ReadFailure → Text
  | system description code => description ++ " (os error ".toList ++ .ofNat code ++ ")".toList
  | nulInPath => "file name contained an unexpected NUL byte".toList
  | notText => "stream did not contain valid UTF-8".toList

end ReadFailure

/-- What there is to read: the bytes of the file at a path, or why there are none. -/
abbrev Files := Text → Except ReadFailure ByteArray

/-- The text of a file, which has to be in UTF-8. -/
def Files.text (files : Files) (path : Text) : Except ReadFailure Text := do
  match String.fromUTF8? (← files path) with
  | some t => .ok t.toList
  | none => .error .notText

/-- The files of a working directory and the directories in it, each under the parts of its path. -/
structure FileTree where
  files : List (List Text × ByteArray)
  directories : List (List Text)

namespace FileTree

/-- What is found on the way along a path. -/
inductive Place
  /-- A directory at or below the working directory. -/
  | directory (parts : List Text)
  | file (content : ByteArray)
  /-- A directory above the working directory. Nothing in it can be reached but what is above. -/
  | above

/-- The parts of a path that lead somewhere. -/
def significant (path : Text) : List Text :=
  (Path.parts path).filter (!Path.isTrivial ·)

/-- A tree of named files and directories. The directories that a name passes through are there too. -/
def ofNamed (files : List (Text × ByteArray)) (directories : List Text) : FileTree :=
  let files := files.map fun (name, content) => (significant name, content)
  let named := directories.map significant
  ⟨files, (files.map fun (parts, _) => parts.dropLast) ++ named⟩

def hasDirectory (tree : FileTree) (parts : List Text) : Bool :=
  parts.isEmpty || tree.directories.any parts.isPrefixOf

/-- The longest name that a file may have, in bytes. -/
def maxName : Nat := 255

/-- The longest path that may be asked for, in bytes. -/
def maxPath : Nat := 4095

/-- Goes on from a place along the parts of a path. -/
def walk (tree : FileTree) : Place → List Text → Except ReadFailure Place
  | place, [] => .ok place
  | .file _, _ :: _ => .error .notDirectory
  | place, part :: rest =>
    if Path.isTrivial part then tree.walk place rest
    else if part = ['.', '.'] then
      match place with
      | .directory parts =>
        if parts.isEmpty then tree.walk .above rest else tree.walk (.directory parts.dropLast) rest
      | _ => tree.walk .above rest
    else if maxName < part.utf8.length then .error .nameTooLong
    else
      match place with
      | .directory parts =>
        let here := parts ++ [part]
        match tree.files.lookup here with
        | some content => tree.walk (.file content) rest
        | none => if tree.hasDirectory here then tree.walk (.directory here) rest else .error .notFound
      | _ => .error .notFound

def read (tree : FileTree) : Files := fun path => do
  if path.contains '\x00' then throw .nulInPath
  if path.isEmpty then throw .notFound
  if maxPath < path.utf8.length then throw .nameTooLong
  match ← tree.walk (if Path.isAbsolute path then .above else .directory []) (Path.parts path) with
  | .file content => .ok content
  | _ => .error .isDirectory

end FileTree
end DumpCheck
