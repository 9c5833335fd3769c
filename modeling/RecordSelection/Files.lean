import RecordSelection.Text.Blank

/-!
Files by their paths, from a directory or from the root of the system, and why one cannot be read. A
path is followed name by name; only the places are known that listed files lie in.
-/

set_option autoImplicit false

namespace RecordSelection

inductive FileFault where
  | missing
  | directory
  | belowFile
  | nameTooLong
  | zeroInName
  | notText
  deriving DecidableEq, Repr

def FileFault.message : FileFault → String
  | .missing => "No such file or directory (os error 2)"
  | .directory => "Is a directory (os error 21)"
  | .belowFile => "Not a directory (os error 20)"
  | .nameTooLong => "File name too long (os error 36)"
  | .zeroInName => "file name contained an unexpected NUL byte"
  | .notText => "stream did not contain valid UTF-8"

namespace FileFault

def maxNameBytes : Nat := 255

def maxPathBytes : Nat := 4095

end FileFault

/-- Some files, by their paths; a path from the root begins with a slash. -/
abbrev Files := List (String × String)

namespace Files

def parts (path : String) : List (List Char) := Text.splitAt (· == '/') path.toList

def names (path : String) : List (List Char) :=
  (parts path).filter fun part => part ≠ [] && part ≠ ['.']

def isFromRoot (path : String) : Bool := path.toList.head? == some '/'

inductive Entry where
  | file (content : String)
  | directory
  | nothing
  deriving DecidableEq, Repr

def entry (files : Files) (path : List (List Char)) : Entry :=
  match files.find? fun file => names file.1 == path with
  | some file => .file file.2
  | none =>
    if path.isEmpty || files.any fun file => path.isPrefixOf (names file.1) then .directory
    else .nothing

/-- Where a path has led to: a place under the directory, one under the root, or one of which
nothing is known. -/
inductive Place where
  | inside (path : List (List Char))
  | root (path : List (List Char))
  | beyond
  deriving DecidableEq, Repr

def Place.parent : Place → Place
  | .inside [] | .beyond => .beyond
  | .inside path => .inside path.dropLast
  | .root path => .root path.dropLast

def Place.child (place : Place) (name : List Char) : Place :=
  match place with
  | .inside path => .inside (path ++ [name])
  | .root path => .root (path ++ [name])
  | .beyond => .beyond

def Place.entry (files : Files) : Place → Entry
  | .inside path => Files.entry (files.filter fun file => !isFromRoot file.1) path
  | .root path => Files.entry (files.filter fun file => isFromRoot file.1) path
  | .beyond => .nothing

def byteCount (name : List Char) : Nat := name.foldl (fun n c => n + c.utf8Size) 0

def follow (files : Files) : Place → List (List Char) → Except FileFault String
  | _, [] => .error .directory
  | place, part :: rest =>
    if part = [] || part = ['.'] then follow files place rest
    else if part = ['.', '.'] then follow files place.parent rest
    else if FileFault.maxNameBytes < byteCount part then .error .nameTooLong
    else match (place.child part).entry files with
      | .file content => if rest.isEmpty then .ok content else .error .belowFile
      | .directory => follow files (place.child part) rest
      | .nothing => .error .missing

def find (files : Files) (path : String) : Except FileFault String :=
  if path.toList.contains '\x00' then .error .zeroInName
  else if path.isEmpty then .error .missing
  else if FileFault.maxPathBytes < path.utf8ByteSize then .error .nameTooLong
  else follow files (if isFromRoot path then .root [] else .inside []) (parts path)

end Files

end RecordSelection
