import Inspection.Files.Path
import Inspection.Report.Basic

/-!
# Files — Trees

A tree holds files and folders by name.  Only what a file system lets its reader see is in it: every
name is a text, every folder can be listed and the octets of every file can be read.  An entry that
cannot be reached, a name that is not Unicode, and what is neither a file nor a folder have no place
in a tree.

* `Entry.find?`: the entry at a path.
* `Entry.files`: all files, each folder's entries in the order of their names.
* `Entry.put?`: the tree with one more file, and the folders it needs.
-/

namespace Inspection.Files

/-- A file or a folder. -/
inductive Entry where
  | file (octets : List UInt8)
  | folder (entries : List (String × Entry))

namespace Entry

/-- A folder with nothing in it. -/
def empty : Entry := .folder []

/-- The entry at a path below this one. -/
def find? : List String → Entry → Option Entry
  | [], e => some e
  | name :: rest, .folder entries => (entries.lookup name).bind (find? rest)
  | _ :: _, .file _ => none

/-- The entry is a folder. -/
def isFolder : Entry → Bool
  | .folder _ => true
  | .file _ => false

/-- The entries with one of them replaced or added. -/
def set (entries : List (String × Entry)) (name : String) (e : Entry) : List (String × Entry) :=
  entries.filter (·.1 != name) ++ [(name, e)]

/-- The tree with an entry at a path, the folders on the way being made where they are missing;
none if a file stands in the way. -/
def put? (e : Entry) : List String → Entry → Option Entry
  | [], _ => some e
  | name :: rest, .folder entries =>
    (put? e rest ((entries.lookup name).getD empty)).map fun child =>
      .folder (set entries name child)
  | _ :: _, .file _ => none

/-- The tree with a folder at a path, made with those on the way where it is missing; none if a
file stands there or in the way. -/
def makeFolder? : List String → Entry → Option Entry
  | [], .folder entries => some (.folder entries)
  | name :: rest, .folder entries =>
    (makeFolder? rest ((entries.lookup name).getD empty)).map fun child =>
      .folder (set entries name child)
  | _, .file _ => none

mutual

/-- All files with their paths; within a folder in the order of the names. -/
def files : Entry → List (List String × List UInt8)
  | .file octets => [([], octets)]
  | .folder entries =>
    ((perEntry entries).mergeSort fun a b => textAtMost a.1 b.1).flatMap (·.2)

/-- The files of each entry of a folder, their paths starting with its name. -/
def perEntry : List (String × Entry) → List (String × List (List String × List UInt8))
  | [] => []
  | (name, e) :: rest =>
    (name, (files e).map fun (path, octets) => (name :: path, octets)) :: perEntry rest

end

end Entry

end Inspection.Files
