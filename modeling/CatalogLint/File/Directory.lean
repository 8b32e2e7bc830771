/-
The working directory with all files below it. `Directory.find` follows a path name by name, where each step must stand
on a directory. What lies outside the working directory is not known: the directories around it are there and the null
device is, and nothing else.
-/
import CatalogLint.File.Path

namespace CatalogLint

structure Directory where
  /-- the texts of the files, by their locations -/
  files : List (Location × String)
  /-- the locations of the directories, the working directory and those around it apart -/
  folders : List Location

namespace Directory

/-- what stands at the end of a path -/
inductive Found where
  | file (text : String)
  | directory
  | absent
  /-- a name or the whole path is longer than the system takes -/
  | tooLong
  deriving DecidableEq

/-- the greatest length of a name, in bytes -/
def nameLimit : Nat := 255

/-- the greatest length of a path, in bytes -/
def pathLimit : Nat := 4095

/-- where the null device stands, a file without contents -/
def nullDevice : Path := ⟨"/", ["dev", "null"]⟩

/-- the locations that a path leads through before its end -/
def locationsOn (start : Location) : List String → List Location
  | [] => []
  | name :: rest => start :: locationsOn (start.next name) rest

/-- the directory after the files are written in turn: of two at one location the last one counts, and the directories
on the way to a file are made -/
def ofFiles (files : List (String × String)) : Directory :=
  let written := (nullDevice, "") :: files.map fun (path, text) => (Path.ofText path, text)
  ⟨written.reverse.map fun (path, text) => (path.location, text),
    written.flatMap fun (path, _) => locationsOn path.start path.names⟩

def isDirectory (d : Directory) (location : Location) : Bool := location.all (· == "..") || d.folders.contains location

def foundAt (d : Directory) (location : Location) : Found :=
  match d.files.lookup location with
  | some text => .file text
  | none => if d.isDirectory location then .directory else .absent

/-- what stands at the end of the names, from a location on -/
def follow (d : Directory) (location : Location) : List String → Found
  | [] => d.foundAt location
  | name :: rest =>
    if !d.isDirectory location then .absent
    else if nameLimit < name.utf8ByteSize then .tooLong
    else d.follow (location.next name) rest

/-- what stands at the end of a path -/
def find (d : Directory) (p : Path) : Found :=
  if pathLimit < p.text.utf8ByteSize then .tooLong else d.follow p.start p.names

end Directory

end CatalogLint
