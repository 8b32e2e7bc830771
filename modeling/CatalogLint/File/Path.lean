/-
Paths of files. A path starts at the root or where the program runs and goes from name to name; two dots go one step out
and stay in the path as they are written. Empty names and single dots mean nothing, so a path has one written form
(`Path.text`). A location is what is left when the steps out are made: two dots stay only where they lead out of the
working directory.
-/
import CatalogLint.Text.Split

namespace CatalogLint

structure Path where
  /-- the slashes of the root, empty where the path starts at the working directory -/
  root : String
  names : List String
  deriving DecidableEq

/-- the names that lead to a location from the working directory; a slash in front stands for the root -/
abbrev Location := List String

namespace Location

def root : Location := ["/"]

/-- one name further; nothing is outside of the root -/
def next (location : Location) (name : String) : Location :=
  if name ≠ ".." then location ++ [name]
  else if location = root then root
  else if location.all (· == "..") then location ++ [".."]
  else location.dropLast

end Location

namespace Path

/-- the root that a written path starts at; exactly two slashes are a root of their own -/
def rootOf (cs : List Char) : String :=
  match cs.takeWhile (· == '/') with
  | [] => ""
  | ['/', '/'] => "//"
  | _ => "/"

def ofText (text : String) : Path where
  root := rootOf text.toList
  names := ((Text.split '/' text.toList).map String.ofList).filter fun name => name ≠ "" && name ≠ "."

def text (p : Path) : String :=
  if p.root = "" && p.names.isEmpty then "." else p.root ++ "/".intercalate p.names

/-- where a path starts -/
def start (p : Path) : Location := if p.root = "" then [] else Location.root

/-- where a path ends -/
def location (p : Path) : Location := p.names.foldl Location.next p.start

end Path

end CatalogLint
