import Parley.Config.Load

/-!
# Files that are known beforehand

A `Files` is a working directory with some files below it. `Files.find` says what is found at a path.
-/

namespace Parley.Config

/-- Files by the names that lead to them from the root. -/
structure Files where
  directory : String
  contents : List (List String × String)

namespace Files

/-- Files by their paths, seen from a directory. -/
def ofPairs (directory : String) (pairs : List (String × String)) : Files :=
  ⟨directory, pairs.reverse.map fun p => (Path.names (Path.join directory p.1), p.2)⟩

/-- The names lead to a directory: the working directory, one above it, or one above some file. -/
def isDirectory (fs : Files) (names : List String) : Bool :=
  names.isPrefixOf (Path.names fs.directory) ||
    fs.contents.any fun f => names.isPrefixOf f.1 && names.length < f.1.length

/-- Where the names of a path lead, starting in the directory `here`; every name but the last has to lead to a
directory. -/
def walk (fs : Files) (here : List String) : List String → Option (List String)
  | [] => some here
  | name :: rest =>
    if !fs.isDirectory here then none
    else if name = ".." then walk fs here.dropLast rest
    else walk fs (here ++ [name]) rest

/-- A path whose end says that it leads to a directory. -/
def namesDirectory (path : String) : Bool :=
  match path.toList.reverse with
  | '/' :: _ | '.' :: '/' :: _ => true
  | _ => false

def find (fs : Files) (path : String) : Found :=
  if path = "" then .nothing
  else
    match fs.walk [] (Path.names (Path.join fs.directory path)) with
    | none => .nothing
    | some names =>
      match fs.contents.lookup names with
      | some content => if namesDirectory path then .nothing else .file content
      | none => if fs.isDirectory names then .notFile else .nothing

end Files

end Parley.Config
