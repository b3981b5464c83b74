import Parley.Text.Pieces

/-!
# Paths of files

Paths are texts with slashes; one that starts with a slash is absolute. `Path.seenFrom` is the shorter of a path and
its form relative to a directory, which is how messages name a file.
-/

namespace Parley.Path

def isAbsolute (path : String) : Bool := path.toList.head? == some '/'

/-- The path as seen from a directory: an absolute path stays as it is. -/
def join (directory path : String) : String :=
  if isAbsolute path || directory == "" then path
  else if directory.toList.getLast? == some '/' then directory ++ path
  else directory ++ "/" ++ path

/-- The names along a path. Doubled slashes and single points between slashes count for nothing. -/
def names (path : String) : List String :=
  ((Text.pieces '/' path.toList).filter fun n => !n.isEmpty && n != ['.']).map String.ofList

/-- The names that lead from one place to another; both are given by their names from the root. -/
def lead : List String → List String → List String
  | a :: target, b :: directory =>
    if a = b then lead target directory else (b :: directory).map (fun _ => "..") ++ a :: target
  | [], directory => directory.map fun _ => ".."
  | target, [] => target

/-- An absolute path relative to a directory, unless that has no fewer names than the path has from the root. -/
def seenFrom (directory path : String) : String :=
  let relative := lead (names path) (names directory)
  if relative.length < (names path).length + 1 then "/".intercalate relative else path

end Parley.Path
