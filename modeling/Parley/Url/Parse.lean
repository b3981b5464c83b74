import Parley.Url.Basic

/-!
# Reading absolute URLs

Blanks and controls at both ends are dropped, and so are tabs and line breaks anywhere. The scheme decides how the rest
is read: backslashes count as slashes and a host is required for the schemes that every browser knows; files may have a
host; all other schemes have an authority only after two slashes. What may not stand in a URL is percent-encoded.
-/

namespace Parley.Url

/-- The characters of a text that count. -/
def relevant (cs : List Char) : List Char :=
  let isEdge (c : Char) : Bool := c.toNat ≤ 0x20
  (((cs.dropWhile isEdge).reverse.dropWhile isEdge).reverse).filter fun c => c != '\t' && c != '\n' && c != '\r'

def isLetter (c : Char) : Bool := c.isAlpha

def isSchemeChar (c : Char) : Bool := c.isAlphanum || c == '+' || c == '-' || c == '.'

/-- The scheme in lowercase, and the text after its colon. -/
def scheme? (cs : List Char) : Option (String × List Char) :=
  if (cs.head?.map isLetter) = some true then
    match cs.dropWhile isSchemeChar with
    | ':' :: rest => some (String.ofList ((cs.takeWhile isSchemeChar).map Char.toLower), rest)
    | _ => none
  else none

/-- The character ends an authority or a segment of a path. -/
def endsPart (special : Bool) (c : Char) : Bool :=
  c == '/' || c == '?' || c == '#' || (special && c == '\\')

/-- The part of an authority before its last `@`, and the rest. -/
def splitAtLast (cs : List Char) : Option (List Char × List Char) :=
  if cs.contains '@' then
    let after := (cs.reverse.takeWhile (· != '@')).reverse
    some (cs.take (cs.length - after.length - 1), after)
  else none

def credentials (cs : List Char) : String × String :=
  let encoded (cs : List Char) := String.ofList (Percent.encode Percent.inUserinfo cs)
  (encoded (cs.takeWhile (· != ':')), encoded (cs.dropWhile (· != ':')).tail)

/-- A port up to the end of the text; the scheme's own port is left out. -/
def port? (scheme : String) (cs : List Char) : Except Error (Option Nat) :=
  let value := cs.foldl (fun acc c => acc * 10 + (c.toNat - 48)) 0
  if !cs.all Ipv6.isDigit || 65535 < value then .error .badPort
  else if cs.isEmpty || standardPort scheme == some value then .ok none
  else .ok (some value)

/-- The characters of a host: up to the first colon that is not between brackets. -/
def hostPart : Bool → List Char → List Char
  | _, [] => []
  | inBrackets, c :: cs =>
    if c = ':' ∧ ¬inBrackets then []
    else if c = '[' then c :: hostPart true cs
    else if c = ']' then c :: hostPart false cs
    else c :: hostPart inBrackets cs

def hostAndPort (scheme : String) (cs : List Char) : Except Error (Host × Option Nat) :=
  let host := hostPart false cs
  let rest := cs.drop host.length
  if host.isEmpty && (isSpecial scheme || !rest.isEmpty) then .error .emptyHost
  else
    match (if isSpecial scheme then Host.parse host else Host.parseOther host) with
    | .error e => .error e
    | .ok h =>
      match port? scheme rest.tail with
      | .error e => .error e
      | .ok port => .ok (h, port)

/-- The authority at the front of a text, and the text after it. -/
def readAuthority (scheme : String) (cs : List Char) : Except Error (Authority × List Char) :=
  let part := cs.takeWhile fun c => !endsPart (isSpecial scheme) c
  let rest := cs.dropWhile fun c => !endsPart (isSpecial scheme) c
  match splitAtLast part with
  | none => (hostAndPort scheme part).map fun h => (⟨"", "", h.1, h.2⟩, rest)
  | some (info, part) =>
    let (user, password) := credentials info
    match hostAndPort scheme part with
    | .error e => .error e
    | .ok (host, port) =>
      if part.isEmpty && (info.isEmpty && !rest.isEmpty || user != "" || password != "") then .error .emptyHost
      else .ok (⟨user, password, host, port⟩, rest)

def dots : List String := [".", "%2e"]

def isSingleDot (segment : String) : Bool := dots.contains segment.toLower

def isDoubleDot (segment : String) : Bool :=
  (dots.flatMap fun a => dots.map fun b => a ++ b).contains segment.toLower

/-- The first segment of a file's path that names a drive, with a colon. -/
def drive? (segment : String) : Option String :=
  match segment.toList with
  | [c, d] => if isLetter c ∧ (d = ':' ∨ d = '|') then some (String.ofList [c, ':']) else none
  | _ => none

/-- The path is a drive, which is never left. -/
def isDrive : List String → Bool
  | [segment] => segment.toList.getLast? == some ':' && (drive? segment).isSome
  | _ => false

/-- Takes one more segment; `last` tells that no slash follows it. -/
def addSegment (file last : Bool) (path : List String) (segment : String) : List String :=
  if isDoubleDot segment then
    let path := if file && isDrive path then path else path.dropLast
    if last then path ++ [""] else path
  else if isSingleDot segment then
    if last then path ++ [""] else path
  else
    match (if file && path.isEmpty then drive? segment else none) with
    | some drive => [drive]
    | none => path ++ [segment]

def addSegments (file : Bool) (path : List String) : List String → List String
  | [] => path
  | [segment] => addSegment file true path segment
  | segment :: rest => addSegments file (addSegment file false path segment) rest

def segments (special : Bool) (cs : List Char) : List String :=
  let slashed := if special then cs.map fun c => if c = '\\' then '/' else c else cs
  (Text.pieces '/' slashed).map fun p => String.ofList (Percent.encode Percent.inPath p)

/-- The text up to a query or fragment, and the rest. -/
def splitPath (cs : List Char) : List Char × List Char :=
  let isMark (c : Char) : Bool := c == '?' || c == '#'
  (cs.takeWhile fun c => !isMark c, cs.dropWhile fun c => !isMark c)

/-- Query and fragment of a text that starts with one of them, or is empty. -/
def queryAndFragment (scheme : String) (cs : List Char) : Option String × Option String :=
  let query := cs.takeWhile (· != '#')
  let fragment := (cs.dropWhile (· != '#'))
  let inSet := if isSpecial scheme then Percent.inSpecialQuery else Percent.inQuery
  (if query.isEmpty then none else some (String.ofList (Percent.encode inSet query.tail)),
    if fragment.isEmpty then none else some (String.ofList (Percent.encode Percent.inFragment fragment.tail)))

/-- A URL with its path, query and fragment taken from the text after the authority. -/
def complete (scheme : String) (a : Option Authority) (path : List Char → Path) (cs : List Char) : Url :=
  let (pathText, rest) := splitPath cs
  let (query, fragment) := queryAndFragment scheme rest
  ⟨scheme, a, path pathText, query, fragment⟩

/-- The path after an authority. Only schemes that no browser knows leave it empty. -/
def pathAfterAuthority (scheme : String) (cs : List Char) : Path :=
  match cs with
  | [] => .segments (if isSpecial scheme then [""] else [])
  | c :: rest =>
    let rest := if c = '/' ∨ (isSpecial scheme ∧ c = '\\') then rest else c :: rest
    .segments (addSegments false [] (segments (isSpecial scheme) rest))

/-- The path of a file: empty segments at its front count for nothing. -/
def filePath (cs : List Char) : List String :=
  let path := addSegments true [] ((segments true cs).dropWhile (· == ""))
  match path.dropWhile (· == "") with
  | [] => [""]
  | path => path

def withAuthority (scheme : String) (cs : List Char) : Except Error Url :=
  (readAuthority scheme cs).map fun (a, rest) => complete scheme (some a) (pathAfterAuthority scheme) rest

def isSlash (c : Char) : Bool := c == '/' || c == '\\'

def ofFilePath (host : Host) (cs : List Char) : Url :=
  complete "file" (some { host }) (fun p => .segments (filePath p)) cs

def startsWithDrive : Path → Bool
  | .segments (name :: _) => (drive? name).isSome
  | _ => false

/-- A file after two slashes. A drive instead of a host is a part of the path, a path with a drive has no host, and
the local host is not named. -/
def ofHostAndFile (cs : List Char) : Except Error Url :=
  let name := cs.takeWhile fun c => !endsPart true c
  let rest := cs.dropWhile fun c => !endsPart true c
  if (drive? (String.ofList name)).isSome then .ok (ofFilePath (.name "") cs)
  else if name.isEmpty then .ok (ofFilePath (.name "") rest)
  else
    match Host.parse name with
    | .error e => .error e
    | .ok host =>
      let u := ofFilePath (.name "") rest
      if host = .name "localhost" ∨ startsWithDrive u.path then .ok u
      else .ok { u with authority := some { host } }

def ofFile : List Char → Except Error Url
  | a :: b :: rest =>
    if isSlash a && isSlash b then ofHostAndFile rest else .ok (ofFilePath (.name "") (a :: b :: rest))
  | cs => .ok (ofFilePath (.name "") cs)

def ofOther (scheme : String) (cs : List Char) : Except Error Url :=
  match cs with
  | '/' :: '/' :: rest => withAuthority scheme rest
  | '/' :: rest => .ok (complete scheme none (fun p => .segments (addSegments false [] (segments false p))) rest)
  | cs => .ok (complete scheme none (fun p => .whole (String.ofList (Percent.encode Percent.isControl p))) cs)

def parse (s : String) : Except Error Url :=
  match scheme? (relevant s.toList) with
  | none => .error .relative
  | some (scheme, rest) =>
    if isNetworkScheme scheme then withAuthority scheme (rest.dropWhile isSlash)
    else if scheme = "file" then ofFile rest
    else ofOther scheme rest

end Parley.Url
