/-
ContentDelivery.Url.Reading — reading URLs of the scheme "https".

`Url.ofText?` reads what follows "https:". Tabs and line ends are passed
over everywhere, a backslash is a slash, and any number of slashes may
come first. Then follow the authority (credentials up to the last at
sign, host, port), the path, the query and the fragment. Dot segments of
the path are resolved. What may not stand for itself is percent-encoded;
only the host and the port can be wrong.
-/
import ContentDelivery.Url.Basic

namespace ContentDelivery.Url

/-! ## Authority -/

/-- The parts of an authority before they are checked. -/
structure Authority where
  username : List Char
  password : List Char
  host : List Char
  port : List Char

/-- What stands before and after the first character that satisfies `p`, which is dropped. -/
def splitFirst (p : Char → Bool) (cs : List Char) : List Char × List Char :=
  (cs.takeWhile (!p ·), (cs.dropWhile (!p ·)).drop 1)

/-- What stands before and after the last at sign. -/
def splitUserinfo (cs : List Char) : List Char × List Char :=
  if cs.contains '@' then
    let host := (cs.reverse.takeWhile (· != '@')).reverse
    (cs.take (cs.length - host.length - 1), host)
  else ([], cs)

/-- Host and port are parted by the first colon outside brackets. -/
def splitPort : (inBrackets : Bool) → List Char → List Char × List Char
  | _, [] => ([], [])
  | inBrackets, c :: cs =>
    if c = ':' ∧ !inBrackets then ([], cs)
    else
      let (host, port) := splitPort (c = '[' || (inBrackets && c != ']')) cs
      (c :: host, port)

def Authority.ofText (cs : List Char) : Authority :=
  let (userinfo, address) := splitUserinfo cs
  let (username, password) := splitFirst (· == ':') userinfo
  let (host, port) := splitPort false address
  { username, password, host, port }

/-- The number of a port, below 2^16; nothing, or the port of the scheme, is no port. -/
def port? (cs : List Char) : Option (Option Nat) :=
  if cs.all Char.isDigit then
    let n := cs.foldl (fun n c => n * 10 + (c.toNat - '0'.toNat)) 0
    if UInt16.size ≤ n then none
    else some (if cs.isEmpty || n == defaultPort then none else some n)
  else none

/-! ## Path -/

def isSlash (c : Char) : Bool := c = '/' || c = '\\'

/-- The pieces between slashes. -/
def splitSlashes (cs : List Char) : List (List Char) :=
  (cs.map fun c => if c = '\\' then '/' else c).splitOn '/'

/-- A segment with its percent-encoded dots decoded, in lower case. -/
def plainDots : List Char → List Char
  | '%' :: '2' :: 'e' :: cs | '%' :: '2' :: 'E' :: cs => '.' :: plainDots cs
  | c :: cs => c :: plainDots cs
  | [] => []

def isSingleDot (segment : List Char) : Bool := plainDots segment = ['.']

def isDoubleDot (segment : List Char) : Bool := plainDots segment = ['.', '.']

/-- Whether a segment names a drive: a letter and a colon or a bar. -/
def isDrive (segment : List Char) : Bool :=
  match segment with
  | [letter, mark] => letter.isAlpha && (mark = ':' || mark = '|')
  | _ => false

/-- A path without its last segment, which stays if it names a drive. -/
def parent (path : List (List Char)) : List (List Char) :=
  if path.getLast?.any isDrive then path else path.dropLast

/-- Adds segments to a path, encoded. One dot adds nothing and two dots lead to the parent, but
a path that ends in dots ends in a slash. -/
def resolve (path : List (List Char)) : List (List Char) → List (List Char)
  | [] => path
  | [last] =>
    if isDoubleDot last then parent path ++ [[]]
    else if isSingleDot last then path ++ [[]]
    else path ++ [Percent.encode Percent.keptInPath last]
  | segment :: rest =>
    if isDoubleDot segment then resolve (parent path) rest
    else if isSingleDot segment then resolve path rest
    else resolve (path ++ [Percent.encode Percent.keptInPath segment]) rest

/-- The segments of a path, whose first slash may be missing. -/
def pathOfText (cs : List Char) : List (List Char) :=
  match cs with
  | [] => [[]]
  | c :: rest => resolve [] (splitSlashes (if isSlash c then rest else c :: rest))

/-! ## The whole -/

/-- Whether a character is passed over wherever it stands. -/
def isIgnored (c : Char) : Bool := c = '\t' || c = '\n' || c = '\r'

def endsAuthority (c : Char) : Bool := isSlash c || c = '?' || c = '#'

/-- What follows a mark, if the text begins with that mark. -/
def behind? (mark : Char) : List Char → Option (List Char)
  | [] => none
  | c :: cs => if c = mark then some cs else none

/-- The URL that a text after "https:" stands for. -/
def ofText? (text : List Char) : Option Url := do
  let cs := (text.filter (!isIgnored ·)).dropWhile isSlash
  let authority := Authority.ofText (cs.takeWhile (!endsAuthority ·))
  let host ← Host.ofText? authority.host
  let port ← port? authority.port
  let target := cs.dropWhile (!endsAuthority ·)
  let beforeFragment := target.takeWhile (· != '#')
  return {
    username := Percent.encode Percent.keptInUserinfo authority.username
    password := Percent.encode Percent.keptInUserinfo authority.password
    host
    port
    path := pathOfText (beforeFragment.takeWhile (· != '?'))
    query := (behind? '?' (beforeFragment.dropWhile (· != '?'))).map
      (Percent.encode Percent.keptInQuery)
    fragment := (behind? '#' (target.dropWhile (· != '#'))).map
      (Percent.encode Percent.keptInFragment)
  }

end ContentDelivery.Url
