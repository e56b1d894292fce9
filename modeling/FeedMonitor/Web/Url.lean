import FeedMonitor.Web.Host

/-!
URLs: reading one and naming its parts.

The special schemes have an authority always and read a backslash as a slash. Other schemes have one
after two slashes. Blanks around a URL and line breaks and tabs inside it are ignored.
-/

namespace FeedMonitor.Web

structure Url where
  scheme : String
  host : Option Host
  /-- The port if it is not the usual one of the scheme. -/
  port : Option Nat
  path : String
  query : Option String
  fragment : Option String

namespace Url

def isSpecial (scheme : String) : Bool :=
  ["http", "https", "ws", "wss", "ftp", "file"].contains scheme

def usualPort? : String → Option Nat
  | "http" | "ws" => some 80
  | "https" | "wss" => some 443
  | "ftp" => some 21
  | _ => none

def isSchemeChar (c : Char) : Bool := c.isAlphanum || c = '+' || c = '-' || c = '.'

/-- The scheme in lower case and the text after its colon. -/
def takeScheme? (cs : List Char) : Option (String × List Char) :=
  match cs.dropWhile isSchemeChar with
  | ':' :: rest =>
    if (cs.head?.any Char.isAlpha) then
      some (String.ofList ((cs.takeWhile isSchemeChar).map Char.toLower), rest)
    else none
  | _ => none

/-- What ends an authority. -/
def endsAuthority (special : Bool) (c : Char) : Bool :=
  c = '/' || c = '?' || c = '#' || (special && c = '\\')

/-- The text before the last `@` of an authority, if it has one, and the text after it. -/
def splitUserinfo (special : Bool) (cs : List Char) : Option (List Char) × List Char :=
  let authority := cs.takeWhile fun c => !endsAuthority special c
  let after := (authority.reverse.takeWhile (· != '@')).reverse
  if after.length < authority.length then
    let before := authority.take (authority.length - after.length - 1)
    (some before, cs.drop (before.length + 1))
  else (none, cs)

/-- The text of a host, up to a colon outside brackets or the end of the authority. -/
def takeHost (special bracketed : Bool) : List Char → List Char × List Char
  | [] => ([], [])
  | c :: rest =>
    if endsAuthority special c || (c = ':' && !bracketed) then ([], c :: rest)
    else
      let (host, after) := takeHost special (if c = '[' then true else if c = ']' then false
        else bracketed) rest
      (c :: host, after)

/-- A port after a colon, if there is one: digits up to the end of the authority. -/
def takePort (cs : List Char) : Except Fault (Option Nat × List Char) :=
  match cs with
  | ':' :: rest =>
    let digits := rest.takeWhile Char.isDigit
    let after := rest.dropWhile Char.isDigit
    let port := Nat.ofDigitChars 10 digits 0
    if 65535 < port || (after.head?.any fun c => !endsAuthority true c) then .error .invalidPort
    else .ok (if digits.isEmpty then none else some port, after)
  | cs => .ok (none, cs)

/-! ### Paths -/

def isSlash (special : Bool) (c : Char) : Bool := c = '/' || (special && c = '\\')

/-- The segments between slashes. -/
def segments (special : Bool) (cs : List Char) : List (List Char) :=
  Text.splitOn '/' (cs.map fun c => if isSlash special c then '/' else c)

/-- A segment with its encoded dots read as dots. -/
def plainDots : List Char → List Char
  | '%' :: '2' :: e :: rest =>
    if e = 'e' || e = 'E' then '.' :: plainDots rest else '%' :: '2' :: e :: plainDots rest
  | c :: rest => c :: plainDots rest
  | [] => []

/-- Follows the segments, the last one first in `done`: one dot stays and two dots go back. -/
def followSegments (done : List (List Char)) : List (List Char) → List (List Char)
  | [] => done
  | segment :: rest =>
    let dots := plainDots segment
    let done := if dots = ['.', '.'] then done.drop 1 else if dots = ['.'] then done
      else segment :: done
    let isDots := dots = ['.', '.'] || dots = ['.']
    followSegments (if isDots && rest.isEmpty then [] :: done else done) rest

def pathText (special : Bool) (cs : List Char) : String :=
  let followed := (followSegments [] (segments special cs)).reverse
  String.ofList ('/' :: Text.joinWith '/' (followed.map (percentEncode inPath)))

/-- The path of a URL with an authority. -/
def hierarchicalPath (special : Bool) (cs : List Char) : String :=
  match cs with
  | [] => if special then "/" else ""
  | c :: rest => pathText special (if isSlash special c then rest else c :: rest)

/-- The texts of path, query and fragment. -/
def splitTail (cs : List Char) : List Char × Option (List Char) × Option (List Char) :=
  let path := cs.takeWhile fun c => c != '?' && c != '#'
  match cs.dropWhile fun c => c != '?' && c != '#' with
  | '?' :: rest =>
    let query := rest.takeWhile (· != '#')
    match rest.dropWhile (· != '#') with
    | '#' :: fragment => (path, some query, some fragment)
    | _ => (path, some query, none)
  | '#' :: fragment => (path, none, some fragment)
  | _ => (path, none, none)

def withTail (scheme : String) (host : Option Host) (port : Option Nat)
    (path : List Char → String) (cs : List Char) : Url :=
  let (pathPart, query, fragment) := splitTail cs
  let reserved := if isSpecial scheme then inSpecialQuery else inQuery
  { scheme, host, port
    path := path pathPart
    query := query.map fun cs => String.ofList (percentEncode reserved cs)
    fragment := fragment.map fun cs => String.ofList (percentEncode inFragment cs) }

/-! ### Whole URLs -/

/-- Whether anything but a colon in front of nothing is there. -/
def isUserinfoWritten (userinfo : List Char) : Bool := !userinfo.isEmpty && userinfo != [':']

/-- The URL whose authority starts at `cs`. -/
def afterSlashes (scheme : String) (cs : List Char) : Except Fault Url := do
  let special := isSpecial scheme
  let (userinfo, rest) := splitUserinfo special cs
  if userinfo == some [] && rest.head?.any (endsAuthority special) then throw .emptyHost
  let (hostText, rest) := takeHost special false rest
  if special && hostText.isEmpty then throw .emptyHost
  let host ← if special then Host.parse hostText else Host.parseOpaque hostText
  if hostText.isEmpty && rest.head? == some ':' then throw .emptyHost
  let (port, rest) ← takePort rest
  if hostText.isEmpty && userinfo.any isUserinfoWritten then throw .emptyHost
  return withTail scheme (if hostText.isEmpty then none else some host)
    (if port == usualPort? scheme then none else port) (hierarchicalPath special) rest

/-- Whether a text is a letter and a colon or a bar. -/
def isDriveLetter : List Char → Bool
  | [letter, mark] => letter.isAlpha && (mark = ':' || mark = '|')
  | _ => false

/-- A URL of the scheme `file`: a host only after two slashes, and no port. -/
def fileUrl (cs : List Char) : Except Fault Url := do
  match cs with
  | a :: b :: rest =>
    if isSlash true a && isSlash true b then
      let hostText := rest.takeWhile fun c => !endsAuthority true c
      if hostText.isEmpty || isDriveLetter hostText then
        return withTail "file" none none (hierarchicalPath true) rest
      let host ← Host.parse hostText
      return withTail "file" (some host) none (hierarchicalPath true) (rest.drop hostText.length)
    else return withTail "file" none none (hierarchicalPath true) cs
  | _ => return withTail "file" none none (hierarchicalPath true) cs

/-- Blanks at the ends and tabs and line breaks anywhere are not part of a URL. -/
def cleaned (cs : List Char) : List Char :=
  let isEdge (c : Char) : Bool := c.toNat ≤ 0x20
  let inner := ((cs.dropWhile isEdge).reverse.dropWhile isEdge).reverse
  inner.filter fun c => c != '\t' && c != '\n' && c != '\r'

def parse (text : String) : Except Fault Url :=
  match takeScheme? (cleaned text.toList) with
  | none => .error .relative
  | some ("file", rest) => fileUrl rest
  | some (scheme, rest) =>
    if isSpecial scheme then afterSlashes scheme (rest.dropWhile (isSlash true))
    else
      match rest with
      | '/' :: '/' :: rest => afterSlashes scheme rest
      | '/' :: _ => .ok (withTail scheme none none (hierarchicalPath false) rest)
      | _ => .ok (withTail scheme none none (fun cs => String.ofList (percentEncode (fun _ => false) cs)) rest)

end Url

end FeedMonitor.Web
