import TunnelKeeper.Http.Host

/-!
Addresses of resources, as browsers read them: lenient about white space and slashes, with dots
resolved and the text made canonical.
-/

namespace TunnelKeeper.Http

/-- The path of a URL: names between slashes, or a text without structure. -/
inductive UrlPath where
  | segments (names : List String)
  | opaqueText (text : String)
  deriving DecidableEq, Repr

structure Url where
  scheme : String
  /-- The user's name and password. -/
  userinfo : Option (String × Option String) := none
  /-- The host; an empty one where only the slashes before it stand. -/
  host : Option String := none
  /-- The port, unless it is the usual one. -/
  port : Option Nat := none
  path : UrlPath
  query : Option String := none
  fragment : Option String := none
  deriving DecidableEq, Repr

/-- The usual port of a scheme of the web. -/
def usualPort? (scheme : String) : Option Nat :=
  [("http", 80), ("https", 443), ("ws", 80), ("wss", 443), ("ftp", 21)].lookup scheme

/-- The schemes of the web, where a backslash is a slash and a host is a domain. -/
def isWeb (scheme : String) : Bool := (usualPort? scheme).isSome || scheme = "file"

namespace Url

/-! ### Text -/

def pathText : UrlPath → String
  | .segments names => String.join (names.map ("/" ++ ·))
  | .opaqueText text => text

def userinfoText : Option (String × Option String) → String
  | none => ""
  | some (user, none) => user ++ "@"
  | some (user, some password) => user ++ ":" ++ password ++ "@"

/-- The canonical text. -/
def text (u : Url) : String :=
  let authority := match u.host with
    | none => ""
    | some host =>
      "//" ++ userinfoText u.userinfo ++ host ++ (u.port.map fun p => ":" ++ toString p).getD ""
  u.scheme ++ ":" ++ authority ++ pathText u.path ++ (u.query.map ("?" ++ ·)).getD "" ++
    (u.fragment.map ("#" ++ ·)).getD ""

def hasHost (u : Url) : Bool := u.host.isSome && u.host ≠ some ""

/-! ### Parts -/

def isSlash (web : Bool) (c : Char) : Bool := c = '/' || (web && c = '\\')

/-- Without the blanks around it, nor any tabs and line ends. -/
def strip (cs : List Char) : List Char :=
  let blank (c : Char) : Bool := c.toNat ≤ 0x20
  let front := (cs.dropWhile blank).reverse
  (front.dropWhile blank).reverse.filter fun c => c ≠ '\t' ∧ c ≠ '\n' ∧ c ≠ '\r'

/-- A scheme and the text behind its colon. -/
def scheme? (cs : List Char) : Option (String × List Char) :=
  let name := cs.takeWhile fun c => c.isAlphanum || c = '+' || c = '-' || c = '.'
  match name, cs.drop name.length with
  | c :: _, ':' :: rest =>
    if c.isAlpha then some (String.ofList (name.map Char.toLower), rest) else none
  | _, _ => none

/-- A single dot, perhaps encoded. -/
def isDot (name : List Char) : Bool :=
  let lower := name.map Char.toLower
  lower = ['.'] || lower = ['%', '2', 'e']

/-- Two dots, perhaps encoded. -/
def isDoubleDot (name : List Char) : Bool :=
  (List.range name.length).any fun i => isDot (name.take i) && isDot (name.drop i)

/-- Adds names to the names of a path. Dots are resolved; at the end they leave an empty name. -/
def addNames : List String → List (List Char) → List String
  | path, [] => path
  | path, name :: rest =>
    let shorter := if isDoubleDot name then path.dropLast else path
    if isDot name || isDoubleDot name then
      addNames (if rest = [] then shorter ++ [""] else shorter) rest
    else addNames (path ++ [String.ofList (percentEncode pathReserved name)]) rest

/-- The names between slashes. -/
def splitNames (web : Bool) (cs : List Char) : List (List Char) :=
  (cs.map fun c => if isSlash web c then '/' else c).splitOn '/'

/-- The path, the query and the fragment of the text behind an authority. -/
structure Tail where
  path : List Char
  query : Option (List Char)
  fragment : Option (List Char)

def splitTail (cs : List Char) : Tail :=
  let beforeFragment := cs.takeWhile (· ≠ '#')
  let fragment := (cs.drop beforeFragment.length).tail?
  let path := beforeFragment.takeWhile (· ≠ '?')
  ⟨path, (beforeFragment.drop path.length).tail?, fragment⟩

def queryText (web : Bool) (cs : List Char) : String :=
  String.ofList (percentEncode (if web then '\'' :: queryReserved else queryReserved) cs)

def fragmentText (cs : List Char) : String := String.ofList (percentEncode fragmentReserved cs)

/-- The port of an authority, `none` where it is the usual one. -/
def port? (scheme : String) (cs : List Char) : Option (Option Nat) :=
  match cs with
  | [] => some none
  | digits =>
    if digits.all Char.isDigit then
      let n := digits.foldl (fun n c => n * 10 + (c.toNat - 48)) 0
      if n < 65536 then some (if usualPort? scheme = some n then none else some n) else none
    else none

/-- The text behind the last colon outside of brackets, and the text before it. -/
def splitPort (cs : List Char) : List Char × List Char :=
  let behind := cs.reverse.takeWhile fun c => c ≠ ':' ∧ c ≠ ']'
  match cs.reverse.drop behind.length with
  | ':' :: before => (before.reverse, behind.reverse)
  | _ => (cs, [])

def userinfo? (cs : List Char) : Option (String × Option String) :=
  let user := cs.takeWhile (· ≠ ':')
  match cs.drop user.length with
  | [] => if user = [] then none else some (String.ofList user, none)
  | _ :: [] => if user = [] then none else some (String.ofList user, none)
  | _ :: password => some (String.ofList user, some (String.ofList password))

/-- A URL whose authority starts the text. -/
def ofAuthority? (scheme : String) (cs : List Char) : Option Url := do
  let web := isWeb scheme
  let authority := cs.takeWhile fun c => !(isSlash web c || c = '?' || c = '#')
  let tail := splitTail (cs.drop authority.length)
  let hostPort := (authority.reverse.takeWhile (· ≠ '@')).reverse
  let user := authority.take (authority.length - hostPort.length - 1)
  let (hostText, portText) := splitPort hostPort
  let host ←
    if hostText = [] then
      if web ∧ scheme ≠ "file" ∨ user ≠ [] ∨ portText ≠ [] then none else some ""
    else host? web hostText
  let names := match tail.path with
    | [] => if web then [""] else []
    | _ :: path => addNames [] (splitNames web path)
  return {
    scheme := scheme
    userinfo := userinfo? user
    host := some (if scheme = "file" ∧ host = "localhost" then "" else host)
    port := ← port? scheme portText
    path := .segments names
    query := tail.query.map (queryText web)
    fragment := tail.fragment.map fragmentText }

/-- A URL whose text behind the scheme is given. -/
def ofScheme? (scheme : String) (cs : List Char) : Option Url :=
  let web := isWeb scheme
  if web ∧ scheme ≠ "file" then ofAuthority? scheme (cs.dropWhile (isSlash true))
  else
    match cs with
    | a :: b :: rest =>
      if isSlash web a && isSlash web b then ofAuthority? scheme rest
      else withoutAuthority
    | _ => withoutAuthority
where
  withoutAuthority : Option Url :=
    let web := isWeb scheme
    let tail := splitTail cs
    let rooted := web || tail.path.head? = some '/'
    let names := if (tail.path.head?.map (isSlash web)) = some true then tail.path.drop 1
      else tail.path
    let path := if rooted then UrlPath.segments (addNames [] (splitNames web names))
      else .opaqueText (String.ofList (percentEncode [] tail.path))
    some {
      scheme := scheme
      host := if web then some "" else none
      path := path
      query := tail.query.map (queryText web)
      fragment := tail.fragment.map fragmentText }

/-- The URL of a text that stands alone. -/
def parse? (s : String) : Option Url := do
  let (scheme, rest) ← scheme? (strip s.toList)
  ofScheme? scheme rest

end Url

end TunnelKeeper.Http
