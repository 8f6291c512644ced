import BlobStore.Text.Blank
import BlobStore.Url.Host
import BlobStore.Url.Path

/-!
# Addresses

A scheme, a host with what stands beside it, a path, a query and a fragment, read from text by the
rules of the web. Reading is lenient: it escapes, resolves and drops what it can, and fails only on
a host or a port that makes no sense. `Url.text` writes the address down again.
-/

namespace BlobStore

/-- Web addresses have their own rules on hosts, slashes and ports; other schemes are plain. -/
inductive Scheme where
  | http
  | https
  | plain (name : String)
  deriving DecidableEq, Inhabited, Repr

namespace Scheme

def name : Scheme → String
  | http => "http"
  | https => "https"
  | plain name => name

def isWeb : Scheme → Bool
  | plain _ => false
  | _ => true

/-- The port that is meant when none is given. -/
def port? : Scheme → Option Nat
  | http => some 80
  | https => some 443
  | plain _ => none

end Scheme

structure Url where
  scheme : Scheme
  /-- User name and password, escaped, with the `@` behind them; empty if there are none. -/
  userInfo : List Char
  host : List Char
  port : Option Nat
  path : List Char
  query : Option (List Char)
  fragment : Option (List Char)
  deriving Inhabited, Repr

namespace Url

/-! ## User, host and port -/

/-- Where the part before the path ends. -/
def endsAuthority (web : Bool) (c : Char) : Bool :=
  c = '/' || c = '?' || c = '#' || (web && c = '\\')

/-- The text up to the last `@` and the text after it. -/
def splitLastAt (text : List Char) : Option (List Char × List Char) :=
  let after := (text.reverse.takeWhile (· ≠ '@')).reverse
  if after.length = text.length then none
  else some (text.take (text.length - after.length - 1), after)

/-- User name and password of an address: a colon parts them, an empty password loses its colon. -/
def readUserInfo (text : List Char) : List Char :=
  let user := encode inUserInfo (text.takeWhile (· ≠ ':'))
  let password := encode inUserInfo ((text.dropWhile (· ≠ ':')).drop 1)
  let both := if password = [] then user else user ++ ':' :: password
  if both = [] then [] else both ++ ['@']

/-- Splits a host from what follows its port mark; a colon inside brackets marks no port. -/
def splitHost (web : Bool) : (inBrackets : Bool) → List Char → List Char × List Char
  | _, [] => ([], [])
  | inBrackets, c :: rest =>
    if (c = ':' && !inBrackets) || endsAuthority web c then ([], c :: rest)
    else
      let (host, after) := splitHost web (c = '[' || (inBrackets && c ≠ ']')) rest
      (c :: host, after)

/-- A port: digits up to the path. No digits at all, or the usual port, count as none. -/
def readPort (scheme : Scheme) (text : List Char) : Except Fault (Option Nat × List Char) :=
  let ds := text.takeWhile Text.isDecimalDigit
  let rest := text.drop ds.length
  let n := Text.decimalValue ds
  if 65535 < n then .error .badPort
  else if rest.head?.any fun c => !endsAuthority true c then .error .badPort
  else if ds = [] ∨ scheme.port? = some n then .ok (none, rest)
  else .ok (some n, rest)

/-! ## Path, query and fragment -/

/-- The path with the rest of the text, up to the query or the fragment. -/
def readPath (web : Bool) (text : List Char) : List Char × List Char :=
  let raw := text.takeWhile fun c => c ≠ '?' && c ≠ '#'
  let rest := text.drop raw.length
  let path :=
    match raw with
    | [] => if web then ['/'] else []
    | c :: inner => if c = '/' || (web && c = '\\') then pathOf web inner else pathOf web raw
  (path, rest)

def readFragment : List Char → Option (List Char)
  | '#' :: text => some (encode inFragment text)
  | _ => none

def readQuery (web : Bool) : List Char → Option (List Char) × Option (List Char)
  | '?' :: text =>
    (some (encode (inQuery web) (text.takeWhile (· ≠ '#'))),
      readFragment (text.dropWhile (· ≠ '#')))
  | text => (none, readFragment text)

/-! ## The whole address -/

/-- The text that is read. Spaces and control characters at its end are no part of it, nor are the
slashes in front of a web address. -/
def readable (web : Bool) (text : List Char) : List Char :=
  let text := dropBreaks (Text.trimEnd (· ≤ ' ') text)
  if web then text.dropWhile fun c => c = '/' || c = '\\' else text

/-- What stands for the user in front of the host, and the text behind. -/
def readUser (web : Bool) (text : List Char) : Except Fault (List Char × List Char) :=
  match splitLastAt (text.takeWhile fun c => !endsAuthority web c) with
  | none => .ok ([], text)
  | some (user, _) =>
    let rest := text.drop (user.length + 1)
    if user = [] ∧ rest.head?.any (endsAuthority web) then .error .emptyHost
    else .ok (readUserInfo user, rest)

def hostOf (scheme : Scheme) (text : List Char) : Except Fault (List Char) :=
  if scheme.isWeb then webHost text else plainHost text

/-- The host, and the text behind. Where a user is named there has to be one. -/
def readHost (scheme : Scheme) (userInfo text : List Char) :
    Except Fault (List Char × List Char) := do
  let (hostText, rest) := splitHost scheme.isWeb false text
  if hostText = [] ∧ (scheme.isWeb ∨ rest.head? = some ':') then throw .emptyHost
  let host ← hostOf scheme hostText
  if host = [] ∧ userInfo ≠ [] then throw .emptyHost
  return (host, rest)

/-- The port, if one is marked, and the text behind. -/
def readPortMark (scheme : Scheme) : List Char → Except Fault (Option Nat × List Char)
  | ':' :: text => readPort scheme text
  | text => .ok (none, text)

/-- Reads what follows `scheme://`. -/
def parse (scheme : Scheme) (text : List Char) : Except Fault Url := do
  let web := scheme.isWeb
  let (userInfo, rest) ← readUser web (readable web text)
  let (host, rest) ← readHost scheme userInfo rest
  let (port, rest) ← readPortMark scheme rest
  let (path, rest) := readPath web rest
  let (query, fragment) := readQuery web rest
  return { scheme, userInfo, host, port, path, query, fragment }

/-! ## Changes and writing -/

/-- The address with another path. In an address that is not a web address, a path that starts with
a query or fragment mark is lost. -/
def setPath (u : Url) (text : List Char) : Url :=
  let web := u.scheme.isWeb
  match dropBreaks text with
  | [] => { u with path := if web then ['/'] else [] }
  | c :: inner =>
    if !web && (c = '?' || c = '#') then { u with path := [] }
    else if c = '/' || (web && c = '\\') then { u with path := pathOf web inner }
    else { u with path := pathOf web (c :: inner) }

/-- The address with a field added to its query. -/
def addField (u : Url) (name value : List Char) : Url :=
  let field := encodeForm name ++ '=' :: encodeForm value
  match u.query with
  | none | some [] => { u with query := some field }
  | some query => { u with query := some (query ++ '&' :: field) }

/-- Path and query, as a request names them. -/
def target (u : Url) : List Char :=
  u.path ++ match u.query with
    | none => []
    | some query => '?' :: query

/-- Everything before the path. -/
def origin (u : Url) : List Char :=
  u.scheme.name.toList ++ "://".toList ++ u.userInfo ++ u.host ++ match u.port with
    | none => []
    | some n => ':' :: Text.digits 10 n

def text (u : Url) : List Char :=
  u.origin ++ u.target ++ match u.fragment with
    | none => []
    | some fragment => '#' :: fragment

end Url

end BlobStore
