import BulkWrite.Url.Address

/-!
# Addresses of resources

An address names a scheme, perhaps a host with a port and a user, a path, and perhaps a query and a
fragment. Most paths are rooted: a list of segments, below which other resources lie. A path that is
not rooted is a text without parts, and nothing lies below it.
-/

namespace BulkWrite

inductive Host where
  | domain (name : String)
  | ipv4 (address : Ipv4)
  | ipv6 (address : Ipv6)
deriving DecidableEq, Repr

namespace Host

def text : Host → String
  | .domain name => name
  | .ipv4 address => address.text
  | .ipv6 address => s!"[{address.text}]"

end Host

inductive Path where
  | bare (text : String)
  /-- Segments, each of them behind a slash. -/
  | rooted (segments : List String)
deriving DecidableEq, Repr

namespace Path

def text : Path → String
  | .bare text => text
  | .rooted segments => String.join (segments.map ("/" ++ ·))

/-- The path with a slash at its end. -/
def asFolder : Path → Path
  | .bare text => .bare text
  | .rooted segments =>
    if segments.getLast? = some "" then .rooted segments else .rooted (segments ++ [""])

end Path

structure Url where
  scheme : String
  /-- Whether two slashes stand before the host, even where there is none. -/
  hasAuthority : Bool
  username : String := ""
  password : Option String := none
  host : Option Host := none
  port : Option UInt16 := none
  path : Path
  query : Option String := none
  fragment : Option String := none
deriving DecidableEq, Repr

namespace Url

/-- Why a text is no address. -/
inductive Flaw where
  | emptyHost
  | domain
  | port
  | ipv4
  | ipv6
  | hostCharacter
  /-- There is no scheme. -/
  | relative
  /-- Nothing lies below the address. -/
  | notRooted
deriving DecidableEq, Repr

def Flaw.message : Flaw → String
  | .emptyHost => "empty host"
  | .domain => "invalid international domain name"
  | .port => "invalid port number"
  | .ipv4 => "invalid IPv4 address"
  | .ipv6 => "invalid IPv6 address"
  | .hostCharacter => "invalid domain character"
  | .relative => "relative URL without a base"
  | .notRooted => "relative URL with a cannot-be-a-base base"

/-- The port of a scheme where none is given; the schemes with one are special. -/
def defaultPort? (scheme : String) : Option UInt16 :=
  [("http", 80), ("https", 443), ("ws", 80), ("wss", 443), ("ftp", 21)].lookup scheme

/-- The scheme of files, which is special as well. -/
def fileScheme : String := "file"

/-- Whether the scheme has rules of its own for hosts and paths. -/
def isSpecial (scheme : String) : Bool :=
  (defaultPort? scheme).isSome || scheme == fileScheme

def userText (u : Url) : String :=
  match u.password with
  | some password => s!"{u.username}:{password}@"
  | none => if u.username.isEmpty then "" else u.username ++ "@"

/-- All of an address before its path. -/
def originText (u : Url) : String :=
  if u.hasAuthority then
    let host := (u.host.map Host.text).getD ""
    let port := (u.port.map fun p => s!":{p.toNat}").getD ""
    s!"{u.scheme}://{u.userText}{host}{port}"
  else if u.path.text.startsWith "//" then s!"{u.scheme}:/."
  else s!"{u.scheme}:"

/-- The path and the query of an address. -/
def target (u : Url) : String :=
  u.path.text ++ (u.query.map ("?" ++ ·)).getD ""

def text (u : Url) : String :=
  u.originText ++ u.target ++ (u.fragment.map ("#" ++ ·)).getD ""

/-- The address of what lies below the folder of this address. -/
def below (u : Url) (segments : List String) : Except Flaw Url :=
  match u.path with
  | .bare _ => .error .notRooted
  | .rooted own =>
    .ok { u with path := .rooted (own.dropLast ++ segments), query := none, fragment := none }

/-- The address without its user. -/
def withoutUser (u : Url) : Url :=
  { u with username := "", password := none }

end Url

end BulkWrite
