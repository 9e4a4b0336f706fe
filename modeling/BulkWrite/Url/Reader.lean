import BulkWrite.Text.Blank
import BulkWrite.Url.Basic
import BulkWrite.Url.Domain
import BulkWrite.Url.Percent

/-!
# Reading an address

`Url.parse` reads the text of an address the forgiving way browsers do: blanks around it and line
breaks within it do not count, a backslash is a slash where the scheme is special, the steps `.` and
`..` of a path are taken at once, and what a part cannot hold is encoded. Two texts that only differ
in such things are one address.
-/

namespace BulkWrite.Url

/-! ## Parts of the text -/

/-- Whether a character counts nowhere. -/
def isBreak (c : Char) : Bool :=
  c == '\t' || c == '\n' || c == '\r'

/-- The characters of an address that count. -/
def significant (s : String) : List Char :=
  let isOuter (c : Char) : Bool := c.toNat ≤ 0x20
  (((s.toList.dropWhile isOuter).reverse.dropWhile isOuter).reverse).filter (!isBreak ·)

def inScheme (c : Char) : Bool :=
  c.isAlphanum || ['+', '-', '.'].contains c

/-- The scheme in small letters, and what stands behind its colon. -/
def scheme? (cs : List Char) : Option (String × List Char) :=
  match cs.takeWhile inScheme, cs.dropWhile inScheme with
  | c :: name, ':' :: rest =>
    if c.isAlpha then some (String.ofList ((c :: name).map Char.toLower), rest) else none
  | _, _ => none

/-- The text before a delimiter, and what stands behind it if it occurs. -/
def cutAt (delimiter : Char) (cs : List Char) : List Char × Option (List Char) :=
  match cs.dropWhile (· != delimiter) with
  | [] => (cs, none)
  | _ :: rest => (cs.takeWhile (· != delimiter), some rest)

/-- Whether a character ends the host and every segment of the path. -/
def isSlash (special : Bool) (c : Char) : Bool :=
  c == '/' || (special && c == '\\')

/-! ## Paths -/

def isHere (segment : String) : Bool :=
  ["." , "%2e"].contains (Text.foldCase segment)

def isUp (segment : String) : Bool :=
  ["..", ".%2e", "%2e.", "%2e%2e"].contains (Text.foldCase segment)

/-- The letter of a drive, which is a letter with a colon or a bar behind it. -/
def drive? (segment : List Char) : Option Char :=
  match segment with
  | [c, d] => if c.isAlpha ∧ (d = ':' ∨ d = '|') then some c else none
  | _ => none

/-- The segments without the last one; the drive of a file stays. -/
def up (isFile : Bool) (segments : List String) : List String :=
  match segments.getLast? with
  | some last => if isFile && (drive? last.toList).isSome then segments else segments.dropLast
  | none => []

/-- A segment with what it cannot hold encoded; the drive of a file with its colon. -/
def segment (isFile : Bool) (cs : List Char) : String :=
  match isFile, drive? cs with
  | true, some c => String.ofList [c, ':']
  | _, _ => String.ofList (Percent.encode Percent.inPath cs)

/-- Takes the steps of a path. A step that ends the path leaves a slash there. -/
def walk (isFile : Bool) (done : List String) : List String → List String
  | [] => done
  | s :: rest =>
    if isUp s then walk isFile (up isFile done ++ (if rest.isEmpty then [""] else [])) rest
    else if isHere s then walk isFile (done ++ (if rest.isEmpty then [""] else [])) rest
    else walk isFile (done ++ [s]) rest

/-- The texts between slashes. -/
def splitPath (special : Bool) (cs : List Char) : List (List Char) :=
  (cs.map fun c => if isSlash special c then '/' else c).splitOn '/'

/-- The path of a text behind its first slash. -/
def rootedPath (scheme : String) (cs : List Char) : Path :=
  .rooted (walk false [] ((splitPath (isSpecial scheme) cs).map (segment false)))

/-- The segments without empty ones at their start, but for the last. -/
def trimPath : List String → List String
  | "" :: s :: rest => trimPath (s :: rest)
  | segments => segments

def filePath (cs : List Char) : Path :=
  .rooted (trimPath (walk true [] ((splitPath true cs).map (segment true))))

/-! ## Hosts -/

/-- A host in brackets, whose text starts behind the first one. -/
def bracketed (cs : List Char) : Except Flaw Host :=
  match cs.getLast?, Ipv6.read? cs.dropLast with
  | some ']', some address => .ok (.ipv6 address)
  | _, _ => .error .ipv6

/-- The host of a special scheme: a domain name, or an address if its last part is a number. -/
def specialHost : List Char → Except Flaw Host
  | '[' :: cs => bracketed cs
  | cs =>
    match (Percent.decodeText? cs).bind Domain.ascii? with
    | none => .error .domain
    | some [] => .error .emptyHost
    | some name =>
      if Ipv4.isMeant name then
        match Ipv4.read? name with
        | some address => .ok (.ipv4 address)
        | none => .error .ipv4
      else .ok (.domain (String.ofList name))

/-- What the host of another scheme may not hold. -/
def delimitsHost (c : Char) : Bool :=
  ['\x00', '\t', '\n', '\r', ' ', '#', '/', ':', '<', '>', '?', '@', '[', '\\', ']', '^',
    '|'].contains c

/-- The host of another scheme, if it is not empty. -/
def otherHost : List Char → Except Flaw (Option Host)
  | [] => .ok none
  | '[' :: cs => some <$> bracketed cs
  | cs =>
    if cs.any delimitsHost then .error .hostCharacter
    else .ok (some (.domain (String.ofList (Percent.encode Percent.isControl cs))))

/-- The text of the host up to the colon of its port, which stands outside of brackets. -/
def cutPort (inBrackets : Bool) : List Char → List Char × Option (List Char)
  | [] => ([], none)
  | c :: cs =>
    if c == ':' && !inBrackets then ([], some cs)
    else
      let inBrackets := if c == '[' then true else if c == ']' then false else inBrackets
      let (host, port) := cutPort inBrackets cs
      (c :: host, port)

/-- The port of a scheme, if it is not the one of the scheme anyway, and the text behind it. -/
def readPort (scheme : String) (cs : List Char) : Except Flaw (Option UInt16 × List Char) :=
  let digits := cs.takeWhile Char.isDigit
  let rest := cs.dropWhile Char.isDigit
  match Text.number? 10 digits, rest with
  | some n, [] | some n, '\\' :: _ =>
    if 0xFFFF < n then .error .port
    else
      let port := if digits.isEmpty then none else some n.toUInt16
      .ok (if port = defaultPort? scheme then none else port, rest)
  | _, _ => .error .port

/-! ## Users -/

/-- The text before the last sign that ends a user, if there is one, and the text behind it. -/
def cutUser (cs : List Char) : Option (List Char) × List Char :=
  let host := (cs.reverse.takeWhile (· != '@')).reverse
  if host.length = cs.length then (none, cs)
  else (some (cs.take (cs.length - host.length - 1)), host)

/-- The name and the password of a user; an empty password is none. -/
def readUser (cs : List Char) : String × Option String :=
  let encoded (cs : List Char) := String.ofList (Percent.encode Percent.inUserInfo cs)
  match cutAt ':' cs with
  | (name, none) | (name, some []) => (encoded name, none)
  | (name, some password) => (encoded name, some (encoded password))

/-! ## Addresses -/

def readHost (scheme : String) (cs : List Char) (hasPort : Bool) : Except Flaw (Option Host) :=
  if isSpecial scheme then
    if cs.isEmpty then .error .emptyHost else some <$> specialHost cs
  else if cs.isEmpty ∧ hasPort then .error .emptyHost
  else otherHost cs

/-- An address whose host stands behind two slashes; `more` says whether a query or a fragment
follows. -/
def readAuthority (scheme : String) (cs : List Char) (more : Bool) : Except Flaw Url := do
  let special := isSpecial scheme
  let behind := cs.dropWhile (!isSlash special ·)
  let (user, place) := cutUser (cs.takeWhile (!isSlash special ·))
  if user = some [] ∧ place.isEmpty ∧ (more ∨ !behind.isEmpty) then throw .emptyHost
  let (username, password) := readUser (user.getD [])
  let (name, portText) := cutPort false place
  let host ← readHost scheme name portText.isSome
  let (port, rest) ← match portText with
    | some text => readPort scheme text
    | none => pure (none, [])
  if host.isNone ∧ (!username.isEmpty ∨ password.isSome) then throw .emptyHost
  let path :=
    match rest ++ behind with
    | [] => if special then .rooted [""] else .rooted []
    | c :: cs => rootedPath scheme (if isSlash special c then cs else c :: cs)
  return { scheme, hasAuthority := true, username, password, host, port, path }

/-- The host of a file, none if it is this machine. -/
def fileHost (cs : List Char) : Except Flaw (Option Host) :=
  if cs.isEmpty then .ok none
  else do
    let host ← specialHost cs
    return if host = .domain "localhost" then none else some host

/-- The address of a file. Where the path starts with a drive, there is no host. -/
def readFile (cs : List Char) : Except Flaw Url := do
  let place (host : Option Host) (cs : List Char) : Url :=
    let path := filePath cs
    let onDrive := match path with
      | .rooted segments => segments.any fun s => (drive? s.toList).isSome
      | .bare _ => false
    { scheme := fileScheme, hasAuthority := true, host := if onDrive then none else host, path }
  match cs with
  | a :: b :: cs' =>
    if isSlash true a && isSlash true b then
      let name := cs'.takeWhile (!isSlash true ·)
      if (drive? name).isSome then return place none cs'
      else return place (← fileHost name) (cs'.dropWhile (!isSlash true ·))
    else return place none cs
  | cs => return place none cs

/-- The address of a scheme without rules of its own. -/
def readOther (scheme : String) (cs : List Char) (more : Bool) : Except Flaw Url :=
  match cs with
  | '/' :: '/' :: cs => readAuthority scheme cs more
  | '/' :: cs => .ok { scheme, hasAuthority := false, path := rootedPath scheme cs }
  | cs =>
    .ok { scheme, hasAuthority := false,
          path := .bare (String.ofList (Percent.encode Percent.isControl cs)) }

def parse (s : String) : Except Flaw Url := do
  match scheme? (significant s) with
  | none => throw .relative
  | some (scheme, cs) =>
    let (cs, fragment) := cutAt '#' cs
    let (cs, query) := cutAt '?' cs
    let more := query.isSome || fragment.isSome
    let url ←
      if scheme = fileScheme then readFile cs
      else if isSpecial scheme then readAuthority scheme (cs.dropWhile (isSlash true)) more
      else readOther scheme cs more
    let encoded (cannotHold : Char → Bool) (cs : List Char) : String :=
      String.ofList (Percent.encode cannotHold cs)
    return { url with
      query := query.map (encoded (Percent.inQuery (isSpecial scheme)))
      fragment := fragment.map (encoded Percent.inFragment) }

end BulkWrite.Url
