import CodeSearch.Text.Decimal
import CodeSearch.Text.Utf8

/-!
# Web addresses

The part of an address that is sent to the server: the path, and the query after `?`. Characters
that may not stand there are written as `%` and two hexadecimal digits per byte, `.` and `..`
segments are resolved, a backslash counts as a slash, and a fragment is not sent.

- `Address.target?`: the path and query of an address; none when it is not an address with a scheme,
  a host and, if a colon follows the host, a number up to 65535.
-/

namespace CodeSearch.Address

/-- A byte as `%` and two capital hexadecimal digits. -/
def percentByte (byte : UInt8) : List Char :=
  let digit (n : Nat) : Char := (Nat.digitChar n).toUpper
  ['%', digit (byte.toNat / 16), digit (byte.toNat % 16)]

/-- Writes every character that satisfies `special`, every control character and every character
beyond ASCII by its bytes. -/
def percentEncode (special : List Char) (text : List Char) : List Char :=
  text.flatMap fun c =>
    if c.toNat < 0x20 || c.toNat ≥ 0x7F || special.contains c then
      (String.utf8EncodeChar c).flatMap percentByte
    else [c]

/-- What is escaped in a path. -/
def pathSpecial : List Char := [' ', '"', '<', '>', '`', '#', '?', '\x7b', '\x7d']

/-- What is escaped in a query. -/
def querySpecial : List Char := [' ', '"', '#', '<', '>', '\'']

/-- The parts of a path between slashes; a backslash is a slash too. -/
def segments (path : List Char) : List (List Char) :=
  path.splitOnP fun c => c = '/' || c = '\\'

/-- The segment stands for the current directory. -/
def isHere (segment : List Char) : Bool :=
  [".", "%2e", "%2E"].contains (String.ofList segment)

/-- The segment stands for the directory above. -/
def isUp (segment : List Char) : Bool :=
  ["..", ".%2e", "%2e.", "%2e%2e"].contains (String.ofList (segment.map Char.toLower))

/-- Resolves `.` and `..` behind the segments `done` (latest first). At the end of a path both leave
an empty last segment. -/
def resolve (done : List (List Char)) : List (List Char) → List (List Char)
  | [] => done.reverse
  | segment :: rest =>
    let last := rest.isEmpty
    if isUp segment then
      let above := done.drop 1
      resolve (if last then [] :: above else above) rest
    else if isHere segment then resolve (if last then [] :: done else done) rest
    else resolve (segment :: done) rest

/-- The path that is sent: it starts with a slash. -/
def sentPath (path : List Char) : List Char :=
  let parts :=
    match path with
    | [] => [[]]
    | _ :: rest => resolve [] (segments rest)
  parts.flatMap fun part => '/' :: percentEncode pathSpecial part

/-- The name of a host, and nothing or a number up to 65535 after a colon. -/
def isHost (host : List Char) : Bool :=
  let name := host.takeWhile (· != ':')
  let number := host.drop (name.length + 1)
  !name.isEmpty && number.all Char.isDigit && Text.readDecimal number ≤ 65535

/-- The text after `://`, if the address has a scheme. -/
def afterScheme? : List Char → Option (List Char)
  | ':' :: '/' :: '/' :: rest => some rest
  | c :: rest => if c.isAlphanum then afterScheme? rest else none
  | [] => none

/-- The path and the query of an address. -/
def target? (address : String) : Option String := do
  let text := address.toList.filter fun c => !(c == '\t' || c == '\n' || c == '\r')
  let rest ← afterScheme? (text.dropWhile fun c => c.toNat ≤ 0x20)
  let isEnd (c : Char) : Bool := c == '/' || c == '\\' || c == '?' || c == '#'
  let host := rest.takeWhile fun c => !isEnd c
  if !isHost host then none
  else
    let sent := (rest.drop host.length).takeWhile (· != '#')
    let path := sent.takeWhile (· != '?')
    let query := sent.drop path.length
    let querySent :=
      match query with
      | [] => []
      | _ :: query => '?' :: percentEncode querySpecial query
    some (String.ofList (sentPath path ++ querySent))

example : target? "http://h:9/v 1/../a?x#y/embeddings" = some "/a?x" := by decide +kernel

end CodeSearch.Address
