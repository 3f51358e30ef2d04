import CodeSearch.Store.Error
import CodeSearch.Text.Decimal
import CodeSearch.Text.Utf8

/-!
# Paths of indexes

The path of an index names a file, or nothing, and then the index is kept as long as it is open. A
path that starts with `file:` is a locator: it holds a path and, after `?`, parameters that say how
the file is to be used. A `#` ends a locator. In all parts of it `%` and two hexadecimal digits
stand for a byte.

- `Locator.decode`: what a part of a locator stands for.
- `Locator.parameters`: the parameters of a locator.
- `Locator.mode`, `Locator.flag`: what the parameters ask for.
- `IndexPath.ofText`: what a path stands for.
-/

namespace CodeSearch

/-- What is to be done with the file of an index. -/
inductive Access where
  /-- To read it. -/
  | read
  /-- To read and to change it. -/
  | write
  /-- To read and to change it, and to make it if there is none. -/
  | create
  deriving DecidableEq, Repr

/-- What a path stands for. -/
structure IndexPath where
  /-- The file that keeps the index; none if it is kept as long as it is open. -/
  file : Option String
  access : Access := .create
  /-- The index is taken for one that nobody changes. -/
  isImmutable : Bool := false
  /-- A file from which a new one would take its permissions; it has to exist. -/
  modelFile : Option String := none
  deriving DecidableEq, Repr

/-- The index may not be changed. -/
def IndexPath.isReadOnly (path : IndexPath) : Bool :=
  path.access = .read || path.isImmutable

/-- These paths name no file. -/
def IndexPath.namesNothing (path : String) : Bool := path = "" || path = ":memory:"

namespace Locator

/-! ## Parts -/

/-- The bytes that a part of a locator stands for. A byte zero ends the part. -/
def bytes : List Char → List UInt8
  | [] => []
  | '%' :: a :: b :: rest =>
    match Text.hexValue? a, Text.hexValue? b with
    | some high, some low =>
      if high = 0 && low = 0 then [] else UInt8.ofNat (high * 16 + low) :: bytes rest
    | _, _ => Text.Utf8.encode ['%'] ++ bytes (a :: b :: rest)
  | c :: rest => String.utf8EncodeChar c ++ bytes rest

/-- Bytes as a name. If they are no text, those beyond ASCII stand for the last code points of all,
so that different bytes are different names. -/
def nameOfBytes (bytes : List UInt8) : List Char :=
  (Text.Utf8.text? bytes).getD
    (bytes.map fun byte =>
      Char.ofNat (if byte < 0x80 then byte.toNat else 0x10FF00 + byte.toNat))

/-- What a part of a locator stands for. -/
def decode (part : List Char) : String := String.ofList (nameOfBytes (bytes part))

/-- The name and the value of a parameter; there is none without a name. -/
def parameter? (text : List Char) : Option (String × String) :=
  let name := text.takeWhile (· != '=')
  if decode name = "" then none
  else some (decode name, decode (text.drop (name.length + 1)))

/-- The parameters of a locator, given the text after its `?`. -/
def parameters (text : List Char) : List (String × String) :=
  (text.splitOn '&').filterMap parameter?

/-- The text behind the host. A host can only be this one. -/
def afterHost : List Char → Except DatabaseFault (List Char)
  | '/' :: '/' :: text =>
    let host := String.ofList (text.takeWhile (· != '/'))
    if host = "" || host = "localhost" then .ok (text.dropWhile (· != '/'))
    else .error (.badHost host)
  | text => .ok text

/-! ## Parameters -/

/-- How an index is opened: with a file, or without one. -/
inductive Mode where
  | file (access : Access)
  | memory
  deriving DecidableEq, Repr

namespace Mode

/-- The modes by name. -/
def choices : List (String × Mode) :=
  [("ro", .file .read), ("rw", .file .write), ("rwc", .file .create), ("memory", .memory)]

/-- How much a mode leaves open to later parameters. -/
def rank : Mode → Nat
  | .file .read => 0
  | .file .write => 1
  | .file .create => 2
  | .memory => 3

/-- The mode after one more parameter. A mode may follow one that allows as much. -/
def step (mode : Mode) (parameter : String × String) : Except DatabaseFault Mode :=
  match parameter with
  | ("cache", value) =>
    if ["shared", "private"].contains value then .ok mode else .error (.unknownMode "cache" value)
  | ("mode", value) =>
    match choices.lookup value with
    | none => .error (.unknownMode "access" value)
    | some next =>
      if next = .memory || next.rank ≤ mode.rank then .ok next else .error (.modeNotAllowed value)
  | _ => .ok mode

end Mode

/-- The mode that parameters ask for. -/
def mode (parameters : List (String × String)) : Except DatabaseFault Mode :=
  parameters.foldlM Mode.step (.file .create)

/-- The ways to reach files; the last one keeps them in memory. -/
def drivers : List String := ["unix", "unix-none", "unix-dotfile", "unix-excl", "memdb"]

/-- The way to reach files that parameters ask for; the last one that is named counts. -/
def driver (parameters : List (String × String)) : Except DatabaseFault String :=
  let name := (parameters.reverse.lookup "vfs").getD "unix"
  if drivers.contains name then .ok name else .error (.unknownDriver name)

/-- The number at the start of a text, in hexadecimal digits behind `0x`. -/
def leadingNumber : List Char → Nat
  | '0' :: x :: text =>
    let digits := (text.map Text.hexValue?).takeWhile Option.isSome
    if x.toLower = 'x' && !digits.isEmpty then
      digits.foldl (fun n digit => n * 16 + digit.getD 0) 0
    else Text.readDecimal ((x :: text).takeWhile Char.isDigit)
  | text => Text.readDecimal (text.takeWhile Char.isDigit)

/-- The text means yes: a number below `2 ^ 31` whose last eight bits are not all zero, or a
word. -/
def isYes (text : String) : Bool :=
  match text.toList with
  | [] => false
  | c :: rest =>
    if c.isDigit then
      let n := leadingNumber (c :: rest)
      n < 0x80000000 && n % 256 ≠ 0
    else ["on", "yes", "true"].contains (String.ofList ((c :: rest).map Char.toLower))

/-- The first value of a parameter means yes. -/
def flag (parameters : List (String × String)) (name : String) : Bool :=
  ((parameters.lookup name).map isYes).getD false

end Locator

/-! ## Paths -/

namespace IndexPath

/-- What the text behind `file:` stands for. -/
def ofLocator (text : List Char) : Except DatabaseFault IndexPath := do
  let text ← Locator.afterHost text
  let text := text.takeWhile (· != '#')
  let path := text.takeWhile (· != '?')
  let parameters := Locator.parameters (text.drop (path.length + 1))
  let mode ← Locator.mode parameters
  let driver ← Locator.driver parameters
  let path := Locator.decode path
  match mode with
  | .memory => return { file := none }
  | .file access =>
    if namesNothing path then
      return { file := none, access }
    else
      return {
        file := if driver = "memdb" then none else some path
        access
        isImmutable := Locator.flag parameters "immutable"
        modelFile := parameters.lookup "modeof" }

/-- What a path stands for. -/
def ofText (path : String) : Except DatabaseFault IndexPath :=
  match path.toList with
  | 'f' :: 'i' :: 'l' :: 'e' :: ':' :: text => ofLocator text
  | _ => .ok { file := if namesNothing path then none else some path }

-- the last mode counts, and it allows no more than the one before
example : (ofText "file:a%20b?mode=rw&mode=ro#x").toOption =
    some { file := some "a b", access := .read } := by decide +kernel
example : (ofText "file:a?mode=ro&mode=rw").toOption = none := by decide +kernel

end IndexPath

end CodeSearch
