import CodeSearch.Json.NumberValue

/-!
# Reading values out of a document

A record is read from an object, by key, or from an array, by position. In an object the order of
members does not matter and unknown keys are skipped; a known key may occur once.

- `fields? names`: the value of each named field, if the document can be such a record.
- `required`, `withDefault`: a field that must be there, and one that may be missing.
- `asText?`, `asUInt64?`, `asInt32?`, `asSingle?`, `asList?`, `asChoice?`: typed values.
-/

namespace CodeSearch.Json

/-! ## Values -/

def asText? : Json → Option String
  | .string value => value
  | _ => none

/-- A text or `null`. -/
def asOptionalText? : Json → Option (Option String)
  | .null => some none
  | .string value => value.map some
  | _ => none

def asUInt64? : Json → Option UInt64
  | .number n => n.toUInt64?
  | _ => none

def asInt32? : Json → Option Int32
  | .number n => n.toInt32?
  | _ => none

def asSingle? : Json → Option Single
  | .number n => n.toSingle?
  | _ => none

/-- An array all of whose items can be read. -/
def asList? {α : Type} (read : Json → Option α) : Json → Option (List α)
  | .array items => items.mapM read
  | _ => none

/-- One of a list of named values: its name, or an object whose only member has that name as key
and `null` as value. -/
def asChoice? {α : Type} (choices : List (String × α)) : Json → Option α
  | .string (some name) => choices.lookup name
  | .object [(some name, .null)] => choices.lookup name
  | _ => none

/-! ## Records -/

/-- The values of the fields of a record that are present. -/
abbrev Fields := String → Option Json

/-- The member with the given key, if there is one. -/
def member? (members : List (Option String × Json)) (name : String) : Option Json :=
  (members.find? fun member => member.1 == some name).map (·.2)

/-- The fields of a record with the given names, in this order. An array may be shorter than the
list of names but not longer. -/
def fields? (names : List String) : Json → Option Fields
  | .array items =>
    if items.length ≤ names.length then some fun name => (names.zip items).lookup name else none
  | .object members =>
    if members.all (fun member => member.1.isSome) &&
        names.all (fun name => members.countP (fun member => member.1 == some name) ≤ 1) then
      some (member? members)
    else none
  | _ => none

/-- A field that must be present. -/
def required {α : Type} (read : Json → Option α) (field : Option Json) : Option α :=
  field.bind read

/-- A field that has a default when it is missing. -/
def withDefault {α : Type} (fallback : α) (read : Json → Option α) (field : Option Json) :
    Option α :=
  match field with
  | none => some fallback
  | some value => read value

end CodeSearch.Json
