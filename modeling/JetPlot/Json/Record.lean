import JetPlot.Json.Number
import JetPlot.Json.Reader

/-!
# Records in JSON

A record is written as an object, or as an array of its fields in order. In an
object, unknown keys are passed over and a known key must not be repeated; every
key has to be a text. In an array, there must be a value for each field, except
that fields at the end may be missing if the record says so.

A choice between alternatives is written as a string, if nothing more belongs to
it, or as an object with one key.
-/

namespace JetPlot.Json

/-- A value as a double. -/
def float? : Json → Option Float
  | number numeral => numeralFloat? numeral
  | _ => none

/-- A value as a natural number. -/
def nat? : Json → Option Nat
  | number numeral => numeralNat? numeral
  | _ => none

/-- A value as a truth value. -/
def bool? : Json → Option Bool
  | bool b => some b
  | _ => none

/-- A value as a text. -/
def string? : Json → Option String
  | text s => s
  | _ => none

/-- A value that may be `null`. -/
def option? {α : Type} (read? : Json → Option α) : Json → Option (Option α)
  | null => some none
  | value => (read? value).map some

/-- A value as a list. -/
def list? {α : Type} (read? : Json → Option α) : Json → Option (List α)
  | array items => items.mapM read?
  | _ => none

/-- The fields of a record: the names that it knows, and the values that are there. -/
structure Record where
  /-- The values that are there, with the names of their fields. -/
  values : List (String × Json)

namespace Record

/-- The value of a field, if it is there. -/
def find? (r : Record) (name : String) : Option Json := r.values.lookup name

/-- Reads a field that has to be there. -/
def get? {α : Type} (r : Record) (name : String) (read? : Json → Option α) : Option α :=
  (r.find? name).bind read?

/-- Reads a field, with a default value if it is missing. -/
def getD? {α : Type} (r : Record) (name : String) (default : α) (read? : Json → Option α) :
    Option α :=
  match r.find? name with
  | none => some default
  | some value => read? value

/-- The record with the given fields; as an array it must hold as many of them as
    `least` says. -/
def read? (names : List String) (least : Nat) : Json → Option Record
  | object entries => do
    let entries ← entries.mapM fun entry => entry.1.map (·, entry.2)
    let known := entries.filter fun entry => names.contains entry.1
    if (known.map Prod.fst).Nodup then some ⟨known⟩ else none
  | array items =>
    if least ≤ items.length ∧ items.length ≤ names.length then some ⟨names.zip items⟩ else none
  | _ => none

end Record

/-- A choice: its name and what belongs to it, which is `null` if it is written as a
    string only. -/
def choice? : Json → Option (String × Option Json)
  | text s => s.map (·, none)
  | object [(some name, value)] => some (name, some value)
  | _ => none

/-- Whether nothing belongs to a choice: there is no value, or it is `null`. -/
def isBare : Option Json → Bool
  | none | some null => true
  | _ => false

end JetPlot.Json
