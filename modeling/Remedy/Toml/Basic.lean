/-!
# Toml — what a TOML document holds

A document is a table: keys with their values, each key once.  Dates and times are recognised and not kept.
-/
namespace Remedy

/-- **A value of a document.** -/
inductive Toml
  | string (s : String)
  | int (n : Int64)
  | float (x : Float)
  | bool (b : Bool)
  | moment
  | array (items : List Toml)
  | table (entries : List (String × Toml))

namespace Toml

instance : Inhabited Toml := ⟨.table []⟩

def get? (key : String) (entries : List (String × Toml)) : Option Toml := (entries.find? (·.1 == key)).map (·.2)

end Toml

end Remedy

/-! ## Records read from documents

A record is a table with a value for each of its fields; keys that are no fields do not count.  An array gives the
fields in their order, and a date or time is a record without fields.
-/

namespace Remedy.Toml

/-- **The values of a record's fields**, which are given in their order. -/
def fields? (names : List String) : Toml → Option (List (String × Toml))
  | .table entries => some entries
  | .array items => some (names.zip items)
  | .moment => some []
  | _ => none

def optional (read : Toml → Option α) (name : String) (fields : List (String × Toml)) : Option (Option α) :=
  match get? name fields with
  | none => some none
  | some v => (read v).map some

def withDefault (read : Toml → Option α) (standard : α) (name : String) (fields : List (String × Toml)) : Option α :=
  (optional read name fields).map fun v => v.getD standard

def string? : Toml → Option String
  | .string s => some s
  | _ => none

def bool? : Toml → Option Bool
  | .bool b => some b
  | _ => none

def int? : Toml → Option Int64
  | .int n => some n
  | _ => none

def natural? (v : Toml) : Option Nat := (int? v).bind fun n => n.toInt.toNat?

/-- A number; a whole one is taken as the nearest double. -/
def float? : Toml → Option Float
  | .int n => some (Float.ofInt n.toInt)
  | .float x => some x
  | _ => none

def list? : Toml → Option (List Toml)
  | .array items => some items
  | _ => none

end Remedy.Toml
