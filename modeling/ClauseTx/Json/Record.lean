import ClauseTx.Json.Syntax

/-!
# Reading records from JSON

A record has fields with fixed names.  It is written as an object, in which
the order of the members is free and unknown ones are skipped, or as the
array of its fields in their order.

`Syntax.fields?` finds the fields of a record, each at most once.  The other
readers give the contents of a field a type.
-/

namespace ClauseTx.Json

/-- A field of a record. -/
structure Field where
  name : String
  /-- Whether an array may end before this field. -/
  mayTrail : Bool

namespace Syntax

/-- The members of an object with their keys decoded. -/
def keyed? (members : List (List Piece × Syntax)) : Option (List (String × Syntax)) :=
  members.mapM fun (key, value) => (text? key).map fun k => (k, value)

/-- The member with a name, if there is one.  Two of them are refused. -/
def member? (name : String) (members : List (String × Syntax)) : Option (Option Syntax) :=
  match members.filter (·.1 = name) with
  | [] => some none
  | [(_, value)] => some (some value)
  | _ => none

/-- The fields of a record, in the order of its shape. -/
def fields? (shape : List Field) : Syntax → Option (List (Option Syntax))
  | .object members => do
    let ms ← keyed? members
    shape.mapM fun field => member? field.name ms
  | .array items =>
    let missing := shape.drop items.length
    if items.length ≤ shape.length && missing.all (·.mayTrail) then
      some (items.map some ++ missing.map fun _ => none)
    else none
  | _ => none

/-- A text. -/
def string? : Syntax → Option String
  | .string ps => text? ps
  | _ => none

/-- A natural number of 64 bits. -/
def natural? : Syntax → Option Nat
  | .number n =>
    match n.number? with
    | some (.natural value) => some value
    | _ => none
  | _ => none

/-- A number of any form as a floating point number. -/
def float? : Syntax → Option Float
  | .number n => n.number?.map Number.toFloat
  | _ => none

/-- A list. -/
def list? {α : Type} (read : Syntax → Option α) : Syntax → Option (List α)
  | .array items => items.mapM read
  | _ => none

/-- A value in whose place `null` may stand. -/
def nullable? {α : Type} (read : Syntax → Option α) : Syntax → Option (Option α)
  | .null => some none
  | s => (read s).map some

/-- A field that may be missing or `null`. -/
def optional? {α : Type} (read : Syntax → Option α) : Option Syntax → Option (Option α)
  | none => some none
  | some s => nullable? read s

end Syntax

end ClauseTx.Json
