import ApprovalFlow.Json.Value

/-!
# Records, enumerations and tagged forms in JSON

The conventions by which the stored entities, the forms and the scenario files are read.

* A record is an object whose known fields occur at most once; other fields are ignored. It may
  also be an array of its fields in order, cut short only where the remaining fields have
  defaults.
* A field is required, optional (`null` or missing is absence) or has a default. A default covers
  a field that an array cuts off; an optional field alone does not.
* An enumeration value is its name, or an object with that name as only key and nothing as value.
* A tagged form is an object with a tag among its fields, or an array that begins with the tag.
-/

namespace ApprovalFlow.Json

/-- What a record says about one of its fields. -/
inductive Field where
  /-- The field is there. -/
  | value (j : Json)
  /-- The object does not have the field. -/
  | missing
  /-- The array ends before the field. -/
  | cut

/-- The fields of a record found in an object: a known name may occur only once. -/
def fieldsOfMembers (names : List String) (members : List (String × Json)) : Option (List Field) :=
  names.mapM fun name =>
    match members.filter (·.1 == name) with
    | [] => some .missing
    | [m] => some (.value m.2)
    | _ => none

/-- The fields of a record found in an array, in order; surplus items are refused. -/
def fieldsOfItems : List String → List Json → Option (List Field)
  | [], [] => some []
  | [], _ :: _ => none
  | _ :: names, [] => do return .cut :: (← fieldsOfItems names [])
  | _ :: names, j :: rest => do return .value j :: (← fieldsOfItems names rest)

/-- The fields of a record, one for each name. -/
def recordFields (names : List String) : Json → Option (List Field)
  | .obj members => fieldsOfMembers names members
  | .arr items => fieldsOfItems names items
  | _ => none

/-- The fields of a record that only an object can be. -/
def objectFields (names : List String) : Json → Option (List Field)
  | .obj members => fieldsOfMembers names members
  | _ => none

namespace Field

variable {α : Type}

/-- A field that has to be there. -/
def required (decode : Json → Option α) : Field → Option α
  | .value j => decode j
  | _ => none

/-- A field that may be `null` or missing from an object. -/
def optional (decode : Json → Option α) : Field → Option (Option α)
  | .value .null => some none
  | .value j => (decode j).map some
  | .missing => some none
  | .cut => none

/-- A field that may be `null`, missing or cut off. -/
def optionalLast (decode : Json → Option α) : Field → Option (Option α)
  | .value .null => some none
  | .value j => (decode j).map some
  | .missing | .cut => some none

/-- A field with a default; `null` is no value of it. -/
def withDefault (default : α) (decode : Json → Option α) : Field → Option α
  | .value j => decode j
  | .missing | .cut => some default

end Field

/-- A text. -/
def asText : Json → Option String
  | .str s => some s
  | _ => none

/-- A truth value. -/
def asBool : Json → Option Bool
  | .bool b => some b
  | _ => none

/-- A whole number between two bounds, both included. -/
def asIntIn (low high : Int) : Json → Option Int
  | .int n => if low ≤ n ∧ n ≤ high then some n else none
  | _ => none

/-- A signed whole number of 64 bits. -/
def asInt64 : Json → Option Int :=
  asIntIn (-Int.pow 2 63) (Int.pow 2 63 - 1)

/-- A signed whole number of 32 bits. -/
def asInt32 : Json → Option Int :=
  asIntIn (-Int.pow 2 31) (Int.pow 2 31 - 1)

/-- An unsigned whole number below a limit. -/
def asNatBelow (limit : Nat) : Json → Option Nat
  | .int n => if 0 ≤ n ∧ n < limit then some n.toNat else none
  | _ => none

/-- A list of values. -/
def asList {α : Type} (decode : Json → Option α) : Json → Option (List α)
  | .arr items => items.mapM decode
  | _ => none

/-- What the value of the single member of an enumeration object may be. -/
inductive UnitRule where
  /-- Only `null`. -/
  | null
  /-- `null`, or an object without members. -/
  | nullOrEmpty

/-- Whether a value stands for nothing. -/
def UnitRule.allows : UnitRule → Json → Bool
  | _, .null => true
  | .nullOrEmpty, .obj [] => true
  | _, _ => false

/-- A value of an enumeration, given by the table of its names. -/
def asEnum {α : Type} (rule : UnitRule) (ofName : String → Option α) : Json → Option α
  | .str s => ofName s
  | .obj [(s, j)] => if rule.allows j then ofName s else none
  | _ => none

/-- The tag of a tagged form and what remains of it: the other members, or the other items. -/
def splitTag (tag : String) (asTag : Json → Option String) : Json → Option (String × Json)
  | .obj members =>
    match members.filter (·.1 == tag) with
    | [m] => do return (← asTag m.2, .obj (members.filter (·.1 != tag)))
    | _ => none
  | .arr (j :: rest) => do return (← asTag j, .arr rest)
  | _ => none

/-- What may remain of a tagged form without fields: any members, but no items. -/
def noFields : Json → Option Unit
  | .obj _ => some ()
  | .arr [] => some ()
  | _ => none

end ApprovalFlow.Json
