/-!
# Shapes of values

A shape says what of a value a reader looks at and what it takes the value for. A format that spells
texts, numbers and truth values alike tells them apart by the shape; one that spells them apart goes
by what is written, and the shape only says which members of an object are left unread.
-/

namespace ApprovalFlow.Json

/-- What of a value is looked at, and what it is taken for. -/
inductive Shape where
  /-- All of it, taken for what it is written as. -/
  | whole
  /-- A text. -/
  | text
  /-- A whole number of 64 bits. -/
  | int
  /-- A truth value. -/
  | bool
  /-- Nothing, or a value. -/
  | optional (value : Shape)
  /-- A list of values. -/
  | list (item : Shape)
  /-- An object with these fields; what is looked at of its other members, if anything. -/
  | record (fields : List (String × Shape)) (others : Option Shape)
  deriving Repr, Inhabited

namespace Shape

/-- The record whose fields are looked at as wholes, and nothing else of it. -/
def fields (names : List String) : Shape :=
  .record (names.map (·, whole)) none

/-- The shape of the value of a member, if it is looked at. -/
def member? (key : String) : Shape → Option Shape
  | record fields others =>
    match fields.find? (·.1 == key) with
    | some field => some field.2
    | none => others
  | optional value => value.member? key
  | _ => some whole

/-- The shapes of the first item of an array and of the others. An array that stands for a record
has the fields in their order. -/
def split : Shape → Shape × Shape
  | record [] others => (whole, record [] others)
  | record (field :: rest) others => (field.2, record rest others)
  | list item => (item, list item)
  | optional value => value.split
  | shape => (whole, shape)

end Shape

end ApprovalFlow.Json
