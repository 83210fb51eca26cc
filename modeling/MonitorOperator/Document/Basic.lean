import MonitorOperator.Decimal.Binary64

/-!
# Documents

The values of manifests, responses and log events: scalars, lists, and objects whose fields keep
their order. A field's key is a scalar, because an object can be made from a list of pairs; two keys
are one key when their values agree, so `1`, `1.0` and `true` name the same field.
-/

namespace MonitorOperator

open Decimal (Binary64)

/-- A value without parts. -/
inductive Scalar where
  | null
  | boolean (value : Bool)
  | integer (value : Int)
  | real (value : Binary64)
  | text (value : String)
  deriving DecidableEq, Repr, Inhabited

/-- A scalar, a list of documents, or an object. -/
inductive Document where
  | scalar (value : Scalar)
  | list (items : List Document)
  | object (fields : List (Scalar × Document))
  deriving Repr, Inhabited

/-- The fields of an object, in order. -/
abbrev Fields := List (Scalar × Document)

namespace Scalar

/-- The number that a scalar stands for: itself, or one for true and zero for false. -/
def number? : Scalar → Option Binary64
  | boolean value => some (Binary64.ofInt (if value then 1 else 0))
  | integer value => some (Binary64.ofInt value)
  | real value => some value
  | _ => none

/-- The two scalars are one value: numbers by their value, all others literally. -/
def agrees : Scalar → Scalar → Bool
  | null, null => true
  | text left, text right => left == right
  | left, right =>
      match left.number?, right.number? with
      | some left, some right => left.agrees right
      | _, _ => false

/-- The scalar counts as present: it is not null, false, a zero or an empty text. -/
def truthy : Scalar → Bool
  | null => false
  | boolean value => value
  | integer value => value != 0
  | real value => !value.isZero
  | text value => value != ""

/-- Text keys are compared literally. -/
@[simp] theorem agrees_text (left right : String) :
    (text left).agrees (text right) = (left == right) := rfl

end Scalar

namespace Fields

/-- The value of a field. -/
def get? (fields : Fields) (key : Scalar) : Option Document :=
  (fields.find? fun field => field.1.agrees key).map (·.2)

/-- Give a field a value. A new field comes last; an old one keeps its place and its key. -/
def put : Fields → Scalar → Document → Fields
  | [], key, value => [(key, value)]
  | field :: fields, key, value =>
      if field.1.agrees key then (field.1, value) :: fields else field :: put fields key value

/-- The fields without the one of a key. -/
def remove (fields : Fields) (key : Scalar) : Fields :=
  fields.filter fun field => !field.1.agrees key

/-- The fields with those of another object put over them. -/
def merge (fields newer : Fields) : Fields :=
  newer.foldl (fun fields field => put fields field.1 field.2) fields

/-- The object that a list of fields makes when each overrides the earlier ones. -/
def ofList (fields : Fields) : Fields :=
  merge [] fields

end Fields

namespace Document

/-- The absent value. -/
abbrev null : Document := .scalar .null

/-- A truth value. -/
abbrev boolean (value : Bool) : Document := .scalar (.boolean value)

/-- An integer. -/
abbrev integer (value : Int) : Document := .scalar (.integer value)

/-- A text. -/
abbrev text (value : String) : Document := .scalar (.text value)

/-- The object with the given fields under text keys. -/
def ofFields (fields : List (String × Document)) : Document :=
  .object (fields.map fun field => (.text field.1, field.2))

/-- The document counts as present: a scalar that does, or a list or object with something in
it. -/
def truthy : Document → Bool
  | scalar value => value.truthy
  | list items => !items.isEmpty
  | object fields => !fields.isEmpty

/-- The document, or another one if it does not count as present. -/
def orElse (document other : Document) : Document :=
  if document.truthy then document else other

/-- The document, or null if it does not count as present. -/
def orNull (document : Document) : Document :=
  document.orElse null

mutual

/-- The two documents are one value: scalars as scalars, lists item by item, and objects with the
same keys, in any order, by the values of their fields. -/
def agrees : Document → Document → Bool
  | scalar left, scalar right => left.agrees right
  | list left, list right => itemsAgree left right
  | object left, object right => left.length == right.length && fieldsAgree left right
  | _, _ => false

/-- The lists have the same length and agree item by item. -/
def itemsAgree : List Document → List Document → Bool
  | [], [] => true
  | left :: lefts, right :: rights => left.agrees right && itemsAgree lefts rights
  | _, _ => false

/-- Every field on the left has an agreeing one on the right. -/
def fieldsAgree : List (Scalar × Document) → List (Scalar × Document) → Bool
  | [], _ => true
  | (key, value) :: fields, others =>
      (match Fields.get? others key with
        | some other => value.agrees other
        | none => false) && fieldsAgree fields others

end

end Document

end MonitorOperator
