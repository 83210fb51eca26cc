import MonitorOperator.Decimal.Reader
import MonitorOperator.Fault

/-!
# Taking documents apart

A manifest may hold a value of any kind in any place. The functions here take the parts they are
asked for, or say what is wrong: `lookup` and `lookupOr` read a field that may be missing, `field`
one that must be there, and `elements`, `toFields` and `toInteger` convert a value where the
conversion makes sense.
-/

namespace MonitorOperator.Document

/-- A field of an object, if it is there. Only objects have fields to look up. -/
def lookup (document : Document) (key : Scalar) : Except Fault (Option Document) :=
  match document with
  | .object fields => .ok (Fields.get? fields key)
  | _ => .error .noSuchMember

/-- A field of an object, or a default when it is missing. -/
def lookupOr (document : Document) (key : String) (fallback : Document) :
    Except Fault Document :=
  (document.lookup (.text key)).map (·.getD fallback)

/-- A field of an object, or null when it is missing. -/
def lookupOrNull (document : Document) (key : String) : Except Fault Document :=
  document.lookupOr key null

/-- A field that must be there. -/
def field (document : Document) (key : String) : Except Fault Document :=
  match document with
  | .object fields =>
      match Fields.get? fields (.text key) with
      | some value => .ok value
      | none => .error (.missingKey (.text key))
  | _ => .error .wrongKind

/-- The scalar that a key must be. -/
def toKey : Document → Except Fault Scalar
  | .scalar value => .ok value
  | _ => .error .wrongKind

/-- What a document consists of: the items of a list, the characters of a text, the keys of an
object. -/
def elements : Document → Except Fault (List Document)
  | .list items => .ok items
  | .object fields => .ok (fields.map fun field => .scalar field.1)
  | .scalar (.text value) =>
      .ok (value.toList.map fun character => text (String.ofList [character]))
  | _ => .error .wrongKind

/-- The field that an element of two parts stands for. -/
def toField (index : Nat) (element : Document) : Except Fault (Scalar × Document) := do
  match ← element.elements with
  | [key, value] => pure (← key.toKey, value)
  | parts => throw (.value (.notPair index parts.length))

/-- The fields that a list of pairs stands for, put one after the other over those before. -/
def collectFields : (index : Nat) → Fields → List Document → Except Fault Fields
  | _, fields, [] => .ok fields
  | index, fields, element :: rest => do
      let (key, value) ← element.toField index
      collectFields (index + 1) (Fields.put fields key value) rest

/-- An object, from an object or from pairs. -/
def toFields : Document → Except Fault Fields
  | .object fields => .ok fields
  | document => do collectFields 0 [] (← document.elements)

/-- An integer, from a number without its fraction or from a text. -/
def toInteger : Document → Except Fault Int
  | .scalar (.boolean value) => .ok (if value then 1 else 0)
  | .scalar (.integer value) => .ok value
  | .scalar (.real value) =>
      match value with
      | .undefined => .error (.value .undefinedInteger)
      | value =>
          match value.truncate? with
          | some integer => .ok integer
          | none => .error (.lower .outOfRange)
  | .scalar (.text value) =>
      match Decimal.readInteger value with
      | .integer value => .ok value
      | .tooLong count => .error (.value (.tooManyDigits count))
      | .malformed => .error (.value (.notInteger value))
  | _ => .error .wrongKind

end MonitorOperator.Document
