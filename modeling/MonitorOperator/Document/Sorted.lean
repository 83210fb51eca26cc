import MonitorOperator.Document.Basic

/-!
# Sorted documents

`sorted?` puts the fields of every object in the order of their keys: texts by code point, numbers
by value. Keys of both kinds, or null beside another key, have no common order.
-/

namespace MonitorOperator

/-- The scalar comes no later than the other one in the order of keys. -/
def Scalar.notAfter : Scalar → Scalar → Bool
  | .text left, .text right => !decide (right < left)
  | left, right =>
      match left.number?, right.number? with
      | some left, some right => !right.less left
      | _, _ => true

/-- The scalars have a common order with each other. -/
def Scalar.comparable (left right : Scalar) : Bool :=
  match left, right with
  | .text _, .text _ => true
  | left, right => left.number?.isSome && right.number?.isSome

/-- All keys of the fields have a common order; a single key needs none. -/
def Fields.sortable : Fields → Bool
  | first :: second :: rest =>
      (second :: rest).all fun field => first.1.comparable field.1
  | _ => true

/-- The fields in the order of their keys, if the keys have one. -/
def Fields.sort? (fields : Fields) : Option Fields :=
  if fields.sortable then
    some (fields.mergeSort fun left right => left.1.notAfter right.1)
  else none

namespace Document

mutual

/-- The document with the fields of every object in the order of their keys. -/
def sorted? : Document → Option Document
  | scalar value => some (scalar value)
  | list items => (sortedItems? items).map list
  | object fields => (sortedFields? fields).bind fun fields => (Fields.sort? fields).map object

/-- The items of a list, each sorted. -/
def sortedItems? : List Document → Option (List Document)
  | [] => some []
  | item :: items => do
      let item ← item.sorted?
      let items ← sortedItems? items
      pure (item :: items)

/-- The fields of an object in their old order, each value sorted. -/
def sortedFields? : List (Scalar × Document) → Option (List (Scalar × Document))
  | [] => some []
  | (key, value) :: fields => do
      let value ← value.sorted?
      let fields ← sortedFields? fields
      pure ((key, value) :: fields)

end

end Document

end MonitorOperator
