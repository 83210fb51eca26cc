import MonitorOperator.Text.Cut
import MonitorOperator.Text.Keyed
import MonitorOperator.Text.Quoted
import MonitorOperator.Text.Word

/-!
# Challenges

A registry that wants to know who asks answers with a challenge: a scheme and, for a bearer
challenge, parameters written as `name="value"`, whose names are made of word characters. They are
found wherever they stand; of parameters with one name the last counts, at the place of the first.
-/

namespace MonitorOperator.Registry

/-- Parameters by name, in order. -/
abbrev Parameters := Keyed String

/-- The parameters, with a default for one that is missing. -/
def Parameters.withDefault (parameters : Parameters) (name value : String) : Parameters :=
  if (Keyed.get? parameters name).isSome then parameters else parameters ++ [(name, value)]

/-- A challenge. -/
inductive Challenge where
  /-- Username and password are wanted. -/
  | basic
  /-- A token is wanted, from the place that the parameters name. -/
  | bearer (parameters : Parameters)
  /-- Anything else. -/
  | unknown (text : String)
  deriving Repr

namespace Challenge

/-- The parameter that the characters begin with, and what follows it. -/
def parameterAt? (characters : List Char) : Option ((String × String) × List Char) :=
  match characters.takeWhile Text.isWordCharacter, characters.dropWhile Text.isWordCharacter with
  | first :: name, '=' :: mark :: rest =>
      if mark = Text.quotationMark then
        match Text.cutAt [Text.quotationMark] rest with
        | some (value, after) =>
            some ((String.ofList (first :: name), String.ofList value), after)
        | none => none
      else none
  | _, _ => none

/-- The parameters that stand in the characters, in order. The fuel is at least their number. -/
def parametersWithin : (fuel : Nat) → List Char → List (String × String)
  | 0, _ => []
  | _, [] => []
  | fuel + 1, character :: rest =>
      match parameterAt? (character :: rest) with
      | some (parameter, after) => parameter :: parametersWithin fuel after
      | none => parametersWithin fuel rest

/-- The parameters that stand in the characters, in order. -/
def parametersIn (characters : List Char) : List (String × String) :=
  parametersWithin characters.length characters

/-- The challenge that a text makes. -/
def read (text : String) : Challenge :=
  let (scheme, rest) :=
    match Text.cutAt [' '] text.toList with
    | some (scheme, rest) => (scheme, rest)
    | none => (text.toList, [])
  match Text.lowerAscii (String.ofList scheme) with
  | "basic" => .basic
  | "bearer" => .bearer (Keyed.ofList (parametersIn rest))
  | _ => .unknown text

end Challenge

end MonitorOperator.Registry
