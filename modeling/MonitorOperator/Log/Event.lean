import MonitorOperator.Document.Basic

/-!
# Log events

A logger belongs to a component of the operator and may have fields bound to it, which all its
events have. The fields of an event itself override the bound ones.
-/

namespace MonitorOperator

/-- How much an event matters. -/
inductive LogLevel where
  | debug
  | info
  | warning
  | error
  | critical
  deriving DecidableEq, Repr

namespace LogLevel

/-- The name of a level. -/
def name : LogLevel → String
  | debug => "debug"
  | info => "info"
  | warning => "warning"
  | error => "error"
  | critical => "critical"

/-- The rank of a level; what matters more ranks higher. -/
def rank : LogLevel → Nat
  | debug => 10
  | info => 20
  | warning => 30
  | error => 40
  | critical => 50

/-- All levels. -/
def all : List LogLevel := [debug, info, warning, error, critical]

/-- The level of a name. -/
def ofName? (name : String) : Option LogLevel :=
  all.find? fun level => level.name == name

end LogLevel

/-- Something that happened, with its circumstances. -/
structure LogEvent where
  level : LogLevel
  event : String
  fields : Fields
  deriving Repr

/-- A source of events, with the fields that all of them have. -/
structure Logger where
  bound : Fields
  deriving Repr

namespace Logger

/-- The logger of a component. -/
def of (component : String) : Logger :=
  ⟨[(.text "component", .text component)]⟩

/-- The logger with more fields bound to it. -/
def bind (logger : Logger) (fields : Fields) : Logger :=
  ⟨Fields.merge logger.bound fields⟩

/-- An event of the logger. -/
def event (logger : Logger) (level : LogLevel) (name : String)
    (fields : List (String × Document)) : LogEvent :=
  { level
    event := name
    fields := Fields.merge logger.bound (fields.map fun field => (.text field.1, field.2)) }

end Logger

end MonitorOperator
