import MonitorOperator.Document.Writer
import MonitorOperator.Fault
import MonitorOperator.Log.Event
import MonitorOperator.Text.Cut

/-!
# Lines of the log

An event that reaches the threshold is written as one line, a JSON object with sorted keys. The
namespace of the operator stands in every line unless a field of the event takes its place; the
level and the time are always the log's own.
-/

namespace MonitorOperator

/-- The name of an event as a key. -/
def LogEvent.eventKey : Scalar := .text "event"

/-- The level of an event as a key. -/
def LogEvent.levelKey : Scalar := .text "level"

/-- What is written, and which namespace the operator runs in. -/
structure LogSettings where
  threshold : LogLevel
  operatorNamespace : String
  deriving Repr

namespace LogSettings

/-- The levels that can be set as threshold. -/
def thresholds : List LogLevel := [.debug, .info, .warning, .error]

/-- The threshold of a name, in any case. A name that is unknown stands for the usual one. -/
def thresholdOf (name : String) : LogLevel :=
  (thresholds.find? fun level => level.name == Text.lowerAscii name).getD .info

/-- The settings for a level and a namespace, which may be empty. -/
def of (level operatorNamespace : String) : LogSettings :=
  ⟨thresholdOf level, operatorNamespace⟩

/-- The event reaches the threshold. -/
def shows (settings : LogSettings) (event : LogEvent) : Bool :=
  settings.threshold.rank ≤ event.level.rank

/-- The fields that every line has. -/
def commonFields (settings : LogSettings) : Fields :=
  if settings.operatorNamespace = "" then []
  else [(.text "operator_namespace", .text settings.operatorNamespace)]

/-- Fields that steer the log and are not written. -/
def steeringKeys : List Scalar := [.text "stack_info", .text "exc_info"]

/-- The fields of the line of an event. -/
def lineFields (settings : LogSettings) (time : String) (event : LogEvent) : Fields :=
  let fields := Fields.merge settings.commonFields event.fields
  let fields := Fields.put fields LogEvent.eventKey (.text event.event)
  let fields := Fields.put fields LogEvent.levelKey (.text event.level.name)
  Fields.put (steeringKeys.foldl Fields.remove fields) (.text "ts") (.text time)

/-- The line of an event at a time. -/
def line (settings : LogSettings) (time : String) (event : LogEvent) : Except Fault String :=
  match (Document.object (settings.lineFields time event)).sortedText? spaced with
  | some line => .ok line
  | none => .error .wrongKind

/-- The lines of the events that reach the threshold. -/
def lines (settings : LogSettings) (time : String) (events : List LogEvent) :
    Except Fault (List String) :=
  (events.filter settings.shows).mapM (settings.line time)

end LogSettings

/-- Names that the fields of an event must not have, because they are those of its other parts. -/
def LogEvent.takenNames : List String := ["self", "event"]

/-- The event of a logger with fields of any name. -/
def Logger.event? (logger : Logger) (level : LogLevel) (name : String)
    (fields : List (String × Document)) : Except Fault LogEvent :=
  if fields.any fun field => LogEvent.takenNames.contains field.1 then .error .wrongKind
  else .ok (logger.event level name fields)

/-- The logger with more fields of any name bound to it. -/
def Logger.bind? (logger : Logger) (fields : List (String × Document)) : Except Fault Logger :=
  if fields.any fun field => field.1 == "self" then .error .wrongKind
  else .ok (logger.bind (fields.map fun field => (.text field.1, field.2)))

end MonitorOperator
