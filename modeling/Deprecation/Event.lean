import Deprecation.Notice
import Deprecation.Warning

/-!
Log events.  Each event has a severity, the part of the log that it belongs to, a message and named
fields; a log keeps the events down to some severity.
-/

namespace Deprecation

/-- How severe a log event is. -/
inductive Severity where
  | error
  | warn
  | info
  | debug
  | trace
deriving DecidableEq, Repr, Inhabited

namespace Severity

/-- The distance from the most severe level. -/
def rank : Severity → Nat
  | error => 0
  | warn => 1
  | info => 2
  | debug => 3
  | trace => 4

def word : Severity → String
  | error => "ERROR"
  | warn => "WARN"
  | info => "INFO"
  | debug => "DEBUG"
  | trace => "TRACE"

def ofWord? : String → Option Severity
  | "error" => some error
  | "warn" => some warn
  | "info" => some info
  | "debug" => some debug
  | "trace" => some trace
  | _ => none

end Severity

inductive Event where
  /-- A warning that goes to the log, with or without its location. -/
  | warned (warning : Warning) (withLocation : Bool)
  | alreadyReported (notice : Notice)
  | argumentRenamed (function oldName newName : String)
  | alreadyShown (name : String)
  | memberAccessed (enumeration member : String)
deriving DecidableEq, Repr

/-- The value of a field of a log event. -/
inductive FieldValue where
  | text (value : String)
  | count (value : Nat)
deriving DecidableEq, Repr

namespace Event

def severity : Event → Severity
  | warned .. => .warn
  | alreadyReported _ => .debug
  | argumentRenamed .. => .trace
  | alreadyShown _ => .trace
  | memberAccessed .. => .trace

/-- The part of the log that an event belongs to. -/
def target : Event → String
  | warned .. => "deprecation"
  | alreadyReported _ => "deprecation"
  | argumentRenamed .. => "sunset_deprecation::arguments"
  | alreadyShown _ => "sunset_deprecation::callables"
  | memberAccessed .. => "sunset_deprecation::enumeration"

def message : Event → String
  | warned warning _ => warning.text
  | alreadyReported _ => "deprecation already reported"
  | argumentRenamed .. => "renaming deprecated argument"
  | alreadyShown _ => "deprecation notice already shown"
  | memberAccessed .. => "deprecated member accessed"

def fields : Event → List (String × FieldValue)
  | warned warning withLocation =>
    [("category", .text Warning.category), ("stack_level", .count warning.stackLevel.toNat)] ++
      if withLocation then
        [("file", .text warning.location.file), ("line", .count warning.location.line)]
      else []
  | alreadyReported notice => [("name", .text notice.name), ("version", .text notice.version)]
  | argumentRenamed function oldName newName =>
    [("func", .text function), ("old", .text oldName), ("new", .text newName)]
  | alreadyShown name => [("name", .text name)]
  | memberAccessed enumeration member =>
    [("enum_name", .text enumeration), ("member", .text member)]

/-- Whether a log that keeps events down to some level keeps an event. -/
def isKept (least : Severity) (event : Event) : Bool :=
  event.severity.rank ≤ least.rank

end Event

end Deprecation
