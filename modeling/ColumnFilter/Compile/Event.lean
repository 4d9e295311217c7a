/-
What the compiler reports of its work.

Each compilation is one event: a filter made, or a domain rejected. An event has a level, a
target and named fields.
-/
import ColumnFilter.Compile.Basic

namespace ColumnFilter

/-- Weight of an event. -/
inductive EventLevel where
  | debug
  | warn
deriving DecidableEq

/-- Name of a level. -/
def EventLevel.name : EventLevel → String
  | debug => "DEBUG"
  | warn => "WARN"

/-- Value of a field of an event. -/
inductive FieldValue where
  | text (s : String)
  | flag (b : Bool)
deriving DecidableEq

/-- A report. -/
structure Event where
  level : EventLevel
  target : String
  fields : List (String × FieldValue)
deriving DecidableEq

/-- The report of a compilation. -/
def Event.ofCompilation (type : SqlType) (d : Domain) : Except CompileError Filter → Event
  | .ok f =>
    { level := .debug
      target := "scanfilter"
      fields :=
        [("component", .text "compiler"), ("event", .text "compile_filter"),
          ("column_type", .text type.text), ("filter", .text f.kind.name),
          ("null_allowed", .flag f.nullAllowed)] }
  | .error e =>
    { level := .warn
      target := "scanfilter"
      fields :=
        [("component", .text "compiler"), ("event", .text "compile_filter_rejected"),
          ("column_type", .text type.text), ("domain", .text d.text),
          ("error", .text e.message)] }

/-- Compilation with its reports. -/
def Domain.compileReported (options : Options) (type : SqlType) (d : Domain) :
    Except CompileError Filter × List Event :=
  let outcome := d.compile options type
  (outcome, [.ofCompilation type d outcome])

end ColumnFilter
