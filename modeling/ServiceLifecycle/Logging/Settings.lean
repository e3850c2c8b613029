/-
Module: ServiceLifecycle.Logging.Settings
Purpose: The settings of the logging service.
Main exports: Level, Format, Output, SpanEvents, LogSettings,
  LogSettings.encode, LogSettings.decode, LogSettings.validate
-/
import ServiceLifecycle.Value.Decoding
import ServiceLifecycle.Fault
import ServiceLifecycle.Text.Blank

namespace ServiceLifecycle

/-!
Every setting has a default, so an empty section is a complete description of
the logging service.
-/

/-- How much a message matters. -/
inductive Level where
  | trace
  | debug
  | info
  | warn
  | error
deriving Repr, Inhabited, DecidableEq

/-- How a log line is laid out. -/
inductive Format where
  | compact
  | full
  | pretty
deriving Repr, Inhabited, DecidableEq

/-- Where log lines go. -/
inductive Output where
  | stdout
  | stderr
  | file
deriving Repr, Inhabited, DecidableEq

/-- Which moments in the life of a span are logged. -/
structure SpanEvents where
  new : Bool := false
  enter : Bool := false
  exit : Bool := false
  close : Bool := false
deriving Repr, Inhabited, DecidableEq

/-- The settings of the logging service. -/
structure LogSettings where
  level : Level := .info
  format : Format := .compact
  output : Output := .stdout
  filePath : Option String := none
  threadIds : Bool := false
  fileLocation : Bool := false
  filters : Entries Level := []
  spanEvents : SpanEvents := {}
deriving Repr, Inhabited, DecidableEq

namespace Level

/-- The levels by name, from the most to the least talkative. -/
def variants : List (String × Level) :=
  [("trace", trace), ("debug", debug), ("info", info), ("warn", warn), ("error", error)]

/-- The name of a level in settings. -/
def name : Level → String
  | trace => "trace"
  | debug => "debug"
  | info => "info"
  | warn => "warn"
  | error => "error"

/-- The name of a level in log lines. -/
def label (level : Level) : String :=
  level.name.map Char.toUpper

end Level

namespace Format

/-- The formats by name. -/
def variants : List (String × Format) :=
  [("compact", compact), ("full", full), ("pretty", pretty)]

/-- The name of a format. -/
def name : Format → String
  | compact => "compact"
  | full => "full"
  | pretty => "pretty"

end Format

namespace Output

/-- The outputs by name. -/
def variants : List (String × Output) :=
  [("stdout", stdout), ("stderr", stderr), ("file", file)]

/-- The name of an output. -/
def name : Output → String
  | stdout => "stdout"
  | stderr => "stderr"
  | file => "file"

end Output

namespace SpanEvents

/-- No moment is logged. -/
def none : SpanEvents := {}

/-- The creation and the end of a span are logged. -/
def lifecycle : SpanEvents := { new := true, close := true }

/-- Every moment is logged. -/
def full : SpanEvents := { new := true, enter := true, exit := true, close := true }

/-- The written form. -/
def encode (events : SpanEvents) : Value :=
  .table [("close", .bool events.close), ("enter", .bool events.enter),
    ("exit", .bool events.exit), ("new", .bool events.new)]

/-- Read one field. -/
def assign (events : SpanEvents) (entry : String × Value) : Decoded SpanEvents :=
  match entry.1 with
  | "new" => return { events with new := ← decodeFlag entry.2 }
  | "enter" => return { events with enter := ← decodeFlag entry.2 }
  | "exit" => return { events with exit := ← decodeFlag entry.2 }
  | "close" => return { events with close := ← decodeFlag entry.2 }
  | _ => .ok events

/-- Read span events. -/
def decode : Value → Decoded SpanEvents :=
  decodeRecord "struct SpanEventConfig" ["new", "enter", "exit", "close"] assign {}

end SpanEvents

namespace LogSettings

/-- The written form: every field, by ascending name. -/
def encode (settings : LogSettings) : Value :=
  .table
    [("file_location", .bool settings.fileLocation),
     ("file_path", (settings.filePath.map Value.text).getD .null),
     ("filters", .table (settings.filters.map fun entry => (entry.1, .text entry.2.name))),
     ("format", .text settings.format.name),
     ("level", .text settings.level.name),
     ("output", .text settings.output.name),
     ("span_events", settings.spanEvents.encode),
     ("thread_ids", .bool settings.threadIds)]

/-- Read the levels of single targets. -/
def decodeFilters : Value → Decoded (Entries Level)
  | .table entries =>
      entries.mapM fun entry => return (entry.1, ← decodeVariant Level.variants entry.2)
  | found => .error (.wrongType found "a map")

/-- Read one field. -/
def assign (settings : LogSettings) (entry : String × Value) : Decoded LogSettings :=
  match entry.1 with
  | "level" => return { settings with level := ← decodeVariant Level.variants entry.2 }
  | "format" => return { settings with format := ← decodeVariant Format.variants entry.2 }
  | "output" => return { settings with output := ← decodeVariant Output.variants entry.2 }
  | "file_path" =>
      return { settings with
        filePath := ← decodeOptional (decodeText "path string") entry.2 }
  | "thread_ids" => return { settings with threadIds := ← decodeFlag entry.2 }
  | "file_location" => return { settings with fileLocation := ← decodeFlag entry.2 }
  | "filters" => return { settings with filters := ← decodeFilters entry.2 }
  | "span_events" => return { settings with spanEvents := ← SpanEvents.decode entry.2 }
  | _ => .ok settings

/-- The fields in declaration order. -/
def fields : List String :=
  ["level", "format", "output", "file_path", "thread_ids", "file_location", "filters",
    "span_events"]

/-- Read the settings of the logging service. -/
def decode : Value → Decoded LogSettings :=
  decodeRecord "struct LoggingConfig" fields assign {}

/-- A log file needs a path, and a filter needs a target. -/
def validate (settings : LogSettings) : Except LoadFault Unit :=
  if settings.output = .file && settings.filePath.isNone then
    .error (.missingField "file_path")
  else
    match settings.filters.keys.find? Text.isBlankText with
    | some target => .error (.invalid ("Invalid filter target '" ++ target ++ "'"))
    | none => .ok ()

end LogSettings

end ServiceLifecycle
