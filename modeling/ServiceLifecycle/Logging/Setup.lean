/-
Module: ServiceLifecycle.Logging.Setup
Purpose: How log messages are filtered and where they go.
Main exports: LogSetup, LogSetup.filter?, LogSetup.destination, LogSetup.isUsable, LogSetup.leave,
  Message, LogSetup.transcript?, LogSetup.fileAfter?
-/
import ServiceLifecycle.Logging.Filter
import ServiceLifecycle.Source.Surroundings

namespace ServiceLifecycle

/-!
Logging is set up from settings, to which a host may add directives.  The variable
`RUST_LOG`, where it is set and well-formed, stands in for the level of the settings;
the filters of the settings and the added directives come on top of either.  The setup
stops the program if a directive would be cut inside a character, or if the file for
the output cannot be written.
-/

/-- Settings and further directives. -/
structure LogSetup where
  settings : LogSettings := {}
  directives : List String := []
deriving Repr, Inhabited

/-- Where log lines end up. -/
inductive Destination where
  | stdout
  | stderr
  | file (path : String)
deriving Repr, Inhabited, DecidableEq

/-- A log message: where it comes from, how much it matters, and what it says. -/
structure Message where
  target : String
  level : Level
  text : String
  /-- The names of its fields; the text is one. -/
  fields : List String := ["message"]
deriving Repr, Inhabited, DecidableEq

/-- What a program logs: messages, and spans without fields. -/
inductive Emission where
  | message (message : Message)
  /-- A span is created, entered, left and closed. -/
  | span (name target : String) (level : Level)
deriving Repr, Inhabited, DecidableEq

/-- What a filter looks at. -/
def Emission.subject : Emission → Subject
  | .message said => { target := said.target, level := said.level, fields := said.fields }
  | .span name target level => { target, level, span := some name }

/-- What a log shows. -/
structure Transcript where
  texts : List String := []
  threadIds : Bool := false
  fileLocation : Bool := false
  pretty : Bool := false
  /-- How many spans show their creation, entry, exit and end. -/
  spans : List Nat := [0, 0, 0, 0]
deriving Repr, Inhabited, DecidableEq

namespace LogSetup

/-- Set the level. -/
def withLevel (setup : LogSetup) (level : Level) : LogSetup :=
  { setup with settings := { setup.settings with level } }

/-- Add a directive. -/
def withDirective (setup : LogSetup) (directive : String) : LogSetup :=
  { setup with directives := setup.directives ++ [directive] }

/-- Choose the moments of a span that are logged. -/
def withSpanEvents (setup : LogSetup) (spanEvents : SpanEvents) : LogSetup :=
  { setup with settings := { setup.settings with spanEvents } }

/-- Choose the layout. -/
def withFormat (setup : LogSetup) (format : Format) : LogSetup :=
  { setup with settings := { setup.settings with format } }

/-- Choose the output. -/
def withOutput (setup : LogSetup) (output : Output) : LogSetup :=
  { setup with settings := { setup.settings with output } }

/-- Send the output to a file. -/
def withFile (setup : LogSetup) (path : String) : LogSetup :=
  { setup with settings := { setup.settings with output := .file, filePath := some path } }

/-- The directives in the order in which they apply. -/
def allDirectives (setup : LogSetup) : List String :=
  setup.settings.filters.map (fun (target, level) => target ++ "=" ++ level.name) ++
    setup.directives

/-- The filter of the level alone. -/
def levelFilter (setup : LogSetup) : Filter :=
  Filter.ofDirectives [{ threshold := some setup.settings.level }]

/-- What the filter starts from: the environment, or else the level. -/
def baseFilter? (setup : LogSetup) (environment : Variables) : Option Filter :=
  match (environment.get? "RUST_LOG").map Directive.readList with
  | some (.ok directives) => some (Filter.ofDirectives directives)
  | some (.error .cut) => none
  | some (.error .malformed) | none => some setup.levelFilter

/-- Add a directive by its text.  One that is not well-formed is ignored. -/
def extendFilter? (filter : Filter) (text : String) : Option Filter :=
  match Directive.read text with
  | .ok directive => some (filter.add directive)
  | .error .cut => none
  | .error .malformed => some filter

/-- The filter. -/
def filter? (setup : LogSetup) (environment : Variables) : Option Filter := do
  setup.allDirectives.foldlM extendFilter? (← setup.baseFilter? environment)

/-- The file that a path stands for; a path that ends in no name gets a default one. -/
def filePathOf (path : String) : String :=
  if (Path.fileName? path).isSome then path
  else if (Path.names path).isEmpty then "keystone.log"
  else Path.withFileName path "keystone.log"

/-- Where the output goes.  A file without a path falls back to the standard output. -/
def destination (setup : LogSetup) : Destination :=
  match setup.settings.output, setup.settings.filePath with
  | .stdout, _ => .stdout
  | .stderr, _ => .stderr
  | .file, some path => .file (filePathOf path)
  | .file, none => .stdout

/-- The warnings about the setup itself. -/
def warnings (setup : LogSetup) : List Message :=
  let isIgnored := fun (text : String) => Directive.read text matches .error _
  let unplaced := setup.settings.output = .file && setup.settings.filePath.isNone
  let ignored := (setup.allDirectives.filter isIgnored).map fun _ =>
    { warning "Ignoring invalid log directive" with fields := ["message", "directive", "error"] }
  ignored ++
    if unplaced then
      [warning "File output requested but no file path configured, falling back to stdout"]
    else
      []
where
  /-- A warning of the setup. -/
  warning (text : String) : Message :=
    { target := "keystone_runtime::logging", level := .warn, text }

/-- The moments of a span that are logged, as counts. -/
def spanCounts (events : SpanEvents) : List Nat :=
  [events.new, events.enter, events.exit, events.close].map fun
    | true => 1
    | false => 0

/-- Add what one emission shows. -/
def extend (setup : LogSetup) (transcript : Transcript) (emission : Emission) : Transcript :=
  match emission with
  | .message message => { transcript with texts := transcript.texts ++ [message.text] }
  | .span _ _ _ =>
      { transcript with
        spans := List.zipWith (· + ·) transcript.spans (spanCounts setup.settings.spanEvents) }

/-- The program can go on with the setup: no directive is cut inside a character, and the
output can be opened. -/
def isUsable (setup : LogSetup) (surroundings : Surroundings) : Bool :=
  (setup.filter? surroundings.environment).isSome &&
    match setup.destination with
    | .file path => surroundings.files.canOpen path
    | _ => true

/-- What the setup leaves behind, whether it can be used or not: a log file is opened once
the filter stands. -/
def leave (setup : LogSetup) (surroundings : Surroundings) : Surroundings :=
  match setup.destination, setup.filter? surroundings.environment with
  | .file path, some _ => { surroundings with files := surroundings.files.opened path }
  | _, _ => surroundings

/-- What the log shows of what a program emits, unless the setup stops the program.
Thread ids, file locations and the layout show as soon as there is one line; the pretty
layout always has locations. -/
def transcript? (setup : LogSetup) (surroundings : Surroundings) (emissions : List Emission) :
    Option Transcript := do
  let filter ← setup.filter? surroundings.environment
  if !setup.isUsable surroundings then none
  let shown := (emissions.filter fun emission => filter.admits emission.subject).foldl
    setup.extend {}
  if shown.texts.isEmpty && shown.spans.all (· == 0) then
    some shown
  else
    let pretty := setup.settings.format == .pretty
    some { shown with
      threadIds := setup.settings.threadIds
      fileLocation := setup.settings.fileLocation || pretty
      pretty }

/-- What the file at a path holds after the program has logged: its content before, and
what was logged into it. -/
def fileAfter? (setup : LogSetup) (surroundings : Surroundings) (transcript : Transcript)
    (path : String) : Option (String × Transcript) := do
  let files := (setup.leave surroundings).files
  let place ← files.walk? path
  let before ← files.contentAt? place
  let isLog := match setup.destination with
    | .file target => Place.ofPath target == place
    | _ => false
  return (before, if isLog then transcript else {})

end LogSetup

end ServiceLifecycle
