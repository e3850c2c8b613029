/-
Module: ServiceLifecycle.Host.Announcement
Purpose: A host of two services that together announce a greeting.
Main exports: HostReport, HostReport.ofFault, Host.run, Host.answer
-/
import ServiceLifecycle.Bootstrap
import ServiceLifecycle.Host.Arguments

namespace ServiceLifecycle

/-!
The host brings its application up from a configuration file, starts every declared
service, and has the announcer greet an audience.  The announcer needs the greeter and
initializes it early, before itself.  Both read what they say from their own sections.
-/

/-- What a run of the host leaves behind. -/
structure HostReport where
  exitCode : Nat := 0
  stdout : String := ""
  stderr : String := ""
deriving Repr, Inhabited, DecidableEq

namespace Host

/-- The implementation key of the greeter. -/
def greeterKey : String := "demo.greeter"

/-- The implementation key of the announcer. -/
def announcerKey : String := "demo.announcer"

/-- The announcer initializes the greeter early, before itself. -/
def announcer : Script :=
  { early := some (.straight [.early "Greeter" .propagate, .mark]) }

/-- The components of the host. -/
def components : List StaticEntry :=
  [{ key := greeterKey }, { key := announcerKey, body := .scripted announcer }]

/-- A component built from the key of the greeter. -/
def wantedGreeter : Wanted := .implementation greeterKey "service_host::Greeter"

/-- A component built from the key of the announcer. -/
def wantedAnnouncer : Wanted := .implementation announcerKey "service_host::Announcer"

/-- The greeting that the two services make up. -/
def announce (announcerId : Nat) : Work (Except BrokerFault String) := do
  match ← Broker.resolveAs "Greeter" wantedGreeter with
  | .error fault => pure (.error fault)
  | .ok greeterId =>
      let store ← get
      let greeting := ((Broker.ownSection store greeterId).text? "greeting").getD "Hello"
      let audience := ((Broker.ownSection store announcerId).text? "audience").getD "world"
      pure (.ok (greeting ++ ", " ++ audience ++ "!"))

/-- Bring the application up, start its services and let the announcer speak. -/
def session (plan : Plan) (failFast : Bool) : Work (Except Fault String) := do
  match ← Bootstrap.build plan with
  | .error fault =>
      pure (.error (.plain "Failed to bootstrap the service runtime" (some fault.toFault)))
  | .ok () =>
      match ← Broker.earlyAll {} failFast with
      | .error fault =>
          pure (.error (.plain "Failed to start services" (some (.startup fault))))
      | .ok () =>
          match ← Broker.resolveAs "Announcer" wantedAnnouncer with
          | .error fault => pure (.error (.startup fault))
          | .ok id =>
              match ← announce id with
              | .error fault => pure (.error (.broker fault))
              | .ok text =>
                  Broker.shutdownAll
                  pure (.ok text)

/-- Put a margin before the first line of a text, and blanks of the same width before
the others. -/
def indented (margin text : String) : String :=
  let blanks := String.ofList (List.replicate margin.length ' ')
  margin ++ ("\n" ++ blanks).intercalate (text.splitOn "\n")

/-- The margin before the `n`-th of several causes. -/
def numberMargin (n : Nat) : String :=
  let digits := toString n
  String.ofList (List.replicate (5 - digits.length) ' ') ++ digits ++ ": "

/-- The causes of a fault, each on lines of its own; several are numbered. -/
def causeLines : List String → String
  | [] => ""
  | [cause] => "\n\nCaused by:\n" ++ indented "    " cause
  | causes =>
      "\n\nCaused by:\n" ++ "\n".intercalate (causes.mapIdx fun n cause =>
        indented (numberMargin n) cause)

/-- What the host writes about a fault that ends it. -/
def complaint (fault : Fault) : String :=
  "Error: " ++ fault.message ++ causeLines (fault.trace.drop 1) ++ "\n"

/-- The host's loader, as the command line sets it up. -/
def loader (surroundings : Surroundings) (arguments : HostArguments) : Loader :=
  let fresh := Loader.new surroundings
  { fresh with file := arguments.config, profile := arguments.profile.or fresh.profile }

/-- The broker that the host begins with. -/
def initialStore (surroundings : Surroundings) : Store :=
  { registry := { capability := .service, statics := some components }, surroundings }

/-- The lines of the console. -/
def consoleText (store : Store) : String :=
  String.join ((store.channel.received .console).map fun entry => entry.consoleLine ++ "\n")

/-- Run the host. -/
def run (surroundings : Surroundings) (arguments : HostArguments) : HostReport :=
  match session { loader := loader surroundings arguments } arguments.failFast
      (initialStore surroundings) with
  | .finished (.ok text, store) => { stdout := text ++ "\n", stderr := consoleText store }
  | .finished (.error fault, store) =>
      { exitCode := 1, stderr := consoleText store ++ complaint fault }
  | .stopped => { exitCode := 101 }
  | .blocked _ | .exhausted => { exitCode := 1 }

/-- What the host says about itself. -/
def helpText : String :=
  "\n".intercalate
    ["Keystone service host",
      "",
      "Usage: service-host [OPTIONS]",
      "",
      "Options:",
      "  -c, --config <CONFIG>    Configuration file to load instead of searching the " ++
        "default locations",
      "  -p, --profile <PROFILE>  Configuration profile (e.g. \"development\", \"production\")",
      "      --fail-fast          Abort startup on the first service that fails to initialize",
      "  -h, --help               Print help",
      "  -V, --version            Print version",
      ""]

/-- What the host says about a command line that it does not accept. -/
def usageText : String :=
  "error: unexpected command line\n\nUsage: service-host [OPTIONS]\n\n" ++
    "For more information, try '--help'.\n"

/-- Answer a command line. -/
def answer (surroundings : Surroundings) (words : List String) : HostReport :=
  match HostRequest.ofWords? words with
  | none => { exitCode := 2, stderr := usageText }
  | some .help => { stdout := helpText }
  | some .version => { stdout := "service-host 0.1.0\n" }
  | some (.run arguments) => run surroundings arguments

end Host

end ServiceLifecycle
