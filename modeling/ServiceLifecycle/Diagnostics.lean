/-
Module: ServiceLifecycle.Diagnostics
Purpose: The channel that carries notices and errors to a sink.
Main exports: Diagnostic, Sink, Buffer, Channel, Channel.record, Channel.enable,
  Channel.buffered, Channel.received
-/
import ServiceLifecycle.Fault

namespace ServiceLifecycle

/-!
Notices and errors are reported before anything can show them.  A channel
therefore starts by keeping its entries, up to a limit beyond which the oldest
are dropped.  Enabling a sink, which works once, hands the kept entries over in
order, behind a notice that counts the dropped ones; from then on every entry
goes straight to that sink.
-/

/-- What kind of report an entry is. -/
inductive Severity where
  | notice
  | error
deriving Repr, Inhabited, DecidableEq

/-- One report. -/
structure Diagnostic where
  severity : Severity
  text : String
deriving Repr, Inhabited, DecidableEq

/-- A notice. -/
def Diagnostic.ofNotice (text : String) : Diagnostic := ⟨.notice, text⟩

/-- An error message. -/
def Diagnostic.ofError (text : String) : Diagnostic := ⟨.error, text⟩

/-- Where reports end up. -/
inductive Sink where
  /-- The log. -/
  | tracing
  /-- The standard error stream of the process. -/
  | console
  /-- A list that a host inspects. -/
  | collecting (name : String)
deriving Repr, Inhabited, DecidableEq

/-- The line that the console shows for an entry. -/
def Diagnostic.consoleLine (entry : Diagnostic) : String :=
  match entry.severity with
  | .notice => "[keystone] notice: " ++ entry.text
  | .error => "[keystone] error: " ++ entry.text

/-- The entries kept for a sink to come. -/
structure Buffer where
  limit : Nat
  entries : List Diagnostic := []
  dropped : Nat := 0
deriving Repr, Inhabited, DecidableEq

/-- How many entries a channel keeps unless it is told otherwise. -/
def defaultLimit : Nat := 1024

/-- Keep one more entry.  A full buffer first drops its oldest entry; a buffer
that keeps nothing drops the new one as well. -/
def Buffer.push (buffer : Buffer) (entry : Diagnostic) : Buffer :=
  let buffer :=
    if buffer.entries.length = buffer.limit then
      { buffer with entries := buffer.entries.drop 1, dropped := buffer.dropped + 1 }
    else
      buffer
  if 0 < buffer.limit then
    { buffer with entries := buffer.entries ++ [entry] }
  else
    { buffer with dropped := buffer.dropped + 1 }

/-- Whether entries are kept or passed on. -/
inductive Mode where
  | buffering (buffer : Buffer)
  | live (sink : Sink)
deriving Repr, Inhabited, DecidableEq

/-- A channel and all it has delivered so far, in order. -/
structure Channel where
  mode : Mode := .buffering { limit := defaultLimit }
  delivered : List (Sink × Diagnostic) := []
deriving Repr, Inhabited, DecidableEq

namespace Channel

/-- A channel that keeps at most `limit` entries. -/
def withLimit (limit : Nat) : Channel :=
  { mode := .buffering { limit } }

/-- Report an entry. -/
def record (channel : Channel) (entry : Diagnostic) : Channel :=
  match channel.mode with
  | .buffering buffer => { channel with mode := .buffering (buffer.push entry) }
  | .live sink => { channel with delivered := channel.delivered ++ [(sink, entry)] }

/-- Report a notice. -/
def notice (channel : Channel) (text : String) : Channel :=
  channel.record (.ofNotice text)

/-- Report an error by its message. -/
def errorMessage (channel : Channel) (text : String) : Channel :=
  channel.record (.ofError text)

/-- Report a fault together with its causes. -/
def error (channel : Channel) (fault : Fault) : Channel :=
  channel.errorMessage fault.chain

/-- The notice that stands before the kept entries when some were dropped. -/
def droppedNotice (dropped : Nat) : List Diagnostic :=
  if dropped = 0 then []
  else [.ofNotice (toString dropped ++ " earlier diagnostics were dropped")]

/-- Hand the kept entries to a sink and stay with it.  A channel that already
has a sink refuses. -/
def enable (channel : Channel) (sink : Sink) : Bool × Channel :=
  match channel.mode with
  | .live _ => (false, channel)
  | .buffering buffer =>
      let flushed := droppedNotice buffer.dropped ++ buffer.entries
      (true,
        { mode := .live sink
          delivered := channel.delivered ++ flushed.map fun entry => (sink, entry) })

/-- The channel has a sink. -/
def isLive (channel : Channel) : Bool :=
  match channel.mode with
  | .live _ => true
  | .buffering _ => false

/-- The entries that still wait for a sink. -/
def buffered (channel : Channel) : List Diagnostic :=
  match channel.mode with
  | .live _ => []
  | .buffering buffer => buffer.entries

/-- What a sink has received, in order. -/
def received (channel : Channel) (sink : Sink) : List Diagnostic :=
  (channel.delivered.filter fun delivery => delivery.1 = sink).map Prod.snd

/-- The state of a channel in one line. -/
def summary (channel : Channel) : String :=
  match channel.mode with
  | .live _ => "Diagnostics \x7b live: true \x7d"
  | .buffering buffer =>
      "Diagnostics \x7b buffered: " ++ toString buffer.entries.length ++ ", dropped: " ++
        toString buffer.dropped ++ " \x7d"

end Channel

end ServiceLifecycle
