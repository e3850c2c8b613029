/-
Module: ServiceLifecycle.Proofs.Diagnostics.Stream
Purpose: All that is reported through a channel reaches one sink, in order.
Main exports: Channel.Request, Channel.serve, Channel.serveAll, Buffer.foldl_push_keeps,
  Channel.serveAll_live, Channel.serveAll_buffering, Channel.delivered_in_order
-/
import ServiceLifecycle.Proofs.Diagnostics.Delivery

namespace ServiceLifecycle

/-!
A channel is used by reports and by attempts to hand it to a sink, in any order.  The first attempt
divides the use in two: the reports before it wait in the buffer, which keeps the newest of them,
and the reports after it go to the sink at once.  Further attempts change nothing, so that the
reports make up one stream to one sink.
-/

/-- Whatever the limit, the newest entries are kept, and something is counted as dropped exactly if
not all of them are. -/
theorem Buffer.foldl_push_keeps (limit : Nat) (entries : List Diagnostic) :
    ∃ dropped, (dropped = 0 ↔ entries.length ≤ limit) ∧
      entries.foldl push { limit } = { limit, entries := lastOf limit entries, dropped } := by
  rcases Nat.eq_zero_or_pos limit with rfl | positive
  · refine ⟨2 * entries.length, by omega, ?_⟩
    rw [foldl_push_nothing, lastOf, Nat.sub_zero, List.drop_length]
  · exact ⟨entries.length - limit, by omega, foldl_push positive entries⟩

namespace Channel

/-- What is asked of a channel. -/
inductive Request where
  | notice (text : String)
  | error (fault : Fault)
  | errorMessage (text : String)
  | enable (sink : Sink)
deriving Inhabited

/-- The entry that a request records; an error is recorded together with its causes. -/
def Request.entry? : Request → Option Diagnostic
  | notice text => some (.ofNotice text)
  | error fault => some (.ofError fault.chain)
  | errorMessage text => some (.ofError text)
  | enable _ => none

/-- The sink that a request hands the channel to. -/
def Request.sink? : Request → Option Sink
  | enable sink => some sink
  | _ => none

/-- Do what is asked.  Only a request to enable a sink is answered. -/
def serve (channel : Channel) : Request → Option Bool × Channel
  | .notice text => (none, channel.notice text)
  | .error fault => (none, channel.error fault)
  | .errorMessage text => (none, channel.errorMessage text)
  | .enable sink =>
      let (accepted, channel) := channel.enable sink
      (some accepted, channel)

/-- Do what is asked, in order, and collect the answers. -/
def serveAll (channel : Channel) : List Request → List Bool × Channel
  | [] => ([], channel)
  | request :: rest =>
      let (answer, channel) := channel.serve request
      let (answers, channel) := channel.serveAll rest
      (answer.toList ++ answers, channel)

/-- The entries that requests record, in order. -/
def recorded (requests : List Request) : List Diagnostic :=
  requests.filterMap Request.entry?

/-- The sinks that a channel is handed to, in order. -/
def offered (requests : List Request) : List Sink :=
  requests.filterMap Request.sink?

/-- The requests up to the first that hands the channel to a sink. -/
def beforeSink (requests : List Request) : List Request :=
  requests.takeWhile fun request => request.sink?.isNone

/-- The requests from the first on that hands the channel to a sink. -/
def sinceSink (requests : List Request) : List Request :=
  requests.dropWhile fun request => request.sink?.isNone

section Service

variable {request : Request} {requests : List Request}

/-- A request that does not hand the channel to a sink records its entry. -/
theorem serve_report {entry : Diagnostic} (reports : request.entry? = some entry)
    (channel : Channel) : channel.serve request = (none, channel.record entry) := by
  cases request <;> cases reports <;> rfl

theorem sink?_of_entry? {entry : Diagnostic} (reports : request.entry? = some entry) :
    request.sink? = none := by
  cases request <;> first | rfl | cases reports

theorem serveAll_cons (channel : Channel) (request : Request) (rest : List Request) :
    channel.serveAll (request :: rest) =
      ((channel.serve request).1.toList ++ ((channel.serve request).2.serveAll rest).1,
        ((channel.serve request).2.serveAll rest).2) := rfl

/-- A channel that has a sink stays with it, refuses all others, and passes on each entry. -/
theorem serveAll_live (sink : Sink) (delivered : List (Sink × Diagnostic))
    (requests : List Request) :
    ({ mode := .live sink, delivered } : Channel).serveAll requests =
      (List.replicate (offered requests).length false,
        { mode := .live sink
          delivered := delivered ++ (recorded requests).map fun entry => (sink, entry) }) := by
  induction requests generalizing delivered with
  | nil => simp [serveAll, offered, recorded]
  | cons request rest inductionHypothesis =>
      rw [serveAll_cons]
      cases reports : request.entry? with
      | some entry =>
          have passed : ({ mode := .live sink, delivered } : Channel).serve request =
              (none, { mode := .live sink, delivered := delivered ++ [(sink, entry)] }) :=
            serve_report reports _
          rw [passed, inductionHypothesis]
          simp [offered, recorded, reports, sink?_of_entry? reports]
      | none =>
          cases request with
          | enable other =>
              have refused : ({ mode := .live sink, delivered } : Channel).serve (.enable other) =
                  (some false, { mode := .live sink, delivered }) := rfl
              rw [refused, inductionHypothesis]
              simp [offered, recorded, Request.sink?, reports, List.replicate_succ]
          | _ => cases reports

/-- A channel without a sink keeps what is recorded until it is handed to one, which then receives
what has been kept and from there on each entry. -/
theorem serveAll_buffering (buffer : Buffer) (requests : List Request) :
    ({ mode := .buffering buffer } : Channel).serveAll requests =
      match offered requests with
      | [] => ([], { mode := .buffering ((recorded requests).foldl Buffer.push buffer) })
      | sink :: others =>
          let kept := (recorded (beforeSink requests)).foldl Buffer.push buffer
          (true :: List.replicate others.length false,
            { mode := .live sink
              delivered := (droppedNotice kept.dropped ++ kept.entries ++
                recorded (sinceSink requests)).map fun entry => (sink, entry) }) := by
  induction requests generalizing buffer with
  | nil => rfl
  | cons request rest inductionHypothesis =>
      rw [serveAll_cons]
      cases reports : request.entry? with
      | some entry =>
          have silent : request.sink? = none := sink?_of_entry? reports
          have kept : ({ mode := .buffering buffer } : Channel).serve request =
              (none, { mode := .buffering (buffer.push entry) }) := serve_report reports _
          have same : offered (request :: rest) = offered rest := by
            simp [offered, silent]
          rw [kept, inductionHypothesis, same]
          cases offered rest with
          | nil => simp [recorded, reports]
          | cons sink others => simp [beforeSink, sinceSink, recorded, reports, silent]
      | none =>
          cases request with
          | enable sink =>
              have accepted : ({ mode := .buffering buffer } : Channel).serve (.enable sink) =
                  (some true,
                    { mode := .live sink
                      delivered := (droppedNotice buffer.dropped ++ buffer.entries).map
                        fun entry => (sink, entry) }) := rfl
              rw [accepted, serveAll_live]
              simp [offered, recorded, beforeSink, sinceSink, Request.sink?, reports]
          | _ => cases reports

end Service

/-- Whatever a channel with a limit is asked for, in whatever order, the first attempt to hand it to
a sink is accepted and every further one refused.  Until then the newest entries wait in the buffer,
as many as the limit allows, and nobody receives anything.  Then nothing waits any more: the first
sink has received the entries that were waiting, in order, behind a notice if some had been dropped,
and after them each entry that has been recorded since, and no other sink has received anything. -/
theorem delivered_in_order (limit : Nat) (requests : List Request) :
    let (answers, channel) := (withLimit limit).serveAll requests
    answers = (List.range (offered requests).length).map (· == 0) ∧
    channel.buffered =
      (if offered requests = [] then lastOf limit (recorded requests) else []) ∧
    ∃ dropped, (dropped = 0 ↔ (recorded (beforeSink requests)).length ≤ limit) ∧
      ∀ sink, channel.received sink =
        if (offered requests).head? = some sink then
          droppedNotice dropped ++ lastOf limit (recorded (beforeSink requests)) ++
            recorded (sinceSink requests)
        else [] := by
  rw [withLimit, serveAll_buffering]
  obtain ⟨dropped, counted, kept⟩ := Buffer.foldl_push_keeps limit (recorded (beforeSink requests))
  cases sinks : offered requests with
  | nil =>
      obtain ⟨_, -, waiting⟩ := Buffer.foldl_push_keeps limit (recorded requests)
      refine ⟨rfl, ?_, dropped, counted, fun sink => rfl⟩
      rw [buffered, waiting, if_pos rfl]
  | cons first others =>
      refine ⟨?_, rfl, dropped, counted, fun sink => ?_⟩
      · rw [List.length_cons, List.range_succ_eq_map, List.map_cons, List.map_map]
        congr 1
        exact (List.eq_replicate_iff.mpr ⟨by simp, by simp⟩).symm
      · rw [received_live rfl, kept]
        simp [eq_comm]

end Channel

end ServiceLifecycle
