/-
Module: ServiceLifecycle.Proofs.Bootstrap.Reports
Purpose: Where the diagnostics of a start end up, whether it succeeds or fails.
Main exports: Store.reports, Recorded, Deeds.recorded, Store.IsBuffered, HostStep,
  HostStep.recorded, build_delivers
-/
import ServiceLifecycle.Proofs.Bootstrap.Stages
import ServiceLifecycle.Proofs.Diagnostics.Delivery
import ServiceLifecycle.Proofs.Startup.Tracking

namespace ServiceLifecycle

/-!
Whatever is reported is written into the journal and goes through the channel of the broker, so
the channel is at any time what recording the reports in the journal makes of the one at the
start.  A start reports its fault, if it comes to one, before it hands the channel to the fallback
sink, and it does so in every way in which it can fail.  A start that succeeds hands the channel to
the sink of the logging service, and only the declarations are registered after that.
-/

open Broker Bootstrap Relation

/-- What has been reported, in order. -/
def Store.reports (s : Store) : List Diagnostic :=
  s.journal.reverse.filterMap Event.diagnostic?

/-- What has been reported since has gone through the channel. -/
def Recorded (s t : Store) : Prop :=
  ∃ entries, t.reports = s.reports ++ entries ∧ t.channel = entries.foldl Channel.record s.channel

section Recording

variable {given : StartupData} {asked : String → Prop} {s t u : Store}

theorem Recorded.refl (s : Store) : Recorded s s := ⟨[], by simp, rfl⟩

theorem Recorded.trans (first : Recorded s t) (second : Recorded t u) : Recorded s u := by
  obtain ⟨before, reported, recorded⟩ := first
  obtain ⟨after, reportedThen, recordedThen⟩ := second
  refine ⟨before ++ after, ?_, ?_⟩
  · rw [reportedThen, reported, List.append_assoc]
  · rw [recordedThen, recorded, List.foldl_append]

theorem reports_of_journal {events : List Event} (grown : t.journal = events ++ s.journal) :
    t.reports = s.reports ++ events.reverse.filterMap Event.diagnostic? := by
  rw [Store.reports, grown, List.reverse_append, List.filterMap_append, Store.reports]

/-- Events that are no diagnostics are written into the journal, and the channel stays. -/
theorem Recorded.of_silent (events : List Event) (grown : t.journal = events ++ s.journal)
    (silent : events.filterMap Event.diagnostic? = []) (channel : t.channel = s.channel) :
    Recorded s t := by
  refine ⟨[], ?_, channel⟩
  rw [reports_of_journal grown, List.filterMap_reverse, silent, List.reverse_nil]

theorem recorded_report (s : Store) (entry : Diagnostic) : Recorded s (s.report entry) :=
  ⟨[entry], reports_of_journal (show (s.report entry).journal = [.reported entry] ++ s.journal
    from rfl), rfl⟩

theorem Store.Remarked.recorded (remarked : s.Remarked t) : Recorded s t := by
  cases remarked with
  | nothing => exact .refl s
  | said label text => exact .of_silent [.said label text] rfl rfl rfl
  | reported entry => exact recorded_report s entry

/-- Only a remark may be a report. -/
theorem Deed.recorded (deed : Deed given asked s t) : Recorded s t := by
  cases deed with
  | remarked remarked => exact remarked.recorded
  | refused implementation => exact .of_silent [.refused implementation] rfl rfl rfl
  | @built key implementation name body absent assigned found =>
      exact .of_silent [.cached key s.instances.length,
        .built s.instances.length implementation (s.nextLabel body) (some key)] rfl rfl rfl
  | @opened key id phase present admits cause =>
      refine .of_silent [.started key id phase] (journal_openPhase s key id phase) rfl ?_
      cases phase <;> rfl
  | @closed key id phase result present honest emptied loads =>
      refine .of_silent [.ended key id phase result.isOk]
        (journal_closePhase s key id phase result) rfl ?_
      cases phase <;> cases result <;> rfl
  | entered phase held => exact .of_silent [.entered _ phase] rfl rfl rfl
  | @marked id ordinary => exact .of_silent [.marked id] rfl rfl rfl
  | unmarked ordinary => exact .of_silent [] rfl rfl rfl
  | @served id before data deployment held offered loaded =>
      exact .of_silent [.marked id] rfl rfl rfl
  | withdrawn held => exact .of_silent [] rfl rfl rfl
  | @logSet id before settings held read usable => exact .of_silent [.marked id] rfl rfl rfl

theorem Deeds.recorded (deeds : Deeds given asked s t) : Recorded s t := by
  induction deeds with
  | refl => exact .refl s
  | tail _ last inductionHypothesis => exact inductionHypothesis.trans last.recorded

end Recording

section Buffering

variable {plan : Plan} {provider : Provider} {name : String} {data : StartupData} {s t u : Store}

/-- Everything reported so far is on its way through a channel that has no sink yet. -/
def Store.IsBuffered (s : Store) : Prop :=
  s.channel = s.reports.foldl Channel.record (.withLimit defaultLimit)

theorem Store.IsBuffered.later (buffered : s.IsBuffered) (recorded : Recorded s t) :
    t.IsBuffered := by
  obtain ⟨entries, reported, channel⟩ := recorded
  rw [IsBuffered, channel, buffered, reported, List.foldl_append]

/-- The sink that the channel is handed to has received everything so far, and no other sink has
received anything. -/
structure Store.IsLive (s : Store) (sink : Sink) (received : List Diagnostic) : Prop where
  mode : s.channel.mode = .live sink
  delivered : s.channel.delivered = received.map fun entry => (sink, entry)

theorem Store.IsBuffered.enable (buffered : s.IsBuffered) (sink : Sink) :
    (s.enable sink).2.IsLive sink (Channel.flushed defaultLimit s.reports) := by
  have handed := Channel.enable_recorded (show 0 < defaultLimit by decide) sink s.reports
  rw [← buffered] at handed
  constructor
  · simp [Store.enable, handed]
  · simp [Store.enable, handed]

/-- A live channel passes on what is recorded. -/
theorem Store.IsLive.later {sink : Sink} {received : List Diagnostic}
    (live : s.IsLive sink received) (recorded : Recorded s t) :
    ∃ entries, t.reports = s.reports ++ entries ∧ t.IsLive sink (received ++ entries) := by
  obtain ⟨entries, reported, channel⟩ := recorded
  have before : s.channel = { mode := .live sink, delivered := s.channel.delivered } := by
    rw [← live.mode]
  rw [before, Channel.foldl_record_live] at channel
  refine ⟨entries, reported, ?_, ?_⟩
  · rw [channel]
  · rw [channel, live.delivered, List.map_append]

theorem Store.IsLive.received_eq {sink : Sink} {received : List Diagnostic}
    (live : s.IsLive sink received) (other : Sink) :
    s.channel.received other = if other = sink then received else [] :=
  Channel.received_live live.delivered other

end Buffering

section Hosts

variable {s t : Store}

/-- What a host does between the phases: it changes something, or it makes a call that comes to its
end. -/
inductive HostStep (s : Store) : Store → Prop where
  | changed {t : Store} (change : HostChange s t) : HostStep s t
  | answered {call : Call} {depth : Nat} {t : Store} (permitted : call.IsPermitted s)
      (finished : call.carry (runPhase depth) s = .finished ((), t)) : HostStep s t

theorem HostChange.recorded (change : HostChange s t) {sink : Sink}
    (live : s.channel.mode = .live sink) : Recorded s t := by
  cases change using HostChange.byEffect with
  | registry same => exact .of_silent [] rfl rfl rfl
  | remap mapping change => exact .of_silent [] rfl rfl rfl
  | unregister name => exact .of_silent [.evicted name] rfl rfl rfl
  | evict key component => exact .of_silent [.evicted key] rfl rfl rfl
  | @create implementation body found =>
      exact .of_silent [.built s.instances.length implementation (s.nextLabel body) none]
        rfl rfl rfl
  | refuse implementation => exact .of_silent [.refused implementation] rfl rfl rfl
  | report entry change => exact recorded_report s entry
  | enable other =>
      refine .of_silent [] rfl rfl ?_
      simp [Store.enable, Channel.enable, live]
  | furnish provider applicationRoot objects surroundings => exact .of_silent [] rfl rfl rfl

theorem HostStep.recorded (step : HostStep s t) {sink : Sink}
    (live : s.channel.mode = .live sink) : Recorded s t := by
  cases step with
  | changed change => exact change.recorded live
  | answered permitted finished => exact (Call.carry_deeds permitted finished).recorded

/-- Whatever a host does, a live channel stays with its sink, which receives what is reported. -/
theorem Store.IsLive.afterwards {sink : Sink} {received : List Diagnostic}
    (live : s.IsLive sink received) (steps : ReflTransGen HostStep s t) :
    ∃ entries, t.reports = s.reports ++ entries ∧ t.IsLive sink (received ++ entries) := by
  induction steps with
  | refl => exact ⟨[], by simp, by simpa using live⟩
  | tail _ last inductionHypothesis =>
      obtain ⟨before, reported, alive⟩ := inductionHypothesis
      obtain ⟨after, reportedThen, aliveThen⟩ := alive.later (last.recorded alive.mode)
      refine ⟨before ++ after, ?_, ?_⟩
      · rw [reportedThen, reported, List.append_assoc]
      · rw [← List.append_assoc]
        exact aliveThen

end Hosts

section Starting

variable {registry : Registry} {surroundings : Surroundings} {plan : Plan} {provider : Provider}
  {s u v : Store}

theorem isBuffered_prepared (plan : Plan) (registry : Registry) (surroundings : Surroundings) :
    (prepared plan (Store.forServices registry surroundings)).IsBuffered := rfl

theorem Bootstrap.ConfigurationEnd.isBuffered {data : StartupData}
    {result : Except StartupFault Provider} (configuration : ConfigurationEnd data s result u)
    (buffered : s.IsBuffered) : u.IsBuffered := by
  obtain ⟨answer, started⟩ := configuration.serviceEnd
  have deeds : Deeds data (fun _ => False) s u := started.deeds
  exact buffered.later deeds.recorded

theorem register_recorded (s : Store) (name implementation : String) :
    Recorded s (s.register name implementation).2 := by
  rcases s.register_ends name implementation with ⟨_, same⟩ | ⟨text, same⟩
  · rw [same]
    exact .of_silent [] rfl rfl rfl
  · rw [same]
    exact recorded_report _ _

theorem admitted_recorded (plan : Plan) (provider : Provider) (s : Store) :
    Recorded s (admitted plan provider (furnished provider s)) := by
  have provided : Recorded s (furnished provider s) := .of_silent [] rfl rfl rfl
  exact provided.trans (register_recorded _ _ _)

theorem Bootstrap.ServiceEnd.isBuffered {data : StartupData} {result : Except StartupFault Nat}
    (logging : ServiceEnd loggingName data (admitted plan provider (furnished provider u)) result v)
    (buffered : u.IsBuffered) : v.IsBuffered := by
  have deeds : Deeds data (fun _ => False) _ v := logging.deeds
  exact (buffered.later (admitted_recorded plan provider u)).later deeds.recorded

theorem registerAll_recorded (s : Store) (declarations : List (String × String)) :
    Recorded s (s.registerAll declarations).2 := by
  induction declarations generalizing s with
  | nil => exact .refl s
  | cons declaration rest inductionHypothesis =>
      obtain ⟨name, implementation⟩ := declaration
      exact (register_recorded s name implementation).trans (inductionHypothesis _)

/-- A start that is given up hands everything to the fallback sink, the fault last. -/
theorem isLive_aborted (buffered : s.IsBuffered) (fallback : Sink) (fault : StartupFault) :
    (aborted fallback fault s).reports = s.reports ++ [.ofError fault.toFault.chain] ∧
      (aborted fallback fault s).IsLive fallback
        (Channel.flushed defaultLimit (aborted fallback fault s).reports) := by
  have reported : Recorded s (s.reportFault fault.toFault) := recorded_report s _
  have last : (aborted fallback fault s).journal =
      [.reported (.ofError fault.toFault.chain)] ++ s.journal := rfl
  exact ⟨reports_of_journal last, (buffered.later reported).enable fallback⟩

end Starting

/-- No diagnostic of a start is lost or delivered twice.  When the start fails, the fallback sink
has received everything that was reported, as far as the channel keeps it, with the fault as the
last entry.  When it succeeds, the sink that the logging service offers has received everything that
was reported until that service had started, as far as the channel keeps it, and receives all
that is reported after that, whatever the host does.  No other sink receives anything. -/
theorem build_delivers {registry : Registry} {surroundings : Surroundings} {plan : Plan}
    {result : Except StartupFault Unit} {t : Store}
    (built : build plan (Store.forServices registry surroundings) = .finished (result, t)) :
    match result with
    | .error fault =>
        (∃ earlier, t.reports = earlier ++ [.ofError fault.toFault.chain]) ∧
        t.channel.mode = .live plan.fallback ∧
        ∀ sink, t.channel.received sink =
          if sink = plan.fallback then Channel.flushed defaultLimit t.reports else []
    | .ok () =>
        ∃ provider id v, Launched plan (Store.forServices registry surroundings) provider id v ∧
          v.cachedId? loggingName = some id ∧
          ∀ u, ReflTransGen HostStep t u → ∃ later, u.reports = v.reports ++ later ∧
            u.channel.mode = .live (offeredSink v id) ∧
            ∀ sink, u.channel.received sink =
              if sink = offeredSink v id then Channel.flushed defaultLimit v.reports ++ later
              else [] := by
  have start := isBuffered_prepared plan registry surroundings
  cases build_ends built with
  | unconfigured configuration =>
      obtain ⟨reported, live⟩ :=
        isLive_aborted (configuration.isBuffered start) plan.fallback _
      exact ⟨⟨_, reported⟩, live.mode, live.received_eq⟩
  | @unlogged provider fault u v configuration logging =>
      have buffered : v.IsBuffered := logging.isBuffered (configuration.isBuffered start)
      have unregistered : Recorded v (v.unregister loggingName).2 :=
        .of_silent [.evicted loggingName] rfl rfl rfl
      obtain ⟨reported, live⟩ := isLive_aborted (buffered.later unregistered) plan.fallback fault
      exact ⟨⟨_, reported⟩, live.mode, live.received_eq⟩
  | @up provider id u v configuration logging =>
      have buffered : v.IsBuffered := logging.isBuffered (configuration.isBuffered start)
      have connection : (connected id v).IsLive (offeredSink v id)
          (Channel.flushed defaultLimit v.reports) := buffered.enable (offeredSink v id)
      have present : v.cachedId? loggingName = some id := by
        cases logging with
        | started called present ready => exact present
      refine ⟨provider, id, v, ⟨u, configuration, logging⟩, present, fun w steps => ?_⟩
      obtain ⟨before, reported, live⟩ := connection.later (registerAll_recorded _ _)
      obtain ⟨after, reportedThen, liveThen⟩ := live.afterwards steps
      refine ⟨before ++ after, ?_, liveThen.mode, fun sink => ?_⟩
      · rw [reportedThen]
        exact (congrArg (· ++ after) reported).trans (List.append_assoc _ _ _)
      · rw [liveThen.received_eq, List.append_assoc]

/-- A configuration service that reports what it does and then fails. -/
def Registry.failing : Registry :=
  { recipes := [("Conf", .build (.scripted
      { early := some (.straight
          [.notice "looking for the configuration", .fail "nothing found" none]) }))] }

/-- What the host decides on to have it. -/
def Plan.failing : Plan := { loader := {}, configurationKey := "Conf" }

/-- The console shows what has been reported, and the log shows nothing. -/
theorem build_delivers_failing :
    ∃ fault t, build Plan.failing (Store.forServices Registry.failing {}) =
        .finished (.error fault, t) ∧
      t.channel.received .console =
        [.ofNotice "Start initializing service (early): ConfigurationService",
          .ofNotice "looking for the configuration", .ofError fault.toFault.chain] ∧
      t.channel.received .tracing = [] := by
  have fails : (build Plan.failing (Store.forServices Registry.failing {})).result?.any
      (fun ended => !ended.1.isOk && ended.2.reports.dropLast =
        [.ofNotice "Start initializing service (early): ConfigurationService",
          .ofNotice "looking for the configuration"]) = true := by
    decide +kernel
  obtain ⟨⟨result, t⟩, ended, outcome⟩ := (Option.any_eq_true _ _).mp fails
  have built := Outcome.result?_eq_some.mp ended
  obtain ⟨failed, reports⟩ := Bool.and_eq_true_iff.mp outcome
  cases result with
  | ok _ => cases failed
  | error fault =>
      obtain ⟨⟨earlier, reported⟩, -, received⟩ := build_delivers built
      have before := of_decide_eq_true reports
      rw [reported, List.dropLast_concat] at before
      have few : t.reports.length ≤ defaultLimit := by
        rw [reported, before]
        exact (by decide : 3 ≤ defaultLimit)
      have fallback : Plan.failing.fallback = .console := rfl
      rw [fallback] at received
      refine ⟨fault, t, built, ?_, ?_⟩
      · rw [received .console, if_pos rfl, Channel.flushed_of_length_le few, reported, before]
        rfl
      · rw [received .tracing, if_neg (by decide)]

end ServiceLifecycle
