/-
Module: ServiceLifecycle.Proofs.Fault.Levels
Purpose: What the line for a fault shows of all that is nested in it.
Main exports: Fault.levels, Fault.words?, Fault.Layered, Fault.layered, Fault.chain_eq,
  Fault.chains_compose
-/
import ServiceLifecycle.Bootstrap
import ServiceLifecycle.Proofs.Fault.Chain

namespace ServiceLifecycle

/-!
A fault holds another one in one of two ways.  Either it has words of its own and holds its cause,
or it is a wrapper that passes on a broker's fault and has none.  `Fault.levels` lists what is
nested in a fault by what each one holds, wrappers included, and asks none of them for its source.

A fault from elsewhere has a message and may have a cause, as `Fault.plain` has.

Each level is of one of three kinds, which `Fault.Layered` tells apart by its words and by the
source that it names.  By induction on the levels it follows what the walk along the sources comes
past: the words of each level, in order and once, and the root cause at the end.
-/

/-- A load fault and the fault of the sources that is nested in it, if there is one. -/
def LoadFault.levels : LoadFault → List Fault
  | .unreadable cause => [.load (.unreadable cause), .plain cause.message none]
  | fault => [.load fault]

mutual

/-- A broker's fault and all that is nested in it, from the outside in. -/
def BrokerFault.levels : BrokerFault → List Fault
  | .circular key chain => [.broker (.circular key chain)]
  | .unresolved key reason details none => [.broker (.unresolved key reason details none)]
  | .unresolved key reason details (some cause) =>
      .broker (.unresolved key reason details (some cause)) :: cause.levels
  | .uninitialized key cause => .broker (.uninitialized key cause) :: cause.levels

/-- A phase's fault and all that is nested in it. -/
def PhaseFault.levels : PhaseFault → List Fault
  | .failed message none => [.phase (.failed message none)]
  | .failed message (some cause) => .phase (.failed message (some cause)) :: cause.levels
  | .nested fault => .phase (.nested fault) :: fault.levels

/-- A factory's fault and all that is nested in it. -/
def ConstructionFault.levels : ConstructionFault → List Fault
  | .missing name => [.construction (.missing name)]
  | .mismatch capability => [.construction (.mismatch capability)]
  | .failed cause => .construction (.failed cause) :: cause.levels

/-- A fault and all that is nested in it. -/
def Fault.levels : Fault → List Fault
  | .plain message none => [.plain message none]
  | .plain message (some cause) => .plain message (some cause) :: cause.levels
  | .broker fault => fault.levels
  | .phase fault => fault.levels
  | .construction fault => fault.levels
  | .startup fault => .startup fault :: fault.levels
  | .missingCapability service capability => [.missingCapability service capability]
  | .load fault => fault.levels

end

namespace Fault

/-- The words that a level has of its own.  A wrapper has none. -/
def words? : Fault → Option String
  | phase (.nested _) | startup _ => none
  | fault => some fault.message

/-- How a fault is put together, level by level. -/
inductive Layered : Fault → List Fault → Prop where
  /-- A root cause has words and names no source. -/
  | root {fault : Fault} (worded : fault.words? = some fault.message)
      (source : fault.source? = none) : Layered fault [fault]
  /-- A fault with a cause has words and names the cause as its source. -/
  | caused {fault cause : Fault} {levels : List Fault}
      (worded : fault.words? = some fault.message) (source : fault.source? = some cause)
      (inside : Layered cause levels) : Layered fault (fault :: levels)
  /-- A wrapper has no words and shows the message and the source of what it passes on. -/
  | wrapped {wrapper : Fault} {inner : BrokerFault} {levels : List Fault}
      (silent : wrapper.words? = none) (message : wrapper.message = inner.message)
      (source : wrapper.source? = brokerSource? inner)
      (inside : Layered (broker inner) levels) : Layered wrapper (wrapper :: levels)

end Fault

theorem LoadFault.layered : ∀ fault : LoadFault, Fault.Layered (.load fault) fault.levels
  | .unreadable _ => .caused rfl rfl (.root rfl rfl)
  | .fileNotFound _ | .unsupportedFormat _ | .invalid _ | .missingField _
  | .duplicateService _ => .root rfl rfl

mutual

theorem BrokerFault.layered : ∀ fault : BrokerFault, Fault.Layered (.broker fault) fault.levels
  | .circular _ _ => .root rfl rfl
  | .unresolved _ _ _ none => .root rfl rfl
  | .unresolved _ _ _ (some cause) => .caused rfl rfl cause.layered
  | .uninitialized _ cause => .caused rfl rfl cause.layered

theorem PhaseFault.layered : ∀ fault : PhaseFault, Fault.Layered (.phase fault) fault.levels
  | .failed _ none => .root rfl rfl
  | .failed _ (some cause) => .caused rfl rfl cause.layered
  | .nested fault => .wrapped rfl rfl rfl fault.layered

theorem ConstructionFault.layered :
    ∀ fault : ConstructionFault, Fault.Layered (.construction fault) fault.levels
  | .missing _ => .root rfl rfl
  | .mismatch _ => .root rfl rfl
  | .failed cause => .caused rfl rfl cause.layered

/-- At each of its levels a fault is a root cause, a fault with a cause or a wrapper. -/
theorem Fault.layered : ∀ fault : Fault, fault.Layered fault.levels
  | .plain _ none => .root rfl rfl
  | .plain _ (some cause) => .caused rfl rfl cause.layered
  | .broker fault => fault.layered
  | .phase fault => fault.layered
  | .construction fault => fault.layered
  | .startup fault => .wrapped rfl rfl rfl fault.layered
  | .missingCapability _ _ => .root rfl rfl
  | .load fault => fault.layered

end

namespace Fault

variable {fault : Fault} {levels : List Fault}

theorem Layered.trace_eq (layered : fault.Layered levels) :
    fault.trace = levels.filterMap words? := by
  induction layered with
  | root worded source =>
      rw [trace_of_root source, List.filterMap_cons_some worded, List.filterMap_nil]
  | caused worded source inside inductionHypothesis =>
      rw [trace_of_source source, List.filterMap_cons_some worded, inductionHypothesis]
  | @wrapped wrapper inner levels silent message source inside inductionHypothesis =>
      -- The walk starts at the wrapper in place of the fault inside, with the same message.
      have shown : wrapper.trace = (broker inner).trace := trace_congr message source
      rw [shown, List.filterMap_cons_none silent, inductionHypothesis]

/-- The line for a fault consists of the words of its levels. -/
theorem chain_eq (fault : Fault) :
    fault.chain = ": ".intercalate (fault.levels.filterMap words?) := by
  rw [chain, fault.layered.trace_eq]

/-- Of two wrappers around a factory's fault none shows, although both are levels. -/
example :
    let fault := startup (.uninitialized "Host" (.nested
      (.ofConstruction "Cache" "cache.file" "Service" (.failed (.plain "disk full" none)))))
    fault.levels.length = 6 ∧ fault.levels.filterMap words? =
      ["Host failed to initialize", "cannot resolve 'Cache': Failed to instantiate cache.file",
        "constructor failed", "disk full"] := by
  decide

/-- The innermost level is a root cause, and the line ends with its message. -/
theorem Layered.ends_with_root (layered : fault.Layered levels) :
    ∃ outer root before, levels = outer ++ [root] ∧ root.words? = some root.message ∧
      root.source? = none ∧ fault.chain = before ++ root.message := by
  induction layered with
  | @root fault worded source =>
      refine ⟨[], fault, "", rfl, worded, source, ?_⟩
      rw [chain_of_root source, String.empty_append]
  | @caused fault cause levels worded source inside inductionHypothesis =>
      obtain ⟨outer, root, before, rfl, speaks, last, ends⟩ := inductionHypothesis
      refine ⟨fault :: outer, root, fault.message ++ ": " ++ before, rfl, speaks, last, ?_⟩
      rw [chain_of_source source, ends]
      exact String.append_assoc.symm
  | @wrapped wrapper inner levels silent message source inside inductionHypothesis =>
      obtain ⟨outer, root, before, rfl, speaks, last, ends⟩ := inductionHypothesis
      have shown : wrapper.chain = (broker inner).chain := chain_congr message source
      exact ⟨wrapper :: outer, root, before, rfl, speaks, last, shown.trans ends⟩

/-- The line for a fault is put together level by level, however deep the nesting.

Passed on by a phase or at startup, a broker's fault keeps its message and its line.  A key that
did not become initialized stands in front of the line for what its phase reported, a phase's own
message in front of the line for its cause, and the message about a key that could not be resolved
in front of the line for the cause, which is what the factory reported where one was asked.

So the line for any fault shows each level of it that has words exactly once, from the outside in
and with a colon between them.  The innermost level has words and names no source: it is the root
cause, and the line ends with it. -/
theorem chains_compose :
    (∀ inner : BrokerFault,
      (phase (.nested inner)).message = (broker inner).message ∧
      (phase (.nested inner)).chain = (broker inner).chain ∧
      (StartupFault.broker inner).toFault.message = (broker inner).message ∧
      (StartupFault.broker inner).toFault.chain = (broker inner).chain) ∧
    (∀ (key : String) (reason : PhaseFault), (broker (.uninitialized key reason)).chain =
      key ++ " failed to initialize: " ++ (phase reason).chain) ∧
    (∀ (message : String) (cause : Fault), (phase (.failed message (some cause))).chain =
      message ++ ": " ++ cause.chain) ∧
    (∀ (key : String) (reason : Reason) (details : String) (cause : Fault),
      (broker (.unresolved key reason details (some cause))).chain =
        "cannot resolve '" ++ key ++ "': " ++ details ++ ": " ++ cause.chain) ∧
    (∀ (key implementation capability : String) (cause : ConstructionFault),
      let unresolved := broker (.ofConstruction key implementation capability cause)
      unresolved.chain = unresolved.message ++ ": " ++ (construction cause).chain) ∧
    ∀ fault : Fault, fault.chain = ": ".intercalate (fault.levels.filterMap words?) ∧
      ∃ outer root before, fault.levels = outer ++ [root] ∧ root.words? = some root.message ∧
        root.source? = none ∧ fault.chain = before ++ root.message := by
  refine ⟨?wrappers, chain_uninitialized, ?phases, ?unresolved, ?factories, ?levels⟩
  case wrappers =>
    intro inner
    exact ⟨rfl, chain_nested inner, rfl, chain_congr rfl rfl⟩
  case phases =>
    intro message cause
    exact chain_of_source rfl
  case unresolved =>
    intro key reason details cause
    exact chain_of_source rfl
  case factories =>
    intro key implementation capability cause
    exact chain_of_source rfl
  case levels =>
    intro fault
    exact ⟨fault.chain_eq, fault.layered.ends_with_root⟩

end Fault

end ServiceLifecycle
