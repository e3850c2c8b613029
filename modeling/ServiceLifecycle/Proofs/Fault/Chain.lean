/-
Module: ServiceLifecycle.Proofs.Fault.Chain
Purpose: How the line for a fault and its causes is put together.
Main exports: Fault.chain_of_root, Fault.chain_of_source, Fault.chain_nested,
  Fault.chain_uninitialized
-/
import ServiceLifecycle.Fault

namespace ServiceLifecycle

/-!
A fault without a source is written as its message, and one with a source as its message and
the line of the source behind it.  Whatever has the message and the source of another fault is
written as that one, so a wrapper without words of its own does not show.
-/

namespace Fault

variable {fault cause other : Fault}

theorem trace_of_root (root : fault.source? = none) : fault.trace = [fault.message] := by
  rw [trace.eq_1]
  split
  · rfl
  · rename_i found
    rw [root] at found
    cases found

theorem trace_of_source (source : fault.source? = some cause) :
    fault.trace = fault.message :: cause.trace := by
  rw [trace.eq_1]
  split
  · rename_i missing
    rw [source] at missing
    cases missing
  · rename_i found
    rw [source] at found
    cases found
    rfl

theorem trace_ne_nil (fault : Fault) : fault.trace ≠ [] := by
  rw [trace.eq_1]
  exact List.cons_ne_nil _ _

/-- A root cause is written as its message. -/
theorem chain_of_root (root : fault.source? = none) : fault.chain = fault.message := by
  rw [chain, trace_of_root root, String.intercalate_singleton]

/-- A fault with a source is written as its message and the line of the source. -/
theorem chain_of_source (source : fault.source? = some cause) :
    fault.chain = fault.message ++ ": " ++ cause.chain := by
  rw [chain, trace_of_source source, String.intercalate_cons_of_ne_nil (trace_ne_nil cause), chain]

theorem trace_congr (message : fault.message = other.message)
    (source : fault.source? = other.source?) : fault.trace = other.trace := by
  cases found : other.source? with
  | none =>
      rw [trace_of_root (source.trans found), trace_of_root found, message]
  | some cause =>
      rw [trace_of_source (source.trans found), trace_of_source found, message]

/-- What has the message and the source of another fault is written as that fault. -/
theorem chain_congr (message : fault.message = other.message)
    (source : fault.source? = other.source?) : fault.chain = other.chain := by
  rw [chain, chain, trace_congr message source]

/-- A phase that passes on a broker's fault does not show. -/
theorem chain_nested (inner : BrokerFault) :
    (phase (.nested inner)).chain = (broker inner).chain :=
  chain_congr rfl rfl

/-- A key that did not become initialized stands in front of the reason. -/
theorem chain_uninitialized (key : String) (reason : PhaseFault) :
    (broker (.uninitialized key reason)).chain =
      key ++ " failed to initialize: " ++ (phase reason).chain := by
  calc (broker (.uninitialized key reason)).chain
      = key ++ " failed to initialize" ++ ": " ++ (phase reason).chain := chain_of_source rfl
    _ = key ++ (" failed to initialize" ++ ": ") ++ (phase reason).chain :=
        congrArg (fun words => words ++ (phase reason).chain) String.append_assoc
    _ = key ++ " failed to initialize: " ++ (phase reason).chain := rfl

end Fault

end ServiceLifecycle
