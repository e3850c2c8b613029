/-
Module: ServiceLifecycle.Proofs.Diagnostics.Delivery
Purpose: Which entries a channel keeps for its sink, and what the sink receives.
Main exports: lastOf, Buffer.foldl_push, Buffer.foldl_push_nothing, Channel.foldl_record_live,
  Channel.flushed, Channel.enable_recorded, Channel.received_live
-/
import ServiceLifecycle.Diagnostics
import Mathlib.Data.List.Induction

namespace ServiceLifecycle

/-!
A channel without a sink keeps the newest entries, as many as its limit allows, and counts the
others.  It counts them once each, unless its limit is 0.  The sink that it is then handed to
receives a notice with that count, if there is one to give, the entries kept, and from then on every
entry as it is recorded.
-/

/-- The entries at the end of a list, at most as many as the limit says. -/
def lastOf {α : Type} (limit : Nat) (entries : List α) : List α :=
  entries.drop (entries.length - limit)

theorem lastOf_of_length_le {α : Type} {limit : Nat} {entries : List α}
    (few : entries.length ≤ limit) : lastOf limit entries = entries := by
  rw [lastOf, Nat.sub_eq_zero_of_le few, List.drop_zero]

/-- Once the limit has been reached, every further entry takes the place of the oldest one. -/
theorem lastOf_concat {α : Type} {limit : Nat} (positive : 0 < limit) (entries : List α)
    (entry : α) : lastOf limit (entries ++ [entry]) =
      (if limit ≤ entries.length then (lastOf limit entries).drop 1 else entries) ++ [entry] := by
  rw [lastOf, List.length_append, List.length_singleton]
  split
  · rename_i full
    rw [List.drop_append_of_le_length (by omega), lastOf, List.drop_drop]
    congr 2
    omega
  · rename_i room
    rw [Nat.sub_eq_zero_of_le (by omega), List.drop_zero]

theorem Buffer.push_full {buffer : Buffer} (positive : 0 < buffer.limit)
    (full : buffer.entries.length = buffer.limit) (entry : Diagnostic) :
    buffer.push entry =
      { buffer with
        entries := buffer.entries.drop 1 ++ [entry]
        dropped := buffer.dropped + 1 } := by
  simp [push, full, positive]

theorem Buffer.push_room {buffer : Buffer} (positive : 0 < buffer.limit)
    (room : buffer.entries.length ≠ buffer.limit) (entry : Diagnostic) :
    buffer.push entry = { buffer with entries := buffer.entries ++ [entry] } := by
  simp [push, room, positive]

/-- A buffer keeps the newest entries and counts the others. -/
theorem Buffer.foldl_push {limit : Nat} (positive : 0 < limit) (entries : List Diagnostic) :
    entries.foldl Buffer.push { limit } =
      { limit, entries := lastOf limit entries, dropped := entries.length - limit } := by
  induction entries using List.reverseRecOn with
  | nil => simp [lastOf]
  | append_singleton entries entry inductionHypothesis =>
      have kept : (lastOf limit entries).length = min entries.length limit := by
        rw [lastOf, List.length_drop]
        omega
      have longer : (entries ++ [entry]).length = entries.length + 1 := by simp
      rw [List.foldl_append, inductionHypothesis, List.foldl_cons, List.foldl_nil,
        lastOf_concat positive, longer]
      by_cases full : limit ≤ entries.length
      · have reached : (lastOf limit entries).length = limit := by omega
        rw [push_full positive reached, if_pos full, Nat.succ_sub full]
      · have short : (lastOf limit entries).length ≠ limit := by omega
        rw [push_room positive short, if_neg full, lastOf_of_length_le (by omega),
          Nat.sub_eq_zero_of_le (by omega), Nat.sub_eq_zero_of_le (by omega)]

/-- A buffer that keeps nothing counts each entry twice: once as if it took a place, and once
because there is none. -/
theorem Buffer.foldl_push_nothing (entries : List Diagnostic) :
    entries.foldl Buffer.push { limit := 0 } = { limit := 0, dropped := 2 * entries.length } := by
  induction entries using List.reverseRecOn with
  | nil => rfl
  | append_singleton entries entry inductionHypothesis =>
      rw [List.foldl_append, inductionHypothesis, List.length_append]
      rfl

namespace Channel

/-- Entries are kept as long as there is no sink. -/
theorem foldl_record_buffering (buffer : Buffer) (delivered : List (Sink × Diagnostic))
    (entries : List Diagnostic) :
    entries.foldl record { mode := .buffering buffer, delivered } =
      { mode := .buffering (entries.foldl Buffer.push buffer), delivered } := by
  induction entries generalizing buffer with
  | nil => rfl
  | cons entry rest inductionHypothesis => exact inductionHypothesis (buffer.push entry)

/-- Entries go to the sink as soon as there is one. -/
theorem foldl_record_live (sink : Sink) (delivered : List (Sink × Diagnostic))
    (entries : List Diagnostic) :
    entries.foldl record { mode := .live sink, delivered } =
      { mode := .live sink, delivered := delivered ++ entries.map fun entry => (sink, entry) } := by
  induction entries generalizing delivered with
  | nil => simp
  | cons entry rest inductionHypothesis =>
      rw [List.foldl_cons, record, inductionHypothesis, List.map_cons, List.append_assoc]
      rfl

/-- What a sink receives when it is handed to a channel that has recorded some entries before. -/
def flushed (limit : Nat) (entries : List Diagnostic) : List Diagnostic :=
  droppedNotice (entries.length - limit) ++ lastOf limit entries

/-- Where nothing has been dropped, the sink receives what has been recorded. -/
theorem flushed_of_length_le {limit : Nat} {entries : List Diagnostic}
    (few : entries.length ≤ limit) : flushed limit entries = entries := by
  rw [flushed, lastOf_of_length_le few, Nat.sub_eq_zero_of_le few]
  rfl

/-- A channel that is handed to its sink. -/
theorem enable_recorded {limit : Nat} (positive : 0 < limit) (sink : Sink)
    (entries : List Diagnostic) :
    (entries.foldl record (withLimit limit)).enable sink =
      (true, { mode := .live sink
               delivered := (flushed limit entries).map fun entry => (sink, entry) }) := by
  rw [withLimit, foldl_record_buffering, Buffer.foldl_push positive]
  rfl

/-- Whatever is delivered to one sink is received by that sink and by no other. -/
theorem received_live {channel : Channel} {sink : Sink} {entries : List Diagnostic}
    (delivered : channel.delivered = entries.map fun entry => (sink, entry)) (other : Sink) :
    channel.received other = if other = sink then entries else [] := by
  rw [received, delivered]
  by_cases same : other = sink
  · simp [same, List.filter_map, Function.comp_def]
  · simp [same, List.filter_map, Function.comp_def, Ne.symm same]

end Channel

end ServiceLifecycle
