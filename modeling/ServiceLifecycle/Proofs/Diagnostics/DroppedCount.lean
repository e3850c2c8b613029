/-
Module: ServiceLifecycle.Proofs.Diagnostics.DroppedCount
Purpose: What a channel says about the entries that it has dropped.
Main exports: Channel.weight, Channel.foldl_record_withLimit, Channel.droppedNotice_weight,
  Channel.dropped_reported, Channel.dropped_doubled
-/
import ServiceLifecycle.Proofs.Diagnostics.Delivery

namespace ServiceLifecycle

/-!
A channel that has no sink yet shows how many entries it has dropped, and it says so again in the
notice in front of the entries that it has kept, when it is handed to a sink.  The number is the
difference between the entries that have been recorded and those that are kept.  With the limit 0
it is twice that difference, because each entry is counted as the oldest one that makes room and
then once more as the new one that finds none.
-/

theorem length_lastOf {α : Type} (limit : Nat) (entries : List α) :
    (lastOf limit entries).length = min entries.length limit := by
  rw [lastOf, List.length_drop]
  omega

namespace Channel

/-- How often a channel counts each entry that it drops. -/
def weight (limit : Nat) : Nat :=
  if limit = 0 then 2 else 1

theorem weight_of_pos {limit : Nat} (positive : 0 < limit) : weight limit = 1 :=
  if_neg (Nat.ne_of_gt positive)

/-- The newest entries are kept, and the others are counted by their weight. -/
theorem foldl_record_withLimit (limit : Nat) (entries : List Diagnostic) :
    entries.foldl record (withLimit limit) =
      { mode := .buffering
          { limit
            entries := lastOf limit entries
            dropped := weight limit * (entries.length - (lastOf limit entries).length) } } := by
  rw [withLimit, foldl_record_buffering, length_lastOf]
  rcases Nat.eq_zero_or_pos limit with rfl | positive
  · rw [Buffer.foldl_push_nothing]
    simp [lastOf, weight]
  · have missing : entries.length - min entries.length limit = entries.length - limit := by
      omega
    rw [Buffer.foldl_push positive, weight_of_pos positive, missing, Nat.one_mul]

/-- The count in the notice is not 0 when there is a notice. -/
theorem droppedNotice_weight (limit missing : Nat) :
    droppedNotice (weight limit * missing) =
      if 0 < missing then
        [.ofNotice (toString (weight limit * missing) ++ " earlier diagnostics were dropped")]
      else [] := by
  rcases Nat.eq_zero_or_pos missing with rfl | positive
  · simp [droppedNotice]
  · have counted : weight limit * missing ≠ 0 := by
      apply Nat.mul_ne_zero
      · rw [weight]
        split <;> simp
      · exact Nat.ne_of_gt positive
    rw [droppedNotice, if_neg counted, if_pos positive]

/-- Let some entries be recorded by a channel with a limit before it has a sink.  The newest of
them wait, as many as the limit allows.  The channel says how many it has dropped, and it says the
same in its summary and in the notice that its first sink receives in front of the entries that
have waited; there is such a notice exactly when not all entries have waited, and no other sink
receives anything.

If the limit is positive, the number is that of the entries that have not waited.  If it is 0, the
number is twice that. -/
theorem dropped_reported (limit : Nat) (entries : List Diagnostic) (sink other : Sink) :
    let channel := entries.foldl record (withLimit limit)
    let waiting := channel.buffered
    let missing := entries.length - waiting.length
    ∃ dropped, dropped = (if limit = 0 then 2 else 1) * missing ∧
      waiting = lastOf limit entries ∧
      channel.summary = "Diagnostics \x7b buffered: " ++ toString waiting.length ++
        ", dropped: " ++ toString dropped ++ " \x7d" ∧
      (channel.enable sink).1 = true ∧
      (channel.enable sink).2.received other =
        if other = sink then
          (if 0 < missing then
            [.ofNotice (toString dropped ++ " earlier diagnostics were dropped")]
          else []) ++ waiting
        else [] := by
  intro channel waiting missing
  have buffering : channel =
      { mode := .buffering
          { limit, entries := waiting, dropped := weight limit * missing } } := by
    have recorded := foldl_record_withLimit limit entries
    have kept : waiting = lastOf limit entries := by
      simp only [waiting, channel, recorded, buffered]
    simpa only [missing, kept] using recorded
  refine ⟨weight limit * missing, rfl, ?_, ?_, ?_, ?_⟩
  · simp only [waiting, channel, foldl_record_withLimit, buffered]
  · rw [buffering]
    rfl
  · rw [buffering]
    rfl
  · rw [buffering, ← droppedNotice_weight]
    exact received_live rfl other

/-- A channel that keeps nothing has recorded one entry, and says that it has dropped two. -/
theorem dropped_doubled :
    let entries := [Diagnostic.ofNotice "lost"]
    let channel := entries.foldl record (withLimit 0)
    entries.length - channel.buffered.length = 1 ∧
    channel.summary = "Diagnostics \x7b buffered: 0, dropped: 2 \x7d" ∧
    (channel.enable (.collecting "sink")).2.received (.collecting "sink") =
      [.ofNotice "2 earlier diagnostics were dropped"] := by
  refine ⟨rfl, rfl, rfl⟩

end Channel

end ServiceLifecycle
