import GrantLedger.Store.Request

/-!
# Sweeps

A sweep removes the prunable rows of a kind batch by batch, each batch in a session of its own, and
pauses after every batch that removed as many rows as it may. It ends with the first batch that
removed fewer, or when it finds itself cancelled before a batch. Whatever it removed until then
stays removed.
-/

namespace GrantLedger.Pruning

/-- What a sweep did. -/
structure Report where
  /-- How many rows of the kind were removed. -/
  deleted : Nat := 0
  /-- How many batches were run. -/
  batches : Nat := 0
  /-- Whether the sweep was cancelled before it was done. -/
  cancelled : Bool := false
  deriving DecidableEq, Repr, Inhabited

/-- The report of a sweep that ran one more batch at its beginning. -/
def Report.addBatch (r : Report) (deleted : Nat) : Report :=
  { r with deleted := deleted + r.deleted, batches := r.batches + 1 }

/-- How often a sweep paused: after every batch but the one that ended it. -/
def Report.pauses (r : Report) : Nat := if r.cancelled then r.batches else r.batches - 1

/-! ## 1. Cancellation -/

/-- Whether a sweep is cancelled, by the number of pauses that have been made. -/
abbrev Cancellation := Nat → Bool

namespace Cancellation

/-- A sweep that is never cancelled. -/
def never : Cancellation := fun _ => false

/-- A sweep that is cancelled before it begins. -/
def beforehand : Cancellation := fun _ => true

/-- Cancellation some time after the beginning, where every pause lasts equally long and batches
take no time. It is noticed after a pause at the earliest. -/
def after (delay pause : Span) : Cancellation := fun pauses =>
  0 < pauses && delay.nanos ≤ pauses * pause.nanos

/-- The same cancellation as seen some pauses later. -/
def later (c : Cancellation) (pauses : Nat) : Cancellation := fun n => c (pauses + n)

end Cancellation

/-! ## 2. Batch after batch -/

/-- Runs batches until one removes fewer rows than it may. The first number bounds how many batches
are run, the second counts the pauses so far. -/
def sweepFrom (kind : EntityKind) (criteria : PruneCriteria) (cancelled : Cancellation) :
    Nat → Nat → Tables → Report × Tables
  | 0, _, t => ({}, t)
  | bound + 1, pauses, t =>
    if cancelled pauses then ({ cancelled := true }, t)
    else
      let (deleted, t') := t.pruneBatch kind criteria
      if deleted < criteria.batchSize then (Report.addBatch {} deleted, t')
      else
        let (rest, t'') := sweepFrom kind criteria cancelled bound (pauses + 1) t'
        (rest.addBatch deleted, t'')

/-- Removes the prunable rows of a kind. A batch that removes as many rows as it may removes at
least one, so there are no more batches than rows, and one. A sweep that is cancelled before it
begins needs no session. -/
def sweep (kind : EntityKind) (criteria : PruneCriteria) (cancelled : Cancellation) :
    Request Report :=
  if cancelled 0 then return { cancelled := true }
  else .session fun t =>
    let (report, t') := sweepFrom kind criteria cancelled (t.size kind + 1) 0 t
    (.ok report, t')

end GrantLedger.Pruning
