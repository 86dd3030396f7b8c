import GrantLedger.Pruning.Sweep
import GrantLedger.Settings.Basic

/-!
# Passes of the pruning job

A pass sweeps the tokens and then the authorizations that are older than their retention. A pass
that is cancelled during the first sweep leaves the second one out. The periodic job runs a pass at
once and then one at every tick of its interval.
-/

namespace GrantLedger.Pruning

/-- What a pass did, where a sweep that did not take place has no report. -/
structure PassReport where
  tokens : Option Report := none
  authorizations : Option Report := none
  deriving DecidableEq, Repr, Inhabited

/-- How often a pass paused. -/
def PassReport.pauses (r : PassReport) : Nat :=
  (r.tokens.elim 0 (·.pauses)) + (r.authorizations.elim 0 (·.pauses))

/-- The instant before which entities are old, if a clock can show it. -/
def cutoff (setting : String) (now : Timestamp) (retention : Span) : Except StoreError Timestamp :=
  match now.add? (-retention.nanos) with
  | some t => .ok t
  | none => .error (.configuration (.retention setting retention))

/-- A store that can be swept: of a cutoff and a cancellation it makes a sweep. -/
abbrev Sweeper := Timestamp → Cancellation → Request Report

/-- Sweeps a store by its settings. -/
def sweeper (kind : EntityKind) (settings : Settings.Prune) (now : Timestamp) : Sweeper :=
  fun cutoff cancelled => sweep kind ⟨cutoff, now, settings.batchSize⟩ cancelled

/-- Runs one pass. -/
def runPass (settings : Settings.Prune) (now : Timestamp) (cancelled : Cancellation)
    (sweepTokens sweepAuthorizations : Sweeper) : Request PassReport := do
  let tokens ←
    if settings.disableTokenPruning then pure none
    else do
      let bound ← cutoff "token_retention" now settings.tokenRetention
      some <$> sweepTokens bound cancelled
  let pauses := tokens.elim 0 Report.pauses
  let authorizations ←
    if settings.disableAuthorizationPruning || cancelled pauses then pure none
    else do
      let bound ← cutoff "authorization_retention" now settings.authorizationRetention
      some <$> sweepAuthorizations bound (cancelled.later pauses)
  return { tokens, authorizations }

/-! ## The periodic job -/

/-- How late a tick may come for the next one to keep to the schedule. -/
def tolerance : Span := .ofMillis 5

/-- When the tick after one is due that was due at one instant and came at another: an interval
after it was due, or an interval after it came if it came too late. -/
def nextTick (interval : Span) (due came : Nat) : Nat :=
  (if came ≤ due + tolerance.nanos then due else came) + interval.nanos

/-- Runs a pass at every tick until the job is cancelled, a number of nanoseconds after its start. A
tick comes when it is due, or when the pass before it ends. A pass may fail; the job goes on with
the next tick, but a panic ends it. The first number bounds how many passes are run. -/
def runTicks {σ : Type} (settings : Settings.Prune) (stop : Nat)
    (pass : Cancellation → σ → Outcome PassReport × σ) : Nat → Nat → Nat → σ → σ
  | 0, _, _, s => s
  | bound + 1, due, idle, s =>
    let came := max due idle
    if stop ≤ came then s
    else
      let pause := settings.batchDelay.nanos
      let (answer, s') := pass (fun pauses => stop ≤ came + pauses * pause) s
      let again (pauses : Nat) : σ := runTicks settings stop pass bound
        (nextTick settings.interval due came) (came + pauses * pause) s'
      match answer with
      | .ok report => again report.pauses
      | .error _ => again 0
      | .panic => s'

/-- Runs the job for a span of time. -/
def runJob {σ : Type} (settings : Settings.Prune) (stop : Span)
    (pass : Cancellation → σ → Outcome PassReport × σ) (s : σ) : σ :=
  runTicks settings stop.nanos pass (stop.nanos / settings.interval.nanos + 1) 0 0 s

end GrantLedger.Pruning
