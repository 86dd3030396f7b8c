import GrantLedger.Proofs.Sweeping

/-!
# Sweeps that are cut short

A sweep looks at its cancellation before every batch and at no other time, so wherever it is cut, a
number of batches has run and nothing is half done.

* `Checks` says after which batches a sweep comes to a check: all of them were full, and no check
  before found it cancelled.  A report says `cancelled` exactly if the sweep ended at a check
  (`cancelled_iff_of_sweeps`); a sweep whose last batch came back short is done, even if it was
  cancelled in the meantime.
* A sweep that was cut short has removed the first of the rows that were due, by ascending
  identifier (`purge_take_of_sweeps`), and the rest is still due.  So a sweep after it goes on as
  if there had been only one (`sweep_rest`).
* `sweepEach_run` carries this through any number of sweeps, each cut at a point of its own.
-/

namespace GrantLedger.Pruning

open Tables

variable {t u : Tables} {kind : EntityKind} {criteria : PruneCriteria}
variable {cancelled : Cancellation} {pauses : Nat} {report : Report}

/-! ## 1. Where a sweep is cut -/

/-- From a number of pauses on, a sweep comes to a check of its cancellation after a number of
batches: the checks before did not find it cancelled, and every batch removed as many rows as it
may. -/
inductive Checks (kind : EntityKind) (criteria : PruneCriteria) (cancelled : Cancellation) :
    Nat → Tables → Nat → Tables → Prop
  | first {pauses : Nat} {t : Tables} : Checks kind criteria cancelled pauses t 0 t
  | next {pauses n batches : Nat} {t u v : Tables} :
      cancelled pauses = false → t.pruneBatch kind criteria = (n, u) →
      ¬ n < criteria.batchSize → Checks kind criteria cancelled (pauses + 1) u batches v →
      Checks kind criteria cancelled pauses t (batches + 1) v

/-- **A report says that the sweep was cancelled exactly if it ended at a check.** -/
theorem cancelled_iff_of_sweeps (h : Sweeps kind criteria cancelled pauses t report u) :
    report.cancelled = true ↔
      Checks kind criteria cancelled pauses t report.batches u ∧
        cancelled (pauses + report.batches) = true := by
  induction h with
  | stopped hc => exact iff_of_true rfl ⟨.first, hc⟩
  | short _ hbatch hn =>
    refine iff_of_false (fun hcancelled => by cases hcancelled) ?_
    rintro ⟨hchecks, -⟩
    cases hchecks with
    | next _ hbatch' hn' =>
      rw [hbatch] at hbatch'
      cases hbatch'
      exact hn' hn
  | @full pauses n t u v rest hc hbatch hn _ ih =>
    have hcount : pauses + (rest.batches + 1) = pauses + 1 + rest.batches := by omega
    simp only [Report.addBatch, ih, hcount]
    refine and_congr_left fun _ => ⟨fun hchecks => .next hc hbatch hn hchecks, fun hchecks => ?_⟩
    cases hchecks with
    | next _ hbatch' _ hrest =>
      rw [hbatch] at hbatch'
      cases hbatch'
      exact hrest

/-! ## 2. What is left to do -/

/-- A sweep has purged as many of the identifiers that were due as its report says. -/
theorem purge_take_of_sweeps (h : Sweeps kind criteria cancelled pauses t report u)
    (ht : t.WellFormed) (hb : 0 < criteria.batchSize) :
    u = t.purge kind ((t.due kind criteria).take report.deleted) ∧
      report.deleted ≤ (t.due kind criteria).length := by
  obtain ⟨rfl, hdeleted, -, -⟩ := take_due_of_sweeps h ht hb
  rw [hdeleted, ← List.take_eq_take_min]
  exact ⟨rfl, Nat.min_le_right _ _⟩

/-- A sweep that is not cancelled takes the rest and leaves what a single one would have left. -/
theorem sweep_rest (ht : t.WellFormed) (kind : EntityKind) (hb : 0 < criteria.batchSize)
    (n : Nat) :
    ∃ last, (sweep kind criteria .never).run
        (t.purge kind ((t.due kind criteria).take n)) =
          (.ok last, t.purge kind (t.due kind criteria)) ∧
      last.deleted = (t.due kind criteria).length - n := by
  have hrun : (sweep kind criteria .never).run
      (t.purge kind ((t.due kind criteria).take n)) = _ := sweep_run_eq (ht.purge kind _) hb
  rw [due_purge_take ht, purge_purge, List.take_append_drop, List.length_drop] at hrun
  exact ⟨_, hrun, rfl⟩

/-- Sweeps one after the other, each with a cancellation of its own. -/
def sweepEach (kind : EntityKind) (criteria : PruneCriteria) :
    List Cancellation → Request (List Report)
  | [] => return []
  | cancelled :: rest => do
    let report ← sweep kind criteria cancelled
    let reports ← sweepEach kind criteria rest
    return report :: reports

/-- **Any number of sweeps removes the first of the rows that were due,** as many as the reports say
together. -/
theorem sweepEach_run (ht : t.WellFormed) (kind : EntityKind) (hb : 0 < criteria.batchSize)
    (cancellations : List Cancellation) :
    ∃ reports, reports.length = cancellations.length ∧
      (reports.map (·.deleted)).sum ≤ (t.due kind criteria).length ∧
      (sweepEach kind criteria cancellations).run t =
        (.ok reports,
          t.purge kind ((t.due kind criteria).take (reports.map (·.deleted)).sum)) := by
  induction cancellations generalizing t with
  | nil => exact ⟨[], rfl, Nat.zero_le _, by simp [sweepEach]⟩
  | cons cancelled rest ih =>
    obtain ⟨report, u, hsweeps⟩ := exists_sweeps ht kind hb cancelled 0
    have hrun := sweep_run_of_sweeps ht hb hsweeps
    obtain ⟨rfl, hdeleted⟩ := purge_take_of_sweeps hsweeps ht hb
    obtain ⟨reports, hlength, hsum, hrest⟩ :=
      ih (ht.purge kind ((t.due kind criteria).take report.deleted))
    rw [due_purge_take ht] at hsum hrest
    rw [List.length_drop] at hsum
    rw [purge_purge, ← List.take_add] at hrest
    refine ⟨report :: reports, by rw [List.length_cons, hlength, List.length_cons], ?_, ?_⟩
    · rw [List.map_cons, List.sum_cons]
      omega
    · rw [sweepEach, Request.run_bind, hrun]
      simp only [Request.run_bind, hrest, Request.run_pure, List.map_cons, List.sum_cons]

/-! ## 3. Sweeps of a store -/

/-- **A sweep that is cut short is resumed by the next one.**  From all tables that operations come
to, and for every cancellation, a sweep has removed exactly the first of the eligible rows by
ascending identifier, as many as its batches hold, and with authorizations the tokens attached to
them.  Its report says how many, and it says that the sweep was cancelled exactly if it ended at a
check.  A sweep that is not cancelled then leaves the tables that it would have left at the
beginning, and the reports add up to the number of eligible rows.  The same holds after any number
of sweeps that were cut short. -/
theorem cut_sweeps_resume {t : Tables} (ht : Reachable t) {settings : Settings.Prune}
    (hb : 0 < settings.batchSize) (kind : EntityKind) (cutoff now : Timestamp) :
    ∃ ids : List Key,
      ids.Pairwise (fun a b => compare a b = .lt) ∧
      (∀ id, id ∈ ids ↔ id ∈ t.eligible kind cutoff now) ∧
      (∀ cancelled : Cancellation, ∃ report u,
        (sweeper kind settings now cutoff cancelled).run t = (.ok report, u) ∧
        report.deleted = min (report.batches * settings.batchSize) ids.length ∧
        (∀ other i, (t.IsTaken kind (ids.take report.deleted) other i → u.row? other i = none) ∧
          (¬ t.IsTaken kind (ids.take report.deleted) other i →
            u.row? other i = t.row? other i)) ∧
        (report.cancelled = true ↔
          Checks kind ⟨cutoff, now, settings.batchSize⟩ cancelled 0 t report.batches u ∧
            cancelled report.batches = true) ∧
        (report.cancelled = false → report.batches = ids.length / settings.batchSize + 1) ∧
        ∃ last whole v,
          (sweeper kind settings now cutoff .never).run u = (.ok last, v) ∧
          (sweeper kind settings now cutoff .never).run t = (.ok whole, v) ∧
          report.deleted + last.deleted = ids.length) ∧
      ∀ cancellations : List Cancellation, ∃ reports u last whole v,
        (sweepEach kind ⟨cutoff, now, settings.batchSize⟩ cancellations).run t =
          (.ok reports, u) ∧
        reports.length = cancellations.length ∧
        (∀ other i,
          (t.IsTaken kind (ids.take (reports.map (·.deleted)).sum) other i →
            u.row? other i = none) ∧
          (¬ t.IsTaken kind (ids.take (reports.map (·.deleted)).sum) other i →
            u.row? other i = t.row? other i)) ∧
        (sweeper kind settings now cutoff .never).run u = (.ok last, v) ∧
        (sweeper kind settings now cutoff .never).run t = (.ok whole, v) ∧
        (reports.map (·.deleted)).sum + last.deleted = ids.length := by
  have hwf := ht.wellFormed
  let criteria : PruneCriteria := ⟨cutoff, now, settings.batchSize⟩
  have hcriteria : 0 < criteria.batchSize := hb
  -- what a sweep that nobody cuts does to the same tables
  have hwhole : (sweep kind criteria .never).run t = _ := sweep_run_eq hwf hb
  refine ⟨t.due kind criteria, hwf.keyed.ascending_idsWhere kind _,
    fun id => mem_due_iff hwf.keyed kind criteria, fun cancelled => ?_, fun cancellations => ?_⟩
  · obtain ⟨report, u, hsweeps⟩ := exists_sweeps hwf kind hcriteria cancelled 0
    obtain ⟨-, hdeleted, -, hbatches⟩ := take_due_of_sweeps hsweeps hwf hb
    have hcancelled := cancelled_iff_of_sweeps hsweeps
    rw [Nat.zero_add] at hcancelled
    have hrun := sweep_run_of_sweeps hwf hb hsweeps
    obtain ⟨rfl, hle⟩ := purge_take_of_sweeps hsweeps hwf hb
    obtain ⟨last, hlast, hrest⟩ := sweep_rest hwf kind hcriteria report.deleted
    exact ⟨report, _, hrun, hdeleted, fun other i => row?_purge_of_taken t kind other _ i,
      hcancelled, hbatches, last, _, _, hlast, hwhole, by omega⟩
  -- after all cut sweeps, a prefix of the eligible rows is gone
  · obtain ⟨reports, hlength, hsum, hrun⟩ := sweepEach_run hwf kind hcriteria cancellations
    obtain ⟨last, hlast, hrest⟩ := sweep_rest hwf kind hcriteria (reports.map (·.deleted)).sum
    exact ⟨reports, _, last, _, _, hrun, hlength,
      fun other i => row?_purge_of_taken t kind other _ i, hlast, hwhole, by omega⟩

/-- Two revoked authorizations with a token each, for an example. -/
def twoRevoked : Tables :=
  [(.authorization, .ofList [("creation_date", .timestamp ⟨0, 0⟩), ("status", .text "revoked")]),
    (.authorization, .ofList [("creation_date", .timestamp ⟨0, 0⟩), ("status", .text "revoked")]),
    (.token, .ofList [("authorization_id", .key (.int 1))]),
    (.token, .ofList [("authorization_id", .key (.int 2))])].foldl
    (fun t r => (Operation.insert r.1 r.2).apply t) empty

/-- Cut at its first pause, a sweep row by row has removed one authorization of two, and the next
sweep removes the other one. -/
theorem cut_sweeps_resume_twoRevoked :
    Reachable twoRevoked ∧ 0 < Settings.Prune.batchSize { batchSize := 1 } ∧
      ∃ u last v,
        (sweeper .authorization { batchSize := 1 } ⟨1, 0⟩ ⟨1, 0⟩ fun pauses => 1 ≤ pauses).run
            twoRevoked = (.ok { deleted := 1, batches := 1, cancelled := true }, u) ∧
          (sweeper .authorization { batchSize := 1 } ⟨1, 0⟩ ⟨1, 0⟩ .never).run u =
            (.ok last, v) ∧
          last.deleted = 1 := by
  have hreach : Reachable twoRevoked := reachable_foldl_insert _ .empty
  have hkeyed := hreach.wellFormed.keyed
  have hdue : twoRevoked.due .authorization ⟨⟨1, 0⟩, ⟨1, 0⟩, 1⟩ = [.int 1, .int 2] := by
    decide +kernel
  have hreport : ((sweeper .authorization { batchSize := 1 } ⟨1, 0⟩ ⟨1, 0⟩
      fun pauses => 1 ≤ pauses).run twoRevoked).1 =
        .ok { deleted := 1, batches := 1, cancelled := true } := by decide +kernel
  have hpositive : 0 < Settings.Prune.batchSize { batchSize := 1 } := by decide
  obtain ⟨ids, hascending, hids, hcut, -⟩ :=
    cut_sweeps_resume hreach hpositive .authorization ⟨1, 0⟩ ⟨1, 0⟩
  have hnodup : ids.Nodup := hascending.imp fun hlt heq => by
    rw [heq, Std.ReflOrd.compare_self] at hlt
    cases hlt
  have hlength : ids.length = 2 := by
    rw [← ncard_eq_length hnodup hids,
      ← length_due hkeyed .authorization ⟨⟨1, 0⟩, ⟨1, 0⟩, 1⟩, hdue]
    rfl
  obtain ⟨report, u, hrun, -, -, -, -, last, -, v, hlast, -, hsum⟩ := hcut fun pauses => 1 ≤ pauses
  rw [hrun] at hreport
  cases hreport
  exact ⟨hreach, hpositive, u, last, v, hrun, hlast, by simp only at hsum; omega⟩

end GrantLedger.Pruning
