import GrantLedger.Proofs.LawfulModel
import GrantLedger.Proofs.WellFormed
import GrantLedger.Services.Basic
import Mathlib.Data.List.Nodup
import Mathlib.Data.Set.Card

/-!
# Sweeps are exact

A sweep works in batches, and eligibility is judged anew before each of them, on tables that the
batches before it have changed.  This module shows that the batches do not influence one another.

* A batch removes an initial part of the identifiers that are due (`due`), and what is due after it
  is the rest (`due_purge_take`).  For tokens this is because a batch of tokens leaves the
  authorizations alone.  For authorizations it is because the tokens that go with a batch are
  attached to the rows of that batch, so no other authorization loses a token
  (`isPrunable_purge`).
* Hence a sweep purges, of what is due at its beginning, as much as its batches hold
  (`take_due_of_sweeps`).  One that is not cancelled purges all of it, in as many batches as that
  fills, and one more (`sweeps_due`).
* `Sweeps` is the loop without any bound on the number of batches.  `sweepFrom_of_sweeps` says that
  the bounded one is that loop, whenever it ends within the bound.

`Eligible` says in terms of columns which rows a sweep may take; `sweep_exact` puts all together.
-/

namespace GrantLedger

namespace Tables

variable {t u : Tables} {kind : EntityKind} {criteria : PruneCriteria}

/-! ## 1. What is due -/

/-- The identifiers of the prunable rows of a kind, ascending. -/
def due (t : Tables) (kind : EntityKind) (criteria : PruneCriteria) : List Key :=
  t.idsWhere kind (t.isPrunable kind criteria)

/-- In keyed tables the identifiers of rows are their keys. -/
theorem Keyed.idsWhere_eq (h : t.Keyed) (kind : EntityKind) (p : Row → Bool) :
    t.idsWhere kind p = ((t.get kind).rows.entries.filter fun e => p e.2).map Prod.fst := by
  have hkey : ∀ e ∈ (t.get kind).rows.entries.filter fun e => p e.2,
      (e.2.cell "id").key? = some e.1 := by
    intro e he
    have hrow : t.row? kind e.1 = some e.2 :=
      OrdMap.get?_eq_some_iff.mpr (List.mem_of_mem_filter he)
    rw [h kind e.1 e.2 hrow]
    rfl
  calc t.idsWhere kind p
      = ((t.get kind).rows.entries.filter fun e => p e.2).filterMap
          fun e => (e.2.cell "id").key? := by
        rw [idsWhere, Tables.rows, OrdMap.values, List.filter_map, List.filterMap_map]
        rfl
    _ = ((t.get kind).rows.entries.filter fun e => p e.2).filterMap fun e => some e.1 :=
        List.filterMap_congr hkey
    _ = ((t.get kind).rows.entries.filter fun e => p e.2).map Prod.fst :=
        congrFun List.filterMap_eq_map _

theorem Keyed.mem_idsWhere (h : t.Keyed) {p : Row → Bool} {id : Key} :
    id ∈ t.idsWhere kind p ↔ ∃ row, t.row? kind id = some row ∧ p row = true := by
  rw [h.idsWhere_eq, List.mem_map]
  constructor
  · rintro ⟨⟨id, row⟩, he, rfl⟩
    rw [List.mem_filter] at he
    exact ⟨row, OrdMap.get?_eq_some_iff.mpr he.1, he.2⟩
  · rintro ⟨row, hrow, hp⟩
    exact ⟨(id, row), List.mem_filter.mpr ⟨OrdMap.get?_eq_some_iff.mp hrow, hp⟩, rfl⟩

theorem Keyed.ascending_idsWhere (h : t.Keyed) (kind : EntityKind) (p : Row → Bool) :
    (t.idsWhere kind p).Pairwise fun a b => compare a b = .lt := by
  rw [h.idsWhere_eq]
  exact List.pairwise_map.mpr ((t.get kind).rows.ascending.filter _)

theorem Keyed.nodup_idsWhere (h : t.Keyed) (kind : EntityKind) (p : Row → Bool) :
    (t.idsWhere kind p).Nodup := by
  refine (h.ascending_idsWhere kind p).imp fun hlt heq => ?_
  rw [heq, Std.ReflOrd.compare_self] at hlt
  cases hlt

theorem nodup_due (h : t.Keyed) (kind : EntityKind) (criteria : PruneCriteria) :
    (t.due kind criteria).Nodup := h.nodup_idsWhere kind _

/-- No more is due than there are rows. -/
theorem length_due_le (h : t.Keyed) (kind : EntityKind) (criteria : PruneCriteria) :
    (t.due kind criteria).length ≤ t.size kind := by
  rw [due, h.idsWhere_eq, List.length_map]
  exact List.length_filter_le _ _

/-! ## 2. Batches do not influence one another -/

/-- **Purging other rows does not make a row prunable, nor keep it from being so.** -/
theorem isPrunable_purge (h : t.Keyed) {ids : List Key} {id : Key} {row : Row}
    (hrow : t.row? kind id = some row) (hid : id ∉ ids) :
    (t.purge kind ids).isPrunable kind criteria row = t.isPrunable kind criteria row := by
  cases kind with
  | application => rfl
  | scope => rfl
  | token =>
    have hauth : (t.purge .token ids).row? .authorization = t.row? .authorization := by
      funext i
      exact row?_purge_of_ne t (by simp) (by simp) ids i
    simp only [isPrunable, tokenIsPrunable, hauth]
  | authorization =>
    have hkey := h .authorization id row hrow
    -- a token that references this row is attached to none of the purged ones
    have htokens : ((t.purge .authorization ids).rows .token).any
          (references "authorization_id" id) =
        (t.rows .token).any (references "authorization_id" id) := by
      rw [Bool.eq_iff_iff, List.any_eq_true, List.any_eq_true]
      constructor
      · rintro ⟨r, hr, href⟩
        obtain ⟨i, hi⟩ := mem_rows.mp hr
        rw [row?_purge, Option.filter_eq_some_iff] at hi
        exact ⟨r, mem_rows.mpr ⟨i, hi.1⟩, href⟩
      · rintro ⟨r, hr, href⟩
        obtain ⟨i, hi⟩ := mem_rows.mp hr
        refine ⟨r, mem_rows.mpr ⟨i, ?_⟩, href⟩
        rw [row?_purge, Option.filter_eq_some_iff]
        refine ⟨hi, ?_⟩
        rw [references, beq_iff_eq] at href
        simp [isPurged, href, hid]
    simp only [isPrunable, authorizationIsPrunable, hkey, Cell.key?, Option.any_some, htokens]

/-- What is due after a purge is what was due before, without the purged rows. -/
theorem due_purge (h : t.WellFormed) (kind : EntityKind) (criteria : PruneCriteria)
    (ids : List Key) :
    (t.purge kind ids).due kind criteria =
      (t.due kind criteria).filter fun id => !ids.contains id := by
  rw [due, due, (h.purge kind ids).keyed.idsWhere_eq, h.keyed.idsWhere_eq, get_purge,
    List.filter_map, List.filter_filter, OrdMap.filter, List.filter_filter]
  congr 1
  refine List.filter_congr fun e he => ?_
  have hrow : t.row? kind e.1 = some e.2 := OrdMap.get?_eq_some_iff.mpr he
  have hpurged : isPurged kind ids kind e.1 e.2 = ids.contains e.1 := by
    cases kind <;> simp [isPurged]
  rw [hpurged]
  by_cases hid : e.1 ∈ ids
  · simp [hid]
  · simp [hid, isPrunable_purge h.keyed hrow hid]

/-- The members of a list without repetition that stand behind its first ones. -/
theorem filter_notMem_take {l : List Key} (h : l.Nodup) (n : Nat) :
    (l.filter fun x => !(l.take n).contains x) = l.drop n := by
  have hsplit : l = l.take n ++ l.drop n := (List.take_append_drop n l).symm
  have hdisj : ∀ x ∈ l.drop n, x ∉ l.take n := by
    rw [hsplit, List.nodup_append] at h
    exact fun x hx hx' => h.2.2 x hx' x hx rfl
  calc (l.filter fun x => !(l.take n).contains x)
      = (l.take n ++ l.drop n).filter fun x => !(l.take n).contains x := by
        rw [List.take_append_drop]
    _ = [] ++ l.drop n := by
        rw [List.filter_append]
        congr 1
        · exact List.filter_eq_nil_iff.mpr fun x hx => by simpa using hx
        · exact List.filter_eq_self.mpr fun x hx => by simpa using hdisj x hx
    _ = l.drop n := List.nil_append _

/-- **What is due after a batch is what was due before, behind the rows of the batch.** -/
theorem due_purge_take (h : t.WellFormed) (kind : EntityKind) (criteria : PruneCriteria)
    (n : Nat) :
    (t.purge kind ((t.due kind criteria).take n)).due kind criteria =
      (t.due kind criteria).drop n := by
  rw [due_purge h]
  exact filter_notMem_take (nodup_due h.keyed kind criteria) n

end Tables

namespace Pruning

open Tables

variable {t u : Tables} {kind : EntityKind} {criteria : PruneCriteria}
variable {cancelled : Cancellation} {pauses : Nat} {report : Report}

/-! ## 3. The loop -/

/-- A sweep from a number of pauses on: batch after batch until one comes back short, or until the
sweep finds itself cancelled before a batch.  Nothing bounds how many batches there are. -/
inductive Sweeps (kind : EntityKind) (criteria : PruneCriteria) (cancelled : Cancellation) :
    Nat → Tables → Report → Tables → Prop
  | stopped {pauses : Nat} {t : Tables} :
      cancelled pauses = true → Sweeps kind criteria cancelled pauses t { cancelled := true } t
  | short {pauses n : Nat} {t u : Tables} :
      cancelled pauses = false → t.pruneBatch kind criteria = (n, u) → n < criteria.batchSize →
      Sweeps kind criteria cancelled pauses t (Report.addBatch {} n) u
  | full {pauses n : Nat} {t u v : Tables} {rest : Report} :
      cancelled pauses = false → t.pruneBatch kind criteria = (n, u) →
      ¬ n < criteria.batchSize → Sweeps kind criteria cancelled (pauses + 1) u rest v →
      Sweeps kind criteria cancelled pauses t (rest.addBatch n) v

/-- **The bounded loop is the loop,** if the bound lets it come to its end. -/
theorem sweepFrom_of_sweeps (h : Sweeps kind criteria cancelled pauses t report u) :
    ∀ bound, report.batches + report.cancelled.toNat ≤ bound →
      sweepFrom kind criteria cancelled bound pauses t = (report, u) := by
  induction h with
  | @stopped pauses t hc =>
    intro bound hb
    obtain ⟨bound, rfl⟩ : ∃ m, bound = m + 1 := ⟨bound - 1, by simp at hb; omega⟩
    rw [sweepFrom, if_pos hc]
  | @short pauses n t u hc hbatch hn =>
    intro bound hb
    obtain ⟨bound, rfl⟩ : ∃ m, bound = m + 1 :=
      ⟨bound - 1, by simp [Report.addBatch] at hb; omega⟩
    rw [sweepFrom, if_neg (by simp [hc]), hbatch]
    simp only [if_pos hn]
  | @full pauses n t u v rest hc hbatch hn _ ih =>
    intro bound hb
    obtain ⟨bound, rfl⟩ : ∃ m, bound = m + 1 :=
      ⟨bound - 1, by simp [Report.addBatch] at hb; omega⟩
    have hrest := ih bound (by simp [Report.addBatch] at hb; omega)
    rw [sweepFrom, if_neg (by simp [hc]), hbatch]
    simp only [if_neg hn, hrest]

/-- A batch purges the first identifiers that are due. -/
theorem pruneBatch_eq_take (t : Tables) (kind : EntityKind) (criteria : PruneCriteria) :
    t.pruneBatch kind criteria =
      (min criteria.batchSize (t.due kind criteria).length,
        t.purge kind ((t.due kind criteria).take criteria.batchSize)) := by
  rw [pruneBatch_eq, batch, List.length_take]
  rfl

/-- **What a sweep has done when it ends,** be it cancelled or not: it has purged as many of the
identifiers that were due at its beginning as its batches hold.  If nobody cancelled it, it has run
one batch more than what was due fills; else all its batches were full. -/
theorem take_due_of_sweeps (h : Sweeps kind criteria cancelled pauses t report u)
    (ht : t.WellFormed) (hb : 0 < criteria.batchSize) :
    u = t.purge kind ((t.due kind criteria).take (report.batches * criteria.batchSize)) ∧
      report.deleted =
        min (report.batches * criteria.batchSize) (t.due kind criteria).length ∧
      (report.cancelled = true →
        report.batches * criteria.batchSize ≤ (t.due kind criteria).length) ∧
      (report.cancelled = false →
        report.batches = (t.due kind criteria).length / criteria.batchSize + 1) := by
  induction h with
  | stopped => simp [purge_nil]
  | @short pauses n t u hc hbatch hn =>
    rw [pruneBatch_eq_take, Prod.mk.injEq] at hbatch
    obtain ⟨hn', rfl⟩ := hbatch
    have hdiv : (t.due kind criteria).length / criteria.batchSize = 0 :=
      Nat.div_eq_of_lt (by omega)
    simp [Report.addBatch, hdiv, ← hn']
  -- A full batch is the first part of what is due, and the others take theirs from what is left.
  | @full pauses n t u v rest hc hbatch hn _ ih =>
    rw [pruneBatch_eq_take, Prod.mk.injEq] at hbatch
    obtain ⟨hn', rfl⟩ := hbatch
    obtain ⟨hv, hdeleted, hcut, hwhole⟩ := ih (ht.purge kind _)
    rw [due_purge_take ht, List.length_drop] at hdeleted hcut hwhole
    rw [due_purge_take ht, purge_purge, ← List.take_add] at hv
    have hbatches : (rest.batches + 1) * criteria.batchSize =
        criteria.batchSize + rest.batches * criteria.batchSize := by rw [Nat.succ_mul, Nat.add_comm]
    have hdiv : ((t.due kind criteria).length - criteria.batchSize) / criteria.batchSize + 1 =
        (t.due kind criteria).length / criteria.batchSize :=
      (Nat.div_eq_sub_div hb (by omega)).symm
    simp only [Report.addBatch, hbatches]
    refine ⟨hv, by omega, fun hcancelled => ?_, fun hcancelled => ?_⟩
    · have := hcut hcancelled
      omega
    · rw [hwhole hcancelled, hdiv]

/-- Every sweep ends: each full batch leaves fewer rows that are due. -/
theorem exists_sweeps (ht : t.WellFormed) (kind : EntityKind) (hb : 0 < criteria.batchSize)
    (cancelled : Cancellation) (pauses : Nat) :
    ∃ report u, Sweeps kind criteria cancelled pauses t report u := by
  generalize hlen : (t.due kind criteria).length = len
  induction len using Nat.strongRecOn generalizing t pauses with
  | _ len ih =>
    cases hc : cancelled pauses with
    | true => exact ⟨_, _, .stopped hc⟩
    | false =>
      have hbatch := pruneBatch_eq_take t kind criteria
      by_cases hshort : len < criteria.batchSize
      · exact ⟨_, _, .short hc hbatch (by omega)⟩
      · have hdue := due_purge_take ht kind criteria criteria.batchSize
        obtain ⟨rest, v, hrest⟩ := ih (len - criteria.batchSize) (by omega)
          (ht.purge kind ((t.due kind criteria).take criteria.batchSize)) (pauses + 1)
          (by rw [hdue, List.length_drop, hlen])
        exact ⟨_, _, .full hc hbatch (by omega) hrest⟩

/-- The bounded loop has bound enough, so a sweep carries out what the loop does. -/
theorem sweep_run_of_sweeps (ht : t.WellFormed) (hb : 0 < criteria.batchSize)
    (h : Sweeps kind criteria cancelled 0 t report u) :
    (sweep kind criteria cancelled).run t = (.ok report, u) := by
  rw [sweep]
  cases hc : cancelled 0 with
  | true =>
    cases h with
    | stopped => rfl
    | short hc' | full hc' =>
      rw [hc] at hc'
      cases hc'
  | false =>
    obtain ⟨-, -, hcut, hwhole⟩ := take_due_of_sweeps h ht hb
    have hlen := length_due_le ht.keyed kind criteria
    have hbound : report.batches + report.cancelled.toNat ≤ t.size kind + 1 := by
      cases hcancelled : report.cancelled with
      | true =>
        have := Nat.le_mul_of_pos_right report.batches hb
        have := hcut hcancelled
        simp only [Bool.toNat_true]
        omega
      | false =>
        have := Nat.div_le_self (t.due kind criteria).length criteria.batchSize
        rw [hwhole hcancelled, Bool.toNat_false]
        omega
    simp only [Bool.false_eq_true, if_false, Request.run, sweepFrom_of_sweeps h _ hbound]

theorem cancelled_of_sweeps_never (h : Sweeps kind criteria .never pauses t report u) :
    report.cancelled = false := by
  induction h with
  | stopped hc => cases hc
  | short => rfl
  | full _ _ _ _ ih => exact ih

/-- **A sweep that is not cancelled purges what is due at its beginning,** in one batch more than
this fills. -/
theorem sweeps_due (ht : t.WellFormed) (hb : 0 < criteria.batchSize) (pauses : Nat) :
    Sweeps kind criteria .never pauses t
      { deleted := (t.due kind criteria).length
        batches := (t.due kind criteria).length / criteria.batchSize + 1
        cancelled := false }
      (t.purge kind (t.due kind criteria)) := by
  obtain ⟨report, u, h⟩ := exists_sweeps ht kind hb .never pauses
  have hcancelled : report.cancelled = false := cancelled_of_sweeps_never h
  obtain ⟨rfl, hdeleted, -, hbatches⟩ := take_due_of_sweeps h ht hb
  have hall : (t.due kind criteria).length ≤ report.batches * criteria.batchSize := by
    rw [hbatches hcancelled, Nat.mul_comm]
    exact (Nat.lt_mul_div_succ _ hb).le
  rw [List.take_of_length_le hall] at h
  rw [Nat.min_eq_right hall] at hdeleted
  rwa [← hbatches hcancelled, ← hdeleted, ← hcancelled]

theorem sweep_run_eq (ht : t.WellFormed) (hb : 0 < criteria.batchSize) :
    (sweep kind criteria .never).run t =
      (.ok { deleted := (t.due kind criteria).length
             batches := (t.due kind criteria).length / criteria.batchSize + 1
             cancelled := false },
        t.purge kind (t.due kind criteria)) :=
  sweep_run_of_sweeps ht hb (sweeps_due ht hb 0)

/-- Nothing is due after a sweep. -/
theorem due_purge_due (h : t.WellFormed) (kind : EntityKind) (criteria : PruneCriteria) :
    (t.purge kind (t.due kind criteria)).due kind criteria = [] := by
  have := due_purge_take h kind criteria (t.due kind criteria).length
  rwa [List.take_length, List.drop_length] at this

end Pruning

namespace Tables

variable {t : Tables} {kind : EntityKind} {cutoff now : Timestamp} {criteria : PruneCriteria}

/-! ## 4. Eligible rows, by their columns -/

/-- A cell holds a text that is none of the given ones. -/
def OtherText (c : Cell) (texts : List String) : Prop := ∃ s, c = .text s ∧ s ∉ texts

/-- A cell holds a point in time before another one. -/
def Earlier (c : Cell) (bound : Timestamp) : Prop :=
  ∃ x, c = .timestamp x ∧ x.instant < bound.instant

/-- Whether a sweep may take a row of a kind.

A token was created before the cutoff, and it has a status other than `valid` and `inactive`, or its
authorization is stored with a status other than `valid`, or it has expired.

An authorization was created before the cutoff, and it has a status other than `valid`, or it is
of type `ad-hoc` and no token references it. -/
def Eligible (t : Tables) (cutoff now : Timestamp) : EntityKind → Key → Row → Prop
  | .token, _, row =>
    Earlier (row.cell "creation_date") cutoff ∧
      (OtherText (row.cell "status") ["valid", "inactive"] ∨
        (∃ a authorization, row.cell "authorization_id" = .key a ∧
          t.row? .authorization a = some authorization ∧
          OtherText (authorization.cell "status") ["valid"]) ∨
        Earlier (row.cell "expiration_date") now)
  | .authorization, id, row =>
    Earlier (row.cell "creation_date") cutoff ∧
      (OtherText (row.cell "status") ["valid"] ∨
        (row.cell "type" = .text "ad-hoc" ∧
          ∀ i token, t.row? .token i = some token → token.cell "authorization_id" ≠ .key id))
  | .application, _, _ | .scope, _, _ => False

/-- The identifiers of the rows of a kind that a sweep may take. -/
def eligible (t : Tables) (kind : EntityKind) (cutoff now : Timestamp) : Set Key :=
  {id | ∃ row, t.row? kind id = some row ∧ t.Eligible cutoff now kind id row}

theorem text?_eq_some_iff {c : Cell} {s : String} : c.text? = some s ↔ c = .text s := by
  cases c <;> simp [Cell.text?]

theorem key?_eq_some_iff {c : Cell} {k : Key} : c.key? = some k ↔ c = .key k := by
  cases c <;> simp [Cell.key?]

theorem timestamp?_eq_some_iff {c : Cell} {x : Timestamp} :
    c.timestamp? = some x ↔ c = .timestamp x := by
  cases c <;> simp [Cell.timestamp?]

theorem any_before_iff {c : Cell} {bound : Timestamp} :
    c.timestamp?.any (·.before bound) = true ↔ Earlier c bound := by
  simp only [Earlier, Timestamp.before, Option.any_eq_true, decide_eq_true_eq,
    timestamp?_eq_some_iff]

theorem any_text_iff {c : Cell} {texts : List String} {p : String → Bool}
    (hp : ∀ s, p s = true ↔ s ∉ texts) : c.text?.any p = true ↔ OtherText c texts := by
  simp only [OtherText, Option.any_eq_true, text?_eq_some_iff, hp]

/-- The status of the stored authorization of a token, tested in one go. -/
theorem any_authorization_iff {row : Row} {p : String → Bool} {texts : List String}
    (hp : ∀ s, p s = true ↔ s ∉ texts) :
    (((row.cell "authorization_id").key?.bind (t.row? .authorization)).bind
        fun r => (r.cell "status").text?).any p = true ↔
      ∃ a authorization, row.cell "authorization_id" = .key a ∧
        t.row? .authorization a = some authorization ∧
        OtherText (authorization.cell "status") texts := by
  simp only [Option.any_eq_true, Option.bind_eq_some_iff, key?_eq_some_iff, text?_eq_some_iff,
    OtherText, hp]
  constructor
  · rintro ⟨s, ⟨r, ⟨a, ha, hr⟩, hs⟩, hout⟩
    exact ⟨a, r, ha, hr, s, hs, hout⟩
  · rintro ⟨a, r, ha, hr, s, hs, hout⟩
    exact ⟨s, ⟨r, ⟨a, ha, hr⟩, hs⟩, hout⟩

/-- No stored token references an authorization. -/
theorem any_references_eq_false_iff {id : Key} :
    (t.rows .token).any (references "authorization_id" id) = false ↔
      ∀ i token, t.row? .token i = some token → token.cell "authorization_id" ≠ .key id := by
  rw [Bool.eq_false_iff, ne_eq, List.any_eq_true]
  constructor
  · intro h i token hi href
    refine h ⟨token, mem_rows.mpr ⟨i, hi⟩, ?_⟩
    rw [references, href, beq_iff_eq]
    rfl
  · rintro h ⟨token, htoken, href⟩
    obtain ⟨i, hi⟩ := mem_rows.mp htoken
    rw [references, beq_iff_eq, key?_eq_some_iff] at href
    exact h i token hi href

/-- **The tests of a batch say what eligible means.** -/
theorem isPrunable_iff (h : t.Keyed) {id : Key} {row : Row} (hrow : t.row? kind id = some row) :
    t.isPrunable kind criteria row = true ↔
      t.Eligible criteria.cutoff criteria.now kind id row := by
  cases kind with
  | application => simp [isPrunable, Eligible]
  | scope => simp [isPrunable, Eligible]
  | token =>
    have hstatus : ∀ s : String,
        (s != "inactive" && s != "valid") = true ↔ s ∉ ["valid", "inactive"] := by
      intro s
      simp [and_comm]
    have hvalid : ∀ s : String, (s != "valid") = true ↔ s ∉ ["valid"] := by simp
    rw [isPrunable, tokenIsPrunable, Eligible, Bool.and_eq_true, Bool.or_eq_true, Bool.or_eq_true,
      createdBefore, any_before_iff, any_before_iff, any_text_iff hstatus,
      any_authorization_iff hvalid, or_assoc]
  | authorization =>
    have hkey := h .authorization id row hrow
    have hvalid : ∀ s : String, (s != "valid") = true ↔ s ∉ ["valid"] := by simp
    rw [isPrunable, authorizationIsPrunable, Eligible, Bool.and_eq_true, Bool.or_eq_true,
      Bool.and_eq_true, createdBefore, any_before_iff, any_text_iff hvalid, beq_iff_eq,
      text?_eq_some_iff, hkey, Bool.not_eq_true']
    rw [← any_references_eq_false_iff]
    rfl

/-- What is due is what is eligible. -/
theorem mem_due_iff (h : t.Keyed) (kind : EntityKind) (criteria : PruneCriteria) {id : Key} :
    id ∈ t.due kind criteria ↔ id ∈ t.eligible kind criteria.cutoff criteria.now := by
  rw [due, h.mem_idsWhere, eligible, Set.mem_ofPred_eq]
  exact exists_congr fun row => and_congr_right fun hrow => isPrunable_iff h hrow

/-- A set that a list without repetition enumerates has as many elements as the list. -/
theorem ncard_eq_length {α : Type} [DecidableEq α] {s : Set α} {l : List α} (hl : l.Nodup)
    (hmem : ∀ x, x ∈ l ↔ x ∈ s) : s.ncard = l.length := by
  have hset : s = (l.toFinset : Set α) := by
    ext x
    rw [← hmem x, List.coe_toFinset, Set.mem_ofPred_eq]
  rw [hset, Set.ncard_coe_finset, List.toFinset_card_of_nodup hl]

theorem length_due (h : t.Keyed) (kind : EntityKind) (criteria : PruneCriteria) :
    (t.due kind criteria).length = (t.eligible kind criteria.cutoff criteria.now).ncard :=
  (ncard_eq_length (nodup_due h kind criteria) fun _ => mem_due_iff h kind criteria).symm

/-- Whether removing rows of a kind by their identifiers takes a row with it: it is one of them, or
a token that is attached to a removed authorization. -/
def IsTaken (t : Tables) (kind : EntityKind) (ids : List Key) (other : EntityKind) (i : Key) :
    Prop :=
  (other = kind ∧ i ∈ ids) ∨
    (kind = .authorization ∧ other = .token ∧
      ∃ token a, t.row? .token i = some token ∧ token.cell "authorization_id" = .key a ∧ a ∈ ids)

/-- Purging removes exactly the rows that it takes. -/
theorem row?_purge_of_taken (t : Tables) (kind other : EntityKind) (ids : List Key) (i : Key) :
    (t.IsTaken kind ids other i → (t.purge kind ids).row? other i = none) ∧
      (¬ t.IsTaken kind ids other i → (t.purge kind ids).row? other i = t.row? other i) := by
  rw [row?_purge]
  cases hrow : t.row? other i with
  | none => simp
  | some row =>
    have hiff : isPurged kind ids other i row = true ↔ t.IsTaken kind ids other i := by
      simp only [isPurged, IsTaken, Bool.or_eq_true, Bool.and_eq_true, decide_eq_true_eq,
        List.contains_iff_mem, Option.any_eq_true, key?_eq_some_iff, and_assoc]
      refine or_congr_right (and_congr_right fun hk => and_congr_right fun ho => ?_)
      subst hk ho
      simp [hrow]
    constructor
    · intro htaken
      simp [hiff.mpr htaken]
    · intro hkept
      have : isPurged kind ids other i row = false :=
        Bool.eq_false_iff.mpr fun hp => hkept (hiff.mp hp)
      simp [this]

/-- Whether a sweep of a kind removes a row: an eligible one, or a token that is attached to an
eligible authorization. -/
def IsSwept (t : Tables) (kind : EntityKind) (cutoff now : Timestamp) (other : EntityKind)
    (i : Key) : Prop :=
  (other = kind ∧ i ∈ t.eligible kind cutoff now) ∨
    (kind = .authorization ∧ other = .token ∧
      ∃ token a, t.row? .token i = some token ∧ token.cell "authorization_id" = .key a ∧
        a ∈ t.eligible .authorization cutoff now)

/-- What is due takes the swept rows. -/
theorem isTaken_due_iff (h : t.Keyed) {other : EntityKind} {i : Key} :
    t.IsTaken kind (t.due kind criteria) other i ↔
      t.IsSwept kind criteria.cutoff criteria.now other i := by
  simp only [IsTaken, IsSwept, mem_due_iff h]
  refine or_congr_right (and_congr_right fun hk => ?_)
  subst hk
  rfl

/-- Purging what is due removes exactly the swept rows. -/
theorem row?_purge_due (h : t.Keyed) (kind : EntityKind) (criteria : PruneCriteria)
    (other : EntityKind) (i : Key) :
    (t.IsSwept kind criteria.cutoff criteria.now other i →
        (t.purge kind (t.due kind criteria)).row? other i = none) ∧
      (¬ t.IsSwept kind criteria.cutoff criteria.now other i →
        (t.purge kind (t.due kind criteria)).row? other i = t.row? other i) := by
  rw [← isTaken_due_iff h]
  exact row?_purge_of_taken t kind other (t.due kind criteria) i

end Tables

/-! ## 5. Sweeps with accepted settings -/

theorem Settings.refuseIf_eq_ok {bad : Bool} {fault : Settings.Fault} {x : Unit} :
    Settings.refuseIf bad fault = .ok x ↔ bad = false := by
  cases bad <;> simp [Settings.refuseIf]

/-- Checked settings let a batch remove at least one row. -/
theorem Settings.batchSize_pos_of_check {s : Settings.Store} (h : s.check = .ok ()) :
    0 < s.prune.batchSize := by
  obtain ⟨_, -, h⟩ := bind_eq_ok_iff.mp h
  obtain ⟨_, -, h⟩ := bind_eq_ok_iff.mp h
  obtain ⟨_, h, -⟩ := bind_eq_ok_iff.mp h
  rw [Settings.refuseIf_eq_ok, beq_eq_false_iff_ne] at h
  omega

/-- Stores are built with the settings of their setup, and only if these pass the check. -/
theorem Setup.settings_of_build {setup : Setup} {services : Services}
    (h : setup.build = .ok services) :
    services.settings = setup.settings ∧ setup.settings.check = .ok () := by
  rw [Setup.build] at h
  split at h
  · cases h
  · next hcheck =>
    refine ⟨?_, hcheck⟩
    split at h
    · cases h
      rfl
    · split at h <;> cases h
      rfl

namespace Pruning

open Tables

/-- Settings that stores are built from let a batch remove at least one row. -/
theorem batchSize_pos {setup : Setup} {services : Services} (h : setup.build = .ok services) :
    0 < services.settings.prune.batchSize := by
  obtain ⟨hsettings, hcheck⟩ := Setup.settings_of_build h
  rw [hsettings]
  exact Settings.batchSize_pos_of_check hcheck

/-- **A sweep that is not cancelled is exact, and independent of its batches.**  From all tables
that operations come to and with all settings that stores are built from, it comes to an end and
removes exactly the rows of the kind that are eligible at its beginning, and with authorizations the
tokens attached to them.  Its report gives their number and one batch more than they fill, a second
sweep finds nothing, and other settings leave the same tables. -/
theorem sweep_exact {t : Tables} (ht : Reachable t) {setup : Setup} {services : Services}
    (hbuild : setup.build = .ok services) (kind : EntityKind) (cutoff now : Timestamp) :
    ∃ report u,
      report = { deleted := (t.eligible kind cutoff now).ncard
                 batches := (t.eligible kind cutoff now).ncard /
                   services.settings.prune.batchSize + 1
                 cancelled := false } ∧
      (sweeper kind services.settings.prune now cutoff .never).run t = (.ok report, u) ∧
      Sweeps kind ⟨cutoff, now, services.settings.prune.batchSize⟩ .never 0 t report u ∧
      (∀ other i, (t.IsSwept kind cutoff now other i → u.row? other i = none) ∧
        (¬ t.IsSwept kind cutoff now other i → u.row? other i = t.row? other i)) ∧
      (sweeper kind services.settings.prune now cutoff .never).run u =
        (.ok { deleted := 0, batches := 1, cancelled := false }, u) ∧
      ∀ (setup' : Setup) (services' : Services), setup'.build = .ok services' →
        ((sweeper kind services'.settings.prune now cutoff .never).run t).2 = u := by
  have hwf := ht.wellFormed
  have hb := batchSize_pos hbuild
  let criteria : PruneCriteria := ⟨cutoff, now, services.settings.prune.batchSize⟩
  have hlen : (t.due kind criteria).length = (t.eligible kind cutoff now).ncard :=
    length_due hwf.keyed kind criteria
  have hrun : (sweep kind criteria .never).run t = _ := sweep_run_eq hwf hb
  have hsweeps : Sweeps kind criteria .never 0 t _ _ := sweeps_due hwf hb 0
  rw [hlen] at hrun hsweeps
  refine ⟨_, t.purge kind (t.due kind criteria), rfl, hrun, hsweeps,
    row?_purge_due hwf.keyed kind criteria, ?_, ?_⟩
  -- Nothing is due any more, so the second sweep is one short batch.
  · have hagain : (sweep kind criteria .never).run (t.purge kind (t.due kind criteria)) = _ :=
      sweep_run_eq (hwf.purge kind _) hb
    rw [due_purge_due hwf, List.length_nil, Nat.zero_div, purge_purge, List.append_nil] at hagain
    exact hagain
  -- What is due says nothing of the size of batches.
  · intro setup' services' hbuild'
    have hother : (sweep kind ⟨cutoff, now, services'.settings.prune.batchSize⟩ .never).run t = _ :=
      sweep_run_eq hwf (batchSize_pos hbuild')
    rw [sweeper, hother]
    rfl

/-- A revoked authorization with a token attached to it, for an example. -/
def revokedGrant : Tables :=
  (Operation.insert .token (.ofList [("authorization_id", .key (.int 1))])).apply
    ((Operation.insert .authorization (.ofList [("creation_date", .timestamp ⟨0, 0⟩),
      ("status", .text "revoked")])).apply empty)

/-- A setup whose batches hold one row, for an example. -/
def rowByRow : Setup := { settings := { prune := { batchSize := 1 } }, clock := ⟨1, 0⟩ }

/-- A last batch that is full is followed by an empty one, and the token of the authorization goes
with it. -/
theorem sweep_exact_revokedGrant :
    Reachable revokedGrant ∧ ∃ services, rowByRow.build = .ok services ∧ ∃ u,
      (sweeper .authorization services.settings.prune ⟨1, 0⟩ ⟨1, 0⟩ .never).run revokedGrant =
          (.ok { deleted := 1, batches := 2, cancelled := false }, u) ∧
        u.row? .token (.int 1) = none := by
  have hreach : Reachable revokedGrant := .step _ (.step _ .empty)
  have hkeyed := hreach.wellFormed.keyed
  have hbuild : rowByRow.build = .ok _ := rfl
  have hdue : revokedGrant.due .authorization ⟨⟨1, 0⟩, ⟨1, 0⟩, 1⟩ = [.int 1] := by decide +kernel
  have hone : (revokedGrant.eligible .authorization ⟨1, 0⟩ ⟨1, 0⟩).ncard = 1 := by
    rw [← length_due hkeyed .authorization ⟨⟨1, 0⟩, ⟨1, 0⟩, 1⟩, hdue]
    rfl
  have heligible : .int 1 ∈ revokedGrant.eligible .authorization ⟨1, 0⟩ ⟨1, 0⟩ := by
    rw [← mem_due_iff hkeyed .authorization ⟨⟨1, 0⟩, ⟨1, 0⟩, 1⟩, hdue]
    exact List.mem_cons_self
  obtain ⟨report, u, rfl, hrun, -, hrows, -⟩ :=
    sweep_exact hreach hbuild .authorization ⟨1, 0⟩ ⟨1, 0⟩
  rw [hone] at hrun
  have hswept : revokedGrant.IsSwept .authorization ⟨1, 0⟩ ⟨1, 0⟩ .token (.int 1) :=
    Or.inr ⟨rfl, rfl, (revokedGrant.row? .token (.int 1)).getD .empty, .int 1,
      by decide +kernel, by decide +kernel, heligible⟩
  exact ⟨hreach, _, hbuild, u, hrun, (hrows .token (.int 1)).1 hswept⟩

end Pruning

end GrantLedger
