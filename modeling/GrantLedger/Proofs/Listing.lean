import GrantLedger.Proofs.Finding
import GrantLedger.Proofs.Paging
import GrantLedger.Proofs.Revoking

/-!
# Lists of entities are exact

A finder reads all pages of a query for rows and decodes them.  What its answer should be can be
said of the entities alone: `Lists` says that a request answers with the entities that have some
property, each of them once, by ascending keys of their rows, and that it changes nothing.

`lists_fetchAll` reduces this to single rows, for all keyed tables whose rows can be decoded: the
filter has to hold of the rows of these entities and of no others.
-/

namespace GrantLedger.Store

variable {M R K : Type} [Record R K] [Model M R K]

/-! ## 1. What an exact list is -/

/-- An entity is read from the row under a key. -/
def ShownAt (t : Tables) (key : Key) (m : M) : Prop :=
  ∃ row, t.row? (kindOf M) key = some row ∧ decode row = .ok m

/-- A request answers with the entities that have a property: each of those once, by ascending keys
of their rows, and no others.  It changes nothing. -/
def Lists (request : Request (List M)) (t : Tables) (P : M → Prop) : Prop :=
  ∃ found : List (Key × M), request.run t = (.ok (found.map Prod.snd), t) ∧
    (found.Pairwise fun a b => compare a.1 b.1 = .lt) ∧
    ∀ key m, (key, m) ∈ found ↔ ShownAt t key m ∧ P m

/-! ## 2. Rows that are decoded one by one -/

variable {t : Tables}

/-- Decodes rows and keeps their keys. -/
def decodeUnder (M : Type) {R K : Type} [Record R K] [Model M R K] (e : Key × Row) :
    Except StoreError (Key × M) :=
  (decode e.2).map fun m => (e.1, m)

theorem decodeUnder_eq_ok_iff {e : Key × Row} {p : Key × M} :
    decodeUnder M e = .ok p ↔ e.1 = p.1 ∧ decode e.2 = .ok p.2 := by
  rw [decodeUnder, map_eq_ok_iff]
  constructor
  · rintro ⟨m, hm, rfl⟩
    exact ⟨rfl, hm⟩
  · rintro ⟨hkey, hm⟩
    exact ⟨p.2, hm, by rw [hkey]⟩

/-- An element of what a list is mapped to comes from one of the list. -/
theorem exists_mem_of_mem_mapM {ε α β : Type} {f : α → Except ε β} {l : List α} {r : List β}
    (h : l.mapM f = .ok r) {b : β} (hb : b ∈ r) : ∃ a ∈ l, f a = .ok b := by
  rw [mapM_eq_ok_iff] at h
  induction h with
  | nil => cases hb
  | @cons a' b' l r hab _ ih =>
    rcases List.mem_cons.mp hb with rfl | hb
    · exact ⟨a', List.mem_cons_self, hab⟩
    · obtain ⟨a, ha, hf⟩ := ih hb
      exact ⟨a, List.mem_cons_of_mem _ ha, hf⟩

/-- The rows of a kind that satisfy a filter, with their keys. -/
def entriesWhere (t : Tables) (kind : EntityKind) (filter : Filter) : List (Key × Row) :=
  (t.get kind).rows.entries.filter fun e => filter.holds e.2

theorem mem_entriesWhere {kind : EntityKind} {filter : Filter} {key : Key} {row : Row} :
    (key, row) ∈ entriesWhere t kind filter ↔
      t.row? kind key = some row ∧ filter.holds row = true := by
  rw [entriesWhere, List.mem_filter, Tables.row?, OrdMap.get?_eq_some_iff]

theorem map_snd_entriesWhere (kind : EntityKind) (filter : Filter) :
    (entriesWhere t kind filter).map Prod.snd = (t.rows kind).filter filter.holds := by
  rw [entriesWhere, Tables.rows, OrdMap.values, List.filter_map]
  rfl

/-- Entities that are decoded with their keys are decoded in the same order without them. -/
theorem mapM_decode_of_decodeUnder {l : List (Key × Row)} {found : List (Key × M)}
    (h : l.mapM (decodeUnder M) = .ok found) :
    (l.map Prod.snd).mapM decode = .ok (found.map Prod.snd) := by
  rw [mapM_eq_ok_iff] at h ⊢
  rw [List.forall₂_map_left_iff, List.forall₂_map_right_iff]
  exact h.imp fun _ _ hdecoded => (decodeUnder_eq_ok_iff.mp hdecoded).2

theorem keys_of_decodeUnder {l : List (Key × Row)} {found : List (Key × M)}
    (h : l.mapM (decodeUnder M) = .ok found) : found.map Prod.fst = l.map Prod.fst := by
  rw [mapM_eq_ok_iff] at h
  induction h with
  | nil => rfl
  | cons hdecoded _ ih =>
    rw [List.map_cons, List.map_cons, ih, (decodeUnder_eq_ok_iff.mp hdecoded).1]

/-- Rows that are determined by what is decoded from them are listed with it. -/
theorem map_snd_of_decodeUnder {l : List (Key × Row)} {found : List (Key × M)}
    (h : l.mapM (decodeUnder M) = .ok found) {f : M → Row}
    (hf : ∀ e ∈ l, ∀ m, decode e.2 = .ok m → e.2 = f m) :
    l.map Prod.snd = found.map fun p => f p.2 := by
  rw [mapM_eq_ok_iff] at h
  induction h with
  | nil => rfl
  | @cons e p l found hdecoded _ ih =>
    have hrest := ih fun e he => hf e (List.mem_cons_of_mem _ he)
    have hrow := hf e List.mem_cons_self p.2 (decodeUnder_eq_ok_iff.mp hdecoded).2
    rw [List.map_cons, List.map_cons, hrest, hrow]

/-! ## 3. The list of a filter -/

section Found

variable {filter : Filter} {found : List (Key × M)}

theorem ascending_found (h : (entriesWhere t (kindOf M) filter).mapM (decodeUnder M) = .ok found) :
    found.Pairwise fun a b => compare a.1 b.1 = .lt := by
  have hkeys := (t.get (kindOf M)).rows.ascending.filter fun e => filter.holds e.2
  rw [← List.pairwise_map (f := Prod.fst) (R := fun a b : Key => compare a b = .lt)] at hkeys ⊢
  rw [keys_of_decodeUnder h]
  exact hkeys

theorem mem_found_iff (h : (entriesWhere t (kindOf M) filter).mapM (decodeUnder M) = .ok found)
    {key : Key} {m : M} : (key, m) ∈ found ↔
      ∃ row, t.row? (kindOf M) key = some row ∧ decode row = .ok m ∧ filter.holds row = true := by
  constructor
  · intro hmem
    obtain ⟨⟨i, row⟩, he, hf⟩ := exists_mem_of_mem_mapM h hmem
    obtain ⟨rfl, hm⟩ := decodeUnder_eq_ok_iff.mp hf
    obtain ⟨hrow, hholds⟩ := mem_entriesWhere.mp he
    exact ⟨row, hrow, hm, hholds⟩
  · rintro ⟨row, hrow, hm, hholds⟩
    obtain ⟨p, hp, hf⟩ := exists_mem_of_mapM h (mem_entriesWhere.mpr ⟨hrow, hholds⟩)
    obtain ⟨hkey, hm'⟩ := decodeUnder_eq_ok_iff.mp hf
    have heq : p = (key, m) := Prod.ext hkey.symm (Except.ok.inj (hm'.symm.trans hm))
    exact heq ▸ hp

/-- **A filter lists the entities of the rows that it holds of.**  Keyed tables have their rows by
ascending keys, so the order of the query is theirs. -/
theorem exists_found (ht : t.Keyed) (hcheck : filter.check (kindOf M) = .ok ())
    (hrows : ∀ row ∈ t.rows (kindOf M), ∃ m : M, decode row = .ok m) (pageSize : Nat) :
    ∃ found, (entriesWhere t (kindOf M) filter).mapM (decodeUnder M) = .ok found ∧
      (fetchAll M pageSize filter).run t = (.ok (found.map Prod.snd), t) := by
  obtain ⟨found, hfound⟩ :
      ∃ found, (entriesWhere t (kindOf M) filter).mapM (decodeUnder M) = .ok found := by
    refine exists_mapM_eq_ok_iff.mpr fun e he => ?_
    obtain ⟨m, hm⟩ := hrows e.2 (Tables.mem_rows.mpr ⟨e.1, (mem_entriesWhere.mp he).1⟩)
    exact ⟨(e.1, m), decodeUnder_eq_ok_iff.mpr ⟨rfl, hm⟩⟩
  have hquery := RowQuery.make_eq_ok_iff.mpr ⟨hcheck, List.forall_mem_nil _, rfl⟩
  have hanswers : (RowQuery.answers ⟨filter, RowQuery.withTieBreak [], 0, none⟩
      (t.rows (kindOf M))).mapM decode = .ok (found.map Prod.snd) := by
    rw [ht.answers_eq rfl, ← map_snd_entriesWhere]
    exact mapM_decode_of_decodeUnder hfound
  exact ⟨found, hfound, run_list (q := { filter }) hquery hanswers pageSize 0 none⟩

/-- **A list is exact** if the filter holds of the rows of the entities with the property, and of no
others. -/
theorem lists_fetchAll (ht : t.Keyed) (hcheck : filter.check (kindOf M) = .ok ())
    (hrows : ∀ row ∈ t.rows (kindOf M), ∃ m : M, decode row = .ok m) {P : M → Prop}
    (hP : ∀ key row (m : M), t.row? (kindOf M) key = some row → decode row = .ok m →
      (filter.holds row = true ↔ P m)) (pageSize : Nat) :
    Lists (fetchAll M pageSize filter) t P := by
  obtain ⟨found, hfound, hrun⟩ := exists_found ht hcheck hrows pageSize
  refine ⟨found, hrun, ascending_found hfound, fun key m => ?_⟩
  rw [mem_found_iff hfound]
  constructor
  · rintro ⟨row, hrow, hm, hholds⟩
    exact ⟨⟨row, hrow, hm⟩, (hP key row m hrow hm).mp hholds⟩
  · rintro ⟨⟨row, hrow, hm⟩, hp⟩
    exact ⟨row, hrow, hm, (hP key row m hrow hm).mpr hp⟩

end Found

end GrantLedger.Store
