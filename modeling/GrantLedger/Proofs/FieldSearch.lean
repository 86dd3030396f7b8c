import GrantLedger.Proofs.SequentialRevocation

/-!
# Searching entities by their fields

A finder turns the text or the identifier that it is given into a condition on a column.  Where each
row is that of a record which is stored as it can be read, columns and rows can be left out again:
the answer is told by the fields of the records alone.

* `Answers`: a request for a list answers with the records of the tables that have a property, each
  of them once and by ascending identifiers.  `answers_fetchAll` asks of the filter that it holds of
  the rows of these records.
* `AnswersOne`: a request for one record answers with the one that has the property, or with none.
  Such a finder looks at a single row, so `answersOne_fetchOne` asks moreover that no two records
  have the property.  An identifier is such a property because it is the key of its row, a unique
  text because no other row of well-formed tables holds it.

`finders_exact` says this of all finders by fields, over the tables that the stores of a key type
come to.
-/

namespace GrantLedger

/-! ## 1. Conditions on several values -/

/-- A column is one of some texts exactly if it holds one of them. -/
theorem Predicate.holds_oneOf_texts {s : Option String} {texts : List String} :
    (Predicate.oneOf (texts.map .text)).holds (Cell.ofText? s) = true ↔
      ∃ text ∈ texts, s = some text := by
  have heach : (Predicate.oneOf (texts.map .text)).holds (Cell.ofText? s) = true ↔
      ∃ text ∈ texts, (Predicate.eq (.text text)).holds (Cell.ofText? s) = true := by
    simp [holds]
  simp only [heach, holds_eq_text]

section Identifiers

variable {K : Type} [EntityKey K] [LawfulEntityKey K]

/-- A column equals an identifier exactly if it holds this one. -/
theorem Predicate.holds_eq_id {i : Option K} {k : K} :
    (Predicate.eq (.key (EntityKey.toKey k))).holds (Cell.ofId? i) = true ↔ i = some k := by
  rw [Cell.ofId?, holds_eq_key, Option.map_eq_some_iff]
  constructor
  · rintro ⟨i, rfl, hkey⟩
    rw [toKey_injective hkey]
  · intro h
    exact ⟨k, h, rfl⟩

end Identifiers

/-! ## 2. The columns that finders look at -/

section Columns

variable {K : Type} [EntityKey K]

theorem Application.cell_clientId (a : Application K) :
    (Record.toRow a).cell "client_id" = Cell.ofText? a.clientId := by
  change a.toRow.cell "client_id" = _
  simp [Application.toRow, Row.cell_ofList, List.lookup_cons]

theorem Authorization.cell_applicationId (a : Authorization K) :
    (Record.toRow a).cell "application_id" = Cell.ofId? a.applicationId := by
  change a.toRow.cell "application_id" = _
  simp [Authorization.toRow, Row.cell_ofList, List.lookup_cons]

theorem Authorization.cell_status (a : Authorization K) :
    (Record.toRow a).cell "status" = Cell.ofText? a.status := by
  change a.toRow.cell "status" = _
  simp [Authorization.toRow, Row.cell_ofList, List.lookup_cons]

theorem Authorization.cell_subject (a : Authorization K) :
    (Record.toRow a).cell "subject" = Cell.ofText? a.subject := by
  change a.toRow.cell "subject" = _
  simp [Authorization.toRow, Row.cell_ofList, List.lookup_cons]

theorem Authorization.cell_authorizationType (a : Authorization K) :
    (Record.toRow a).cell "type" = Cell.ofText? a.authorizationType := by
  change a.toRow.cell "type" = _
  simp [Authorization.toRow, Row.cell_ofList]

theorem Scope.cell_name (s : Scope K) :
    (Record.toRow s).cell "name" = Cell.ofText? s.name := by
  change s.toRow.cell "name" = _
  simp [Scope.toRow, Row.cell_ofList, List.lookup_cons]

theorem Token.cell_applicationId (m : Token K) :
    (Record.toRow m).cell "application_id" = Cell.ofId? m.applicationId := by
  change m.toRow.cell "application_id" = _
  simp [Token.toRow, Row.cell_ofList, List.lookup_cons]

theorem Token.cell_referenceId (m : Token K) :
    (Record.toRow m).cell "reference_id" = Cell.ofText? m.referenceId := by
  change m.toRow.cell "reference_id" = _
  simp [Token.toRow, Row.cell_ofList, List.lookup_cons]

theorem Token.cell_subject (m : Token K) :
    (Record.toRow m).cell "subject" = Cell.ofText? m.subject := by
  change m.toRow.cell "subject" = _
  simp [Token.toRow, Row.cell_ofList, List.lookup_cons]

end Columns

namespace Store

/-! ## 3. Answers in terms of records -/

section Answers

variable {R K : Type} [EntityKey K] [Record R K]

/-- A record of the tables: one of the rows is read as it. -/
def IsRecordOf (t : Tables) (r : R) : Prop :=
  ∃ row ∈ t.rows (Record.kind R), Record.ofRow row = .ok r

/-- A record stands before another one by their identifiers. -/
def Precedes (a b : R) : Prop :=
  ∃ i k, Record.id a = some i ∧ Record.id b = some k ∧
    compare (EntityKey.toKey i) (EntityKey.toKey k) = .lt

/-- A request answers with the records of the tables that have a property: each of those once, by
ascending identifiers, and no others.  It changes nothing. -/
def Answers (request : Request (List R)) (t : Tables) (P : R → Prop) : Prop :=
  ∃ found, request.run t = (.ok found, t) ∧ found.Pairwise Precedes ∧
    ∀ r, r ∈ found ↔ IsRecordOf t r ∧ P r

/-- A request answers with the one record of the tables that has a property, or with none if there
is none.  It changes nothing. -/
def AnswersOne (request : Request (Option R)) (t : Tables) (P : R → Prop) : Prop :=
  ∃ found, request.run t = (.ok found, t) ∧ ∀ r, found = some r ↔ IsRecordOf t r ∧ P r

omit [EntityKey K] in
theorem isRecordOf_iff {t : Tables} {r : R} : IsRecordOf t r ↔ ∃ x, ShownAt t x r := by
  constructor
  · rintro ⟨row, hmem, hr⟩
    obtain ⟨x, hx⟩ := Tables.mem_rows.mp hmem
    exact ⟨x, row, hx, (decode_eq_ofRow row).trans hr⟩
  · rintro ⟨x, row, hx, hr⟩
    exact ⟨row, Tables.mem_rows.mpr ⟨x, hx⟩, (decode_eq_ofRow row).symm.trans hr⟩

variable [LawfulRecord R] [PropertyColumn R K] [SettableColumns R] [SeparateColumns R]
variable [LawfulEntityKey K] {t : Tables} {filter : Filter} {P : R → Prop}

theorem isRecordOf_of_stored {x : Key} {r : R} (h : Stored t x r) : IsRecordOf t r :=
  isRecordOf_iff.mpr ⟨x, Record.toRow r, h.row, h.decode_toRow⟩

/-- The records are those that are stored. -/
theorem isRecordOf_iff_stored (h : EachStored R t) {r : R} :
    IsRecordOf t r ↔ ∃ x, Stored t x r := by
  constructor
  · intro hr
    obtain ⟨x, row, hrow, hr⟩ := isRecordOf_iff.mp hr
    exact ⟨x, (h.of_decode hrow hr).2⟩
  · rintro ⟨x, hr⟩
    exact isRecordOf_of_stored hr

/-- **A list is told by the fields of the records** if its filter is. -/
theorem answers_fetchAll (ht : t.Keyed) (hall : EachStored R t)
    (hcheck : filter.check (Record.kind R) = .ok ())
    (hP : ∀ r : R, filter.holds (Record.toRow r) = true ↔ P r) (pageSize : Nat) :
    Answers (fetchAll R pageSize filter) t P := by
  have hfilter : ∀ x row (r : R), t.row? (kindOf R) x = some row → decode row = .ok r →
      (filter.holds row = true ↔ P r) := by
    intro x row r hrow hr
    obtain ⟨rfl, -⟩ := hall.of_decode hrow hr
    exact hP r
  obtain ⟨found, hrun, hascending, hfound⟩ :=
    lists_fetchAll ht hcheck hall.exists_decode hfilter pageSize
  have hstored : ∀ p ∈ found, Stored t p.1 p.2 := by
    intro p hp
    obtain ⟨⟨row, hrow, hr⟩, -⟩ := (hfound p.1 p.2).mp hp
    exact (hall.of_decode hrow hr).2
  refine ⟨found.map Prod.snd, hrun, ?_, ?_⟩
  · -- the keys of the rows are the identifiers of the records
    rw [List.pairwise_map]
    refine hascending.imp_of_mem ?_
    intro p q hp hq hlt
    obtain ⟨i, hi, hpkey⟩ := (hstored p hp).id
    obtain ⟨k, hk, hqkey⟩ := (hstored q hq).id
    rw [hpkey, hqkey] at hlt
    exact ⟨i, k, hi, hk, hlt⟩
  · intro r
    rw [isRecordOf_iff, List.mem_map]
    constructor
    · rintro ⟨p, hp, rfl⟩
      obtain ⟨hshown, hprop⟩ := (hfound p.1 p.2).mp hp
      exact ⟨⟨p.1, hshown⟩, hprop⟩
    · rintro ⟨⟨x, hshown⟩, hprop⟩
      exact ⟨(x, r), (hfound x r).mpr ⟨hshown, hprop⟩, rfl⟩

/-- **One record is told by its fields** if the filter is and no two records can be meant. -/
theorem answersOne_fetchOne (hall : EachStored R t)
    (hcheck : filter.check (Record.kind R) = .ok ())
    (hP : ∀ r : R, filter.holds (Record.toRow r) = true ↔ P r)
    (hunique : ∀ x y (a b : R), Stored t x a → Stored t y b → P a → P b → x = y) :
    AnswersOne (fetchOne R filter) t P := by
  rcases fetchOne_cases (M := R) hcheck t with ⟨row, hrow, hholds, hrun⟩ | ⟨hnone, hrun⟩
  · obtain ⟨x, hx⟩ := Tables.mem_rows.mp hrow
    obtain ⟨first, rfl, hfirst⟩ := hall x row hx
    have hprop := (hP first).mp hholds
    refine ⟨some first, ?_, ?_⟩
    · rw [hrun, hfirst.decode_toRow]
      rfl
    · intro r
      rw [isRecordOf_iff_stored hall, Option.some.injEq]
      constructor
      · rintro rfl
        exact ⟨⟨x, hfirst⟩, hprop⟩
      · rintro ⟨⟨y, hr⟩, hr'⟩
        -- under one key stands one row, and it is read in one way
        have hkey : x = y := hunique x y first r hfirst hr hprop hr'
        subst hkey
        have hrows := Option.some.inj (hfirst.row.symm.trans hr.row)
        have hread := hfirst.decode_toRow
        rw [hrows, hr.decode_toRow] at hread
        exact (Except.ok.inj hread).symm
  · refine ⟨none, hrun, ?_⟩
    intro r
    constructor
    · intro h
      cases h
    · rintro ⟨hr, hprop⟩
      obtain ⟨x, hr⟩ := (isRecordOf_iff_stored hall).mp hr
      exact absurd ((hP r).mpr hprop) (hnone _ (Tables.mem_rows.mpr ⟨x, hr.row⟩))

end Answers

/-! ## 4. Texts and identifiers -/

section Fields

variable {R K : Type} [EntityKey K] [Record R K] [LawfulRecord R] [PropertyColumn R K]
variable [SettableColumns R] [SeparateColumns R] [LawfulEntityKey K] {t : Tables} {column : String}

/-- Searching for a text finds the records with this text. -/
theorem answers_findByText (ht : t.Keyed) (hall : EachStored R t) {get : R → Option String}
    (hdeclares : (Record.kind R).Declares column)
    (hcell : ∀ r, (Record.toRow r).cell column = Cell.ofText? (get r)) (pageSize : Nat)
    (text : String) :
    Answers (findByText R column pageSize text) t fun r => get r = some text := by
  refine answers_fetchAll ht hall (Filter.check_one hdeclares) ?_ pageSize
  intro r
  rw [Filter.holds_one, hcell, Predicate.holds_eq_text]

/-- Searching for a reference finds the records with this reference. -/
theorem answers_findByReference (ht : t.Keyed) (hall : EachStored R t) {get : R → Option K}
    (hdeclares : (Record.kind R).Declares column)
    (hcell : ∀ r, (Record.toRow r).cell column = Cell.ofId? (get r)) (pageSize : Nat) (k : K) :
    Answers (findByReference R column pageSize k) t fun r => get r = some k := by
  refine answers_fetchAll ht hall (Filter.check_one hdeclares) ?_ pageSize
  intro r
  rw [Filter.holds_one, hcell, Predicate.holds_eq_id]

/-- Searching for an identifier finds the record with it, since it stands under its key. -/
theorem answersOne_findById (hall : EachStored R t) (k : K) :
    AnswersOne (findById R k) t fun r => Record.id r = some k := by
  refine answersOne_fetchOne hall (check_id _ _) ?_ ?_
  · intro r
    rw [Filter.eq, Filter.holds_one, LawfulRecord.cell_id, Predicate.holds_eq_id]
  · intro x y a b ha hb hak hbk
    obtain ⟨i, hi, rfl⟩ := ha.id
    obtain ⟨j, hj, rfl⟩ := hb.id
    rw [Option.some.inj (hi.symm.trans hak), Option.some.inj (hj.symm.trans hbk)]

/-- Searching for a unique text finds the record with it. -/
theorem answersOne_findByUniqueField (ht : t.WellFormed) (hall : EachStored R t)
    {get : R → Option String} (hunique : (Record.kind R).uniqueColumn? = some column)
    (hcell : ∀ r, (Record.toRow r).cell column = Cell.ofText? (get r)) (text : String) :
    AnswersOne (findByUniqueField R text) t fun r => get r = some text := by
  have hholds : ∀ x (r : R), Stored t x r → get r = some text →
      t.HoldsText (Record.kind R) x text := by
    intro x r hr htext
    refine ⟨Record.toRow r, hr.row, ?_⟩
    rw [Tables.uniqueText?, hunique, Option.bind_some, hcell, htext]
    rfl
  have hrequest : findByUniqueField R text = fetchOne R (Filter.all.eq column (.text text)) := by
    rw [findByUniqueField, kindOf, hunique]
  rw [hrequest]
  refine answersOne_fetchOne hall
    (Filter.check_one (EntityKind.declares_of_uniqueColumn? hunique)) ?_ ?_
  · intro r
    rw [Filter.eq, Filter.holds_one, hcell, Predicate.holds_eq_text]
  · intro x y a b ha hb hatext hbtext
    exact ht.distinct _ text x y (hholds x a ha hatext) (hholds y b hb hbtext)

end Fields

/-! ## 5. Finders with several conditions -/

section Conditions

variable {filter : Filter} {column : String} {row : Row} {s value : Option String}

/-- A condition that is left out does not restrict. -/
theorem holds_narrowed (hcell : row.cell column = Cell.ofText? s) :
    (value.elim filter fun v => filter.eq column (.text v)).holds row = true ↔
      filter.holds row = true ∧ ∀ v, value = some v → s = some v := by
  cases value with
  | none => simp
  | some v =>
    rw [Option.elim_some, Filter.eq, Filter.holds_and, hcell, Predicate.holds_eq_text]
    constructor
    · rintro ⟨hfilter, h⟩
      refine ⟨hfilter, ?_⟩
      intro v' hv
      cases hv
      exact h
    · rintro ⟨hfilter, h⟩
      exact ⟨hfilter, h v rfl⟩

theorem check_narrowed {kind : EntityKind} (hfilter : filter.check kind = .ok ())
    (hdeclares : kind.Declares column) :
    (value.elim filter fun v => filter.eq column (.text v)).check kind = .ok () := by
  cases value with
  | none => exact hfilter
  | some v => exact Filter.check_and_iff.mpr ⟨hfilter, hdeclares⟩

variable {K : Type} [EntityKey K] [LawfulEntityKey K] {t : Tables}

theorem answers_findGrants (ht : t.Keyed) (hall : EachStored (Authorization K) t)
    (pageSize : Nat) (subject : String) (client : K) (status type : Option String) :
    Answers (findGrants (Authorization K) pageSize subject client status type) t fun a =>
      a.subject = some subject ∧ a.applicationId = some client ∧
        (∀ v, status = some v → a.status = some v) ∧
        ∀ v, type = some v → a.authorizationType = some v := by
  have hcheck : ((Filter.all.eq "subject" (.text subject)).eq "application_id"
      (.key (EntityKey.toKey client))).check .authorization = .ok () :=
    Filter.check_and_iff.mpr ⟨Filter.check_one (by decide), by decide⟩
  have hstatus : EntityKind.authorization.Declares "status" := by decide
  have htype : EntityKind.authorization.Declares "type" := by decide
  refine answers_fetchAll ht hall (check_narrowed (check_narrowed hcheck hstatus) htype) ?_ pageSize
  intro a
  refine (holds_narrowed a.cell_authorizationType).trans ?_
  rw [holds_narrowed a.cell_status, Filter.eq, Filter.holds_and, Filter.eq, Filter.holds_one,
    a.cell_subject, a.cell_applicationId, Predicate.holds_eq_text, Predicate.holds_eq_id,
    and_assoc, and_assoc]

theorem answers_findByNames (ht : t.Keyed) (hall : EachStored (Scope K) t) (pageSize : Nat)
    (names : List String) :
    Answers (findByNames (Scope K) pageSize names) t
      fun s => ∃ name ∈ names, s.name = some name := by
  rw [findByNames]
  split
  · next hnone =>
    rw [List.isEmpty_iff] at hnone
    refine ⟨[], rfl, .nil, ?_⟩
    intro s
    simp [hnone]
  · have hdeclares : EntityKind.scope.Declares "name" := by decide
    refine answers_fetchAll ht hall (Filter.check_one hdeclares) ?_ pageSize
    intro s
    rw [Filter.holds_one, Scope.cell_name, Predicate.holds_oneOf_texts]

end Conditions

/-! ## 6. The tables of one key type -/

section Runs

variable {key : KeyType} {t : Tables}

/-- **Finders by fields are exact.**  In tables that the stores of a key type come to and whose rows
can all be read, over pages of any size:

* a finder by subject, application, authorization or names, and the one for authorizations with its
  optional status and type, lists the records with these values, each of them once and by ascending
  identifiers;
* finding by an identifier, a client identifier, the name of a scope or the reference of a token
  answers with the one record that has it, or with none;
* authorizations have no unique text, and none is ever found by one. -/
theorem finders_exact (h : ReachableWith key t)
    (hrows : ∀ kind, ∀ row ∈ t.rows kind, ∃ r : (ModelType.ofKind kind key).Base,
      Record.ofRow row = .ok r) (pageSize : Nat) :
    (∀ subject, Answers (findBySubject (Authorization key.type) pageSize subject) t
        fun a => a.subject = some subject) ∧
    (∀ subject, Answers (findBySubject (Token key.type) pageSize subject) t
        fun m => m.subject = some subject) ∧
    (∀ client, Answers (findByApplicationId (Authorization key.type) pageSize client) t
        fun a => a.applicationId = some client) ∧
    (∀ client, Answers (findByApplicationId (Token key.type) pageSize client) t
        fun m => m.applicationId = some client) ∧
    (∀ authorization, Answers (findByAuthorizationId (Token key.type) pageSize authorization) t
        fun m => m.authorizationId = some authorization) ∧
    (∀ subject client status type,
      Answers (findGrants (Authorization key.type) pageSize subject client status type) t fun a =>
        a.subject = some subject ∧ a.applicationId = some client ∧
          (∀ v, status = some v → a.status = some v) ∧
          ∀ v, type = some v → a.authorizationType = some v) ∧
    (∀ names, Answers (findByNames (Scope key.type) pageSize names) t
        fun s => ∃ name ∈ names, s.name = some name) ∧
    (∀ kind k, AnswersOne (findById (ModelType.ofKind kind key).Base k) t
        fun r => Record.id r = some k) ∧
    (∀ text, AnswersOne (findByUniqueField (Application key.type) text) t
        fun a => a.clientId = some text) ∧
    (∀ text, AnswersOne (findByUniqueField (Scope key.type) text) t
        fun s => s.name = some text) ∧
    (∀ text, AnswersOne (findByUniqueField (Token key.type) text) t
        fun m => m.referenceId = some text) ∧
    ∀ text, (findByUniqueField (Authorization key.type) text).run t = (.ok none, t) := by
  have ht := h.wellFormed
  have hall := fun kind => h.eachStored kind (hrows kind)
  have happlications : EachStored (Application key.type) t := hall .application
  have hauthorizations : EachStored (Authorization key.type) t := hall .authorization
  have hscopes : EachStored (Scope key.type) t := hall .scope
  have htokens : EachStored (Token key.type) t := hall .token
  -- by text, by reference, by several columns, by names, by identifier and by unique text
  refine ⟨?_, ?_, ?_, ?_, ?_, ?_, ?_, ?_, ?_, ?_, ?_, ?_⟩
  · have hdeclares : EntityKind.authorization.Declares "subject" := by decide
    exact answers_findByText ht.keyed hauthorizations hdeclares Authorization.cell_subject pageSize
  · have hdeclares : EntityKind.token.Declares "subject" := by decide
    exact answers_findByText ht.keyed htokens hdeclares Token.cell_subject pageSize
  · have hdeclares : EntityKind.authorization.Declares "application_id" := by decide
    exact answers_findByReference ht.keyed hauthorizations hdeclares
      Authorization.cell_applicationId pageSize
  · have hdeclares : EntityKind.token.Declares "application_id" := by decide
    exact answers_findByReference ht.keyed htokens hdeclares Token.cell_applicationId pageSize
  · have hdeclares : EntityKind.token.Declares "authorization_id" := by decide
    exact answers_findByReference ht.keyed htokens hdeclares cell_authorizationId pageSize
  · exact answers_findGrants ht.keyed hauthorizations pageSize
  · exact answers_findByNames ht.keyed hscopes pageSize
  · intro kind
    exact answersOne_findById (hall kind)
  · exact answersOne_findByUniqueField ht happlications rfl Application.cell_clientId
  · exact answersOne_findByUniqueField ht hscopes rfl Scope.cell_name
  · exact answersOne_findByUniqueField ht htokens rfl Token.cell_referenceId
  · intro text
    rfl

theorem exists_ok_of_isOk {α : Type} {x : Except StoreError α} (h : x.isOk = true) :
    ∃ a, x = .ok a := by
  cases x with
  | error e => cases h
  | ok a => exact ⟨a, rfl⟩

/-- A grant to an application, for examples. -/
def granted (status : Option String) : Authorization Int32 :=
  { subject := some "ann", applicationId := some 7, status }

/-- Tables after grants and scopes were created, for examples. -/
def searchable : Tables :=
  [Scope.named "write", Scope.named "read"].foldl
    (fun t s => ((create ⟨0⟩ ⟨1⟩ (s : Scope Int32)).run t).2)
    ([granted none, granted (some "valid"), granted (some "valid")].foldl
      (fun t a => ((create ⟨0⟩ ⟨1⟩ a).run t).2) .empty)

/-- Of three grants two are valid, which are listed over pages of one.  The scopes are listed by
their identifiers and not by the given names, and each is found by its name. -/
theorem finders_exact_searchable :
    ReachableWith .int32 searchable ∧
      (∀ kind, ∀ row ∈ searchable.rows kind,
        ∃ r : (ModelType.ofKind kind .int32).Base, Record.ofRow row = .ok r) ∧
      (∃ found, (findGrants (Authorization Int32) 1 "ann" 7 (some "valid") none).run searchable =
          (.ok found, searchable) ∧ found.Pairwise Precedes ∧
        stamped 2 ⟨1⟩ (granted (some "valid")) ∈ found ∧
        ∀ a ∈ found, a.status = some "valid") ∧
      (∃ found, (findByNames (Scope Int32) 1 ["read", "write", "read"]).run searchable =
          (.ok found, searchable) ∧ found.Pairwise Precedes ∧
        stamped 2 ⟨1⟩ (Scope.named "read") ∈ found) ∧
      (findByUniqueField (Scope Int32) "read").run searchable =
        (.ok (some (stamped 2 ⟨1⟩ (Scope.named "read"))), searchable) ∧
      (findByUniqueField (Authorization Int32) "read").run searchable = (.ok none, searchable) := by
  have hcreate : ∀ (a : Authorization Int32) {t : Tables}, ReachableWith .int32 t →
      ReachableWith .int32 ((create ⟨0⟩ ⟨1⟩ a).run t).2 := by
    intro a t h
    exact .create .authorization (M := (ModelType.ofKind .authorization .int32).Base) ⟨0⟩ ⟨1⟩ a
      h
  have hcreateScope : ∀ (s : Scope Int32) {t : Tables}, ReachableWith .int32 t →
      ReachableWith .int32 ((create ⟨0⟩ ⟨1⟩ s).run t).2 := by
    intro s t h
    exact .create .scope (M := (ModelType.ofKind .scope .int32).Base) ⟨0⟩ ⟨1⟩ s h
  have hreach : ReachableWith .int32 searchable :=
    hcreateScope _ (hcreateScope _ (hcreate _ (hcreate _ (hcreate _ .empty))))
  -- together, so that the tables are computed once
  obtain ⟨happlications, htokens, hgrants, hscopes, hvalid, hscope⟩ :
      searchable.rows .application = [] ∧ searchable.rows .token = [] ∧
      (∀ row ∈ searchable.rows .authorization,
        (Record.ofRow row : Except StoreError (Authorization Int32)).isOk = true) ∧
      (∀ row ∈ searchable.rows .scope,
        (Record.ofRow row : Except StoreError (Scope Int32)).isOk = true) ∧
      searchable.row? .authorization (.int 2) =
        some (Record.toRow (stamped 2 ⟨1⟩ (granted (some "valid")))) ∧
      searchable.row? .scope (.int 2) =
        some (Record.toRow (stamped 2 ⟨1⟩ (Scope.named "read" : Scope Int32))) := by
    decide +kernel
  have hrows : ∀ kind, ∀ row ∈ searchable.rows kind,
      ∃ r : (ModelType.ofKind kind .int32).Base, Record.ofRow row = .ok r := by
    intro kind row hrow
    cases kind with
    | application => exact absurd (happlications ▸ hrow) List.not_mem_nil
    | authorization => exact exists_ok_of_isOk (hgrants row hrow)
    | scope => exact exists_ok_of_isOk (hscopes row hrow)
    | token => exact absurd (htokens ▸ hrow) List.not_mem_nil
  have hgrant : IsRecordOf searchable (stamped 2 ⟨1⟩ (granted (some "valid"))) :=
    isRecordOf_of_stored (x := .int 2) ⟨hvalid, ⟨2, rfl, rfl⟩, ⟨_, rfl⟩⟩
  have hread : IsRecordOf searchable (stamped 2 ⟨1⟩ (Scope.named "read" : Scope Int32)) :=
    isRecordOf_of_stored (x := .int 2) ⟨hscope, ⟨2, rfl, rfl⟩, ⟨_, rfl⟩⟩
  obtain ⟨-, -, -, -, -, hfind, hnames, -, -, hname, -, hnever⟩ := finders_exact hreach hrows 1
  refine ⟨hreach, hrows, ?_, ?_, ?_, hnever "read"⟩
  · obtain ⟨found, hrun, hascending, hfound⟩ := hfind "ann" (7 : Int32) (some "valid") none
    refine ⟨found, hrun, hascending, ?_, ?_⟩
    · refine (hfound _).mpr ⟨hgrant, rfl, rfl, fun v hv => hv, ?_⟩
      intro v hv
      cases hv
    · intro a ha
      obtain ⟨-, -, -, hstatus, -⟩ := (hfound a).mp ha
      exact hstatus "valid" rfl
  · obtain ⟨found, hrun, hascending, hfound⟩ := hnames ["read", "write", "read"]
    refine ⟨found, hrun, hascending, (hfound _).mpr ⟨hread, ?_⟩⟩
    exact ⟨"read", List.mem_cons_self, rfl⟩
  · obtain ⟨found, hrun, hfound⟩ := hname "read"
    rw [(hfound _).mpr ⟨hread, rfl⟩] at hrun
    exact hrun

end Runs

end Store

end GrantLedger
