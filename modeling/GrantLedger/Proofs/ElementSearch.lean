import GrantLedger.Proofs.EncodedColumns
import GrantLedger.Proofs.Listing
import GrantLedger.Proofs.ReadYourWrites

/-!
# Searching encoded lists for an element

A finder that looks for an element of an encoded list asks the tables for the rows whose text has
the quoted element as a part, decodes the lists of these, and keeps those that do hold the element.
The first step may find too many rows and must not miss one; the second makes the answer exact.

* `Codec.containsText_of_mem`: a quoted element stands in the text of every list that holds it,
  whatever characters it is made of.
* `lists_findByElement`: over rows whose lists were encoded, the finder lists the entities whose
  list holds the element, and fails for none.

`element_search_exact` says this of the three finders of this kind.
-/

namespace GrantLedger

/-! ## 1. The quoted element in the text of a list -/

/-- A piece stands in what it is joined to. -/
theorem infix_intercalate {α : Type} {sep piece : List α} {pieces : List (List α)}
    (h : piece ∈ pieces) : piece <:+: sep.intercalate pieces := by
  induction pieces with
  | nil => cases h
  | cons first rest ih =>
    cases rest with
    | nil =>
      rw [List.mem_singleton.mp h, List.intercalate_singleton]
    | cons second rest =>
      rw [List.intercalate_cons_cons]
      rcases List.mem_cons.mp h with rfl | h
      · exact ⟨[], sep ++ sep.intercalate (second :: rest), by simp⟩
      · exact (ih h).trans (List.suffix_append (first ++ sep) _).isInfix

namespace Codec

/-- **The quoted element stands in the text of every list that holds it.** -/
theorem containsText_of_mem {values : List String} {value text : String} (hmem : value ∈ values)
    (htext : encodeList values = some text) :
    containsText (Json.str value).render text = true := by
  have hquoted : (Json.str value).render.toList = Json.renderString value := by
    rw [Json.render, String.toList_ofList, Json.renderChars]
  rw [encodeList_eq, if_neg (List.ne_nil_of_mem hmem)] at htext
  cases htext
  rw [containsText_iff, hquoted, String.toList_ofList]
  have hitem : Json.renderString value <:+: [','].intercalate (values.map Json.renderString) :=
    infix_intercalate (List.mem_map_of_mem hmem)
  exact hitem.trans ⟨['['], [']'], by simp⟩

end Codec

/-- A column holds no text or the text of a list. -/
def Row.EncodesList (row : Row) (column : String) : Prop :=
  ∃ values, row.cell column = Cell.ofText? (Codec.encodeList values)

namespace Store

/-! ## 2. Fields that are read from their columns -/

/-- A record that is read from a row has the text of the column in the field. -/
def IsRead {R K : Type} [Record R K] (field : TextField R) : Prop :=
  ∀ {row : Row} {r : R}, Record.ofRow row = .ok r → row.readText field.column = .ok (field.get r)

section Fields

variable {K : Type} [EntityKey K]

theorem isRead_redirectUrisField : IsRead (Application.redirectUrisField (K := K)) := by
  intro row r h
  change Application.ofRow row = .ok r at h
  simp only [Application.ofRow_eq, bind_eq_ok_iff] at h
  obtain ⟨_, -, _, -, _, -, _, -, _, -, _, -, _, -, _, -, _, -, _, -, _, huris, _, -, _, -, h⟩ := h
  cases h
  exact huris

theorem isRead_postLogoutRedirectUrisField :
    IsRead (Application.postLogoutRedirectUrisField (K := K)) := by
  intro row r h
  change Application.ofRow row = .ok r at h
  simp only [Application.ofRow_eq, bind_eq_ok_iff] at h
  obtain ⟨_, -, _, -, _, -, _, -, _, -, _, -, _, -, _, -, _, huris, _, -, _, -, _, -, _, -, h⟩ := h
  cases h
  exact huris

theorem isRead_resourcesField : IsRead (Scope.resourcesField (K := K)) := by
  intro row r h
  change Scope.ofRow row = .ok r at h
  simp only [Scope.ofRow_eq, bind_eq_ok_iff] at h
  obtain ⟨_, -, _, -, _, -, _, -, _, -, _, -, _, -, _, -, _, hresources, h⟩ := h
  cases h
  exact hresources

end Fields

/-! ## 3. The finder -/

section Search

variable {M R K : Type} [Model M R K] {field : TextField R} {t : Tables}

/-- Whether the list in a column of an entity can be read and holds a text. -/
def holdsElement (field : TextField R) (value : String) (m : M) : Bool :=
  match texts field m with
  | .ok values => values.contains value
  | .error _ => false

theorem holdsElement_iff {value : String} {m : M} : holdsElement field value m = true ↔
    ∃ values, texts field m = .ok values ∧ value ∈ values := by
  unfold holdsElement
  cases texts field m with
  | error e => simp
  | ok values => simp

/-- Candidates whose lists can be read are kept exactly if these hold the text. -/
theorem keepHolding_eq_filter {value : String} {candidates : List M}
    (h : ∀ m ∈ candidates, ∃ values, texts field m = .ok values) :
    keepHolding field value candidates = .ok (candidates.filter (holdsElement field value)) := by
  induction candidates with
  | nil => rfl
  | cons m rest ih =>
    obtain ⟨values, hvalues⟩ := h m List.mem_cons_self
    have hholds : holdsElement field value m = values.contains value := by
      rw [holdsElement, hvalues]
    rw [keepHolding, hvalues, ih fun m hm => h m (List.mem_cons_of_mem _ hm), ok_bind, ok_bind,
      List.filter_cons, hholds]
    rfl

theorem text?_of_readText {row : Row} {column : String} {text : Option String}
    (h : row.readText column = .ok text) : (row.cell column).text? = text := by
  rw [Row.readText_eq] at h
  cases hcell : row.cell column <;> rw [hcell] at h <;> cases h <;> rfl

variable [Record R K] [ReadableModel M]

/-- The list of an entity is the one that its row encodes. -/
theorem texts_of_decode (hfield : IsRead field) {row : Row} {m : M} (h : decode row = .ok m)
    {values : List String}
    (hvalues : row.cell field.column = Cell.ofText? (Codec.encodeList values)) :
    field.get (Model.base m) = Codec.encodeList values ∧ texts field m = .ok values := by
  have hread := hfield (ofRow_of_decode h)
  rw [Row.readText_eq, hvalues, Cell.asText_ofText?] at hread
  have hget := (Except.ok.inj hread).symm
  rw [texts, hget]
  exact ⟨rfl, Codec.decodeList_encodeList values⟩

/-- **Searching for an element is exact.**  The candidates are those whose text has the quoted
element as a part; every entity whose list holds the element is one of them. -/
theorem lists_findByElement (ht : t.Keyed) (hfield : IsRead field)
    (hdeclares : (kindOf M).Declares field.column)
    (hrows : ∀ row ∈ t.rows (kindOf M), ∃ m : M, decode row = .ok m)
    (hlists : ∀ row ∈ t.rows (kindOf M), row.EncodesList field.column) (pageSize : Nat)
    (value : String) :
    Lists (findByElement M field pageSize value) t
      fun m => ∃ values, texts field m = .ok values ∧ value ∈ values := by
  have hcheck : (Filter.all.and field.column (.contains (Json.str value).render)).check
      (kindOf M) = .ok () := Filter.check_one hdeclares
  obtain ⟨found, hrun, hascending, hfound⟩ := lists_fetchAll (M := M) ht hcheck hrows
    (P := fun m => (field.get (Model.base m)).any (containsText (Json.str value).render) = true)
    (fun key row m hrow hm => by
      rw [← text?_of_readText (hfield (ofRow_of_decode hm))]
      simp [Filter.holds, Filter.and, Filter.all, Condition.holds, Predicate.holds]) pageSize
  have htexts : ∀ key (m : M), ShownAt t key m → ∃ values,
      field.get (Model.base m) = Codec.encodeList values ∧ texts field m = .ok values := by
    rintro key m ⟨row, hrow, hm⟩
    obtain ⟨values, hvalues⟩ := hlists row (Tables.mem_rows.mpr ⟨key, hrow⟩)
    exact ⟨values, texts_of_decode hfield hm hvalues⟩
  refine ⟨found.filter fun p => holdsElement field value p.2, ?_, hascending.filter _,
    fun key m => ?_⟩
  · have hkept : keepHolding field value (found.map Prod.snd) =
        .ok ((found.map Prod.snd).filter (holdsElement field value)) := by
      refine keepHolding_eq_filter fun m hm => ?_
      obtain ⟨p, hp, rfl⟩ := List.mem_map.mp hm
      obtain ⟨values, -, hvalues⟩ := htexts p.1 p.2 ((hfound p.1 p.2).mp hp).1
      exact ⟨values, hvalues⟩
    rw [findByElement, Request.run_bind, hrun]
    dsimp only
    rw [hkept, List.filter_map]
    rfl
  · rw [List.mem_filter, hfound, holdsElement_iff]
    constructor
    · rintro ⟨⟨hshown, -⟩, hholds⟩
      exact ⟨hshown, hholds⟩
    · rintro ⟨hshown, values, hvalues, hmem⟩
      refine ⟨⟨hshown, ?_⟩, values, hvalues, hmem⟩
      obtain ⟨stored, hget, hstored⟩ := htexts key m hshown
      cases Except.ok.inj (hvalues.symm.trans hstored)
      -- the list is not empty, so that it is encoded as a text
      cases htext : Codec.encodeList values with
      | none =>
        rw [Codec.encodeList_eq, if_neg (List.ne_nil_of_mem hmem)] at htext
        cases htext
      | some text =>
        rw [hget, htext, Option.any_some]
        exact Codec.containsText_of_mem hmem htext

end Search

/-! ## 4. The three finders -/

section Finders

variable {A S K L : Type} [EntityKey K] [EntityKey L] [Model A (Application K) K]
variable [Model S (Scope L) L] [ReadableModel A] [ReadableModel S]

/-- **Finders by an element of a list are exact.**  All applications and scopes can be decoded, and
their lists of URIs and resources are absent or were encoded.  Then searching for any text, in pages
of any size, lists the entities whose list holds it, each of them once and by ascending keys. -/
theorem element_search_exact {t : Tables} (h : Tables.Reachable t)
    (happlications : ∀ row ∈ t.rows .application, (∃ a : A, decode row = .ok a) ∧
      row.EncodesList "redirect_uris" ∧ row.EncodesList "post_logout_redirect_uris")
    (hscopes : ∀ row ∈ t.rows .scope, (∃ s : S, decode row = .ok s) ∧
      row.EncodesList "resources")
    (pageSize : Nat) (value : String) :
    Lists (findByRedirectUri A pageSize value) t
      (fun a => ∃ uris, texts Application.redirectUrisField a = .ok uris ∧ value ∈ uris) ∧
    Lists (findByPostLogoutRedirectUri A pageSize value) t
      (fun a => ∃ uris, texts Application.postLogoutRedirectUrisField a = .ok uris ∧
        value ∈ uris) ∧
    Lists (findByResource S pageSize value) t
      (fun s => ∃ resources, texts Scope.resourcesField s = .ok resources ∧
        value ∈ resources) := by
  have ht := h.wellFormed.keyed
  have hcolumns : EntityKind.application.Declares "redirect_uris" ∧
      EntityKind.application.Declares "post_logout_redirect_uris" ∧
      EntityKind.scope.Declares "resources" := by
    simp [EntityKind.Declares, EntityKind.columns]
  obtain ⟨hredirect, hlogout, hresources⟩ := hcolumns
  refine ⟨?_, ?_, ?_⟩
  · exact lists_findByElement ht isRead_redirectUrisField hredirect
      (fun row hrow => (happlications row hrow).1)
      (fun row hrow => (happlications row hrow).2.1) pageSize value
  · exact lists_findByElement ht isRead_postLogoutRedirectUrisField hlogout
      (fun row hrow => (happlications row hrow).1)
      (fun row hrow => (happlications row hrow).2.2) pageSize value
  · exact lists_findByElement ht isRead_resourcesField hresources
      (fun row hrow => (hscopes row hrow).1) (fun row hrow => (hscopes row hrow).2) pageSize value

/-- A client with redirect URIs, for examples. -/
def clientAt (uris : List String) : Application String :=
  setTexts Application.redirectUrisField {} uris

/-- A scope with resources. -/
def scopeFor (resources : List String) : Scope Int64 := setTexts Scope.resourcesField {} resources

theorem encodesList_clientAt (uris : List String) (id : String) :
    (rowUnder (clientAt uris) id).EncodesList "redirect_uris" ∧
      (rowUnder (clientAt uris) id).EncodesList "post_logout_redirect_uris" := by
  have hcells : (clientAt uris).toRow.cell "redirect_uris" =
        Cell.ofText? (Codec.encodeList uris) ∧
      (clientAt uris).toRow.cell "post_logout_redirect_uris" =
        Cell.ofText? (Codec.encodeList []) := by
    constructor <;>
      simp [Application.toRow, Row.cell_ofList, List.lookup_cons, clientAt, setTexts, setText,
        Model.withBase, Application.redirectUrisField, Model.base, Codec.encodeList]
  refine ⟨⟨uris, ?_⟩, ⟨[], ?_⟩⟩
  · rw [rowUnder, Row.cell_set_of_ne _ (by decide)]
    exact hcells.1
  · rw [rowUnder, Row.cell_set_of_ne _ (by decide)]
    exact hcells.2

theorem encodesList_scopeFor (resources : List String) (id : Int64) :
    (rowUnder (scopeFor resources) id).EncodesList "resources" := by
  refine ⟨resources, ?_⟩
  rw [rowUnder, Row.cell_set_of_ne _ (by decide)]
  change (scopeFor resources).toRow.cell "resources" = _
  simp [Scope.toRow, Row.cell_ofList, scopeFor, setTexts, setText, Model.withBase,
    Scope.resourcesField, Model.base]

theorem texts_clientAt (uris : List String) (id : String) :
    texts Application.redirectUrisField (Record.withId (clientAt uris) id) = .ok uris :=
  Codec.decodeList_encodeList uris

theorem texts_scopeFor (resources : List String) (id : Int64) :
    texts Scope.resourcesField (Record.withId (scopeFor resources) id) = .ok resources :=
  Codec.decodeList_encodeList resources

/-- Two clients and a scope.  The text of the second client's list has the quoted `q` as a part, and
no element of it is `q`. -/
def searched : Tables :=
  [(EntityKind.application, rowUnder (clientAt ["q", "r"]) "a"),
    (EntityKind.application, rowUnder (clientAt ["p\"q"]) "b"),
    (EntityKind.scope, (scopeFor ["a\\b\n", ""]).toRow)].foldl
    (fun t r => (Tables.Operation.insert r.1 r.2).apply t) .empty

/-- The first client is found by `q`, and the second one is not although it is a candidate.  The
scope is found by a text with a backslash and a line break. -/
theorem element_search_exact_searched :
    Tables.Reachable searched ∧
      (((clientAt ["p\"q"]).redirectUris).any (containsText (Json.str "q").render) = true) ∧
      (∃ found, (findByRedirectUri (Application String) 1 "q").run searched =
        (.ok found, searched) ∧ Record.withId (clientAt ["q", "r"]) "a" ∈ found ∧
        Record.withId (clientAt ["p\"q"]) "b" ∉ found) ∧
      ∃ found, (findByResource (Scope Int64) 1 "a\\b\n").run searched = (.ok found, searched) ∧
        Record.withId (scopeFor ["a\\b\n", ""]) 1 ∈ found := by
  have hreach : Tables.Reachable searched := Tables.reachable_foldl_insert _ .empty
  have happlications : searched.rows .application =
      [rowUnder (clientAt ["q", "r"]) "a", rowUnder (clientAt ["p\"q"]) "b"] := by
    decide +kernel
  have hscopes : searched.rows .scope = [rowUnder (scopeFor ["a\\b\n", ""]) 1] := by
    decide +kernel
  have hclients : ∀ row ∈ searched.rows .application,
      (∃ a : Application String, decode row = .ok a) ∧
        row.EncodesList "redirect_uris" ∧ row.EncodesList "post_logout_redirect_uris" := by
    rw [happlications]
    intro row hrow
    rcases List.mem_pair.mp hrow with rfl | rfl
    · exact ⟨⟨_, decode_rowUnder _ _⟩, encodesList_clientAt _ _⟩
    · exact ⟨⟨_, decode_rowUnder _ _⟩, encodesList_clientAt _ _⟩
  have hresources : ∀ row ∈ searched.rows .scope,
      (∃ s : Scope Int64, decode row = .ok s) ∧ row.EncodesList "resources" := by
    rw [hscopes]
    intro row hrow
    rw [List.mem_singleton.mp hrow]
    exact ⟨⟨_, decode_rowUnder _ _⟩, encodesList_scopeFor _ _⟩
  obtain ⟨⟨found, hrun, -, hfound⟩, -⟩ :=
    element_search_exact (A := Application String) hreach hclients hresources 1 "q"
  obtain ⟨-, -, scopes, hscopesRun, -, hscopesFound⟩ :=
    element_search_exact (A := Application String) hreach hclients hresources 1 "a\\b\n"
  refine ⟨hreach, by decide +kernel, ⟨_, hrun, ?_, ?_⟩, _, hscopesRun, ?_⟩
  · refine List.mem_map.mpr ⟨(.text "a", _), (hfound _ _).mpr ?_, rfl⟩
    exact ⟨⟨rowUnder (clientAt ["q", "r"]) "a", by decide +kernel, decode_rowUnder _ _⟩,
      ["q", "r"], texts_clientAt _ _, by simp⟩
  · intro hmem
    obtain ⟨p, hp, heq⟩ := List.mem_map.mp hmem
    obtain ⟨-, uris, huris, hq⟩ := (hfound p.1 p.2).mp hp
    rw [heq, texts_clientAt] at huris
    rw [← Except.ok.inj huris] at hq
    simp at hq
  · refine List.mem_map.mpr ⟨(.int 1, _), (hscopesFound _ _).mpr ?_, rfl⟩
    exact ⟨⟨rowUnder (scopeFor ["a\\b\n", ""]) 1, by decide +kernel, decode_rowUnder _ _⟩,
      ["a\\b\n", ""], texts_scopeFor _ _, by simp⟩

end Finders

end Store

end GrantLedger
