import GrantLedger.Proofs.SqlTexts

/-!
# Placeholders and parameters

The database finds the placeholders of a statement in its text: a dollar sign with a number, outside
quotes (`placeholders`).  Names and literals can hold anything, dollar signs and quotes included, so
that a text has to be read from its beginning to tell what stands outside.

* `Shows.placeholders_eq`: reading finds the slots of a sequence of tokens, if the texts between are
  `Legible`.
* `Clause.shows`, `Command.placeholders_text`: what a syntax tree shows are the slots that stand in
  it, from left to right, over every clause and every command.
* `slots_bindConditions`: filters number their parameters in turn, from any number on.
* `placeholders_match`: the main result.  The placeholders of every statement are the numbers of its
  parameters; and they follow one another, unless a parameter is needed at several places.
-/

namespace GrantLedger

namespace Sql

/-! ## 1. Reading a text -/

/-- The numbers of the placeholders in a text, from left to right, outside quotes or after an open
one.  A quote that is written twice inside quotes closes them and opens them again. -/
def placeholdersFrom : Option Char → List Char → List Nat
  | _, [] => []
  | none, c :: rest =>
    if c = '$' then
      (Numeral.readNat? (rest.takeWhile Char.isDigit)).toList ++ placeholdersFrom none rest
    else placeholdersFrom (if c = '"' ∨ c = '\'' then some c else none) rest
  | some quote, c :: rest => placeholdersFrom (if c = quote then none else some quote) rest

/-- The numbers of the placeholders in a text, from left to right. -/
def placeholders (text : String) : List Nat := placeholdersFrom none text.toList

/-- A text that can stand outside quotes: it begins neither a quotation nor a placeholder, and does
not continue the number of one. -/
structure Legible (text : String) : Prop where
  inert : ∀ c ∈ text.toList, c ≠ '$' ∧ c ≠ '"' ∧ c ≠ '\''
  start : ∀ c ∈ text.toList.head?, c.isDigit = false

theorem legible_iff {text : String} :
    (text.toList.all (fun c => c != '$' && c != '"' && c != '\'') &&
      text.toList.head?.all fun c => !c.isDigit) = true ↔ Legible text := by
  rw [Bool.and_eq_true, List.all_eq_true, Option.all_eq_true]
  simp only [Bool.and_eq_true, bne_iff_ne, and_assoc, Bool.not_eq_true']
  exact ⟨fun ⟨h, h'⟩ => ⟨h, h'⟩, fun ⟨h, h'⟩ => ⟨h, h'⟩⟩

instance (text : String) : Decidable (Legible text) := decidable_of_iff _ legible_iff

theorem Legible.append {s t : String} (hs : Legible s) (ht : Legible t) : Legible (s ++ t) where
  inert c hc := by
    rw [String.toList_append, List.mem_append] at hc
    exact hc.elim (hs.inert c) (ht.inert c)
  start c hc := by
    rw [String.toList_append, List.head?_append, Option.mem_def, Option.or_eq_some_iff] at hc
    exact hc.elim (hs.start c) fun h => ht.start c h.2

section Reading

variable {rest : List Char}

theorem placeholdersFrom_inert {l : List Char} (h : ∀ c ∈ l, c ≠ '$' ∧ c ≠ '"' ∧ c ≠ '\'') :
    placeholdersFrom none (l ++ rest) = placeholdersFrom none rest := by
  induction l with
  | nil => rfl
  | cons c l ih =>
    rw [List.forall_mem_cons] at h
    obtain ⟨⟨hdollar, hdouble, hsingle⟩, hl⟩ := h
    rw [List.cons_append, placeholdersFrom, if_neg hdollar, if_neg (by simp [hdouble, hsingle]),
      ih hl]

/-- What stands in quotes is passed over to the quote that closes them. -/
theorem placeholdersFrom_doubleQuotes {quote : Char} (hquote : quote = '"' ∨ quote = '\'')
    (l : List Char) :
    placeholdersFrom (some quote) (doubleQuotes quote l ++ quote :: rest) =
      placeholdersFrom none rest := by
  induction l with
  | nil => rw [doubleQuotes, List.nil_append, placeholdersFrom, if_pos rfl]
  | cons c l ih =>
    rw [doubleQuotes]
    split
    · -- the first one closes the quotes and the second one opens them
      have hdollar : quote ≠ '$' := by rcases hquote with rfl | rfl <;> decide
      rw [List.cons_append, List.cons_append, placeholdersFrom, if_pos rfl, placeholdersFrom,
        if_neg hdollar, if_pos hquote, ih]
    · next hne => rw [List.cons_append, placeholdersFrom, if_neg hne, ih]

theorem placeholdersFrom_quoted {quote : Char} (hquote : quote = '"' ∨ quote = '\'')
    (l : List Char) :
    placeholdersFrom none (quoted quote l ++ rest) = placeholdersFrom none rest := by
  have hdollar : quote ≠ '$' := by rcases hquote with rfl | rfl <;> decide
  rw [quoted, List.cons_append, List.cons_append, placeholdersFrom, if_neg hdollar, if_pos hquote,
    List.append_assoc, List.singleton_append, placeholdersFrom_doubleQuotes hquote]

end Reading

/-- The number of a placeholder ends where the digits do. -/
theorem placeholdersFrom_slot {rest : List Char} (h : ∀ c ∈ rest.head?, c.isDigit = false)
    (number : Nat) : placeholdersFrom none (Token.chars (.slot number) ++ rest) =
      number :: placeholdersFrom none rest := by
  have hrest : rest.takeWhile Char.isDigit = [] := by
    cases rest with
    | nil => rfl
    | cons c rest => rw [List.takeWhile_cons, h c rfl, if_neg Bool.false_ne_true]
  have hdigits : (Numeral.digits number ++ rest).takeWhile Char.isDigit =
      Numeral.digits number := by
    rw [List.takeWhile_append_of_pos fun c hc => Numeral.isDigit_of_mem_digits hc, hrest,
      List.append_nil]
  have hinert : ∀ c ∈ Numeral.digits number, c ≠ '$' ∧ c ≠ '"' ∧ c ≠ '\'' := by
    intro c hc
    have hdigit := Numeral.isDigit_of_mem_digits hc
    refine ⟨?_, ?_, ?_⟩ <;> rintro rfl <;> cases hdigit
  rw [Token.chars, List.cons_append, placeholdersFrom, if_pos rfl, hdigits,
    Numeral.readNat?_digits, placeholdersFrom_inert hinert]
  rfl

/-! ## 2. Tokens -/

/-- Tokens with legible texts between their names, literals and slots, and the numbers of the slots
from left to right. -/
inductive Shows : List Token → List Nat → Prop
  | nil : Shows [] []
  | plain {tokens : List Token} {numbers : List Nat} (text : String) (legible : Legible text)
      (rest : Shows tokens numbers) : Shows (.plain text :: tokens) numbers
  | name {tokens : List Token} {numbers : List Nat} (identifier : String)
      (rest : Shows tokens numbers) : Shows (.name identifier :: tokens) numbers
  | literal {tokens : List Token} {numbers : List Nat} (text : String)
      (rest : Shows tokens numbers) : Shows (.literal text :: tokens) numbers
  | slot {tokens : List Token} {numbers : List Nat} (number : Nat)
      (rest : Shows tokens numbers) : Shows (.slot number :: tokens) (number :: numbers)

namespace Shows

variable {tokens others : List Token} {numbers more : List Nat}

/-- Nothing that is shown continues the number of a placeholder before it. -/
theorem head_not_digit (h : Shows tokens numbers) :
    ∀ c ∈ (tokens.flatMap Token.chars).head?, c.isDigit = false := by
  induction h with
  | nil => exact fun c hc => by cases hc
  | plain text legible _ ih =>
    intro c hc
    rw [List.flatMap_cons, List.head?_append, Option.mem_def, Option.or_eq_some_iff] at hc
    exact hc.elim (legible.start c) fun hc => ih c hc.2
  | name | literal | slot =>
    intro c hc
    cases hc
    decide

/-- **Reading finds what is shown.** -/
theorem placeholders_eq (h : Shows tokens numbers) :
    placeholders (renderTokens tokens) = numbers := by
  rw [placeholders, renderTokens, String.toList_ofList]
  induction h with
  | nil => rfl
  | plain text legible _ ih =>
    rw [List.flatMap_cons, Token.chars, placeholdersFrom_inert legible.inert, ih]
  | name identifier _ ih =>
    rw [List.flatMap_cons, Token.chars, placeholdersFrom_quoted (.inl rfl), ih]
  | literal text _ ih =>
    rw [List.flatMap_cons, Token.chars, placeholdersFrom_quoted (.inr rfl), ih]
  | slot number rest ih =>
    rw [List.flatMap_cons, placeholdersFrom_slot rest.head_not_digit, ih]

example : placeholders "\"a\"\"$9\" = $12 OR b = 'c''$3' OR d = $2" = [12, 2] := by decide

theorem append (h : Shows tokens numbers) (h' : Shows others more) :
    Shows (tokens ++ others) (numbers ++ more) := by
  induction h with
  | nil => exact h'
  | plain text legible _ ih => exact .plain text legible ih
  | name identifier _ ih => exact .name identifier ih
  | literal text _ ih => exact .literal text ih
  | slot number _ ih => exact .slot number ih

theorem append_plain (h : Shows tokens numbers) (text : String) (legible : Legible text) :
    Shows (tokens ++ [.plain text]) numbers := by
  have := h.append (.plain text legible .nil)
  rwa [List.append_nil] at this

theorem parenthesized (h : Shows tokens numbers) (needed : Bool) :
    Shows (Sql.parenthesized needed tokens) numbers := by
  cases needed with
  | false => exact h
  | true => exact .plain _ (by decide) (h.append_plain _ (by decide))

theorem separated {α : Type} {f : α → List Token} {g : α → List Nat} (separator : String)
    (hseparator : Legible separator) {l : List α} (h : ∀ a ∈ l, Shows (f a) (g a)) :
    Shows (Sql.separated separator (l.map f)) (l.flatMap g) := by
  induction l with
  | nil => exact nil
  | cons a l ih =>
    rw [List.forall_mem_cons] at h
    cases l with
    | nil => simpa [Sql.separated] using h.1
    | cons b l => exact h.1.append (.plain _ hseparator (ih h.2))

theorem separated_silent {α : Type} {f : α → List Token} (separator : String)
    (hseparator : Legible separator) {l : List α} (h : ∀ a ∈ l, Shows (f a) []) :
    Shows (Sql.separated separator (l.map f)) [] := by
  have := separated separator hseparator (g := fun _ => []) h
  rwa [List.flatMap_eq_nil_iff.mpr fun _ _ => rfl] at this

theorem commas_names (names : List String) : Shows (commas (names.map .name)) [] := by
  rw [commas, List.map_map]
  exact separated_silent _ (by decide) fun name _ => .name name .nil

theorem commas_slots (numbers : List Nat) : Shows (commas (numbers.map .slot)) numbers := by
  rw [commas, List.map_map]
  have := separated ", " (by decide) (f := fun n => [.slot n]) (g := fun n => [n])
    (l := numbers) fun n _ => .slot n .nil
  rwa [List.flatMap_singleton'] at this

end Shows

/-! ## 3. Syntax trees -/

/-- The parameters of an operand. -/
def Operand.slots : Operand → List Nat
  | .slot n => [n]
  | .column _ | .literal _ => []

/-- The letters of tables in an operand. -/
def Operand.owners : Operand → List String
  | .column c => c.owner.toList
  | .slot _ | .literal _ => []

namespace Clause

/-- The parameters of a condition, from left to right. -/
def slots : Clause → List Nat
  | .compare _ a b => a.slots ++ b.slots
  | .isNull _ | .isNotNull _ | .never | .inBatch _ => []
  | .like _ n => [n]
  | .oneOf _ numbers => numbers
  | .and a b | .or a b => a.slots ++ b.slots
  | .inTable _ _ condition | .notExists _ _ condition => condition.slots

/-- The letters of tables in a condition. -/
def owners : Clause → List String
  | .compare _ a b => a.owners ++ b.owners
  | .isNull c | .isNotNull c | .like c _ | .oneOf c _ | .inBatch c => c.owner.toList
  | .never => []
  | .and a b | .or a b => a.owners ++ b.owners
  | .inTable c _ condition => c.owner.toList ++ condition.owners
  | .notExists _ owner condition => owner :: condition.owners

end Clause

/-- The letters of the tables of a batch. -/
def Batch.owners (b : Batch) : List String :=
  b.owner :: (b.join.toList.flatMap fun j => j.owner :: j.reference.owner.toList) ++
    b.condition.owners

namespace Command

/-- The parameters of a command, from left to right. -/
def slots : Command → List Nat
  | .insert _ columns => List.range' 1 columns.length
  | .update _ columns condition => List.range' 1 columns.length ++ condition.slots
  | .lock _ condition | .delete _ condition => condition.slots
  | .tally counts => counts.flatMap fun c => c.2.slots
  | .select _ condition _ limit offset =>
    condition.toList.flatMap Clause.slots ++ limit.toList ++ offset.toList
  | .count _ condition => condition.toList.flatMap Clause.slots
  | .deleteBatch batch _ => batch.condition.slots ++ [batch.limit]

/-- The letters of tables in a command. -/
def owners : Command → List String
  | .insert _ _ => []
  | .update _ _ condition | .lock _ condition | .delete _ condition => condition.owners
  | .tally counts => counts.flatMap fun c => c.2.owners
  | .select _ condition _ _ _ | .count _ condition => condition.toList.flatMap Clause.owners
  | .deleteBatch batch _ => batch.owners

end Command

/-- A column shows no parameter. -/
theorem ColumnRef.shows {c : ColumnRef} (h : ∀ owner ∈ c.owner.toList, Legible owner) :
    Shows c.tokens [] := by
  rw [ColumnRef.tokens]
  cases howner : c.owner with
  | none => exact .name c.column .nil
  | some owner =>
    rw [howner] at h
    exact .plain _ ((h owner List.mem_cons_self).append (by decide)) (.name c.column .nil)

theorem Operand.shows {a : Operand} (h : ∀ owner ∈ a.owners, Legible owner) :
    Shows a.tokens a.slots := by
  cases a with
  | column c => exact ColumnRef.shows h
  | slot n => exact .slot n .nil
  | literal text => exact .literal text .nil

theorem legible_operator (op : Comparison) : Legible (" " ++ op.operator ++ " ") := by
  cases op <;> decide

/-- **Conditions** show their parameters. -/
theorem Clause.shows {c : Clause} (h : ∀ owner ∈ c.owners, Legible owner) :
    Shows c.tokens c.slots := by
  induction c with
  | compare op a b =>
    obtain ⟨ha, hb⟩ := List.forall_mem_append.mp h
    exact (Operand.shows ha).append (.plain _ (legible_operator op) (Operand.shows hb))
  | isNull c => exact (ColumnRef.shows h).append (.plain _ (by decide) .nil)
  | isNotNull c => exact (ColumnRef.shows h).append (.plain _ (by decide) .nil)
  | like c n =>
    exact (ColumnRef.shows h).append
      (.plain _ (by decide) (.slot n (.plain _ (by decide) (.literal _ .nil))))
  | oneOf c numbers =>
    exact ((ColumnRef.shows h).append
      (.plain _ (by decide) (Shows.commas_slots numbers))).append_plain _ (by decide)
  | never => exact .plain _ (by decide) .nil
  | and a b iha ihb =>
    obtain ⟨ha, hb⟩ := List.forall_mem_append.mp h
    exact ((iha ha).parenthesized _).append (.plain _ (by decide) ((ihb hb).parenthesized _))
  | or a b iha ihb =>
    obtain ⟨ha, hb⟩ := List.forall_mem_append.mp h
    exact ((iha ha).parenthesized _).append (.plain _ (by decide) ((ihb hb).parenthesized _))
  | inTable c kind condition ih =>
    obtain ⟨hc, hcondition⟩ := List.forall_mem_append.mp h
    have hfrom : Shows [.plain " IN (SELECT ", .name "id", .plain " FROM ", .name kind.table,
        .plain " WHERE "] [] :=
      .plain _ (by decide) (.name _ (.plain _ (by decide) (.name _ (.plain _ (by decide) .nil))))
    exact (((ColumnRef.shows hc).append hfrom).append (ih hcondition)).append_plain _ (by decide)
  | inBatch c =>
    exact (ColumnRef.shows h).append
      (.plain _ (by decide) (.name _ (.plain _ (by decide) .nil)))
  | notExists kind owner condition ih =>
    obtain ⟨howner, hcondition⟩ := List.forall_mem_cons.mp h
    have hfrom : Legible (" " ++ owner ++ " WHERE ") :=
      (Legible.append (by decide) howner).append (by decide)
    exact .plain _ (by decide)
      (.name _ (.plain _ hfrom ((ih hcondition).append_plain _ (by decide))))

/-- The numbers from one on, one for each column. -/
theorem map_zipIdx_succ (columns : List String) :
    columns.zipIdx.map (fun c => c.2 + 1) = List.range' 1 columns.length := by
  rw [← List.zipIdx_map_snd, List.zipIdx_succ, List.map_map]
  rfl

theorem shows_whereTokens {condition : Option Clause}
    (h : ∀ owner ∈ condition.toList.flatMap Clause.owners, Legible owner) :
    Shows (whereTokens condition) (condition.toList.flatMap Clause.slots) := by
  cases condition with
  | none => exact .nil
  | some c =>
    rw [Option.toList_some, List.flatMap_singleton] at h ⊢
    exact .plain _ (by decide) (Clause.shows h)

theorem shows_orderTokens (order : List OrderTerm) : Shows (orderTokens order) [] := by
  rw [orderTokens]
  split
  · exact .nil
  · have hdirection : ∀ d : Direction, Legible (directionKeyword d) := by
      intro d
      cases d <;> decide
    exact .plain _ (by decide) (Shows.separated_silent _ (by decide) fun t _ =>
      .name t.column (.plain _ (hdirection t.direction) .nil))

theorem shows_slotTokens (keyword : String) (h : Legible keyword) (slot : Option Nat) :
    Shows (slotTokens keyword slot) slot.toList := by
  cases slot with
  | none => exact .nil
  | some n => exact .plain keyword h (.slot n .nil)

theorem shows_deleteTokens (kind : EntityKind) {condition : Clause}
    (h : ∀ owner ∈ condition.owners, Legible owner) :
    Shows (deleteTokens kind condition) condition.slots :=
  .plain _ (by decide) (.name _ (.plain _ (by decide) (Clause.shows h)))

theorem shows_columnTokens (kind : EntityKind) : Shows (columnTokens kind) [] := by
  have := Shows.commas_names (kind.columns.map (·.name))
  rwa [List.map_map] at this

theorem shows_insert (kind : EntityKind) (columns : List String) :
    Shows (Command.insert kind columns).tokens (List.range' 1 columns.length) := by
  have hinto : Shows ([.plain "INSERT INTO ", .name kind.table, .plain " ("] ++
      commas (columns.map .name)) [] :=
    .plain _ (by decide) (.name _ (.plain _ (by decide) (Shows.commas_names columns)))
  have hslots := Shows.commas_slots (List.range' 1 columns.length)
  rw [← map_zipIdx_succ, List.map_map] at hslots
  have hreturning : Shows (.plain ") RETURNING " :: columnTokens kind) [] :=
    .plain _ (by decide) (shows_columnTokens kind)
  have := (hinto.append (.plain ") VALUES (" (by decide) hslots)).append hreturning
  rwa [List.nil_append, List.append_nil, map_zipIdx_succ] at this

theorem shows_update (kind : EntityKind) (columns : List String) {condition : Clause}
    (h : ∀ owner ∈ condition.owners, Legible owner) :
    Shows (Command.update kind columns condition).tokens
      (List.range' 1 columns.length ++ condition.slots) := by
  have hset : Shows [.plain "UPDATE ", .name kind.table, .plain " SET "] [] :=
    .plain _ (by decide) (.name _ (.plain _ (by decide) .nil))
  have hassignments := Shows.separated ", " (by decide) (l := columns.zipIdx)
    fun c _ => .name c.1 (.plain " = " (by decide) (.slot (c.2 + 1) .nil))
  rw [← List.map_eq_flatMap, map_zipIdx_succ] at hassignments
  exact (hset.append hassignments).append (.plain _ (by decide) (Clause.shows h))

theorem shows_select (kind : EntityKind) {condition : Option Clause} (order : List OrderTerm)
    (limit offset : Option Nat)
    (h : ∀ owner ∈ condition.toList.flatMap Clause.owners, Legible owner) :
    Shows (Command.select kind condition order limit offset).tokens
      (condition.toList.flatMap Clause.slots ++ limit.toList ++ offset.toList) := by
  have hfrom : Shows (.plain "SELECT " :: columnTokens kind ++
      [.plain " FROM ", .name kind.table]) [] :=
    .plain _ (by decide) ((shows_columnTokens kind).append (.plain _ (by decide) (.name _ .nil)))
  have hrows := (hfrom.append (shows_whereTokens h)).append (shows_orderTokens order)
  have := (hrows.append (shows_slotTokens " LIMIT " (by decide) limit)).append
    (shows_slotTokens " OFFSET " (by decide) offset)
  rwa [List.nil_append, List.append_nil] at this

theorem shows_tally {counts : List (EntityKind × Clause)}
    (h : ∀ owner ∈ counts.flatMap (fun c => c.2.owners), Legible owner) :
    Shows (Command.tally counts).tokens (counts.flatMap fun c => c.2.slots) := by
  refine (Shows.plain _ (by decide)
    (.separated _ (by decide) fun c hc => ?_)).append_plain _ (by decide)
  have howners : ∀ owner ∈ c.2.owners, Legible owner := fun owner howner =>
    h owner (List.mem_flatMap.mpr ⟨c, hc, howner⟩)
  have hfrom : Shows [.plain "(SELECT COUNT(*) FROM ", .name c.1.table, .plain " WHERE "] [] :=
    .plain _ (by decide) (.name _ (.plain _ (by decide) .nil))
  exact (hfrom.append (Clause.shows howners)).append_plain _ (by decide)

theorem shows_batch {b : Batch} (h : ∀ owner ∈ b.owners, Legible owner) :
    Shows b.tokens (b.condition.slots ++ [b.limit]) := by
  obtain ⟨hletters, hcondition⟩ := List.forall_mem_append.mp h
  obtain ⟨howner, hjoin⟩ := List.forall_mem_cons.mp hletters
  have hid : Shows (ColumnRef.tokens ⟨some b.owner, "id"⟩) [] :=
    ColumnRef.shows (List.forall_mem_singleton.mpr howner)
  have hfrom : Shows (.plain "SELECT " :: ColumnRef.tokens ⟨some b.owner, "id"⟩ ++
      [.plain " FROM ", .name b.kind.table, .plain (" " ++ b.owner)]) [] :=
    .plain _ (by decide) (hid.append
      (.plain _ (by decide) (.name _ (.plain _ (.append (by decide) howner) .nil))))
  -- The two batches differ in the join and in the rows that they lock.
  have hbatch : ∀ {join : List Token} {lock : String}, Shows join [] → Legible lock →
      Shows (.plain "SELECT " :: ColumnRef.tokens ⟨some b.owner, "id"⟩ ++
        [.plain " FROM ", .name b.kind.table, .plain (" " ++ b.owner)] ++ join ++
        .plain " WHERE " :: b.condition.tokens ++
        .plain " ORDER BY " :: ColumnRef.tokens ⟨some b.owner, "id"⟩ ++
        [.plain " LIMIT ", .slot b.limit, .plain lock]) (b.condition.slots ++ [b.limit]) := by
    intro join lock hjoined hlock
    have hrows := (hfrom.append hjoined).append
      (.plain " WHERE " (by decide) (Clause.shows hcondition))
    have := (hrows.append (.plain " ORDER BY " (by decide) hid)).append
      (.plain " LIMIT " (by decide) (.slot b.limit (.plain _ hlock .nil)))
    rwa [List.nil_append, List.append_nil] at this
  have hlock : Legible " FOR UPDATE SKIP LOCKED" := by decide
  have hlockOf : Legible (" FOR UPDATE OF " ++ b.owner ++ " SKIP LOCKED") :=
    (Legible.append (by decide) howner).append (by decide)
  rw [Batch.tokens]
  cases hb : b.join with
  | none => exact hbatch .nil hlock
  | some j =>
    rw [hb, Option.toList_some, List.flatMap_singleton] at hjoin
    have hon : Legible (" " ++ j.owner ++ " ON ") :=
      (Legible.append (by decide) (hjoin _ List.mem_cons_self)).append (by decide)
    have hcompare := Clause.shows (c := .compare .eq (.column ⟨some j.owner, "id"⟩)
      (.column j.reference)) hjoin
    exact hbatch (.plain _ (by decide) (.name _ (.plain _ hon hcompare))) hlockOf

theorem shows_deleteBatch {batch : Batch} (attached : Option (EntityKind × String))
    (h : ∀ owner ∈ batch.owners, Legible owner) :
    Shows (Command.deleteBatch batch attached).tokens
      (batch.condition.slots ++ [batch.limit]) := by
  have hin : ∀ kind name, Shows (deleteTokens kind (.inBatch (column name))) [] :=
    fun kind name => shows_deleteTokens kind (List.forall_mem_nil _)
  have hbatch := Shows.plain "WITH batch AS (" (by decide) (shows_batch h)
  rcases attached with _ | ⟨kind, reference⟩
  · have := (hbatch.append_plain ") " (by decide)).append (hin batch.kind "id")
    rwa [List.append_nil] at this
  · have := (hbatch.append (.plain "), attached AS (" (by decide)
      ((hin kind reference).append_plain ") " (by decide)))).append (hin batch.kind "id")
    rwa [List.append_nil, List.append_nil] at this

/-- **Commands** show their parameters. -/
theorem Command.shows {c : Command} (h : ∀ owner ∈ c.owners, Legible owner) :
    Shows c.tokens c.slots := by
  cases c with
  | insert kind columns => exact shows_insert kind columns
  | update kind columns condition => exact shows_update kind columns h
  | lock kind condition =>
    have hfrom : Shows [.plain "SELECT 1 FROM ", .name kind.table, .plain " WHERE "] [] :=
      .plain _ (by decide) (.name _ (.plain _ (by decide) .nil))
    exact (hfrom.append (Clause.shows h)).append_plain _ (by decide)
  | delete kind condition => exact shows_deleteTokens kind h
  | tally counts => exact shows_tally h
  | select kind condition order limit offset => exact shows_select kind order limit offset h
  | count kind condition =>
    have hfrom : Shows [.plain "SELECT COUNT(*) FROM ", .name kind.table] [] :=
      .plain _ (by decide) (.name _ .nil)
    exact hfrom.append (shows_whereTokens h)
  | deleteBatch batch attached => exact shows_deleteBatch attached h

/-- **The text of a command** has its parameters as placeholders, from left to right. -/
theorem Command.placeholders_text {c : Command} (h : ∀ owner ∈ c.owners, Legible owner) :
    placeholders c.text = c.slots :=
  (Command.shows h).placeholders_eq

/-! ## 4. Builders -/

/-- The placeholders of a statement are the numbers of its parameters. -/
def Statement.Complete (s : Statement) : Prop :=
  ∀ n, n ∈ placeholders s.text ↔ 1 ≤ n ∧ n ≤ s.params.length

/-- The placeholders of a statement are the numbers of its parameters, each once and in turn. -/
def Statement.InTurn (s : Statement) : Prop :=
  placeholders s.text = List.range' 1 s.params.length

theorem Statement.InTurn.complete {s : Statement} (h : s.InTurn) : s.Complete := by
  intro n
  rw [h, List.mem_range'_1]
  omega

/-- The letters that tables go by are legible. -/
theorem placeholders_of_letters {c : Command} (h : c.owners ⊆ ["t", "a"]) :
    placeholders c.text = c.slots := by
  have hletters : ∀ owner ∈ ["t", "a"], Legible owner := by decide
  exact Command.placeholders_text fun owner howner => hletters owner (h howner)

theorem subset_letters {owners : List String} (h : owners = []) : owners ⊆ ["t", "a"] := by
  rw [h]
  exact List.nil_subset _

theorem inTurn_of_slots {c : Command} {params : List Param} (howners : c.owners ⊆ ["t", "a"])
    (hslots : c.slots = List.range' 1 params.length) : Statement.InTurn ⟨c, params⟩ := by
  rw [Statement.InTurn, Statement.text, placeholders_of_letters howners, hslots]

/-- A command that needs its only parameter once or several times. -/
theorem complete_of_slots {c : Command} (p : Param) (howners : c.owners ⊆ ["t", "a"])
    (hsome : 1 ∈ c.slots) (hone : ∀ n ∈ c.slots, n = 1) : Statement.Complete ⟨c, [p]⟩ := by
  intro n
  rw [Statement.text, placeholders_of_letters howners]
  constructor
  · intro hn
    rw [hone n hn]
    exact ⟨Nat.le_refl 1, Nat.le_refl 1⟩
  · rintro ⟨hlow, hhigh⟩
    rwa [Nat.le_antisymm hhigh hlow]

section Builders

variable {kind : EntityKind} {key : KeyKind} {s : Statement}

theorem slots_compare {c : Column} {slot : Nat} {op : Comparison} {x : Cell} {clause : Clause}
    {params : List Param}
    (h : (do return ((.compare op (.column (column c.name)) (.slot slot) : Clause),
      [← Param.ofCell key c.type x])) =
        (.ok (clause, params) : Except StoreError (Clause × List Param))) :
    clause.slots = List.range' slot params.length ∧ clause.owners = [] := by
  obtain ⟨p, -, hp⟩ := bind_eq_ok_iff.mp h
  cases hp
  exact ⟨rfl, rfl⟩

/-- A test numbers its parameters in turn. -/
theorem slots_bindPredicate {c : Column} {slot : Nat} {p : Predicate} {clause : Clause}
    {params : List Param} (h : bindPredicate key c slot p = .ok (clause, params)) :
    clause.slots = List.range' slot params.length ∧ clause.owners = [] := by
  cases p with
  | eq | ne | lt | le | gt | ge => exact slots_compare h
  | isNull | isNotNull | contains =>
    cases h
    exact ⟨rfl, rfl⟩
  | oneOf values =>
    match values with
    | [] =>
      cases h
      exact ⟨rfl, rfl⟩
    | v :: values =>
      obtain ⟨ps, -, hp⟩ := bind_eq_ok_iff.mp h
      cases hp
      exact ⟨List.range'_eq_map_range.symm, rfl⟩

/-- **Filters** number their parameters in turn, wherever they begin. -/
theorem slots_bindConditions {cs : List Condition} {slot : Nat} {condition : Option Clause}
    {params : List Param} (h : bindConditions kind key slot cs = .ok (condition, params)) :
    condition.toList.flatMap Clause.slots = List.range' slot params.length ∧
      condition.toList.flatMap Clause.owners = [] := by
  induction cs generalizing slot condition params with
  | nil =>
    cases h
    exact ⟨rfl, rfl⟩
  | cons c cs ih =>
    rw [bindConditions] at h
    cases hcolumn : kind.column? c.column with
    | none =>
      rw [hcolumn] at h
      cases h
    | some column =>
      rw [hcolumn] at h
      obtain ⟨⟨clause, ps⟩, hclause, h⟩ := bind_eq_ok_iff.mp h
      obtain ⟨⟨others, more⟩, hothers, h⟩ := bind_eq_ok_iff.mp h
      cases h
      obtain ⟨hslots, howners⟩ := slots_bindPredicate hclause
      obtain ⟨hmore, hnone⟩ := ih hothers
      -- the other conditions go on with the number after those of the first one
      rw [List.length_append, ← List.range'_append_1, ← hslots, ← hmore]
      cases others with
      | none => simp [howners]
      | some o =>
        rw [Option.toList_some, List.flatMap_singleton] at hnone
        simp [Clause.slots, Clause.owners, howners, hnone]

theorem inTurn_insert {row : Row} (h : insert kind key row = .ok s) : s.InTurn := by
  obtain ⟨ps, hps, hs⟩ := bind_eq_ok_iff.mp h
  cases hs
  refine inTurn_of_slots (List.nil_subset _) ?_
  rw [Command.slots, List.length_map, length_bindColumns hps]

theorem inTurn_update {id : Key} {expected : String} {row : Row}
    (h : update kind key id expected row = .ok s) : s.InTurn := by
  obtain ⟨ps, hps, h⟩ := bind_eq_ok_iff.mp h
  obtain ⟨ks, hks, hs⟩ := bind_eq_ok_iff.mp h
  cases hs
  refine inTurn_of_slots (List.nil_subset _) ?_
  rw [Command.slots, List.length_map, List.length_append, length_bindColumns hps,
    length_bindTokenMatch hks, ← List.range'_append_1, Nat.add_comm 1]
  rfl

theorem inTurn_lockRow {id : Key} {expected : String}
    (h : lockRow kind key id expected = .ok s) : s.InTurn := by
  obtain ⟨ks, hks, hs⟩ := bind_eq_ok_iff.mp h
  cases hs
  refine inTurn_of_slots (List.nil_subset _) ?_
  rw [length_bindTokenMatch hks]
  rfl

theorem inTurn_deleteRow {id : Key} (h : deleteRow kind key id = .ok s) : s.InTurn := by
  obtain ⟨p, -, hs⟩ := bind_eq_ok_iff.mp h
  cases hs
  exact inTurn_of_slots (List.nil_subset _) rfl

theorem inTurn_select {query : RowQuery} (h : select kind key query = .ok s) : s.InTurn := by
  obtain ⟨⟨condition, params⟩, hparams, hs⟩ := bind_eq_ok_iff.mp h
  cases hs
  obtain ⟨hslots, howners⟩ := slots_bindConditions hparams
  refine inTurn_of_slots (subset_letters howners) ?_
  rw [Command.slots, hslots]
  -- the limit and the offset follow the parameters of the filter
  cases query.limit <;> by_cases hoffset : query.offset = 0 <;>
    simp [hoffset, List.range'_1_concat, Nat.add_comm]

theorem inTurn_count {filter : Filter} (h : count kind key filter = .ok s) : s.InTurn := by
  obtain ⟨⟨condition, params⟩, hparams, hs⟩ := bind_eq_ok_iff.mp h
  cases hs
  obtain ⟨hslots, howners⟩ := slots_bindConditions hparams
  exact inTurn_of_slots (subset_letters howners) hslots

/-- The condition on dependents needs the identifier, in one place or more. -/
theorem slots_dependents (kind : EntityKind) : ∀ d ∈ dependents kind,
    1 ∈ d.2.slots ∧ (∀ n ∈ d.2.slots, n = 1) ∧ d.2.owners = [] := by
  cases kind <;> decide

theorem complete_countDependents {id : Key} (h : countDependents kind key id = .ok (some s)) :
    s.Complete := by
  rw [countDependents] at h
  have hall := slots_dependents kind
  cases hdependents : dependents kind with
  | nil =>
    rw [hdependents] at h
    cases h
  | cons d ds =>
    rw [hdependents] at h hall
    obtain ⟨p, -, hp⟩ := map_eq_ok_iff.mp h
    cases hp
    have howners : ((d :: ds).flatMap fun e => e.2.owners) = [] :=
      List.flatMap_eq_nil_iff.mpr fun e he => (hall e he).2.2
    refine complete_of_slots p (subset_letters howners) ?_ ?_
    · exact List.mem_flatMap.mpr ⟨d, List.mem_cons_self, (hall d List.mem_cons_self).1⟩
    · intro n hn
      obtain ⟨e, he, hn⟩ := List.mem_flatMap.mp hn
      exact (hall e he).2.1 n hn

theorem complete_deleteDependents {id : Key} {ss : List Statement}
    (h : deleteDependents kind key id = .ok ss) (hs : s ∈ ss) : s.Complete := by
  obtain ⟨d, hd, hstatement⟩ : ∃ d ∈ dependents kind,
      ((Param.ofKey key id).map fun p => ⟨.delete d.1 d.2, [p]⟩) = .ok s := by
    obtain ⟨i, hi, rfl⟩ := List.mem_iff_getElem.mp hs
    have hall := mapM_eq_ok_iff.mp h
    exact ⟨_, List.getElem_mem (hall.length_eq ▸ hi), hall.get _ hi⟩
  obtain ⟨p, -, hp⟩ := map_eq_ok_iff.mp hstatement
  cases hp
  obtain ⟨hsome, hone, howners⟩ := slots_dependents kind d hd
  exact complete_of_slots p (subset_letters howners) hsome hone

theorem inTurn_pruneBatch {criteria : PruneCriteria} (h : pruneBatch kind criteria = some s) :
    s.InTurn := by
  cases kind with
  | token | authorization =>
    cases h
    exact inTurn_of_slots (by decide) rfl
  | application | scope => cases h

end Builders

/-- Whether the parameters of an operation are bound one after another, each at one place.  Only the
identifier of a row with dependents may be needed at several places. -/
def Operation.bindsInTurn : Operation → Bool
  | .insert .. | .update .. | .lockRow .. | .deleteRow .. | .select .. | .count ..
  | .pruneBatch .. => true
  | .countDependents .. | .deleteDependents .. => false

/-- A builder of one statement. -/
theorem eq_ok_of_mem {x : Except StoreError Statement} {ss : List Statement} {s : Statement}
    (h : (do return [← x]) = (.ok ss : Except StoreError (List Statement))) (hs : s ∈ ss) :
    x = .ok s := by
  obtain ⟨s', hs', hss⟩ := bind_eq_ok_iff.mp h
  cases hss
  rwa [List.mem_singleton.mp hs]

/-- **Placeholders and parameters match.**  In the text of each statement of an operation, the
placeholders outside quotes are the numbers of its parameters, from one on.  Where parameters are
bound in turn, they stand from left to right, each once. -/
theorem placeholders_match {op : Operation} {ss : List Statement} (h : op.statements = .ok ss)
    {s : Statement} (hs : s ∈ ss) :
    (∀ n, n ∈ placeholders s.text ↔ 1 ≤ n ∧ n ≤ s.params.length) ∧
      (op.bindsInTurn = true → placeholders s.text = List.range' 1 s.params.length) := by
  suffices hresult : s.Complete ∧ (op.bindsInTurn = true → s.InTurn) from hresult
  have both : s.InTurn → s.Complete ∧ (op.bindsInTurn = true → s.InTurn) :=
    fun h => ⟨h.complete, fun _ => h⟩
  cases op with
  | insert kind key row => exact both (inTurn_insert (eq_ok_of_mem h hs))
  | update kind key id expected row => exact both (inTurn_update (eq_ok_of_mem h hs))
  | lockRow kind key id expected => exact both (inTurn_lockRow (eq_ok_of_mem h hs))
  | deleteRow kind key id => exact both (inTurn_deleteRow (eq_ok_of_mem h hs))
  | select kind key query => exact both (inTurn_select (eq_ok_of_mem h hs))
  | count kind key filter => exact both (inTurn_count (eq_ok_of_mem h hs))
  | countDependents kind key id =>
    obtain ⟨o, ho, hss⟩ := bind_eq_ok_iff.mp h
    cases hss
    rw [Option.mem_toList] at hs
    rw [hs] at ho
    exact ⟨complete_countDependents ho, fun h => by cases h⟩
  | deleteDependents kind key id => exact ⟨complete_deleteDependents h hs, fun h => by cases h⟩
  | pruneBatch kind criteria =>
    cases h
    exact both (inTurn_pruneBatch (Option.mem_toList.mp hs))

/-- A query that searches for dollar signs and quotes among tokens, and sorts by a column with both
in its name.  With the window it has fourteen parameters. -/
def hostileQuery : RowQuery where
  filter := ⟨[⟨"payload", .contains "\"$7' \"$8"⟩, ⟨"type", .isNotNull⟩,
    ⟨"id", .oneOf (List.replicate 11 (.key (.int 7)))⟩]⟩
  order := [⟨"a\"$9'", .asc⟩]
  offset := 20
  limit := some 5

theorem placeholders_match_hostile : ∃ s, select .token .bigint hostileQuery = .ok s ∧
    s.params.length = 14 ∧ placeholders s.text = List.range' 1 14 := by
  have hops : (Operation.select .token .bigint hostileQuery).statements = .ok [_] := rfl
  exact ⟨_, rfl, rfl, (placeholders_match hops List.mem_cons_self).2 rfl⟩

end Sql

end GrantLedger
