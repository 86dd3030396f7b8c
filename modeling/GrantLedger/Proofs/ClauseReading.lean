import GrantLedger.Proofs.SqlReader
import Mathlib.Data.Option.Basic

/-!
# Conditions are read as they are meant

Reading a condition that was written (`Clause.tokens`) returns it: its operators, the brackets in
it, its columns and its parameters say what they should.  This is not so for every syntax tree.  A
comparison of two parameters cannot be read, and `(a AND b) AND c`, which is written without
brackets, is read as `a AND (b AND c)`.  The trees that can be read are `regular`.

* `Spaced.pieces_eq`: the pieces of a text are those of its tokens, one after the other.
* `Clear` says of a rest that it does not begin with one of some words, which is what a reader has
  to know of it.
* `ReadsBack` says of pieces that a reader of conditions understands them, whatever follows that
  does not go on with AND or OR.  There is a form of it for each of the three readers, and
  `TestOf.conjunction`, `ConjunctionOf.and`, `ConjunctionOf.condition`, `ConditionOf.or` and
  `ConditionOf.enclosed` lead from each to the others.
* `Clause.readsBack`: the induction over conditions, in all three forms at once.
-/

namespace GrantLedger.Sql

/-! ## 1. The pieces of tokens -/

/-- Sequences of which the last lexeme of the first and the first of the second are not parts of one
word or operator. -/
def Apart (l m : List Lexeme) : Prop := ∀ a ∈ l.getLast?, ∀ b ∈ m.head?, a.joins b = false

theorem pieces_append {l m : List Lexeme} (h : Apart l m) :
    pieces (l ++ m) = pieces l ++ pieces m := by
  rw [pieces, List.splitBy_append h, List.flatMap_append, pieces, pieces]

theorem joins_loose {c : Char} (h : isLoose c = true) (a : Lexeme) :
    (Lexeme.mark c).joins a = false ∧ a.joins (.mark c) = false := by
  rw [isLoose, Bool.and_eq_true, Bool.not_eq_true', Bool.not_eq_true'] at h
  cases a <;> simp [Lexeme.joins, h]

theorem Leads.apart {text : String} (h : Leads text) (m : List Lexeme) :
    Apart (Token.plain text).lexemes m := by
  intro a ha b _
  obtain ⟨c, hc, rfl⟩ : ∃ c, text.toList.getLast? = some c ∧ .mark c = a := by
    simpa [Token.lexemes, List.getLast?_map] using ha
  have hloose := h.2
  rw [hc] at hloose
  exact (joins_loose hloose b).1

theorem Trails.apart {text : String} (h : Trails text) (l m : List Lexeme) :
    Apart l ((Token.plain text).lexemes ++ m) := by
  intro a _ b hb
  have hloose := h.2
  rw [Token.lexemes, List.head?_append, List.head?_map] at hb
  cases hc : text.toList.head? with
  | none => rw [hc] at hloose; cases hloose
  | some c =>
    rw [hc] at hb hloose
    cases hb
    exact (joins_loose hloose a).2

/-- The pieces of tokens, one token after the other. -/
def piecesOf (tokens : List Token) : List Piece := tokens.flatMap fun t => pieces t.lexemes

theorem piecesOf_append (tokens others : List Token) :
    piecesOf (tokens ++ others) = piecesOf tokens ++ piecesOf others := List.flatMap_append

theorem piecesOf_cons (t : Token) (tokens : List Token) :
    piecesOf (t :: tokens) = pieces t.lexemes ++ piecesOf tokens := List.flatMap_cons

theorem piecesOf_singleton (t : Token) : piecesOf [t] = pieces t.lexemes :=
  List.flatMap_singleton ..

/-- **Tokens that can be told apart** form pieces of their own. -/
theorem Spaced.pieces_eq {tokens : List Token} (h : Spaced tokens) :
    pieces (lexemesOf tokens) = piecesOf tokens := by
  have lexemesOf_cons : ∀ t ts, lexemesOf (t :: ts) = t.lexemes ++ lexemesOf ts :=
    fun _ _ => List.flatMap_cons
  have lexemesOf_append : ∀ ts ts', lexemesOf (ts ++ ts') = lexemesOf ts ++ lexemesOf ts' :=
    fun _ _ => List.flatMap_append
  have hsingle : ∀ t : Token, pieces (lexemesOf [t]) = piecesOf [t] := fun t => by
    rw [lexemesOf, List.flatMap_singleton, piecesOf_singleton]
  induction h with
  | nil => rfl
  | word | name | literal | slot => exact hsingle _
  | append _ divides _ ih ih' =>
    rw [lexemesOf_append, lexemesOf_cons, pieces_append (divides.2.apart _ _),
      pieces_append (divides.1.apart _), ih, ih', piecesOf_append, piecesOf_cons]
  | plain leads _ ih => rw [lexemesOf_cons, pieces_append (leads.apart _), ih, piecesOf_cons]
  | append_plain _ trails ih =>
    rw [lexemesOf_append, lexemesOf_cons, pieces_append (trails.apart _ _), ih,
      ← lexemesOf_cons, hsingle, piecesOf_append]

/-- The piece of a placeholder. -/
def slotPiece (n : Nat) : Piece := .plain (String.ofList ('$' :: Numeral.digits n))

theorem pieces_slot (n : Nat) : pieces (Token.slot n).lexemes = [slotPiece n] := by
  have hword : ∀ c ∈ '$' :: Numeral.digits n, isWordMark c = true := by
    refine List.forall_mem_cons.mpr ⟨by decide, fun c hc => ?_⟩
    simp [isWordMark, Char.isAlphanum, Numeral.isDigit_of_mem_digits hc]
  have hchain : (('$' :: Numeral.digits n).map Lexeme.mark).IsChain fun a b => a.joins b := by
    rw [List.isChain_map]
    refine (List.pairwise_of_forall_mem_list fun a ha b hb => ?_).isChain
    simp [Lexeme.joins, hword a ha, hword b hb]
  rw [Token.lexemes, pieces, List.splitBy_of_isChain (by simp) hchain]
  simp [pieceOf, List.filterMap_map, Function.comp_def, Lexeme.char?, slotPiece]

theorem pieces_name (identifier : String) :
    pieces (Token.name identifier).lexemes = [.quoted '"' identifier] := rfl

/-- What is written with a word between any two forms pieces with this word between them. -/
theorem piecesOf_separated {separator word : String}
    (h : pieces (Token.plain separator).lexemes = [.plain word]) (parts : List (List Token)) :
    piecesOf (separated separator parts) = [.plain word].intercalate (parts.map piecesOf) := by
  induction parts with
  | nil => rfl
  | cons p parts ih =>
    cases parts with
    | nil => simp [separated, List.intercalate]
    | cons q parts =>
      rw [separated, piecesOf_append, piecesOf_cons, h, ih]
      · simp
      · simp

theorem piecesOf_commas {α : Type} (f : α → Token) (l : List α) : piecesOf (commas (l.map f)) =
    [.plain ","].intercalate (l.map fun a => pieces (f a).lexemes) := by
  rw [commas, List.map_map, piecesOf_separated rfl, List.map_map]
  congr 2
  funext a
  exact piecesOf_singleton _

/-! ## 2. Readers -/

namespace Reader

variable {α β : Type} {l rest : List Piece}

@[simp] theorem bind_apply (x : Reader α) (f : α → Reader β) :
    (x >>= f) l = (x l).bind fun p => f p.1 p.2 := rfl

@[simp] theorem map_apply (f : α → β) (x : Reader α) :
    (f <$> x) l = (x l).map fun p => (f p.1, p.2) := by
  change ((x l).bind fun p => some (f p.1, p.2)) = _
  cases x l <;> rfl

@[simp] theorem pure_apply (a : α) : (pure a : Reader α) l = some (a, l) := rfl

@[simp] theorem guard_apply (p : Prop) [Decidable p] :
    (guard p : Reader Unit) l = if p then some ((), l) else none := by
  rw [guard]
  split <;> rfl

@[simp] theorem expect_apply (texts : List String) :
    expect texts l = (behind? texts l).map ((), ·) := rfl

@[simp] theorem choose_cons (texts : List String) (next : Reader α)
    (options : List (List String × Reader α)) (otherwise : Reader α) :
    choose ((texts, next) :: options) otherwise l =
      match behind? texts l with
      | some rest => next rest
      | none => choose options otherwise l := rfl

@[simp] theorem choose_nil (otherwise : Reader α) : choose [] otherwise = otherwise := rfl

@[simp] theorem name_quoted (text : String) :
    name (.quoted '"' text :: rest) = some (text, rest) := rfl

@[simp] theorem literal_quoted (text : String) :
    literal (.quoted '\'' text :: rest) = some (text, rest) := rfl

@[simp] theorem table_quoted (kind : EntityKind) :
    table (.quoted '"' kind.table :: rest) = some (kind, rest) := by
  cases kind <;> rfl

@[simp] theorem slot_slotPiece (n : Nat) : slot (slotPiece n :: rest) = some (n, rest) := by
  simp [slot, slotPiece, placeholder?, Numeral.readNat?_digits]

@[simp] theorem comparison_operator (op : Comparison) :
    comparison (.plain op.operator :: rest) = some (op, rest) := by
  cases op <;> rfl

theorem letters_owner {owner : String} (h : owner ∈ ["t", "a"]) :
    letters (.plain owner :: rest) = some (owner, rest) := by
  simp only [List.mem_cons, List.not_mem_nil, or_false] at h
  rcases h with rfl | rfl <;> rfl

theorem closed_apply {reader : Reader α} {a : α}
    (h : reader l = some (a, .plain ")" :: rest)) : closed reader l = some (a, rest) := by
  simp [closed, h, behind?]

theorem behind?_words (words : List String) : behind? words (words.map .plain ++ rest) = some rest := by
  induction words with
  | nil => rfl
  | cons word words ih => simpa [behind?] using ih

/-- Pieces that begin with none of some words. -/
def Clear (words : List String) (l : List Piece) : Prop := ∀ word ∈ words, behind? [word] l = none

theorem clear_nil (words : List String) : Clear words [] := fun _ _ => rfl

theorem clear_word (text : String) (l : List Piece) {words : List String} (h : text ∉ words) :
    Clear words (.plain text :: l) := by
  intro word hword
  have hne : text ≠ word := fun heq => h (heq ▸ hword)
  rw [behind?, if_neg hne]

/-- Where a word is not found, no more words are. -/
theorem Clear.not_behind {words : List String} (h : Clear words l) {word : String}
    (hword : word ∈ words) (texts : List String) : behind? (word :: texts) l = none := by
  have hnone := h word hword
  match l with
  | [] | .quoted .. :: _ => rfl
  | .plain text :: l =>
    have hne : text ≠ word := fun heq => by simp [behind?, heq] at hnone
    rw [behind?, if_neg hne]

theorem Clear.append {words : List String} (h : Clear words l) (hrest : Clear words rest) :
    Clear words (l ++ rest) := by
  cases l with
  | nil => exact hrest
  | cons p l =>
    intro word hword
    have hp := h word hword
    cases p with
    | quoted => rfl
    | plain text => simpa [behind?] using hp

theorem length_le_intercalate (separator : String) {parts : List (List Piece)} {p : List Piece}
    (hp : p ∈ parts) : p.length ≤ ([Piece.plain separator].intercalate parts).length := by
  induction parts with
  | nil => cases hp
  | cons q parts ih =>
    cases parts with
    | nil => simp [List.mem_singleton.mp hp]
    | cons r parts =>
      rcases List.mem_cons.mp hp with rfl | hp
      · simp
      · have := ih hp
        simp at this ⊢
        omega

theorem length_le_length_intercalate (separator : String) {parts : List (List Piece)}
    (hsome : ∀ p ∈ parts, p ≠ []) :
    parts.length ≤ ([Piece.plain separator].intercalate parts).length := by
  induction parts with
  | nil => exact Nat.zero_le _
  | cons p parts ih =>
    rw [List.forall_mem_cons] at hsome
    have hp := List.length_pos_of_ne_nil hsome.1
    cases parts with
    | nil => simpa using Nat.succ_le_of_lt hp
    | cons q parts =>
      have := ih hsome.2
      simp at this ⊢
      omega

/-- **Things with a word between any two** are read, if each of them is read before any rest. -/
theorem separated_intercalate (separator : String) {reader : Reader α} {f : α → List Piece}
    {l : List α} (hread : ∀ a ∈ l, ∀ rest, reader (f a ++ rest) = some (a, rest))
    (hsome : ∀ a ∈ l, f a ≠ []) (hl : l ≠ []) (hrest : Clear [separator] rest) :
    separated separator reader ([.plain separator].intercalate (l.map f) ++ rest) =
      some (l, rest) := by
  have hlength : l.length ≤ ([Piece.plain separator].intercalate (l.map f) ++ rest).length := by
    have := length_le_length_intercalate separator (List.forall_mem_map.mpr hsome)
    rw [List.length_map] at this
    rw [List.length_append]
    omega
  rw [separated]
  -- the number of things may be anything that is large enough
  generalize ([Piece.plain separator].intercalate (l.map f) ++ rest).length = n at hlength
  induction l generalizing n with
  | nil => exact absurd rfl hl
  | cons a l ih =>
    rw [List.forall_mem_cons] at hread hsome
    obtain _ | n := n
    · cases hlength
    cases l with
    | nil => simp [separatedUpTo, hread.1, hrest separator List.mem_cons_self]
    | cons b l =>
      have hl := ih hread.2 hsome.2 (by simp) n (by simpa using hlength)
      simpa [separatedUpTo, hread.1, behind?] using hl

theorem separated_slots {numbers : List Nat} (h : numbers ≠ []) (hrest : Clear [","] rest) :
    separated "," slot (piecesOf (commas (numbers.map .slot)) ++ rest) = some (numbers, rest) := by
  rw [piecesOf_commas]
  exact separated_intercalate "," (fun n _ rest => by simp [pieces_slot]) (by simp [pieces_slot]) h hrest

theorem separated_names {names : List String} (h : names ≠ []) (hrest : Clear [","] rest) :
    separated "," name (piecesOf (commas (names.map .name)) ++ rest) = some (names, rest) := by
  rw [piecesOf_commas]
  exact separated_intercalate "," (fun text _ rest => name_quoted text)
    (fun _ _ => List.cons_ne_nil _ _) h hrest

end Reader

open Reader

/-! ## 3. Columns and operands -/

section

variable {rest : List Piece}

/-- The letters of a table are words of their own wherever they are written. -/
theorem pieces_letters : ∀ owner ∈ ["t", "a"],
    pieces (Token.plain (" " ++ owner)).lexemes = [.plain owner] ∧
    pieces (Token.plain (" " ++ owner ++ " ON ")).lexemes = [.plain owner, .plain "ON"] ∧
    pieces (Token.plain (" " ++ owner ++ " WHERE ")).lexemes = [.plain owner, .plain "WHERE"] ∧
    pieces (Token.plain (" FOR UPDATE OF " ++ owner ++ " SKIP LOCKED")).lexemes =
      [.plain "FOR", .plain "UPDATE", .plain "OF", .plain owner, .plain "SKIP",
        .plain "LOCKED"] := by
  decide

theorem ColumnRef.pieces_eq {c : ColumnRef} (h : c.owner.toList ⊆ ["t", "a"]) :
    piecesOf c.tokens = (c.owner.elim [] fun owner => [.plain owner, .plain "."]) ++
      [.quoted '"' c.column] := by
  obtain ⟨owner, column⟩ := c
  cases owner with
  | none => rfl
  | some owner =>
    have howner := h List.mem_cons_self
    simp only [List.mem_cons, List.not_mem_nil, or_false] at howner
    rcases howner with rfl | rfl <;> rfl

/-- A column is not taken for a keyword. -/
theorem behind?_column {c : ColumnRef} (h : c.owner.toList ⊆ ["t", "a"]) {word : String}
    (hword : word ∉ ["t", "a"]) (texts : List String) :
    behind? (word :: texts) (piecesOf c.tokens ++ rest) = none := by
  rw [ColumnRef.pieces_eq h]
  cases howner : c.owner with
  | none => rfl
  | some owner =>
    rw [howner] at h
    have hne : owner ≠ word := fun heq => hword (heq ▸ h List.mem_cons_self)
    simp [behind?, hne]

theorem columnRef_column {c : ColumnRef} (h : c.owner.toList ⊆ ["t", "a"]) (rest : List Piece) :
    columnRef (piecesOf c.tokens ++ rest) = some (c, rest) := by
  rw [ColumnRef.pieces_eq h]
  obtain ⟨owner, column⟩ := c
  cases owner with
  | none => rfl
  | some owner =>
    simp [columnRef, ownedColumn, letters_owner (h List.mem_cons_self), behind?]

/-- A placeholder is not taken for a keyword. -/
theorem behind?_slotPiece {n : Nat} {word : String} (hword : word.toList.head? ≠ some '$')
    (texts : List String) : behind? (word :: texts) (slotPiece n :: rest) = none := by
  have hne : String.ofList ('$' :: Numeral.digits n) ≠ word := by
    rintro rfl
    simp at hword
  rw [slotPiece, behind?, if_neg hne]

theorem operand_tokens {a : Operand} (h : a.owners ⊆ ["t", "a"]) :
    operand (piecesOf a.tokens ++ rest) = some (a, rest) := by
  cases a with
  | slot n =>
    rw [Operand.tokens, piecesOf_singleton, pieces_slot]
    simp [operand, slotPiece, placeholder?, Numeral.readNat?_digits]
  | literal text => rfl
  | column c =>
    have hread := columnRef_column h rest
    rw [Operand.tokens]
    rw [ColumnRef.pieces_eq h] at hread ⊢
    obtain ⟨owner, column⟩ := c
    cases owner with
    | none => rfl
    | some owner =>
      have hletters : placeholder? owner = none := by
        have howner := h List.mem_cons_self
        simp only [List.mem_cons, List.not_mem_nil, or_false] at howner
        rcases howner with rfl | rfl <;> rfl
      simp only [Option.elim_some, List.cons_append, List.nil_append] at hread ⊢
      simp [operand, hletters, hread]

end

/-! ## 4. Conditions -/

/-- The conditions that the readers return: a comparison has a column on its left, a list of values
is not empty, and conjunctions and disjunctions are grouped to the right. -/
def Clause.regular : Clause → Bool
  | .compare _ (.column _) _ => true
  | .compare _ _ _ => false
  | .oneOf _ numbers => !numbers.isEmpty
  | .and a b => !a.isAnd && a.regular && b.regular
  | .or a b => !a.isOr && a.regular && b.regular
  | .inTable _ _ condition | .notExists _ _ condition => condition.regular
  | .isNull _ | .isNotNull _ | .like _ _ | .never | .inBatch _ => true

/-- Pieces that a reader understands as a condition before every rest that is clear of some words.
It has to be allowed to call others some times less often than three times for each piece. -/
def ReadsBack (reader : Nat → Reader Clause) (less : Nat) (words : List String) (l : List Piece)
    (c : Clause) : Prop :=
  ∀ n rest, 3 * l.length ≤ n + less → Clear words rest → reader n (l ++ rest) = some (c, rest)

/-- Pieces that are understood as a test. -/
abbrev TestOf : List Piece → Clause → Prop := ReadsBack test 2 []

/-- Pieces that are understood as a conjunction, of one test or more. -/
abbrev ConjunctionOf : List Piece → Clause → Prop := ReadsBack conjunction 1 ["AND"]

/-- Pieces that are understood as a condition. -/
abbrev ConditionOf : List Piece → Clause → Prop := ReadsBack condition 0 ["AND", "OR"]

section

variable {l m rest : List Piece} {a b c : Clause}

theorem ReadsBack.length_pos {reader : Nat → Reader Clause} {less : Nat} {words : List String}
    (h : ReadsBack reader less words l c) (hzero : reader 0 = failure) : 0 < l.length := by
  refine List.length_pos_of_ne_nil ?_
  rintro rfl
  have hread := h 0 [] (Nat.zero_le _) (clear_nil words)
  rw [hzero] at hread
  cases hread

theorem TestOf.conjunction (h : TestOf l c) : ConjunctionOf l c := by
  intro n rest hn hrest
  have hl := h.length_pos rfl
  obtain _ | n := n
  · omega
  have hread := h n rest (by omega) (List.forall_mem_nil _)
  simp [Reader.conjunction, hread, hrest "AND" List.mem_cons_self]

theorem ConjunctionOf.condition (h : ConjunctionOf l c) : ConditionOf l c := by
  intro n rest hn hrest
  have hl := h.length_pos rfl
  obtain ⟨hand, hor⟩ := List.forall_mem_cons.mp hrest
  obtain _ | n := n
  · omega
  have hread := h n rest (by omega) (List.forall_mem_singleton.mpr hand)
  simp [Reader.condition, hread, hor "OR" List.mem_cons_self]

/-- A condition in brackets is a test. -/
theorem ConditionOf.enclosed {tokens : List Token} (h : ConditionOf (piecesOf tokens) c) :
    TestOf (piecesOf (parenthesized true tokens)) c := by
  have hpieces : piecesOf (parenthesized true tokens) =
      .plain "(" :: (piecesOf tokens ++ [.plain ")"]) := piecesOf_append (_ :: tokens) _
  rw [hpieces]
  intro n rest hn _
  rw [List.length_cons, List.length_append, List.length_singleton] at hn
  obtain _ | n := n
  · omega
  have hread := closed_apply (h n (.plain ")" :: rest) (by omega) (clear_word _ _ (by decide)))
  simp [Reader.test, behind?, hread]

theorem ConjunctionOf.and (ha : TestOf l a) (hb : ConjunctionOf m b) :
    ConjunctionOf (l ++ .plain "AND" :: m) (.and a b) := by
  intro n rest hn hrest
  rw [List.length_append, List.length_cons] at hn
  obtain _ | n := n
  · omega
  have hl := ha n (.plain "AND" :: (m ++ rest)) (by omega) (List.forall_mem_nil _)
  have hm := hb n rest (by omega) hrest
  simp [Reader.conjunction, hl, hm, behind?]

theorem ConditionOf.or (ha : ConjunctionOf l a) (hb : ConditionOf m b) :
    ConditionOf (l ++ .plain "OR" :: m) (.or a b) := by
  intro n rest hn hrest
  rw [List.length_append, List.length_cons] at hn
  obtain _ | n := n
  · omega
  have hl := ha n (.plain "OR" :: (m ++ rest)) (by omega) (clear_word _ _ (by decide))
  have hm := hb n rest (by omega) hrest
  simp [Reader.condition, hl, hm, behind?]

/-- What begins with a column is a test if the rest of it says something about the column. -/
theorem testOf_property {column : ColumnRef} (h : column.owner.toList ⊆ ["t", "a"])
    {tokens : List Token} (hl : piecesOf tokens = l)
    (hread : ∀ n rest, 3 * l.length ≤ n →
      property (condition n) column (l ++ rest) = some (c, rest)) :
    TestOf (piecesOf (column.tokens ++ tokens)) c := by
  intro n rest hn _
  have hcolumn : 0 < (piecesOf column.tokens).length := by
    rw [ColumnRef.pieces_eq h]
    simp
  rw [piecesOf_append, hl, List.length_append] at hn
  obtain _ | n := n
  · omega
  rw [piecesOf_append, hl, List.append_assoc]
  simp [Reader.test, behind?_column h, columnRef_column h, hread n rest (by omega)]

theorem testOf_compare (op : Comparison) {column : ColumnRef}
    (h : column.owner.toList ⊆ ["t", "a"]) {a : Operand} (ha : a.owners ⊆ ["t", "a"]) :
    TestOf (piecesOf (Clause.compare op (.column column) a).tokens)
      (.compare op (.column column) a) := by
  have hpieces : piecesOf (.plain (" " ++ op.operator ++ " ") :: a.tokens) =
      .plain op.operator :: piecesOf a.tokens := by
    rw [piecesOf_cons]
    cases op <;> rfl
  refine testOf_property h hpieces fun n rest _ => ?_
  -- no operator is one of the keywords behind a column
  obtain ⟨his, hlike, hin⟩ : op.operator ≠ "IS" ∧ op.operator ≠ "LIKE" ∧ op.operator ≠ "IN" := by
    cases op <;> decide
  simp [property, behind?, his, hlike, hin, operand_tokens ha]

theorem testOf_like {column : ColumnRef} (h : column.owner.toList ⊆ ["t", "a"]) (number : Nat) :
    TestOf (piecesOf (Clause.like column number).tokens) (.like column number) := by
  have hpieces : piecesOf [.plain " LIKE ", .slot number, .plain " ESCAPE ", .literal "\\"] =
      [.plain "LIKE", slotPiece number, .plain "ESCAPE", .quoted '\'' "\\"] := by
    rw [piecesOf_cons, piecesOf_cons, pieces_slot]
    rfl
  refine testOf_property h hpieces fun n rest _ => ?_
  simp [property, behind?]

theorem testOf_oneOf {column : ColumnRef} (h : column.owner.toList ⊆ ["t", "a"])
    {numbers : List Nat} (hnumbers : numbers ≠ []) :
    TestOf (piecesOf (Clause.oneOf column numbers).tokens) (.oneOf column numbers) := by
  have hpieces : piecesOf (.plain " IN (" :: commas (numbers.map .slot) ++ [.plain ")"]) =
      .plain "IN" :: .plain "(" :: (piecesOf (commas (numbers.map .slot)) ++ [.plain ")"]) := by
    rw [piecesOf_append, piecesOf_cons]
    rfl
  rw [Clause.tokens, List.append_assoc]
  refine testOf_property h hpieces fun n rest _ => ?_
  have hread := closed_apply (separated_slots hnumbers (clear_word ")" rest (by decide)))
  -- the list begins with a placeholder, not with SELECT
  have hselect : behind? ["SELECT"] (piecesOf (commas (numbers.map .slot)) ++
      .plain ")" :: rest) = none := by
    obtain ⟨number, others, rfl⟩ := List.exists_cons_of_ne_nil hnumbers
    have hdollar : "SELECT".toList.head? ≠ some '$' := by decide
    rw [piecesOf_commas]
    cases others <;> simp [pieces_slot, behind?_slotPiece hdollar]
  simp [property, behind?, hselect, hread]

theorem testOf_inTable {column : ColumnRef} (h : column.owner.toList ⊆ ["t", "a"])
    (kind : EntityKind) (hc : ConditionOf (piecesOf c.tokens) c) :
    TestOf (piecesOf (Clause.inTable column kind c).tokens) (.inTable column kind c) := by
  have hpieces : piecesOf ([.plain " IN (SELECT ", .name "id", .plain " FROM ", .name kind.table,
        .plain " WHERE "] ++ c.tokens ++ [.plain ")"]) =
      .plain "IN" :: .plain "(" :: .plain "SELECT" :: .quoted '"' "id" :: .plain "FROM" ::
        .quoted '"' kind.table :: .plain "WHERE" :: (piecesOf c.tokens ++ [.plain ")"]) := by
    rw [piecesOf_append, piecesOf_append, List.append_assoc]
    rfl
  rw [Clause.tokens, List.append_assoc, List.append_assoc, ← List.append_assoc _ c.tokens]
  refine testOf_property h hpieces fun n rest hn => ?_
  simp only [List.length_cons] at hn
  rw [List.length_append] at hn
  have hread := closed_apply (hc n (.plain ")" :: rest) (by omega) (clear_word _ _ (by decide)))
  simp [property, behind?, hread]

theorem testOf_notExists (kind : EntityKind) {owner : String} (howner : owner ∈ ["t", "a"])
    (hc : ConditionOf (piecesOf c.tokens) c) :
    TestOf (piecesOf (Clause.notExists kind owner c).tokens) (.notExists kind owner c) := by
  obtain ⟨-, -, hwords, -⟩ := pieces_letters owner howner
  have hpieces : piecesOf (Clause.notExists kind owner c).tokens =
      .plain "NOT" :: .plain "EXISTS" :: .plain "(" :: .plain "SELECT" :: .plain "1" ::
        .plain "FROM" :: .quoted '"' kind.table :: .plain owner :: .plain "WHERE" ::
          (piecesOf c.tokens ++ [.plain ")"]) := by
    rw [Clause.tokens, piecesOf_append, piecesOf_append, piecesOf_cons, piecesOf_cons,
      piecesOf_singleton, hwords]
    rfl
  rw [hpieces]
  intro n rest hn _
  simp only [List.length_cons] at hn
  rw [List.length_append] at hn
  obtain _ | n := n
  · omega
  have hread := closed_apply (hc n (.plain ")" :: rest) (by omega) (clear_word _ _ (by decide)))
  simp [Reader.test, behind?, absence, letters_owner howner, hread]

end

/-- **Conditions are read as they are meant:** as a condition, as a conjunction unless they are a
disjunction, and as a test unless they are either. -/
theorem Clause.readsBack {c : Clause} (h : c.regular = true) (howners : c.owners ⊆ ["t", "a"]) :
    (c.isAnd = false → c.isOr = false → TestOf (piecesOf c.tokens) c) ∧
      (c.isOr = false → ConjunctionOf (piecesOf c.tokens) c) ∧
      ConditionOf (piecesOf c.tokens) c := by
  have of_test : ∀ {c : Clause}, TestOf (piecesOf c.tokens) c →
      (c.isAnd = false → c.isOr = false → TestOf (piecesOf c.tokens) c) ∧
        (c.isOr = false → ConjunctionOf (piecesOf c.tokens) c) ∧
        ConditionOf (piecesOf c.tokens) c :=
    fun h => ⟨fun _ _ => h, fun _ => h.conjunction, h.conjunction.condition⟩
  induction c with
  | compare op a b =>
    cases a with
    | column column =>
      obtain ⟨hcolumn, hb⟩ := List.append_subset.mp howners
      exact of_test (testOf_compare op hcolumn hb)
    | slot | literal => cases h
  | isNull column =>
    have hpieces : piecesOf [.plain " IS NULL"] = [.plain "IS", .plain "NULL"] := rfl
    exact of_test (testOf_property howners hpieces fun _ _ _ => by simp [property, behind?])
  | isNotNull column =>
    have hpieces : piecesOf [.plain " IS NOT NULL"] =
        [.plain "IS", .plain "NOT", .plain "NULL"] := rfl
    exact of_test (testOf_property howners hpieces fun _ _ _ => by simp [property, behind?])
  | like column number => exact of_test (testOf_like howners number)
  | oneOf column numbers =>
    have hnumbers : numbers ≠ [] := by
      rintro rfl
      cases h
    exact of_test (testOf_oneOf howners hnumbers)
  | never =>
    have hpieces : piecesOf never.tokens = [.plain "FALSE"] := rfl
    refine of_test fun n rest hn _ => ?_
    rw [hpieces] at hn ⊢
    obtain _ | n := n
    · simp at hn
    simp [Reader.test, behind?]
  | and a b iha ihb =>
    simp only [regular, Bool.and_eq_true, Bool.not_eq_true'] at h
    obtain ⟨⟨hand, ha⟩, hb⟩ := h
    obtain ⟨haowners, hbowners⟩ := List.append_subset.mp howners
    obtain ⟨hatest, -, hacondition⟩ := iha ha haowners
    obtain ⟨-, hbconjunction, hbcondition⟩ := ihb hb hbowners
    -- a disjunction stands in brackets on either side
    have hleft : TestOf (piecesOf (parenthesized a.isOr a.tokens)) a := by
      cases hor : a.isOr with
      | false => exact hatest hand hor
      | true => exact hacondition.enclosed
    have hright : ConjunctionOf (piecesOf (parenthesized b.isOr b.tokens)) b := by
      cases hor : b.isOr with
      | false => exact hbconjunction hor
      | true => exact hbcondition.enclosed.conjunction
    have hpieces : piecesOf (tokens (.and a b)) = piecesOf (parenthesized a.isOr a.tokens) ++
        .plain "AND" :: piecesOf (parenthesized b.isOr b.tokens) := by
      rw [tokens, piecesOf_append, piecesOf_cons]
      rfl
    have hconjunction := ConjunctionOf.and hleft hright
    rw [hpieces]
    refine ⟨fun hand => ?_, fun _ => hconjunction, hconjunction.condition⟩
    cases hand
  | or a b iha ihb =>
    simp only [regular, Bool.and_eq_true, Bool.not_eq_true'] at h
    obtain ⟨⟨hor, ha⟩, hb⟩ := h
    obtain ⟨haowners, hbowners⟩ := List.append_subset.mp howners
    obtain ⟨-, haconjunction, hacondition⟩ := iha ha haowners
    obtain ⟨-, -, hbcondition⟩ := ihb hb hbowners
    -- a conjunction stands in brackets on either side, though it need not
    have hleft : ConjunctionOf (piecesOf (parenthesized a.isAnd a.tokens)) a := by
      cases a.isAnd with
      | false => exact haconjunction hor
      | true => exact hacondition.enclosed.conjunction
    have hright : ConditionOf (piecesOf (parenthesized b.isAnd b.tokens)) b := by
      cases b.isAnd with
      | false => exact hbcondition
      | true => exact hbcondition.enclosed.conjunction.condition
    have hpieces : piecesOf (tokens (.or a b)) = piecesOf (parenthesized a.isAnd a.tokens) ++
        .plain "OR" :: piecesOf (parenthesized b.isAnd b.tokens) := by
      rw [tokens, piecesOf_append, piecesOf_cons]
      rfl
    rw [hpieces]
    refine ⟨fun _ hor => ?_, fun hor => ?_, ConditionOf.or hleft hright⟩ <;> cases hor
  | inTable column kind condition ih =>
    obtain ⟨hcolumn, hcondition⟩ := List.append_subset.mp howners
    exact of_test (testOf_inTable hcolumn kind (ih h hcondition).2.2)
  | inBatch column =>
    have hpieces : piecesOf [.plain " IN (SELECT ", .name "id", .plain " FROM batch)"] =
        [.plain "IN", .plain "(", .plain "SELECT", .quoted '"' "id", .plain "FROM",
          .plain "batch", .plain ")"] := rfl
    exact of_test (testOf_property howners hpieces fun _ _ _ => by simp [property, behind?])
  | notExists kind owner condition ih =>
    obtain ⟨howner, hcondition⟩ := List.cons_subset.mp howners
    exact of_test (testOf_notExists kind howner (ih h hcondition).2.2)

end GrantLedger.Sql
