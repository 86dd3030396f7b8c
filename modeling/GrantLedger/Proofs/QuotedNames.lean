import GrantLedger.Proofs.Placeholders

/-!
# Names stay inside their quotes

A database tells what stands in quotes from what does not by reading a text from its beginning: a
quote opens, a quote that is written twice stands for one, and the first one that is not closes
(`readQuoted`).  Read in this way, a text becomes a sequence of lexemes, of which a quotation is one
whatever it holds (`lexemes`).  Outside quotes every character is a lexeme of its own; comments,
which would hide a quote, are not looked for.

* `readQuoted_doubleQuotes`, `eq_of_readQuoted`: a text whose quotes are written twice is read as
  this text, before any rest that does not go on with a quote, and nothing else is read.
* `Clause.spaced`, `Command.spaced`: what stands side by side in a command can be told apart
  (`Spaced`), over every syntax tree and with any names in it.
* `Spaced.reads`, `Command.lexemes_text`: so the text of a command is read as the lexemes of its
  tokens.
* `names_stay_quoted`: the main result.
-/

namespace GrantLedger

namespace Sql

/-! ## 1. Reading what stands in quotes -/

/-- Reads behind an opening quote up to the first quote that is not written twice: what stands in
the quotes, and the rest. -/
def readQuoted (quote : Char) : List Char → Option (List Char × List Char)
  | [] => none
  | [c] => if c = quote then some ([], []) else none
  | c :: d :: rest =>
    if c ≠ quote then (readQuoted quote (d :: rest)).map (Prod.map (c :: ·) id)
    else if d = quote then (readQuoted quote rest).map (Prod.map (quote :: ·) id)
    else some ([], d :: rest)

/-- Reads a quoted name at the beginning of a text: the name, and the rest of the text. -/
def readName? (text : String) : Option (String × String) :=
  match text.toList with
  | '"' :: rest => (readQuoted '"' rest).map (Prod.map String.ofList String.ofList)
  | _ => none

section

variable {quote : Char} {rest : List Char}

theorem readQuoted_of_ne {c : Char} (h : c ≠ quote) (l : List Char) :
    readQuoted quote (c :: l) = (readQuoted quote l).map (Prod.map (c :: ·) id) := by
  cases l <;> simp [readQuoted, h]

theorem readQuoted_twice (l : List Char) :
    readQuoted quote (quote :: quote :: l) =
      (readQuoted quote l).map (Prod.map (quote :: ·) id) := by
  simp [readQuoted]

theorem readQuoted_close (h : rest.head? ≠ some quote) :
    readQuoted quote (quote :: rest) = some ([], rest) := by
  cases rest with
  | nil => simp [readQuoted]
  | cons d rest =>
    have hd : d ≠ quote := fun hd => h (congrArg some hd)
    simp [readQuoted, hd]

/-- **What is written with its quotes doubled is read back,** up to the closing quote. -/
theorem readQuoted_doubleQuotes (h : rest.head? ≠ some quote) (text : List Char) :
    readQuoted quote (doubleQuotes quote text ++ quote :: rest) = some (text, rest) := by
  induction text with
  | nil => exact readQuoted_close h
  | cons c text ih =>
    rw [doubleQuotes]
    split
    · next hc => rw [List.cons_append, List.cons_append, readQuoted_twice, ih, hc]; rfl
    · next hc => rw [List.cons_append, readQuoted_of_ne hc, ih]; rfl

/-- **Nothing else is read:** a text in quotes, with its quotes doubled, up to the closing one. -/
theorem eq_of_readQuoted {l text : List Char} (h : readQuoted quote l = some (text, rest)) :
    l = doubleQuotes quote text ++ quote :: rest ∧ rest.head? ≠ some quote := by
  fun_induction readQuoted quote l generalizing text with
  | case1 => cases h
  | case2 =>
    cases h
    exact ⟨rfl, by simp⟩
  | case3 => cases h
  | case4 c d l hc ih =>
    obtain ⟨⟨t, _⟩, hread, hresult⟩ := Option.map_eq_some_iff.mp h
    cases hresult
    obtain ⟨htext, hrest⟩ := ih hread
    exact ⟨by rw [htext]; simp [doubleQuotes, hc], hrest⟩
  | case5 c l hc ih =>
    obtain ⟨⟨t, _⟩, hread, hresult⟩ := Option.map_eq_some_iff.mp h
    cases hresult
    obtain ⟨htext, hrest⟩ := ih hread
    exact ⟨by rw [htext, not_not.mp hc]; simp [doubleQuotes], hrest⟩
  | case6 c d l hc hd =>
    cases h
    exact ⟨by rw [not_not.mp hc]; rfl, by simpa using hd⟩

theorem length_readQuoted {l text : List Char} (h : readQuoted quote l = some (text, rest)) :
    rest.length < l.length := by
  rw [(eq_of_readQuoted h).1, List.length_append, List.length_cons]
  omega

end

theorem toList_identifier_append (name rest : String) : (identifier name ++ rest).toList =
    '"' :: (doubleQuotes '"' name.toList ++ '"' :: rest.toList) := by
  simp [identifier, renderTokens, Token.chars, quoted]

/-- **What is read as a name** is a quoted name, before any rest that does not go on with a quote. -/
theorem readName?_eq_some_iff {text name rest : String} : readName? text = some (name, rest) ↔
    text = identifier name ++ rest ∧ rest.toList.head? ≠ some '"' := by
  constructor
  · intro h
    rw [readName?] at h
    split at h
    · next l htext =>
      obtain ⟨⟨_, _⟩, hread, hresult⟩ := Option.map_eq_some_iff.mp h
      cases hresult
      obtain ⟨rfl, hrest⟩ := eq_of_readQuoted hread
      refine ⟨String.toList_injective ?_, by simpa using hrest⟩
      rw [toList_identifier_append, htext, String.toList_ofList, String.toList_ofList]
    · cases h
  · rintro ⟨rfl, hrest⟩
    rw [readName?, toList_identifier_append]
    simp [readQuoted_doubleQuotes hrest]

/-- A quote that is written twice closes nothing. -/
example : readName? "\"a\"\"" = none := by decide

/-- Different names are quoted differently. -/
theorem identifier_injective : Function.Injective identifier := by
  intro a b h
  have hread : ∀ name, readName? (identifier name) = some (name, "") := fun name =>
    readName?_eq_some_iff.mpr ⟨by simp, by simp⟩
  have hsame := hread a
  rw [h, hread] at hsame
  exact (congrArg Prod.fst (Option.some.inj hsame)).symm

/-! ## 2. Lexemes -/

/-- What a database reads of a text. -/
inductive Lexeme where
  /-- A character outside quotes. -/
  | mark (c : Char)
  /-- What stands in a pair of quotes, of either sort. -/
  | quoted (quote : Char) (text : String)
  deriving DecidableEq

/-- Whether a character is part of words and numbers. -/
def isWordMark (c : Char) : Bool := c.isAlphanum || c = '_' || c = '$'

/-- Whether a character is part of operators. -/
def isOperatorMark (c : Char) : Bool := "+-*/<>=~!@#%^&|?:".toList.contains c

/-- Whether two lexemes that stand side by side are parts of one word or of one operator. -/
def Lexeme.joins : Lexeme → Lexeme → Bool
  | .mark c, .mark d => isWordMark c && isWordMark d || isOperatorMark c && isOperatorMark d
  | _, _ => false

/-- The lexemes of a text, if every quote that opens is closed. -/
def lexemes (cs : List Char) : Option (List Lexeme) :=
  match cs with
  | [] => some []
  | c :: rest =>
    if c = '"' ∨ c = '\'' then
      match _h : readQuoted c rest with
      | none => none
      | some (text, others) => (lexemes others).map (.quoted c (String.ofList text) :: ·)
    else (lexemes rest).map (.mark c :: ·)
termination_by cs.length
decreasing_by
  · exact Nat.lt_succ_of_lt (length_readQuoted _h)
  · exact Nat.lt_add_one _

/-- The lexemes of a token: a name or a literal is one, whatever it holds. -/
def Token.lexemes : Token → List Lexeme
  | .plain text => text.toList.map .mark
  | .name identifier => [.quoted '"' identifier]
  | .literal text => [.quoted '\'' text]
  | .slot number => ('$' :: Numeral.digits number).map .mark

/-- The lexemes of a sequence of tokens. -/
def lexemesOf (tokens : List Token) : List Lexeme := tokens.flatMap Token.lexemes

theorem lexemes_mark {c : Char} (h : c ≠ '"' ∧ c ≠ '\'') (rest : List Char) :
    lexemes (c :: rest) = (lexemes rest).map (.mark c :: ·) := by
  rw [lexemes, if_neg (by simp [h])]

theorem lexemes_marks {l : List Char} (h : ∀ c ∈ l, c ≠ '"' ∧ c ≠ '\'') (rest : List Char) :
    lexemes (l ++ rest) = (lexemes rest).map (l.map .mark ++ ·) := by
  induction l with
  | nil => simp
  | cons c l ih =>
    rw [List.forall_mem_cons] at h
    rw [List.cons_append, lexemes_mark h.1, ih h.2, Option.map_map]
    rfl

theorem lexemes_quote {quote : Char} (hquote : quote = '"' ∨ quote = '\'') (rest : List Char) :
    lexemes (quote :: rest) = (readQuoted quote rest).bind fun read =>
      (lexemes read.2).map (.quoted quote (String.ofList read.1) :: ·) := by
  rw [lexemes, if_pos hquote]
  split <;> next hread => rw [hread]; rfl

/-- What stands in quotes is one lexeme, before any rest that does not go on with the quote. -/
theorem lexemes_quoted {quote : Char} (hquote : quote = '"' ∨ quote = '\'') (text : String)
    {rest : List Char} (h : rest.head? ≠ some quote) :
    lexemes (quoted quote text.toList ++ rest) =
      (lexemes rest).map (.quoted quote text :: ·) := by
  rw [quoted, List.cons_append, List.cons_append, List.append_assoc, List.singleton_append,
    lexemes_quote hquote, readQuoted_doubleQuotes h]
  simp

/-! ## 3. Tokens that keep apart -/

/-- A text without quotes. -/
def Bare (text : String) : Prop := ∀ c ∈ text.toList, c ≠ '"' ∧ c ≠ '\''

/-- Whether a character is part neither of words nor of operators. -/
def isLoose (c : Char) : Bool := !isWordMark c && !isOperatorMark c

/-- A text that can stand in front of anything. -/
def Leads (text : String) : Prop := Bare text ∧ text.toList.getLast?.any isLoose = true

/-- A text that can stand behind anything. -/
def Trails (text : String) : Prop := Bare text ∧ text.toList.head?.any isLoose = true

/-- A text that keeps apart what stands on both sides of it. -/
def Divides (text : String) : Prop := Leads text ∧ Trails text

theorem bare_iff {text : String} :
    (text.toList.all fun c => c != '"' && c != '\'') = true ↔ Bare text := by
  simp [Bare]

instance (text : String) : Decidable (Bare text) := decidable_of_iff _ bare_iff

instance (text : String) : Decidable (Leads text) := inferInstanceAs (Decidable (_ ∧ _))

instance (text : String) : Decidable (Trails text) := inferInstanceAs (Decidable (_ ∧ _))

instance (text : String) : Decidable (Divides text) := inferInstanceAs (Decidable (_ ∧ _))

section

variable {s t : String}

theorem Legible.bare (h : Legible s) : Bare s := fun c hc => (h.inert c hc).2

theorem Bare.append (hs : Bare s) (ht : Bare t) : Bare (s ++ t) := by
  intro c hc
  rw [String.toList_append, List.mem_append] at hc
  exact hc.elim (hs c) (ht c)

theorem Leads.prepend (ht : Leads t) (hs : Bare s) : Leads (s ++ t) := by
  obtain ⟨hbare, hloose⟩ := ht
  refine ⟨hs.append hbare, ?_⟩
  rw [String.toList_append, List.getLast?_append]
  cases hlast : t.toList.getLast? with
  | none => rw [hlast] at hloose; cases hloose
  | some c => rwa [hlast] at hloose

theorem Trails.append (hs : Trails s) (ht : Bare t) : Trails (s ++ t) := by
  obtain ⟨hbare, hloose⟩ := hs
  refine ⟨hbare.append ht, ?_⟩
  rw [String.toList_append, List.head?_append]
  cases hhead : s.toList.head? with
  | none => rw [hhead] at hloose; cases hloose
  | some c => rwa [hhead] at hloose

theorem divides_between {between : String} (hs : Trails s) (hbetween : Bare between)
    (ht : Leads t) : Divides (s ++ between ++ t) :=
  ⟨ht.prepend (hs.1.append hbetween), (hs.append hbetween).append ht.1⟩

theorem Trails.ne_empty (h : Trails s) : s ≠ "" := by
  rintro rfl
  cases h.2

end

/-- Tokens of which each is told from the next: no two names or texts stand side by side, and what is
written between them does not run together with a word or an operator. -/
inductive Spaced : List Token → Prop
  | nil : Spaced []
  | word (text : String) (bare : Bare text) : Spaced [.plain text]
  | name (identifier : String) : Spaced [.name identifier]
  | literal (text : String) : Spaced [.literal text]
  | slot (number : Nat) : Spaced [.slot number]
  | append {tokens others : List Token} (h : Spaced tokens) {text : String} (divides : Divides text)
      (h' : Spaced others) : Spaced (tokens ++ .plain text :: others)
  | plain {tokens : List Token} {text : String} (leads : Leads text) (h : Spaced tokens) :
      Spaced (.plain text :: tokens)
  | append_plain {tokens : List Token} (h : Spaced tokens) {text : String} (trails : Trails text) :
      Spaced (tokens ++ [.plain text])

namespace Spaced

variable {tokens : List Token}

theorem parenthesized (h : Spaced tokens) (needed : Bool) :
    Spaced (Sql.parenthesized needed tokens) := by
  cases needed with
  | false => exact h
  | true => exact .plain (by decide) (h.append_plain (by decide))

theorem separated {α : Type} {f : α → List Token} {separator : String}
    (hseparator : Divides separator) {l : List α} (h : ∀ a ∈ l, Spaced (f a)) :
    Spaced (Sql.separated separator (l.map f)) := by
  induction l with
  | nil => exact nil
  | cons a l ih =>
    rw [List.forall_mem_cons] at h
    cases l with
    | nil => exact h.1
    | cons b l => exact h.1.append hseparator (ih h.2)

theorem commas {α : Type} {f : α → Token} {l : List α} (h : ∀ a ∈ l, Spaced [f a]) :
    Spaced (Sql.commas (l.map f)) := by
  rw [Sql.commas, List.map_map]
  exact separated (by decide) h

end Spaced

/-- A rest before which every quotation ends. -/
def Unquoted (rest : List Char) : Prop := ∀ c ∈ rest.head?, c ≠ '"' ∧ c ≠ '\''

theorem Unquoted.head_ne {rest : List Char} (h : Unquoted rest) :
    rest.head? ≠ some '"' ∧ rest.head? ≠ some '\'' :=
  ⟨fun hhead => (h _ hhead).1 rfl, fun hhead => (h _ hhead).2 rfl⟩

theorem Bare.unquoted_append {text : String} (h : Bare text) {rest : List Char}
    (hrest : text = "" → Unquoted rest) : Unquoted (text.toList ++ rest) := by
  intro c hc
  cases hl : text.toList with
  | nil =>
    rw [hl, List.nil_append] at hc
    exact hrest (String.toList_eq_nil_iff.mp hl) c hc
  | cons d l =>
    rw [hl, List.cons_append, List.head?_cons, Option.mem_some] at hc
    exact hc ▸ h d (by rw [hl]; exact List.mem_cons_self)

/-- Tokens whose text is read as their lexemes, before any rest. -/
def Reads (tokens : List Token) : Prop :=
  ∀ rest, Unquoted rest →
    lexemes (tokens.flatMap Token.chars ++ rest) = (lexemes rest).map (lexemesOf tokens ++ ·)

namespace Reads

variable {tokens others : List Token}

theorem nil : Reads [] := fun rest _ => by simp [lexemesOf]

theorem name (identifier : String) : Reads [.name identifier] := by
  intro rest h
  rw [List.flatMap_singleton, Token.chars, lexemes_quoted (.inl rfl) _ h.head_ne.1]
  rfl

theorem literal (text : String) : Reads [.literal text] := by
  intro rest h
  rw [List.flatMap_singleton, Token.chars, lexemes_quoted (.inr rfl) _ h.head_ne.2]
  rfl

theorem slot (number : Nat) : Reads [.slot number] := by
  intro rest _
  have hmarks : ∀ c ∈ '$' :: Numeral.digits number, c ≠ '"' ∧ c ≠ '\'' := by
    refine List.forall_mem_cons.mpr ⟨by decide, fun c hc => ?_⟩
    have hdigit := Numeral.isDigit_of_mem_digits hc
    constructor <;> rintro rfl <;> cases hdigit
  rw [List.flatMap_singleton, Token.chars, lexemes_marks hmarks]
  simp [lexemesOf, Token.lexemes]

/-- **What is read on both sides of a bare text** is read as a whole, if the text keeps the sides
apart. -/
theorem append (h : Reads tokens) {text : String} (hbare : Bare text)
    (htext : tokens = [] ∨ text ≠ "") (h' : Reads others) :
    Reads (tokens ++ .plain text :: others) := by
  intro rest hrest
  have hsplit : (tokens ++ .plain text :: others).flatMap Token.chars ++ rest =
      tokens.flatMap Token.chars ++
        (text.toList ++ (others.flatMap Token.chars ++ rest)) := by
    simp [Token.chars]
  have hread : lexemes (text.toList ++ (others.flatMap Token.chars ++ rest)) =
      (lexemes rest).map (lexemesOf (.plain text :: others) ++ ·) := by
    rw [lexemes_marks hbare, h' rest hrest, Option.map_map]
    simp [lexemesOf, Token.lexemes, Function.comp_def]
  rcases htext with rfl | hne
  · rw [hsplit]
    exact hread
  · rw [hsplit, h _ (hbare.unquoted_append fun hempty => absurd hempty hne), hread,
      Option.map_map]
    simp [lexemesOf, Function.comp_def]

end Reads

/-- **Tokens that keep apart** are read. -/
theorem Spaced.reads {tokens : List Token} (h : Spaced tokens) : Reads tokens := by
  induction h with
  | nil => exact .nil
  | word text bare => exact Reads.nil.append bare (.inl rfl) .nil
  | name identifier => exact .name identifier
  | literal text => exact .literal text
  | slot number => exact .slot number
  | append _ divides _ ih ih' => exact ih.append divides.1.1 (.inr divides.2.ne_empty) ih'
  | plain leads _ ih => exact Reads.nil.append leads.1 (.inl rfl) ih
  | append_plain _ trails ih => exact ih.append trails.1 (.inr trails.ne_empty) .nil

/-! ## 4. Syntax trees -/

theorem ColumnRef.spaced {c : ColumnRef} (h : ∀ owner ∈ c.owner.toList, Legible owner) :
    Spaced c.tokens := by
  rw [ColumnRef.tokens]
  cases howner : c.owner with
  | none => exact .name c.column
  | some owner =>
    rw [howner] at h
    have hleads : Leads (owner ++ ".") :=
      Leads.prepend (by decide) (h owner List.mem_cons_self).bare
    exact .plain hleads (.name c.column)

theorem Operand.spaced {a : Operand} (h : ∀ owner ∈ a.owners, Legible owner) :
    Spaced a.tokens := by
  cases a with
  | column c => exact ColumnRef.spaced h
  | slot n => exact .slot n
  | literal text => exact .literal text

theorem divides_operator (op : Comparison) : Divides (" " ++ op.operator ++ " ") := by
  cases op <;> decide

/-- **Conditions** keep their tokens apart. -/
theorem Clause.spaced {c : Clause} (h : ∀ owner ∈ c.owners, Legible owner) : Spaced c.tokens := by
  induction c with
  | compare op a b =>
    obtain ⟨ha, hb⟩ := List.forall_mem_append.mp h
    exact (Operand.spaced ha).append (divides_operator op) (Operand.spaced hb)
  | isNull c => exact (ColumnRef.spaced h).append_plain (by decide)
  | isNotNull c => exact (ColumnRef.spaced h).append_plain (by decide)
  | like c n =>
    exact (ColumnRef.spaced h).append (by decide)
      ((Spaced.slot n).append (by decide) (.literal "\\"))
  | oneOf c numbers =>
    exact ((ColumnRef.spaced h).append (by decide)
      (.commas fun n _ => .slot n)).append_plain (by decide)
  | never => exact .word _ (by decide)
  | and a b iha ihb =>
    obtain ⟨ha, hb⟩ := List.forall_mem_append.mp h
    exact ((iha ha).parenthesized _).append (by decide) ((ihb hb).parenthesized _)
  | or a b iha ihb =>
    obtain ⟨ha, hb⟩ := List.forall_mem_append.mp h
    exact ((iha ha).parenthesized _).append (by decide) ((ihb hb).parenthesized _)
  | inTable c kind condition ih =>
    obtain ⟨hc, hcondition⟩ := List.forall_mem_append.mp h
    have hselect : Spaced (c.tokens ++ [.plain " IN (SELECT ", .name "id", .plain " FROM ",
        .name kind.table]) :=
      (ColumnRef.spaced hc).append (by decide) ((Spaced.name "id").append (by decide) (.name _))
    have := (hselect.append (by decide : Divides " WHERE ") (ih hcondition)).append_plain
      (by decide : Trails ")")
    simpa only [tokens, List.append_assoc, List.cons_append, List.nil_append] using this
  | inBatch c =>
    exact (ColumnRef.spaced h).append (by decide) ((Spaced.name "id").append_plain (by decide))
  | notExists kind owner condition ih =>
    obtain ⟨howner, hcondition⟩ := List.forall_mem_cons.mp h
    have hwhere : Divides (" " ++ owner ++ " WHERE ") := divides_between (by decide) howner.bare
      (by decide)
    exact .plain (by decide) (((Spaced.name kind.table).append hwhere
      (ih hcondition)).append_plain (by decide))

theorem spaced_whereTokens {tokens : List Token} (htokens : Spaced tokens)
    {condition : Option Clause}
    (h : ∀ owner ∈ condition.toList.flatMap Clause.owners, Legible owner) :
    Spaced (tokens ++ whereTokens condition) := by
  cases condition with
  | none => rwa [whereTokens, List.append_nil]
  | some c =>
    rw [Option.toList_some, List.flatMap_singleton] at h
    exact htokens.append (by decide) (Clause.spaced h)

theorem spaced_orderTokens {tokens : List Token} (htokens : Spaced tokens)
    (order : List OrderTerm) : Spaced (tokens ++ orderTokens order) := by
  rw [orderTokens]
  split
  · rwa [List.append_nil]
  · have hdirection : ∀ d : Direction, Trails (directionKeyword d) := by
      intro d
      cases d <;> decide
    exact htokens.append (by decide) (.separated (by decide) fun t _ =>
      (Spaced.name t.column).append_plain (hdirection t.direction))

theorem spaced_slotTokens {tokens : List Token} (htokens : Spaced tokens) {keyword : String}
    (h : Divides keyword) (slot : Option Nat) : Spaced (tokens ++ slotTokens keyword slot) := by
  cases slot with
  | none => rwa [slotTokens, List.append_nil]
  | some n => exact htokens.append h (.slot n)

theorem spaced_deleteTokens (kind : EntityKind) {condition : Clause}
    (h : ∀ owner ∈ condition.owners, Legible owner) : Spaced (deleteTokens kind condition) :=
  .plain (by decide) ((Spaced.name kind.table).append (by decide) (Clause.spaced h))

theorem spaced_columnTokens (kind : EntityKind) : Spaced (columnTokens kind) :=
  .commas fun c _ => .name c.name

theorem spaced_batch {b : Batch} (h : ∀ owner ∈ b.owners, Legible owner) : Spaced b.tokens := by
  obtain ⟨hletters, hcondition⟩ := List.forall_mem_append.mp h
  obtain ⟨howner, hjoin⟩ := List.forall_mem_cons.mp hletters
  have hid : Spaced (ColumnRef.tokens ⟨some b.owner, "id"⟩) :=
    ColumnRef.spaced (List.forall_mem_singleton.mpr howner)
  have hfrom : Spaced (.plain "SELECT " :: ColumnRef.tokens ⟨some b.owner, "id"⟩ ++
      [.plain " FROM ", .name b.kind.table, .plain (" " ++ b.owner)]) :=
    (Spaced.plain (by decide) hid).append (by decide)
      ((Spaced.name b.kind.table).append_plain
        (Trails.append (by decide) howner.bare))
  -- the rest is the same with and without a join
  have hbatch : ∀ {tokens : List Token} {lock : String}, Spaced tokens → Trails lock →
      Spaced (tokens ++ .plain " WHERE " :: b.condition.tokens ++
        .plain " ORDER BY " :: ColumnRef.tokens ⟨some b.owner, "id"⟩ ++
        [.plain " LIMIT ", .slot b.limit, .plain lock]) := by
    intro tokens lock htokens hlock
    exact ((htokens.append (by decide) (Clause.spaced hcondition)).append (by decide) hid).append
      (by decide) ((Spaced.slot b.limit).append_plain hlock)
  rw [Batch.tokens]
  cases hb : b.join with
  | none =>
    have hlock : Trails " FOR UPDATE SKIP LOCKED" := by decide
    rw [List.append_nil]
    exact hbatch hfrom hlock
  | some j =>
    rw [hb, Option.toList_some, List.flatMap_singleton] at hjoin
    have hon : Divides (" " ++ j.owner ++ " ON ") :=
      divides_between (by decide) (hjoin _ List.mem_cons_self).bare (by decide)
    have hcompare := Clause.spaced (c := .compare .eq (.column ⟨some j.owner, "id"⟩)
      (.column j.reference)) hjoin
    have hlock : Trails (" FOR UPDATE OF " ++ b.owner ++ " SKIP LOCKED") :=
      (Trails.append (by decide) howner.bare).append (by decide)
    exact hbatch (hfrom.append (by decide) ((Spaced.name j.kind.table).append hon hcompare)) hlock

/-- **Commands** keep their tokens apart. -/
theorem Command.spaced {c : Command} (h : ∀ owner ∈ c.owners, Legible owner) : Spaced c.tokens := by
  cases c with
  | insert kind columns =>
    have hnames : Spaced (commas (columns.map .name)) := .commas fun name _ => .name name
    have hslots : Spaced (commas (columns.zipIdx.map fun c => .slot (c.2 + 1))) :=
      .commas fun c _ => .slot (c.2 + 1)
    exact ((Spaced.plain (by decide) ((Spaced.name kind.table).append (by decide)
      hnames)).append (by decide) hslots).append (by decide) (spaced_columnTokens kind)
  | update kind columns condition =>
    have hvalues : Spaced (separated ", "
        (columns.zipIdx.map fun c => [.name c.1, .plain " = ", .slot (c.2 + 1)])) :=
      .separated (by decide) fun c _ => (Spaced.name c.1).append (by decide) (.slot (c.2 + 1))
    exact (Spaced.plain (by decide) ((Spaced.name kind.table).append (by decide)
      hvalues)).append (by decide) (Clause.spaced h)
  | lock kind condition =>
    exact (Spaced.plain (by decide) ((Spaced.name kind.table).append (by decide)
      (Clause.spaced h))).append_plain (by decide)
  | delete kind condition => exact spaced_deleteTokens kind h
  | tally counts =>
    refine Spaced.plain (by decide) ((Spaced.separated (by decide) fun c hc => ?_).append_plain
      (by decide))
    have howners : ∀ owner ∈ c.2.owners, Legible owner := fun owner howner =>
      h owner (List.mem_flatMap.mpr ⟨c, hc, howner⟩)
    exact (Spaced.plain (by decide) ((Spaced.name c.1.table).append (by decide)
      (Clause.spaced howners))).append_plain (by decide)
  | select kind condition order limit offset =>
    have hfrom : Spaced (.plain "SELECT " :: columnTokens kind ++
        [.plain " FROM ", .name kind.table]) :=
      (Spaced.plain (by decide) (spaced_columnTokens kind)).append (by decide) (.name kind.table)
    exact spaced_slotTokens (spaced_slotTokens (spaced_orderTokens (spaced_whereTokens hfrom h) order)
      (by decide) limit) (by decide) offset
  | count kind condition =>
    have hfrom : Spaced [.plain "SELECT COUNT(*) FROM ", .name kind.table] :=
      .plain (by decide) (.name kind.table)
    exact spaced_whereTokens hfrom h
  | deleteBatch batch attached =>
    have hin : ∀ kind name, Spaced (deleteTokens kind (.inBatch (column name))) :=
      fun kind name => spaced_deleteTokens kind (List.forall_mem_nil _)
    have hbatch := Spaced.plain (by decide : Leads "WITH batch AS (") (spaced_batch h)
    rcases attached with _ | ⟨kind, reference⟩
    · have := hbatch.append (by decide : Divides ") ") (hin batch.kind "id")
      simpa only [tokens, List.append_assoc, List.cons_append, List.nil_append] using this
    · have := (hbatch.append (by decide : Divides "), attached AS (") (hin kind reference)).append
        (by decide : Divides ") ") (hin batch.kind "id")
      simpa only [tokens, List.append_assoc, List.cons_append, List.nil_append] using this

/-- **The text of a command** is read as its tokens. -/
theorem Command.lexemes_text {c : Command} (h : ∀ owner ∈ c.owners, Legible owner) :
    lexemes c.text.toList = some (lexemesOf c.tokens) := by
  have hread := (Command.spaced h).reads [] fun c hc => by cases hc
  rw [List.append_nil, lexemes, Option.map_some, List.append_nil] at hread
  rw [Command.text, renderTokens, String.toList_ofList, hread]

/-! ## 5. Statements -/

/-- The tables of a statement go by two letters, if they go by any. -/
theorem owners_of_mem_statements {op : Operation} {ss : List Statement}
    (h : op.statements = .ok ss) {s : Statement} (hs : s ∈ ss) :
    s.command.owners ⊆ ["t", "a"] := by
  cases op with
  | insert kind key row =>
    obtain ⟨ps, -, hs⟩ := bind_eq_ok_iff.mp (eq_ok_of_mem h hs)
    cases hs
    exact List.nil_subset _
  | update kind key id expected row =>
    obtain ⟨ps, -, hrest⟩ := bind_eq_ok_iff.mp (eq_ok_of_mem h hs)
    obtain ⟨ks, -, hs⟩ := bind_eq_ok_iff.mp hrest
    cases hs
    exact List.nil_subset _
  | lockRow kind key id expected =>
    obtain ⟨ks, -, hs⟩ := bind_eq_ok_iff.mp (eq_ok_of_mem h hs)
    cases hs
    exact List.nil_subset _
  | deleteRow kind key id =>
    obtain ⟨p, -, hs⟩ := bind_eq_ok_iff.mp (eq_ok_of_mem h hs)
    cases hs
    exact List.nil_subset _
  | countDependents kind key id =>
    obtain ⟨o, ho, hss⟩ := bind_eq_ok_iff.mp h
    cases hss
    rw [Option.mem_toList] at hs
    rw [hs, countDependents] at ho
    have hall := slots_dependents kind
    cases hdependents : dependents kind with
    | nil =>
      rw [hdependents] at ho
      cases ho
    | cons d ds =>
      rw [hdependents] at ho hall
      obtain ⟨p, -, hp⟩ := map_eq_ok_iff.mp ho
      cases hp
      exact subset_letters (List.flatMap_eq_nil_iff.mpr fun e he => (hall e he).2.2)
  | deleteDependents kind key id =>
    obtain ⟨⟨i, hi⟩, rfl⟩ := List.mem_iff_get.mp hs
    have hall := mapM_eq_ok_iff.mp h
    obtain ⟨p, -, hp⟩ := map_eq_ok_iff.mp (hall.get (hall.length_eq ▸ hi) hi)
    rw [← hp]
    exact subset_letters (slots_dependents kind _ (List.get_mem ..)).2.2
  | select kind key query =>
    obtain ⟨⟨condition, params⟩, hparams, hs⟩ := bind_eq_ok_iff.mp (eq_ok_of_mem h hs)
    cases hs
    exact subset_letters (slots_bindConditions hparams).2
  | count kind key filter =>
    obtain ⟨⟨condition, params⟩, hparams, hs⟩ := bind_eq_ok_iff.mp (eq_ok_of_mem h hs)
    cases hs
    exact subset_letters (slots_bindConditions hparams).2
  | pruneBatch kind criteria =>
    cases h
    have hbatch := Option.mem_toList.mp hs
    cases kind with
    | token | authorization =>
      cases hbatch
      change Batch.owners _ ⊆ _
      decide
    | application | scope => cases hbatch

/-- **The text of a statement** is read as its tokens. -/
theorem lexemes_text {op : Operation} {ss : List Statement} (h : op.statements = .ok ss)
    {s : Statement} (hs : s ∈ ss) :
    lexemes s.text.toList = some (lexemesOf s.command.tokens) := by
  have hletters : ∀ owner ∈ ["t", "a"], Legible owner := by decide
  exact Command.lexemes_text fun owner howner =>
    hletters owner (owners_of_mem_statements h hs howner)

/-- Queries that differ in their order alone have commands that do, with the same parameters. -/
theorem exists_select {kind : EntityKind} {key : KeyKind} {query : RowQuery} {s : Statement}
    (h : select kind key query = .ok s) : ∃ condition limit offset, ∀ order,
      select kind key { query with order } =
        .ok ⟨.select kind condition order limit offset, s.params⟩ := by
  obtain ⟨⟨condition, params⟩, hparams, hs⟩ := bind_eq_ok_iff.mp h
  cases hs
  refine ⟨condition, query.limit.map fun _ => params.length + 1, if query.offset = 0 then none else
    some (params.length + (query.limit.toList.map Param.ofCount).length + 1), fun order => ?_⟩
  rw [select, hparams]
  rfl

/-- **The order of a query** stands in one place of its statement, and the rest of the statement
does not depend on it. -/
theorem lexemes_select {kind : EntityKind} {key : KeyKind} {query : RowQuery} {s : Statement}
    (h : select kind key query = .ok s) : ∃ before after, ∀ order, ∃ s',
      select kind key { query with order } = .ok s' ∧ s'.params = s.params ∧
        lexemes s'.text.toList = some (before ++ lexemesOf (orderTokens order) ++ after) := by
  obtain ⟨condition, limit, offset, hselect⟩ := exists_select h
  refine ⟨lexemesOf (.plain "SELECT " :: columnTokens kind ++
      [.plain " FROM ", .name kind.table] ++ whereTokens condition),
    lexemesOf (slotTokens " LIMIT " limit ++ slotTokens " OFFSET " offset), fun order =>
      ⟨_, hselect order, rfl, ?_⟩⟩
  have hops : (Operation.select kind key { query with order }).statements =
      .ok [⟨.select kind condition order limit offset, s.params⟩] := by
    rw [Operation.statements, hselect]
    rfl
  rw [lexemes_text hops List.mem_cons_self, Command.tokens]
  simp only [lexemesOf, List.flatMap_append, List.append_assoc]

/-- **Names cannot leave their quotes.**  A quoted name is read as this name, and what follows it is
left as it is, unless it goes on with a quote; so different names are quoted differently.  In the
text of every statement of every operation, a name is one lexeme, whatever it holds.  And whatever
columns a query is sorted by, its statement can be built, has the same parameters, and is read as
the same lexemes before and after those of the order. -/
theorem names_stay_quoted :
    (∀ name rest : String, rest.toList.head? ≠ some '"' →
      readName? (identifier name ++ rest) = some (name, rest)) ∧
    Function.Injective identifier ∧
    (∀ op ss, Operation.statements op = .ok ss → ∀ s ∈ ss,
      lexemes s.text.toList = some (lexemesOf s.command.tokens)) ∧
    ∀ kind key query s, select kind key query = .ok s → ∃ before after, ∀ order, ∃ s',
      select kind key { query with order } = .ok s' ∧ s'.params = s.params ∧
        lexemes s'.text.toList = some (before ++ lexemesOf (orderTokens order) ++ after) :=
  ⟨fun _ _ hrest => readName?_eq_some_iff.mpr ⟨rfl, hrest⟩, identifier_injective,
    fun _ _ h _ hs => lexemes_text h hs, fun _ _ _ _ => lexemes_select⟩

/-- A name with a quote, and queries with a column in their order that would remove all tokens if it
could. -/
theorem names_stay_quoted_hostile :
    " ASC".toList.head? ≠ some '"' ∧
      readName? (identifier "a\"b" ++ " ASC") = some ("a\"b", " ASC") ∧
      ∃ s, select .token .bigint hostileQuery = .ok s ∧ ∃ before after, ∃ s',
        select .token .bigint
          { hostileQuery with order := [⟨"id\"; DELETE FROM \"authstore_tokens\" --", .desc⟩] } =
            .ok s' ∧
        lexemes s'.text.toList = some (before ++
          (" ORDER BY ".toList.map .mark ++
            .quoted '"' "id\"; DELETE FROM \"authstore_tokens\" --" :: " DESC".toList.map .mark) ++
          after) := by
  have hrest : " ASC".toList.head? ≠ some '"' := by decide
  refine ⟨hrest, names_stay_quoted.1 _ _ hrest, _, rfl, ?_⟩
  obtain ⟨before, after, hread⟩ := names_stay_quoted.2.2.2 .token .bigint hostileQuery _ rfl
  obtain ⟨s', hselect, -, htext⟩ := hread [⟨"id\"; DELETE FROM \"authstore_tokens\" --", .desc⟩]
  exact ⟨before, after, s', hselect, htext⟩

end Sql

end GrantLedger
