import GrantLedger.Proofs.ClauseReading
import GrantLedger.Proofs.SqlMeaning

/-!
# Statements are read as their commands

Reading the text of a statement (`Command.read?`) returns the command that it was written from.  A
part of a command is read behind its keywords, up to a word that it cannot go on with; where two
optional parts follow one another, the first words of the one are not those of the other.

* `command_insert`, `command_select` and the others: one lemma for every sort of command.
* `Command.read?_text`: commands whose conditions are `regular` are read back from their texts.
* `regular_of_mem_statements`: statements have no others, since their conditions are made by the
  filters and by a few fixed forms.

`read?_text` is the main result, on the statements of every operation.  So what a database does with
the text of a statement is what its command says (`runs_iff`).
-/

namespace GrantLedger.Sql

open Reader

/-! ## 1. Parts of commands -/

/-- The commands that the readers return: their conditions are regular, and their lists of columns
and of numbers are not empty. -/
def Command.regular : Command → Bool
  | .insert _ columns => !columns.isEmpty
  | .update _ columns condition => !columns.isEmpty && condition.regular
  | .lock _ condition | .delete _ condition => condition.regular
  | .tally counts => !counts.isEmpty && counts.all fun c => c.2.regular
  | .select _ condition _ _ _ | .count _ condition => condition.all Clause.regular
  | .deleteBatch batch _ => batch.condition.regular

section

variable {n : Nat} {rest : List Piece}

theorem condition_tokens {c : Clause} (h : c.regular = true) (howners : c.owners ⊆ ["t", "a"])
    (hn : 3 * (piecesOf c.tokens).length ≤ n) (hrest : Clear ["AND", "OR"] rest) :
    condition n (piecesOf c.tokens ++ rest) = some (c, rest) :=
  (Clause.readsBack h howners).2.2 n rest hn hrest

theorem deletion_tokens (kind : EntityKind) {c : Clause} (h : c.regular = true)
    (howners : c.owners ⊆ ["t", "a"]) (hn : 3 * (piecesOf c.tokens).length ≤ n)
    (hrest : Clear ["AND", "OR"] rest) :
    deletion n (.quoted '"' kind.table :: .plain "WHERE" :: (piecesOf c.tokens ++ rest)) =
      some ((kind, c), rest) := by
  simp [deletion, behind?, condition_tokens h howners hn hrest]

theorem whereClause_tokens {c : Option Clause} (h : c.all Clause.regular = true)
    (howners : c.toList.flatMap Clause.owners ⊆ ["t", "a"])
    (hn : 3 * (piecesOf (whereTokens c)).length ≤ n)
    (hrest : Clear ["WHERE", "AND", "OR"] rest) :
    whereClause n (piecesOf (whereTokens c) ++ rest) = some (c, rest) := by
  obtain ⟨hwhere, hrest⟩ := List.forall_mem_cons.mp hrest
  cases c with
  | none => simp [whereClause, whereTokens, piecesOf, hwhere]
  | some c =>
    have hpieces : piecesOf (whereTokens (some c)) = .plain "WHERE" :: piecesOf c.tokens := rfl
    rw [Option.toList_some, List.flatMap_singleton] at howners
    rw [hpieces, List.length_cons] at hn
    have hread := condition_tokens (n := n) h howners (by omega) hrest
    simp [hpieces, whereClause, behind?, hread]

theorem separated_columnTokens (kind : EntityKind) (hrest : Clear [","] rest) :
    Reader.separated "," name (piecesOf (columnTokens kind) ++ rest) =
      some (kind.columns.map (·.name), rest) := by
  have hnames : kind.columns.map (·.name) ≠ [] := by cases kind <;> decide
  have hread := separated_names hnames hrest
  rw [List.map_map] at hread
  exact hread

/-- The columns of a table are not taken for a keyword. -/
theorem behind?_columnTokens (kind : EntityKind) (word : String) (texts : List String) :
    behind? (word :: texts) (piecesOf (columnTokens kind) ++ rest) = none := by
  cases kind <;> rfl

theorem slotBehind_tokens {keyword word : String}
    (h : pieces (Token.plain keyword).lexemes = [.plain word]) (number : Option Nat)
    (hrest : Clear [word] rest) :
    slotBehind word (piecesOf (slotTokens keyword number) ++ rest) = some (number, rest) := by
  cases number with
  | none => simp [slotTokens, slotBehind, piecesOf, hrest word List.mem_cons_self]
  | some n =>
    rw [slotTokens, piecesOf_cons, h, piecesOf_singleton, pieces_slot]
    simp [slotBehind, behind?]

theorem clear_slotTokens {keyword word : String} {words : List String}
    (h : pieces (Token.plain keyword).lexemes = [.plain word]) (number : Option Nat)
    (hword : word ∉ words) : Clear words (piecesOf (slotTokens keyword number)) := by
  cases number with
  | none => exact clear_nil words
  | some n =>
    rw [slotTokens, piecesOf_cons, h]
    exact clear_word word _ hword

theorem orderBy_tokens (order : List OrderTerm) (hrest : Clear [",", "ORDER"] rest) :
    Reader.orderBy (piecesOf (orderTokens order) ++ rest) = some (order, rest) := by
  obtain ⟨hcomma, horder⟩ := List.forall_mem_cons.mp hrest
  cases order with
  | nil => simp [orderTokens, Reader.orderBy, piecesOf, Clear.not_behind horder List.mem_cons_self]
  | cons t order =>
    have hterm : ∀ t : OrderTerm,
        ∀ rest, orderTerm (piecesOf [.name t.column, .plain (directionKeyword t.direction)] ++ rest) =
          some (t, rest) := by
      intro t rest
      have hpieces : ∀ d, pieces (Token.plain (directionKeyword d)).lexemes =
          [.plain (if d = .asc then "ASC" else "DESC")] := by
        intro d
        cases d <;> rfl
      obtain ⟨column, direction⟩ := t
      rw [piecesOf_cons, piecesOf_singleton, hpieces]
      cases direction <;> rfl
    have hread := separated_intercalate "," (l := t :: order) (fun t _ => hterm t)
      (fun _ _ => List.cons_ne_nil _ _) (List.cons_ne_nil _ _)
      (List.forall_mem_singleton.mpr hcomma)
    have hpieces : piecesOf (orderTokens (t :: order)) = .plain "ORDER" :: .plain "BY" ::
        [.plain ","].intercalate ((t :: order).map fun t =>
          piecesOf [.name t.column, .plain (directionKeyword t.direction)]) := by
      rw [orderTokens, if_neg (by simp), piecesOf_cons, piecesOf_separated rfl, List.map_map]
      rfl
    rw [hpieces, Reader.orderBy, List.cons_append, List.cons_append]
    simp only [choose_cons, behind?, if_true, hread]

theorem clear_orderTokens (order : List OrderTerm) {words : List String} (h : "ORDER" ∉ words) :
    Clear words (piecesOf (orderTokens order)) := by
  cases order with
  | nil => exact clear_nil words
  | cons t order =>
    rw [orderTokens, if_neg (by simp), piecesOf_cons]
    exact clear_word "ORDER" _ h

/-! ## 2. Commands without a batch -/

theorem command_insert (kind : EntityKind) {columns : List String} (h : columns ≠ []) :
    command n (piecesOf (Command.insert kind columns).tokens) =
      some (.insert kind columns, []) := by
  have hslots : columns.zipIdx.map (fun c => Token.slot (c.2 + 1)) =
      (List.range' 1 columns.length).map .slot := by
    rw [← map_zipIdx_succ, List.map_map]
    rfl
  have hpieces : piecesOf (Command.insert kind columns).tokens =
      .plain "INSERT" :: .plain "INTO" :: .quoted '"' kind.table :: .plain "(" ::
        (piecesOf (commas (columns.map .name)) ++ .plain ")" :: .plain "VALUES" :: .plain "(" ::
          (piecesOf (commas ((List.range' 1 columns.length).map .slot)) ++
            .plain ")" :: .plain "RETURNING" :: piecesOf (columnTokens kind))) := by
    rw [Command.tokens, hslots]
    simp only [piecesOf_append, piecesOf_cons, List.append_assoc]
    rfl
  have hnumbers : List.range' 1 columns.length ≠ [] := by simpa using h
  have hbracket : ∀ rest, Clear [","] (.plain ")" :: rest) := fun rest =>
    clear_word ")" rest (by decide)
  have hdeclared := separated_columnTokens kind (clear_nil [","])
  rw [List.append_nil] at hdeclared
  simp [hpieces, Reader.command, insertCommand, declaredColumns, behind?,
    separated_names h (hbracket _), separated_slots hnumbers (hbracket _), hdeclared]

/-- Columns receive the parameters in turn. -/
theorem separated_assignments {columns : List String} (h : columns ≠ [])
    (hrest : Clear [","] rest) :
    Reader.separated "," assignment
        (piecesOf (separated ", "
          (columns.zipIdx.map fun c => [.name c.1, .plain " = ", .slot (c.2 + 1)])) ++ rest) =
      some (columns.zipIdx.map fun c => (c.1, c.2 + 1), rest) := by
  have hassignment : ∀ (a : String × Nat) rest,
      assignment (piecesOf [.name a.1, .plain " = ", .slot a.2] ++ rest) = some (a, rest) := by
    intro a rest
    have hequals : pieces (Token.plain " = ").lexemes = [.plain "="] := rfl
    rw [piecesOf_cons, piecesOf_cons, piecesOf_singleton, pieces_name, pieces_slot, hequals]
    simp [assignment, behind?]
  have hread := separated_intercalate "," (l := columns.zipIdx.map fun c => (c.1, c.2 + 1))
    (fun a _ => hassignment a) (fun _ _ => List.cons_ne_nil _ _) (by simpa using h) hrest
  rw [List.map_map] at hread
  rw [piecesOf_separated rfl, List.map_map]
  exact hread

theorem command_update (kind : EntityKind) {columns : List String} (h : columns ≠ [])
    {c : Clause} (hc : c.regular = true) (howners : c.owners ⊆ ["t", "a"])
    (hn : 3 * (piecesOf (Command.update kind columns c).tokens).length ≤ n) :
    command n (piecesOf (Command.update kind columns c).tokens) =
      some (.update kind columns c, []) := by
  have hpieces : piecesOf (Command.update kind columns c).tokens =
      .plain "UPDATE" :: .quoted '"' kind.table :: .plain "SET" ::
        (piecesOf (separated ", "
          (columns.zipIdx.map fun c => [.name c.1, .plain " = ", .slot (c.2 + 1)])) ++
          .plain "WHERE" :: piecesOf c.tokens) := by
    rw [Command.tokens, piecesOf_append, piecesOf_append, List.append_assoc]
    rfl
  rw [hpieces] at hn ⊢
  simp only [List.length_cons] at hn
  rw [List.length_append, List.length_cons] at hn
  have hassignments := separated_assignments h (clear_word "WHERE" (piecesOf c.tokens) (by decide))
  have hcondition := condition_tokens (n := n) hc howners (by omega) (clear_nil _)
  rw [List.append_nil] at hcondition
  have hnumbers : (columns.zipIdx.map fun c => (c.1, c.2 + 1)).map Prod.snd =
      List.range' 1 (columns.zipIdx.map fun c => (c.1, c.2 + 1)).length := by
    rw [List.map_map, List.length_map, List.length_zipIdx]
    exact map_zipIdx_succ columns
  have hcolumns : (columns.zipIdx.map fun c => (c.1, c.2 + 1)).map Prod.fst = columns := by
    rw [List.map_map]
    exact List.zipIdx_map_fst 0 columns
  generalize columns.zipIdx.map (fun c => (c.1, c.2 + 1)) = assignments at *
  simp [Reader.command, updateCommand, behind?, hassignments, hcondition, hnumbers, hcolumns]

theorem command_lock (kind : EntityKind) {c : Clause} (h : c.regular = true)
    (howners : c.owners ⊆ ["t", "a"])
    (hn : 3 * (piecesOf (Command.lock kind c).tokens).length ≤ n) :
    command n (piecesOf (Command.lock kind c).tokens) = some (.lock kind c, []) := by
  have hpieces : piecesOf (Command.lock kind c).tokens =
      .plain "SELECT" :: .plain "1" :: .plain "FROM" :: .quoted '"' kind.table :: .plain "WHERE" ::
        (piecesOf c.tokens ++ [.plain "FOR", .plain "UPDATE"]) := by
    rw [Command.tokens, piecesOf_append, piecesOf_append, List.append_assoc]
    rfl
  rw [hpieces] at hn ⊢
  simp only [List.length_cons] at hn
  rw [List.length_append] at hn
  have hread := condition_tokens (n := n) h howners (by omega)
    (clear_word "FOR" [.plain "UPDATE"] (by decide))
  simp [Reader.command, lockCommand, behind?, hread]

theorem piecesOf_deleteTokens (kind : EntityKind) (c : Clause) : piecesOf (deleteTokens kind c) =
    .plain "DELETE" :: .plain "FROM" :: .quoted '"' kind.table :: .plain "WHERE" ::
      piecesOf c.tokens := by
  rw [deleteTokens, piecesOf_append]
  rfl

theorem command_delete (kind : EntityKind) {c : Clause} (h : c.regular = true)
    (howners : c.owners ⊆ ["t", "a"])
    (hn : 3 * (piecesOf (Command.delete kind c).tokens).length ≤ n) :
    command n (piecesOf (Command.delete kind c).tokens) = some (.delete kind c, []) := by
  rw [Command.tokens, piecesOf_deleteTokens] at hn ⊢
  simp only [List.length_cons] at hn
  have hread := deletion_tokens kind (n := n) h howners (by omega) (clear_nil _)
  rw [List.append_nil] at hread
  simp [Reader.command, behind?, hread]

/-- The tokens of one of the numbers that are added up. -/
def countTokens (c : EntityKind × Clause) : List Token :=
  [.plain "(SELECT COUNT(*) FROM ", .name c.1.table, .plain " WHERE "] ++ c.2.tokens ++
    [.plain ")"]

theorem piecesOf_countTokens (c : EntityKind × Clause) : piecesOf (countTokens c) =
    .plain "(" :: .plain "SELECT" :: .plain "COUNT" :: .plain "(" :: .plain "*" :: .plain ")" ::
      .plain "FROM" :: .quoted '"' c.1.table :: .plain "WHERE" ::
        (piecesOf c.2.tokens ++ [.plain ")"]) := by
  rw [countTokens, piecesOf_append, piecesOf_append, List.append_assoc]
  rfl

theorem tallied_countTokens {c : EntityKind × Clause} (h : c.2.regular = true)
    (howners : c.2.owners ⊆ ["t", "a"]) (hn : 3 * (piecesOf (countTokens c)).length ≤ n) :
    tallied n (piecesOf (countTokens c) ++ rest) = some (c, rest) := by
  rw [piecesOf_countTokens] at hn ⊢
  simp only [List.length_cons] at hn
  rw [List.length_append] at hn
  have hread := closed_apply (deletion_tokens c.1 (n := n) h howners (by omega)
    (clear_word ")" rest (by decide)))
  simp [tallied, behind?, hread]

theorem command_tally {counts : List (EntityKind × Clause)} (hcounts : counts ≠ [])
    (h : ∀ c ∈ counts, c.2.regular = true) (howners : ∀ c ∈ counts, c.2.owners ⊆ ["t", "a"])
    (hn : 3 * (piecesOf (Command.tally counts).tokens).length ≤ n) :
    command n (piecesOf (Command.tally counts).tokens) = some (.tally counts, []) := by
  have hplus : pieces (Token.plain " + ").lexemes = [.plain "+"] := rfl
  have hpieces : piecesOf (Command.tally counts).tokens = .plain "SELECT" :: .plain "(" ::
      ([.plain "+"].intercalate (counts.map fun c => piecesOf (countTokens c)) ++
        [.plain ")", .plain "::", .plain "BIGINT"]) := by
    change piecesOf (.plain "SELECT (" :: separated " + " (counts.map countTokens) ++ _) = _
    rw [piecesOf_append, piecesOf_cons, piecesOf_separated hplus, List.map_map]
    rfl
  rw [hpieces] at hn ⊢
  simp only [List.length_cons] at hn
  rw [List.length_append] at hn
  have hread : ∀ c ∈ counts, ∀ rest,
      tallied n (piecesOf (countTokens c) ++ rest) = some (c, rest) := by
    intro c hc rest
    have hlength := length_le_intercalate "+"
      (List.mem_map_of_mem hc (f := fun c => piecesOf (countTokens c)))
    exact tallied_countTokens (h c hc) (howners c hc) (by omega)
  have hnumbers := separated_intercalate "+" hread (fun c _ => by simp [piecesOf_countTokens])
    hcounts (clear_word ")" [.plain "::", .plain "BIGINT"] (by decide))
  simp [Reader.command, behind?, tallyCommand, hnumbers]

theorem command_select (kind : EntityKind) {c : Option Clause} (order : List OrderTerm)
    (limit offset : Option Nat) (h : c.all Clause.regular = true)
    (howners : c.toList.flatMap Clause.owners ⊆ ["t", "a"])
    (hn : 3 * (piecesOf (Command.select kind c order limit offset).tokens).length ≤ n) :
    command n (piecesOf (Command.select kind c order limit offset).tokens) =
      some (.select kind c order limit offset, []) := by
  have hlimit : pieces (Token.plain " LIMIT ").lexemes = [.plain "LIMIT"] := rfl
  have hoffset : pieces (Token.plain " OFFSET ").lexemes = [.plain "OFFSET"] := rfl
  have hpieces : piecesOf (Command.select kind c order limit offset).tokens =
      .plain "SELECT" :: (piecesOf (columnTokens kind) ++ .plain "FROM" ::
        .quoted '"' kind.table :: (piecesOf (whereTokens c) ++ (piecesOf (orderTokens order) ++
          (piecesOf (slotTokens " LIMIT " limit) ++ piecesOf (slotTokens " OFFSET " offset))))) := by
    rw [Command.tokens]
    simp only [piecesOf_append, piecesOf_cons, List.append_assoc]
    rfl
  rw [hpieces] at hn ⊢
  simp only [List.length_cons, List.length_append] at hn
  -- what comes behind each part does not begin with a word that the part could go on with
  have hrest : ∀ words, "OFFSET" ∉ words → Clear words (piecesOf (slotTokens " OFFSET " offset)) :=
    fun words => clear_slotTokens hoffset offset
  have hwindow : ∀ words, "LIMIT" ∉ words → "OFFSET" ∉ words →
      Clear words (piecesOf (slotTokens " LIMIT " limit) ++
        piecesOf (slotTokens " OFFSET " offset)) := fun words hl ho =>
    (clear_slotTokens hlimit limit hl).append (hrest words ho)
  have hcolumns := fun rest => separated_columnTokens kind (clear_word "FROM" rest (by decide))
  have hwhere := whereClause_tokens h howners (n := n) (by omega)
    ((clear_orderTokens order (by decide)).append (hwindow _ (by decide) (by decide)))
  have horder := orderBy_tokens order (hwindow _ (by decide) (by decide))
  have hlimit := slotBehind_tokens hlimit limit (hrest _ (by decide))
  have hoffset := slotBehind_tokens hoffset offset (clear_nil _)
  rw [List.append_nil] at hoffset
  simp [Reader.command, behind?, behind?_columnTokens, selectCommand, hcolumns, hwhere, horder,
    hlimit, hoffset]

theorem command_count (kind : EntityKind) {c : Option Clause} (h : c.all Clause.regular = true)
    (howners : c.toList.flatMap Clause.owners ⊆ ["t", "a"])
    (hn : 3 * (piecesOf (Command.count kind c).tokens).length ≤ n) :
    command n (piecesOf (Command.count kind c).tokens) = some (.count kind c, []) := by
  have hpieces : piecesOf (Command.count kind c).tokens = .plain "SELECT" :: .plain "COUNT" ::
      .plain "(" :: .plain "*" :: .plain ")" :: .plain "FROM" :: .quoted '"' kind.table ::
        piecesOf (whereTokens c) := by
    rw [Command.tokens, piecesOf_append]
    rfl
  rw [hpieces] at hn ⊢
  simp only [List.length_cons] at hn
  have hread := whereClause_tokens h howners (n := n) (by omega) (clear_nil _)
  rw [List.append_nil] at hread
  simp [Reader.command, behind?, countCommand, hread]

/-! ## 3. Deletions by batch -/

theorem expectColumn_tokens {c : ColumnRef} (h : c.owner.toList ⊆ ["t", "a"]) :
    expectColumn c (piecesOf c.tokens ++ rest) = some ((), rest) := by
  simp [expectColumn, columnRef_column h]

/-- The tokens of a joined table, behind the keywords. -/
def Join.tokens (j : Join) : List Token :=
  [.name j.kind.table, .plain (" " ++ j.owner ++ " ON ")] ++
    (Clause.compare .eq (.column ⟨some j.owner, "id"⟩) (.column j.reference)).tokens

theorem join_tokens {j : Join} (howner : j.owner ∈ ["t", "a"])
    (hreference : j.reference.owner.toList ⊆ ["t", "a"]) :
    join (piecesOf j.tokens ++ rest) = some (j, rest) := by
  obtain ⟨-, hon, -⟩ := pieces_letters j.owner howner
  have hpieces : piecesOf j.tokens = .quoted '"' j.kind.table :: .plain j.owner :: .plain "ON" ::
      (piecesOf (ColumnRef.tokens ⟨some j.owner, "id"⟩) ++ .plain "=" ::
        piecesOf j.reference.tokens) := by
    rw [Join.tokens, piecesOf_append, piecesOf_cons, piecesOf_singleton, hon, Clause.tokens,
      piecesOf_append, piecesOf_cons]
    rfl
  have hid : (ColumnRef.mk (some j.owner) "id").owner.toList ⊆ ["t", "a"] :=
    List.cons_subset.mpr ⟨howner, List.nil_subset _⟩
  simp [hpieces, join, behind?, letters_owner howner, expectColumn_tokens hid,
    columnRef_column hreference]

/-- The tokens of a join, if there is one. -/
def joinTokens (j : Option Join) : List Token := j.elim [] fun j => .plain " LEFT JOIN " :: j.tokens

theorem joined_joinTokens {j : Option Join}
    (howners : (j.toList.flatMap fun j => j.owner :: j.reference.owner.toList) ⊆ ["t", "a"])
    (hrest : Clear ["LEFT"] rest) : joined (piecesOf (joinTokens j) ++ rest) = some (j, rest) := by
  cases j with
  | none => simp [joined, joinTokens, piecesOf, hrest.not_behind List.mem_cons_self]
  | some j =>
    rw [Option.toList_some, List.flatMap_singleton, List.cons_subset] at howners
    have hpieces : piecesOf (joinTokens (some j)) =
        .plain "LEFT" :: .plain "JOIN" :: piecesOf j.tokens := piecesOf_cons ..
    simp [hpieces, joined, behind?, join_tokens howners.1 howners.2]

theorem piecesOf_batch {b : Batch} (h : b.owner ∈ ["t", "a"]) : piecesOf b.tokens =
    .plain "SELECT" :: (piecesOf (ColumnRef.tokens ⟨some b.owner, "id"⟩) ++ .plain "FROM" ::
      .quoted '"' b.kind.table :: .plain b.owner :: (piecesOf (joinTokens b.join) ++
        .plain "WHERE" :: (piecesOf b.condition.tokens ++ .plain "ORDER" :: .plain "BY" ::
          (piecesOf (ColumnRef.tokens ⟨some b.owner, "id"⟩) ++ .plain "LIMIT" ::
            slotPiece b.limit :: (lockWords b.owner b.join.isSome).map .plain)))) := by
  obtain ⟨hletter, -, -, hlocked⟩ := pieces_letters b.owner h
  have hlock : pieces (Token.plain (if b.join.isSome then
      " FOR UPDATE OF " ++ b.owner ++ " SKIP LOCKED" else " FOR UPDATE SKIP LOCKED")).lexemes =
      (lockWords b.owner b.join.isSome).map .plain := by
    cases b.join.isSome with
    | false => rw [if_neg Bool.false_ne_true]; rfl
    | true => exact hlocked
  have htokens : b.tokens = .plain "SELECT " :: ColumnRef.tokens ⟨some b.owner, "id"⟩ ++
      [.plain " FROM ", .name b.kind.table, .plain (" " ++ b.owner)] ++ joinTokens b.join ++
        .plain " WHERE " :: b.condition.tokens ++
          .plain " ORDER BY " :: ColumnRef.tokens ⟨some b.owner, "id"⟩ ++
            [.plain " LIMIT ", .slot b.limit, .plain (if b.join.isSome then
              " FOR UPDATE OF " ++ b.owner ++ " SKIP LOCKED" else " FOR UPDATE SKIP LOCKED")] := by
    rw [Batch.tokens]
    cases b.join <;> rfl
  rw [htokens]
  simp only [piecesOf_append, piecesOf_cons, pieces_slot, hletter, hlock, List.append_assoc]
  have hnil : piecesOf [] = [] := rfl
  simp only [hnil, List.append_nil]
  rfl

theorem firstRows_tokens {owner : String} (h : owner ∈ ["t", "a"]) (joined : Bool) (limit : Nat) :
    firstRows owner joined (.plain "ORDER" :: .plain "BY" ::
      (piecesOf (ColumnRef.tokens ⟨some owner, "id"⟩) ++ .plain "LIMIT" :: slotPiece limit ::
        ((lockWords owner joined).map .plain ++ rest))) = some (limit, rest) := by
  have hid : (ColumnRef.mk (some owner) "id").owner.toList ⊆ ["t", "a"] :=
    List.cons_subset.mpr ⟨h, List.nil_subset _⟩
  simp [firstRows, behind?, expectColumn_tokens hid, behind?_words]

theorem batch_tokens {b : Batch} (h : b.condition.regular = true) (howners : b.owners ⊆ ["t", "a"])
    (hn : 3 * (piecesOf b.tokens).length ≤ n) (rest : List Piece) :
    batch n (piecesOf b.tokens ++ rest) = some (b, rest) := by
  obtain ⟨hletters, hcondition⟩ := List.append_subset.mp howners
  obtain ⟨howner, hjoin⟩ := List.cons_subset.mp hletters
  have hid : (ColumnRef.mk (some b.owner) "id").owner.toList ⊆ ["t", "a"] :=
    List.cons_subset.mpr ⟨howner, List.nil_subset _⟩
  rw [piecesOf_batch howner] at hn ⊢
  simp only [List.length_cons, List.length_append] at hn
  have hjoined := fun rest => joined_joinTokens hjoin (clear_word "WHERE" rest (by decide))
  have hread := fun rest => condition_tokens (n := n) h hcondition (by omega)
    (clear_word "ORDER" rest (by decide))
  simp [batch, behind?, columnRef_column hid, letters_owner howner, hjoined, hread,
    firstRows_tokens howner]

theorem batchDeletion_tokens (kind : EntityKind) (name : String)
    (hn : 3 * (piecesOf (deleteTokens kind (.inBatch (column name)))).length ≤ n)
    (hrest : Clear ["AND", "OR"] rest) :
    batchDeletion n (piecesOf (deleteTokens kind (.inBatch (column name))) ++ rest) =
      some ((kind, name), rest) := by
  rw [piecesOf_deleteTokens] at hn ⊢
  simp only [List.length_cons] at hn
  have hread := deletion_tokens kind (n := n) (c := .inBatch (column name)) rfl
    (List.nil_subset _) (by omega) hrest
  simp [batchDeletion, behind?, hread]
  rfl

/-- The pieces of a deletion of what is attached, if there is one. -/
def attachmentPieces (attached : Option (EntityKind × String)) : List Piece :=
  attached.elim [] fun a => .plain "," :: .plain "attached" :: .plain "AS" :: .plain "(" ::
    (piecesOf (deleteTokens a.1 (.inBatch (column a.2))) ++ [.plain ")"])

theorem attachment_pieces (attached : Option (EntityKind × String))
    (hn : 3 * (attachmentPieces attached).length ≤ n) (hrest : Clear [","] rest) :
    attachment n (attachmentPieces attached ++ rest) = some (attached, rest) := by
  cases attached with
  | none => simp [attachment, attachmentPieces, hrest.not_behind List.mem_cons_self]
  | some a =>
    rw [attachmentPieces, Option.elim_some] at hn ⊢
    simp only [List.length_cons, List.length_append] at hn
    have hread := closed_apply (batchDeletion_tokens a.1 a.2 (n := n) (by omega)
      (clear_word ")" rest (by decide)))
    simp [attachment, behind?, hread]

theorem piecesOf_deleteBatch (b : Batch) (attached : Option (EntityKind × String)) :
    piecesOf (Command.deleteBatch b attached).tokens =
      .plain "WITH" :: .plain "batch" :: .plain "AS" :: .plain "(" :: (piecesOf b.tokens ++
        .plain ")" :: (attachmentPieces attached ++
          piecesOf (deleteTokens b.kind (.inBatch (column "id"))))) := by
  cases attached with
  | none =>
    simp only [Command.tokens, piecesOf_append, piecesOf_cons, List.append_assoc]
    rfl
  | some a =>
    simp only [Command.tokens, piecesOf_append, piecesOf_cons, List.append_assoc, attachmentPieces,
      Option.elim_some, List.cons_append]
    rfl

theorem command_deleteBatch (b : Batch) (attached : Option (EntityKind × String))
    (h : b.condition.regular = true) (howners : b.owners ⊆ ["t", "a"])
    (hn : 3 * (piecesOf (Command.deleteBatch b attached).tokens).length ≤ n) :
    command n (piecesOf (Command.deleteBatch b attached).tokens) =
      some (.deleteBatch b attached, []) := by
  rw [piecesOf_deleteBatch] at hn ⊢
  simp only [List.length_cons, List.length_append] at hn
  have hdelete : Clear [","] (piecesOf (deleteTokens b.kind (.inBatch (column "id")))) := by
    rw [piecesOf_deleteTokens]
    exact clear_word "DELETE" _ (by decide)
  have hbatch := batch_tokens (n := n) h howners (by omega)
  have hattached := attachment_pieces attached (n := n) (by omega) hdelete
  have hdeletion := batchDeletion_tokens b.kind "id" (n := n) (by omega) (clear_nil _)
  rw [List.append_nil] at hdeletion
  simp [Reader.command, batchCommand, behind?, hbatch, hattached, hdeletion]

end

/-! ## 4. All commands -/

/-- **The text of a command** is read as the command. -/
theorem Command.read?_text {c : Command} (h : c.regular = true) (howners : c.owners ⊆ ["t", "a"]) :
    Command.read? c.text = some c := by
  have hlegible : ∀ owner ∈ c.owners, Legible owner := fun owner howner =>
    (by decide : ∀ owner ∈ ["t", "a"], Legible owner) owner (howners howner)
  have hpieces : pieces (lexemesOf c.tokens) = piecesOf c.tokens :=
    (Command.spaced hlegible).pieces_eq
  suffices hread : ∀ n, 3 * (piecesOf c.tokens).length ≤ n →
      Reader.command n (piecesOf c.tokens) = some (c, []) by
    simp [Command.read?, Command.lexemes_text hlegible, hpieces, StateT.run, hread _ le_rfl]
  intro n hn
  cases c with
  | insert kind columns =>
    exact command_insert kind (by simpa [regular] using h)
  | update kind columns condition =>
    obtain ⟨hcolumns, hcondition⟩ : columns ≠ [] ∧ condition.regular = true := by
      simpa [regular] using h
    exact command_update kind hcolumns hcondition howners hn
  | lock kind condition => exact command_lock kind h howners hn
  | delete kind condition => exact command_delete kind h howners hn
  | tally counts =>
    obtain ⟨hcounts, hconditions⟩ : counts ≠ [] ∧ ∀ c ∈ counts, c.2.regular = true := by
      simpa [regular] using h
    exact command_tally hcounts hconditions (fun c hc owner howner =>
      howners (List.mem_flatMap.mpr ⟨c, hc, howner⟩)) hn
  | select kind condition order limit offset =>
    exact command_select kind order limit offset h howners hn
  | count kind condition => exact command_count kind h howners hn
  | deleteBatch batch attached => exact command_deleteBatch batch attached h howners hn

/-! ## 5. Statements -/

/-- A test can be read, and is no conjunction. -/
theorem regular_bindPredicate {key : KeyKind} {c : Column} {slot : Nat} {p : Predicate}
    {clause : Clause} {params : List Param}
    (h : bindPredicate key c slot p = .ok (clause, params)) :
    clause.regular = true ∧ clause.isAnd = false := by
  cases p with
  | eq | ne | lt | le | gt | ge =>
    obtain ⟨p, -, hp⟩ := bind_eq_ok_iff.mp h
    cases hp
    exact ⟨rfl, rfl⟩
  | isNull | isNotNull | contains =>
    cases h
    exact ⟨rfl, rfl⟩
  | oneOf values =>
    match values with
    | [] =>
      cases h
      exact ⟨rfl, rfl⟩
    | v :: values =>
      obtain ⟨ps, hps, hp⟩ := bind_eq_ok_iff.mp h
      cases hp
      have hlength := (mapM_eq_ok_iff.mp hps).length_eq
      have hslots : params.length ≠ 0 := hlength ▸ Nat.succ_ne_zero values.length
      exact ⟨by simpa [Clause.regular] using hslots, rfl⟩

/-- **Filters** can be read: their conditions are grouped to the right. -/
theorem regular_bindConditions {kind : EntityKind} {key : KeyKind} {slot : Nat}
    {cs : List Condition} {condition : Option Clause} {params : List Param}
    (h : bindConditions kind key slot cs = .ok (condition, params)) :
    condition.all Clause.regular = true := by
  induction cs generalizing slot condition params with
  | nil =>
    cases h
    rfl
  | cons c cs ih =>
    rw [bindConditions] at h
    cases hcolumn : kind.column? c.column with
    | none =>
      rw [hcolumn] at h
      cases h
    | some column =>
      rw [hcolumn] at h
      obtain ⟨⟨clause, ps⟩, hclause, h⟩ := bind_eq_ok_iff.mp h
      obtain ⟨⟨others, more⟩, hothers, h⟩ := bind_eq_ok_iff.mp h
      cases h
      obtain ⟨hregular, hand⟩ := regular_bindPredicate hclause
      have hmore := ih hothers
      cases others with
      | none => simpa using hregular
      | some o =>
        rw [Option.all_some] at hmore
        simp [Clause.regular, hregular, hand, hmore]

theorem regular_dependents (kind : EntityKind) : ∀ d ∈ dependents kind, d.2.regular = true := by
  cases kind <;> decide

/-- The columns that a statement writes are at least one. -/
theorem columns_ne_nil (kind : EntityKind) :
    kind.columns.map (·.name) ≠ [] ∧ (valueColumns kind).map (·.name) ≠ [] := by
  cases kind <;> decide

theorem regular_of_mem_statements {op : Operation} {ss : List Statement}
    (h : op.statements = .ok ss) {s : Statement} (hs : s ∈ ss) : s.command.regular = true := by
  cases op with
  | insert kind key row =>
    obtain ⟨ps, -, hs⟩ := bind_eq_ok_iff.mp (eq_ok_of_mem h hs)
    cases hs
    obtain ⟨hall, hvalues⟩ := columns_ne_nil kind
    simp only [Command.regular, Bool.not_eq_true', List.isEmpty_eq_false_iff]
    split
    · exact hvalues
    · exact hall
  | update kind key id expected row =>
    obtain ⟨ps, -, hrest⟩ := bind_eq_ok_iff.mp (eq_ok_of_mem h hs)
    obtain ⟨ks, -, hs⟩ := bind_eq_ok_iff.mp hrest
    cases hs
    simp only [Command.regular, Bool.and_eq_true, Bool.not_eq_true', List.isEmpty_eq_false_iff]
    exact ⟨(columns_ne_nil kind).2, rfl⟩
  | lockRow kind key id expected =>
    obtain ⟨ks, -, hs⟩ := bind_eq_ok_iff.mp (eq_ok_of_mem h hs)
    cases hs
    rfl
  | deleteRow kind key id =>
    obtain ⟨p, -, hs⟩ := bind_eq_ok_iff.mp (eq_ok_of_mem h hs)
    cases hs
    rfl
  | countDependents kind key id =>
    obtain ⟨o, ho, hss⟩ := bind_eq_ok_iff.mp h
    cases hss
    rw [Option.mem_toList] at hs
    rw [hs, countDependents] at ho
    have hall := regular_dependents kind
    cases hdependents : dependents kind with
    | nil =>
      rw [hdependents] at ho
      cases ho
    | cons d ds =>
      rw [hdependents] at ho hall
      obtain ⟨p, -, hp⟩ := map_eq_ok_iff.mp ho
      cases hp
      simpa [Command.regular] using hall
  | deleteDependents kind key id =>
    obtain ⟨⟨i, hi⟩, rfl⟩ := List.mem_iff_get.mp hs
    have hall := mapM_eq_ok_iff.mp h
    obtain ⟨p, -, hp⟩ := map_eq_ok_iff.mp (hall.get (hall.length_eq ▸ hi) hi)
    rw [← hp]
    exact regular_dependents kind _ (List.get_mem ..)
  | select kind key query =>
    obtain ⟨⟨condition, params⟩, hparams, hs⟩ := bind_eq_ok_iff.mp (eq_ok_of_mem h hs)
    cases hs
    exact regular_bindConditions hparams
  | count kind key filter =>
    obtain ⟨⟨condition, params⟩, hparams, hs⟩ := bind_eq_ok_iff.mp (eq_ok_of_mem h hs)
    cases hs
    exact regular_bindConditions hparams
  | pruneBatch kind criteria =>
    cases h
    have hbatch := Option.mem_toList.mp hs
    cases kind with
    | token | authorization =>
      cases hbatch
      rfl
    | application | scope => cases hbatch

/-- **Statements are read as their commands.** -/
theorem read?_text {op : Operation} {ss : List Statement} (h : op.statements = .ok ss)
    {s : Statement} (hs : s ∈ ss) : Command.read? s.text = some s.command :=
  Command.read?_text (regular_of_mem_statements h hs) (owners_of_mem_statements h hs)

section

variable {s : Statement} {key : KeyKind} {db after : Database} {answer : Answer}

/-- **Statements run as their commands.** -/
theorem runs_iff (op : Operation) {ss : List Statement} (h : op.statements = .ok ss) (hs : s ∈ ss) :
    s.Runs key db answer after ↔ s.command.Executes key s.params db answer after := by
  rw [Statement.Runs, TextRuns, read?_text h hs]
  simp

/-- The statement of an operation that has one. -/
theorem runs_iff_of_builder (op : Operation) {x : Except StoreError Statement}
    (hop : op.statements = do return [← x]) (h : x = .ok s) :
    s.Runs key db answer after ↔ s.command.Executes key s.params db answer after := by
  have hops : op.statements = .ok [s] := by
    rw [hop, h]
    rfl
  exact runs_iff op hops List.mem_cons_self

end

end GrantLedger.Sql
