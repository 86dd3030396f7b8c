import GrantLedger.Json.Read
import GrantLedger.Proofs.JsonParts

/-!
# JSON is read as it was written

The compact text of a value without floating-point numbers is read as this value
(`readAsWritten?_render`), if its integers have 64 bits and it is not nested too deeply.  Numbers
and strings are read back at the front of any text that goes on in a fitting way (`Follows`); so are
values, by induction over their parts, where the induction hypothesis is the reading of the parts
(`Reads`) and the bound of the steps is twice the length of the text.

The other way round, integers that are read have 64 bits, whatever the text is
(`inRange_of_readAsWritten?`).
-/

namespace GrantLedger

/-! ## 1. Numbers -/

namespace Numeral

theorem toNat_digitChar {n : Nat} (h : n < 10) : (digitChar n).toNat - 48 = n := by
  have : ∀ m, m < 10 → (digitChar m).toNat - 48 = m := by decide
  exact this n h

/-- The first digit of a positive number is no zero. -/
theorem digits_head_pos {n : Nat} (h : 0 < n) :
    ∃ d rest, 0 < d ∧ d < 10 ∧ digits n = digitChar d :: rest := by
  rw [digits]
  split
  · next hn => exact ⟨n, [], h, hn, rfl⟩
  · obtain ⟨d, rest, hd, hd', he⟩ := digits_head_pos (n := n / 10) (by omega)
    exact ⟨d, rest ++ [digitChar (n % 10)], hd, hd', by rw [he, List.cons_append]⟩
termination_by n

end Numeral

namespace Json

open Numeral

theorem le_gather (acc dropped : Nat) (cs : List Char) : dropped ≤ (gather acc dropped cs).2 := by
  induction cs generalizing acc dropped with
  | nil => exact Nat.le_refl _
  | cons c cs ih =>
    rw [gather]
    split
    · next h =>
      rw [h.1]
      exact Nat.zero_le _
    · exact Nat.le_of_succ_le (ih acc (dropped + 1))

/-- A significand stays below 64 bits. -/
theorem gather_lt {acc dropped : Nat} (cs : List Char) (h : acc < 18_446_744_073_709_551_616) :
    (gather acc dropped cs).1 < 18_446_744_073_709_551_616 := by
  induction cs generalizing acc dropped with
  | nil => exact h
  | cons c cs ih =>
    rw [gather]
    split
    · next hnext => exact ih hnext.2
    · exact ih h

theorem gather_append {acc n : Nat} {cs : List Char} (h : gather acc 0 cs = (n, 0))
    (rest : List Char) : gather acc 0 (cs ++ rest) = gather n 0 rest := by
  induction cs generalizing acc with
  | nil =>
    cases h
    rfl
  | cons c cs ih =>
    rw [gather] at h
    rw [List.cons_append, gather]
    split at h
    · next hnext => rw [if_pos hnext, ih h]
    · have := le_gather acc 1 cs
      rw [h] at this
      cases this

/-- The digits of a number of 64 bits are gathered to this number. -/
theorem gather_digits {n : Nat} (h : n < 18_446_744_073_709_551_616) :
    gather 0 0 (digits n) = (n, 0) := by
  rw [digits]
  split
  · next hn => simp [gather, toNat_digitChar hn, h]
  · rw [gather_append (gather_digits (n := n / 10) (by omega))]
    have hd : n % 10 < 10 := by omega
    have hn : n / 10 * 10 + n % 10 = n := by omega
    simp [gather, toNat_digitChar hd, hn, h]
termination_by n

/-- What may follow a value: nothing, a comma or a closing bracket. -/
def Follows : List Char → Prop
  | [] => True
  | c :: _ => c = ',' ∨ c = ']' ∨ c = '\x7d'

theorem Follows.not_digit {c : Char} {rest : List Char} (h : Follows (c :: rest)) :
    c.isDigit = false := by
  rcases h with rfl | rfl | rfl <;> rfl

theorem takeWhile_digits (n : Nat) {rest : List Char} (hrest : Follows rest) :
    (digits n ++ rest).takeWhile Char.isDigit = digits n := by
  rw [List.takeWhile_append_of_pos fun c hc => isDigit_of_mem_digits hc]
  cases rest with
  | nil => exact List.append_nil _
  | cons c rest => rw [List.takeWhile_cons_of_neg (by simp [hrest.not_digit]), List.append_nil]

theorem dropWhile_digits (n : Nat) {rest : List Char} (hrest : Follows rest) :
    (digits n ++ rest).dropWhile Char.isDigit = rest := by
  rw [List.dropWhile_append_of_pos fun c hc => isDigit_of_mem_digits hc]
  cases rest with
  | nil => rfl
  | cons c rest => rw [List.dropWhile_cons_of_neg (by simp [hrest.not_digit])]

/-- A number is written without a leading zero. -/
theorem not_leading_zero (n : Nat) :
    ¬ ((digits n).isEmpty ∨ (digits n).head? = some '0' ∧ 1 < (digits n).length) := by
  have hne : (digits n).isEmpty = false := by
    rw [List.isEmpty_eq_false_iff]
    exact digits_ne_nil n
  rcases Nat.eq_zero_or_pos n with rfl | hn
  · simp [digits]
  · obtain ⟨d, ds, hd, hd', he⟩ := digits_head_pos hn
    have hzero : ∀ m, m < 10 → 0 < m → digitChar m ≠ '0' := by decide
    simp [he, hzero d hd' hd]

/-- A number without sign, fraction and exponent. -/
theorem readNumber_nat {n : Nat} (h : n < 18_446_744_073_709_551_616) {rest : List Char}
    (hrest : Follows rest) : readNumber (digits n ++ rest) = some (.int n, rest) := by
  have hsign : ∀ cs, digits n ++ rest ≠ '-' :: cs := by
    obtain ⟨d, ds, hd, he⟩ := digits_head n
    have : ∀ m, m < 10 → digitChar m ≠ '-' := by decide
    intro cs heq
    rw [he] at heq
    exact this d hd (List.cons.inj heq).1
  rw [readNumber.eq_2 _ hsign]
  simp only [takeWhile_digits n hrest, dropWhile_digits n hrest, gather_digits h,
    if_neg (not_leading_zero n)]
  match rest, hrest with
  | [], _ => simp
  | c :: rest, hc => rcases hc with rfl | rfl | rfl <;> simp

/-- A negative number without fraction and exponent. -/
theorem readNumber_neg {n : Nat} (hpos : 0 < n) (h : n ≤ 9_223_372_036_854_775_808)
    {rest : List Char} (hrest : Follows rest) :
    readNumber ('-' :: (digits n ++ rest)) = some (.int (-n), rest) := by
  rw [readNumber]
  simp only [takeWhile_digits n hrest, dropWhile_digits n hrest,
    gather_digits (Nat.lt_of_le_of_lt h (by decide)), if_neg (not_leading_zero n)]
  match rest, hrest with
  | [], _ => simp [hpos, h]
  | c :: rest, hc => rcases hc with rfl | rfl | rfl <;> simp [hpos, h]

/-! ## 2. Strings -/

theorem hexQuad?_hexDigit {n : Nat} (h : n < 32) :
    hexQuad? '0' '0' (hexDigit (n / 16)) (hexDigit (n % 16)) = some n := by
  have : ∀ m, m < 32 → hexQuad? '0' '0' (hexDigit (m / 16)) (hexDigit (m % 16)) = some m := by
    decide
  exact this n h

/-- A character is read as it was escaped. -/
theorem readString_escapeChar (c : Char) (rest : List Char) :
    readString (escapeChar c ++ rest) = (readString rest).map fun r => (c :: r.1, r.2) := by
  rw [escapeChar]
  split
  · next h => rw [h]; rfl
  split
  · next h => rw [h]; rfl
  split
  · next h => rw [h]; rfl
  split
  · next h => rw [h]; rfl
  split
  · next h => rw [h]; rfl
  split
  · next h => rw [h]; rfl
  split
  · next h => rw [h]; rfl
  split
  · next h =>
    change readString ('\\' :: 'u' :: '0' :: '0' :: _ :: _ :: rest) = _
    rw [readString.eq_2, hexQuad?_hexDigit h]
    simp only
    rw [if_neg (by omega), if_neg (by omega), Char.ofNat_toNat]
  · next hquote hbackslash _ _ _ _ _ hcontrol =>
    change readString (c :: rest) = _
    rw [readString.eq_4 _ _ (fun _ _ _ _ _ h => absurd h hbackslash)
      (fun _ _ h => absurd h hbackslash), if_neg hquote, if_neg (not_or.mpr ⟨hbackslash, hcontrol⟩)]

theorem readString_escape (cs rest : List Char) :
    readString (escape cs ++ '"' :: rest) = some (cs, rest) := by
  induction cs with
  | nil => rfl
  | cons c cs ih =>
    rw [escape, List.flatMap_cons, List.append_assoc, readString_escapeChar]
    change (readString (escape cs ++ '"' :: rest)).map _ = _
    rw [ih]
    rfl

/-- **Strings** are read as they were written. -/
theorem readString_renderString (s : String) (rest : List Char) :
    ∃ cs, renderString s ++ rest = '"' :: cs ∧ readString cs = some (s.toList, rest) :=
  ⟨escape s.toList ++ '"' :: rest, by simp [renderString], readString_escape _ _⟩

/-! ## 3. Values -/

theorem skipBlanks_cons {c : Char} {cs : List Char} (h : isBlank c = false) :
    skipBlanks (c :: cs) = c :: cs :=
  List.dropWhile_cons_of_neg (by simp [h])

/-- Without floating-point numbers, a written value begins with no blank and no closing bracket. -/
theorem renderChars_head {j : Json} (h : j.IsExact) :
    ∃ c cs, j.renderChars = c :: cs ∧ isBlank c = false ∧ c ≠ ']' := by
  cases j with
  | null => exact ⟨'n', _, rfl, rfl, by decide⟩
  | bool b => cases b <;> exact ⟨_, _, rfl, rfl, by decide⟩
  | int n =>
    obtain ⟨d, ds, hd, he⟩ := digits_head n.natAbs
    have : ∀ m, m < 10 → isBlank (digitChar m) = false ∧ digitChar m ≠ ']' := by decide
    rw [renderChars, he]
    split
    · exact ⟨'-', _, rfl, rfl, by decide⟩
    · exact ⟨_, ds, rfl, this d hd⟩
  | float x => cases h
  | str s => exact ⟨'"', _, rfl, rfl, by decide⟩
  | arr items => cases items <;> exact ⟨'[', _, rfl, rfl, by decide⟩
  | obj members => cases members <;> exact ⟨'\x7b', _, rfl, rfl, by decide⟩

/-- A value that is read as it is written, whatever follows it. -/
def Reads (j : Json) : Prop :=
  ∀ {fuel depth : Nat} {rest : List Char}, 2 * j.renderChars.length ≤ fuel → j.depth ≤ depth →
    Follows rest → readValue fuel depth (j.renderChars ++ rest) = some (j, rest)

theorem length_renderChars_pos {j : Json} (h : j.IsExact) : 0 < j.renderChars.length := by
  obtain ⟨c, cs, he, -⟩ := renderChars_head h
  rw [he]
  exact Nat.zero_lt_succ _

theorem exists_fuel {j : Json} (h : j.IsExact) {fuel : Nat}
    (hfuel : 2 * j.renderChars.length ≤ fuel) : ∃ n, fuel = n + 1 := by
  have := length_renderChars_pos h
  exact Nat.exists_eq_add_one.mpr (by omega)

theorem readValue_number {fuel depth : Nat} {c : Char} {cs : List Char}
    (h : c = '-' ∨ c.isDigit = true) :
    readValue (fuel + 1) depth (c :: cs) = readNumber (c :: cs) := by
  have hblank : isBlank c = false := by
    rcases h with rfl | h
    · rfl
    · cases hc : isBlank c with
      | false => rfl
      | true =>
        simp only [isBlank, Bool.or_eq_true, decide_eq_true_eq] at hc
        rcases hc with ((rfl | rfl) | rfl) | rfl <;> cases h
  rw [readValue.eq_2, skipBlanks_cons hblank]
  split <;> first
    | rfl
    | next heq =>
      obtain ⟨rfl, -⟩ := List.cons.inj heq
      rcases h with h | h <;> cases h

theorem reads_int {n : Int} (h : (int n).InRange) : (int n).Reads := by
  intro fuel depth rest hfuel _ hrest
  obtain ⟨hlow, hhigh⟩ := h
  obtain ⟨fuel, rfl⟩ := exists_fuel (j := int n) trivial hfuel
  rw [renderChars]
  split
  · next hneg =>
    rw [List.cons_append, readValue_number (Or.inl rfl),
      readNumber_neg (by omega) (by omega) hrest]
    congr 3
    omega
  · next hneg =>
    have hnat := readNumber_nat (n := n.natAbs) (by omega) hrest
    obtain ⟨d, ds, hd, he⟩ := digits_head n.natAbs
    rw [he, List.cons_append] at hnat ⊢
    rw [readValue_number (Or.inr (isDigit_digitChar hd)), hnat]
    congr 3
    omega

theorem follows_renderItems (items : List Json) (rest : List Char) :
    Follows (renderItems items ++ rest) := by
  cases items with
  | nil => exact Or.inr (Or.inl rfl)
  | cons item items => exact Or.inl rfl

theorem follows_renderMembers (members : List (String × Json)) (rest : List Char) :
    Follows (renderMembers members ++ rest) := by
  cases members with
  | nil => exact Or.inr (Or.inr rfl)
  | cons m members => exact Or.inl rfl

/-- Items are read one after the other. -/
theorem readItems_renderItems {items : List Json} (hreads : ∀ item ∈ items, item.Reads)
    (hne : items ≠ []) {fuel depth : Nat} {rest : List Char}
    (hfuel : 2 * (renderItems items).length ≤ fuel + 3) (hdepth : depthOfItems items ≤ depth) :
    readItems fuel depth ((renderItems items).tail ++ rest) = some (items, rest) := by
  induction items generalizing fuel with
  | nil => exact absurd rfl hne
  | cons item items ih =>
    rw [List.forall_mem_cons] at hreads
    rw [depthOfItems, Nat.max_le] at hdepth
    rw [renderItems, List.tail_cons, List.append_assoc]
    simp only [renderItems, List.length_cons, List.length_append] at hfuel
    have htail : 0 < (renderItems items).length := by
      cases items <;> exact Nat.zero_lt_succ _
    obtain ⟨fuel, rfl⟩ := Nat.exists_eq_add_of_lt (by omega : 0 < fuel)
    rw [Nat.zero_add, readItems,
      hreads.1 (by omega) hdepth.1 (follows_renderItems items rest)]
    cases items with
    | nil => rfl
    | cons next items =>
      have hrest : readItems fuel depth ((renderItems (next :: items)).tail ++ rest) =
          some (next :: items, rest) := ih hreads.2 (List.cons_ne_nil _ _) (by omega) hdepth.2
      rw [renderItems, List.tail_cons] at hrest
      simp only [renderItems, List.cons_append, skipBlanks_cons (c := ',') rfl]
      rw [hrest]
      rfl

/-- Members are read one after the other. -/
theorem readMembers_renderMembers {members : List (String × Json)}
    (hreads : ∀ m ∈ members, m.2.Reads) (hne : members ≠ []) {fuel depth : Nat}
    {rest : List Char} (hfuel : 2 * (renderMembers members).length ≤ fuel + 3)
    (hdepth : depthOfMembers members ≤ depth) :
    readMembers fuel depth ((renderMembers members).tail ++ rest) = some (members, rest) := by
  induction members generalizing fuel with
  | nil => exact absurd rfl hne
  | cons m members ih =>
    obtain ⟨name, value⟩ := m
    obtain ⟨hhead, hreads⟩ := List.forall_mem_cons.mp hreads
    change value.Reads at hhead
    rw [depthOfMembers, Nat.max_le] at hdepth
    simp only [renderMembers, List.length_cons, List.length_append] at hfuel
    have htail : 0 < (renderMembers members).length := by
      cases members <;> exact Nat.zero_lt_succ _
    obtain ⟨fuel, rfl⟩ := Nat.exists_eq_add_of_lt (by omega : 0 < fuel)
    obtain ⟨cs, hname, hread⟩ := readString_renderString name
      (':' :: (renderChars value ++ (renderMembers members ++ rest)))
    rw [renderMembers, List.tail_cons, List.append_assoc, List.cons_append, List.append_assoc, hname,
      Nat.zero_add, readMembers, skipBlanks_cons rfl]
    have hvalue : readValue fuel depth (renderChars value ++ (renderMembers members ++ rest)) =
        some (value, renderMembers members ++ rest) :=
      hhead (by omega) hdepth.1 (follows_renderMembers members rest)
    simp only [hread, skipBlanks_cons (c := ':') rfl, hvalue, String.ofList_toList]
    cases members with
    | nil => rfl
    | cons next members =>
      have hrest : readMembers fuel depth ((renderMembers (next :: members)).tail ++ rest) =
          some (next :: members, rest) := ih hreads (List.cons_ne_nil _ _) (by omega) hdepth.2
      rw [renderMembers, List.tail_cons] at hrest
      simp only [renderMembers, List.cons_append, skipBlanks_cons (c := ',') rfl] at hrest ⊢
      rw [hrest]
      rfl

theorem reads_arr {items : List Json} (hexact : ∀ item ∈ items, item.IsExact)
    (hreads : ∀ item ∈ items, item.Reads) : (arr items).Reads := by
  intro fuel depth rest hfuel hdepth _
  obtain ⟨fuel, rfl⟩ := exists_fuel (j := arr items) trivial hfuel
  rw [Json.depth] at hdepth
  cases items with
  | nil =>
    rw [readValue.eq_2]
    change (if depth = 0 then none else some (arr [], rest)) = _
    rw [if_neg (by omega)]
  | cons item items =>
    have hitems : readItems fuel (depth - 1) ((renderItems (item :: items)).tail ++ rest) =
        some (item :: items, rest) := by
      refine readItems_renderItems hreads (List.cons_ne_nil _ _) ?_ (by omega)
      simp only [renderChars, renderItems, List.length_cons] at hfuel ⊢
      omega
    obtain ⟨c, cs, hhead, hblank, hclose⟩ := renderChars_head (hexact item List.mem_cons_self)
    rw [renderItems, List.tail_cons, hhead, List.cons_append, List.cons_append] at hitems
    rw [readValue.eq_2, renderChars, hhead, List.cons_append, List.cons_append,
      List.cons_append, skipBlanks_cons rfl]
    simp only [if_neg (show depth ≠ 0 by omega), skipBlanks_cons hblank, hitems]
    split
    · next heq => exact absurd (List.cons.inj heq).1 hclose
    · rfl

theorem reads_obj {members : List (String × Json)} (hreads : ∀ m ∈ members, m.2.Reads) :
    (obj members).Reads := by
  intro fuel depth rest hfuel hdepth _
  obtain ⟨fuel, rfl⟩ := exists_fuel (j := obj members) trivial hfuel
  rw [Json.depth] at hdepth
  cases members with
  | nil =>
    rw [readValue.eq_2]
    change (if depth = 0 then none else some (obj [], rest)) = _
    rw [if_neg (by omega)]
  | cons m members =>
    have hmembers : readMembers fuel (depth - 1) ((renderMembers (m :: members)).tail ++ rest) =
        some (m :: members, rest) := by
      refine readMembers_renderMembers hreads (List.cons_ne_nil _ _) ?_ (by omega)
      simp only [renderChars, renderMembers, List.length_cons] at hfuel ⊢
      omega
    rw [renderMembers, List.tail_cons] at hmembers
    rw [readValue.eq_2, renderChars, List.cons_append, skipBlanks_cons rfl]
    change (if depth = 0 then none else (readMembers fuel (depth - 1) _).map _) = _
    rw [if_neg (by omega), hmembers]
    rfl

/-- **A value without floating-point numbers is read as it was written,** if its integers have 64
bits. -/
theorem reads_of_floatFree {j : Json} (hfloat : j.FloatFree) (hrange : j.Everywhere InRange) :
    j.Reads := by
  induction j using partsInduction with
  | null =>
    intro fuel depth rest hfuel _ _
    obtain ⟨fuel, rfl⟩ := exists_fuel (j := null) trivial hfuel
    rfl
  | bool b =>
    intro fuel depth rest hfuel _ _
    obtain ⟨fuel, rfl⟩ := exists_fuel (j := bool b) trivial hfuel
    cases b <;> rfl
  | int n => exact reads_int hrange
  | float x => cases hfloat
  | str s =>
    intro fuel depth rest hfuel _ _
    obtain ⟨fuel, rfl⟩ := exists_fuel (j := str s) trivial hfuel
    obtain ⟨cs, hs, hread⟩ := readString_renderString s rest
    rw [renderChars, hs, readValue.eq_2, skipBlanks_cons rfl]
    change (readString cs).map _ = _
    rw [hread, Option.map_some, String.ofList_toList]
  | arr items ih =>
    rw [FloatFree, everywhere_arr_iff] at hfloat
    rw [everywhere_arr_iff] at hrange
    exact reads_arr (fun item hi => (hfloat.2 item hi).self)
      fun item hi => ih item hi (hfloat.2 item hi) (hrange.2 item hi)
  | obj members ih =>
    rw [FloatFree, everywhere_obj_iff] at hfloat
    rw [everywhere_obj_iff] at hrange
    exact reads_obj fun m hm => ih m hm (hfloat.2 m hm) (hrange.2 m hm)

/-- **The text of a value without floating-point numbers is read as this value,** if its integers
have 64 bits and its arrays and objects are not nested too deeply. -/
theorem readAsWritten?_render {j : Json} (hfloat : j.FloatFree) (hrange : j.Everywhere InRange)
    (hdepth : j.depth ≤ nestingLimit) : readAsWritten? j.render = some j := by
  have hread : readValue (2 * j.renderChars.length + 2) nestingLimit (j.renderChars ++ []) =
      some (j, []) := reads_of_floatFree hfloat hrange (Nat.le_add_right _ 2) hdepth trivial
  rw [List.append_nil] at hread
  simp only [readAsWritten?, render, String.toList_ofList, hread]
  rfl

/-! ## 4. What is read -/

section

variable {α β : Type} {P : β → Prop}

/-- Whatever a computation results in has a property. -/
def Yields (P : α → Prop) (x : Option α) : Prop := ∀ a, x = some a → P a

theorem yields_none : Yields P none := fun _ h => by cases h

theorem yields_some {b : β} (h : P b) : Yields P (some b) := fun _ hb => by
  cases hb
  exact h

theorem Yields.bind {x : Option α} {f : α → Option β} (h : ∀ a, Yields P (f a)) :
    Yields P (x >>= f) := by
  cases x with
  | none => exact yields_none
  | some a => exact h a

theorem Yields.map {Q : α → Prop} {x : Option α} (hx : Yields Q x) {f : α → β}
    (h : ∀ a, Q a → P (f a)) : Yields P (x.map f) := by
  cases x with
  | none => exact yields_none
  | some a => exact yields_some (h a (hx a rfl))

theorem yields_true (x : Option α) : Yields (fun _ => True) x := fun _ _ => trivial

theorem yields_ite {c : Prop} [Decidable c] {x y : Option β} (hx : c → Yields P x)
    (hy : Yields P y) : Yields P (if c then x else y) := by
  split
  · next hc => exact hx hc
  · exact hy

end

theorem inRange_significand {n : Nat} {negative : Bool} (h : n < 18_446_744_073_709_551_616)
    (hnegative : if negative = true then 0 < n ∧ n ≤ 9_223_372_036_854_775_808 else True) :
    (int (if negative = true then -(n : Int) else n)).InRange := by
  cases negative with
  | false => exact ⟨by rw [if_neg (by decide)]; omega, by rw [if_neg (by decide)]; omega⟩
  | true =>
    rw [if_pos rfl] at hnegative
    rw [if_pos rfl]
    exact ⟨by omega, by omega⟩

/-- A number as it is read: an integer of 64 bits or a floating-point number. -/
def IsNumber : Json → Prop
  | .int n => (int n).InRange
  | .float _ => True
  | _ => False

theorem IsNumber.inRange {j : Json} (h : j.IsNumber) : j.Everywhere InRange := by
  cases j with
  | int n => exact h
  | float x => trivial
  | null | bool | str | arr | obj => cases h

theorem IsNumber.depth_eq {j : Json} (h : j.IsNumber) : j.depth = 0 := by
  cases j with
  | int | float => rfl
  | null | bool | str | arr | obj => cases h

/-- An integer that is read has 64 bits. -/
theorem yields_readNumber (cs : List Char) :
    Yields (fun r => r.1.IsNumber) (readNumber cs) := by
  unfold readNumber
  split
  next negative digits _ =>
  have hlt : (gather 0 0 (digits.takeWhile Char.isDigit)).1 < 18_446_744_073_709_551_616 :=
    gather_lt _ (by decide)
  dsimp only
  -- an integer is the result in one place only, after the test of its sign and its size
  repeat' first
    | exact yields_none
    | exact yields_some trivial
    | exact yields_some (inRange_significand hlt h.2.2.2)
    | refine yields_ite (fun h => ?_) ?_
    | refine Yields.bind fun _ => ?_
    | split

/-- What is read at each number of steps: a value, items and members with integers of 64 bits. -/
theorem yields_inRange (fuel : Nat) :
    (∀ depth cs, Yields (fun r => r.1.Everywhere InRange) (readValue fuel depth cs)) ∧
    (∀ depth cs, Yields (fun r => ∀ item ∈ r.1, item.Everywhere InRange)
      (readItems fuel depth cs)) ∧
    ∀ depth cs, Yields (fun r => ∀ m ∈ r.1, m.2.Everywhere InRange)
      (readMembers fuel depth cs) := by
  induction fuel with
  | zero => exact ⟨fun _ _ => yields_none, fun _ _ => yields_none, fun _ _ => yields_none⟩
  | succ fuel ih =>
    obtain ⟨hvalue, hitems, hmembers⟩ := ih
    refine ⟨fun depth cs => ?_, fun depth cs => ?_, fun depth cs => ?_⟩
    -- null, the two truth values and texts hold no numbers
    · rw [readValue.eq_2]
      split
      · exact yields_some trivial
      · exact yields_some trivial
      · exact yields_some trivial
      · exact (yields_true _).map fun _ _ => trivial
      · refine yields_ite (fun _ => yields_none) ?_
        split
        · exact yields_some (everywhere_arr_iff.mpr ⟨trivial, List.forall_mem_nil _⟩)
        · exact (hitems _ _).map fun r hr => everywhere_arr_iff.mpr ⟨trivial, hr⟩
      · refine yields_ite (fun _ => yields_none) ?_
        split
        · exact yields_some (everywhere_obj_iff.mpr ⟨trivial, List.forall_mem_nil _⟩)
        · exact (hmembers _ _).map fun r hr => everywhere_obj_iff.mpr ⟨trivial, hr⟩
      · exact fun r hr => (yields_readNumber _ r hr).inRange
    · rw [readItems]
      split
      · exact yields_none
      · next item rest hread =>
        have hitem := hvalue depth cs _ hread
        split
        · exact (hitems _ _).map fun r hr => List.forall_mem_cons.mpr ⟨hitem, hr⟩
        · exact yields_some (List.forall_mem_singleton.mpr hitem)
        · exact yields_none
    · rw [readMembers]
      split
      · split
        · exact yields_none
        · split
          · split
            · exact yields_none
            · next value rest hread =>
              have hmember := hvalue depth _ _ hread
              split
              · exact (hmembers _ _).map fun r hr => List.forall_mem_cons.mpr ⟨hmember, hr⟩
              · exact yields_some (List.forall_mem_singleton.mpr hmember)
              · exact yields_none
          · exact yields_none
      · exact yields_none

/-- **Integers that are read have 64 bits.** -/
theorem inRange_of_readAsWritten? {text : String} {j : Json} (h : readAsWritten? text = some j) :
    j.Everywhere InRange := by
  rw [readAsWritten?] at h
  split at h
  · cases h
  · next value rest hread =>
    split at h
    · cases h
      exact (yields_inRange _).1 _ _ _ hread
    · cases h

end Json

end GrantLedger
