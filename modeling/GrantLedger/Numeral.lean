/-!
# Decimal numerals of whole numbers

Writing (`Numeral.digits`, `Numeral.write`) and reading (`Numeral.readWithin`) whole numbers in
base ten. A reader accepts one optional sign and at least one digit, leading zeros included, and
reports the first thing that is wrong with a text, from left to right.
-/

namespace GrantLedger

namespace Numeral

/-! ## 1. Writing -/

/-- The digit of a number below ten. -/
def digitChar (n : Nat) : Char := Char.ofNat (48 + n)

/-- The decimal digits of a number, most significant first. -/
def digits (n : Nat) : List Char :=
  if n < 10 then [digitChar n] else digits (n / 10) ++ [digitChar (n % 10)]
termination_by n

/-- The decimal digits of a number, filled up with zeros on the left to a width. -/
def padded (width n : Nat) : List Char :=
  List.replicate (width - (digits n).length) '0' ++ digits n

/-- A whole number as text: a minus sign if it is negative, then its digits. -/
def write (n : Int) : String :=
  String.ofList (if n < 0 then '-' :: digits n.natAbs else digits n.natAbs)

/-! ## 2. Reading -/

/-- The value of a decimal digit. -/
def digitValue? (c : Char) : Option Nat :=
  if '0' ≤ c ∧ c ≤ '9' then some (c.toNat - 48) else none

/-- What is wrong with a numeral. -/
inductive Fault where
  /-- There is no character at all. -/
  | empty
  /-- A character, or a sign alone, is no digit. -/
  | invalidDigit
  /-- The number is above the range. -/
  | tooLarge
  /-- The number is below the range. -/
  | tooSmall
  deriving DecidableEq, Repr

/-- The fault in words. -/
def Fault.message : Fault → String
  | .empty => "cannot parse integer from empty string"
  | .invalidDigit => "invalid digit found in string"
  | .tooLarge => "number too large to fit in target type"
  | .tooSmall => "number too small to fit in target type"

/-- Appends digits to a magnitude, stopping at the first character that is no digit and at the
first magnitude above `bound`. -/
def readDigits (bound : Nat) (beyond : Fault) : Nat → List Char → Except Fault Nat
  | acc, [] => .ok acc
  | acc, c :: rest =>
    match digitValue? c with
    | none => .error .invalidDigit
    | some d =>
      if acc * 10 + d ≤ bound then readDigits bound beyond (acc * 10 + d) rest else .error beyond

/-- Reads a numeral whose value lies between `-low` and `high`. -/
def readWithin (low high : Nat) (text : String) : Except Fault Int :=
  match text.toList with
  | [] => .error .empty
  | ['+'] => .error .invalidDigit
  | ['-'] => .error .invalidDigit
  | '+' :: rest => (readDigits high .tooLarge 0 rest).map Int.ofNat
  | '-' :: rest => (readDigits low .tooSmall 0 rest).map fun n => -(Int.ofNat n)
  | rest => (readDigits high .tooLarge 0 rest).map Int.ofNat

/-- Reads a 64-bit signed number. -/
def readInt64 (text : String) : Except Fault Int64 :=
  (readWithin 9_223_372_036_854_775_808 9_223_372_036_854_775_807 text).map Int64.ofInt

/-- A nonempty run of digits as a number, of any size. -/
def readNat? (cs : List Char) : Option Nat :=
  if cs.isEmpty then none
  else cs.foldlM (fun acc c => (digitValue? c).map (acc * 10 + ·)) 0

/-! ## 3. A written number reads back -/

theorem digitValue?_digitChar {n : Nat} (h : n < 10) : digitValue? (digitChar n) = some n := by
  have : ∀ m, m < 10 → digitValue? (digitChar m) = some m := by decide
  exact this n h

theorem digits_ne_nil (n : Nat) : digits n ≠ [] := by
  rw [digits]; split <;> simp

/-- Reading the digits of `n` after a magnitude `acc` shifts `acc` by the width and adds `n`. -/
theorem readDigits_append {bound : Nat} {beyond : Fault} {acc acc' : Nat} {l r : List Char}
    (h : readDigits bound beyond acc l = .ok acc') :
    readDigits bound beyond acc (l ++ r) = readDigits bound beyond acc' r := by
  induction l generalizing acc with
  | nil => cases h; rfl
  | cons c l ih =>
    simp only [List.cons_append, readDigits] at h ⊢
    split at h
    · cases h
    · next d hd =>
      split at h
      · next hb => simp only [if_pos hb]; exact ih h
      · cases h

theorem readDigits_digits {bound : Nat} {beyond : Fault} (n : Nat) (h : n ≤ bound) :
    readDigits bound beyond 0 (digits n) = .ok n := by
  rw [digits]
  split
  · next hn => simp [readDigits, digitValue?_digitChar hn, h]
  · next hn =>
    rw [readDigits_append (readDigits_digits (n / 10) (by omega))]
    have hd : n % 10 < 10 := by omega
    simp only [readDigits, digitValue?_digitChar hd]
    rw [if_pos (by omega)]
    congr 1
    omega
termination_by n

/-- The first digit of a number is a digit, so it is no sign. -/
theorem digits_head (n : Nat) : ∃ d rest, d < 10 ∧ digits n = digitChar d :: rest := by
  rw [digits]
  split
  · next h => exact ⟨n, [], h, rfl⟩
  · obtain ⟨d, rest, hd, he⟩ := digits_head (n / 10)
    exact ⟨d, rest ++ [digitChar (n % 10)], hd, by rw [he]; rfl⟩
termination_by n

theorem isDigit_digitChar {n : Nat} (h : n < 10) : (digitChar n).isDigit = true := by
  have : ∀ m, m < 10 → (digitChar m).isDigit = true := by decide
  exact this n h

theorem isDigit_of_mem_digits {n : Nat} {c : Char} (hc : c ∈ digits n) : c.isDigit = true := by
  rw [digits] at hc
  split at hc
  · next h =>
    rw [List.mem_singleton.mp hc]
    exact isDigit_digitChar h
  · rcases List.mem_append.mp hc with hc | hc
    · exact isDigit_of_mem_digits hc
    · rw [List.mem_singleton.mp hc]
      exact isDigit_digitChar (Nat.mod_lt n (by decide))
termination_by n

theorem foldlM_digits (n : Nat) :
    (digits n).foldlM (fun acc c => (digitValue? c).map (acc * 10 + ·)) 0 = some n := by
  rw [digits]
  split
  · next h => simp [digitValue?_digitChar h]
  · have hdigit : n % 10 < 10 := Nat.mod_lt n (by decide)
    have hvalue : n / 10 * 10 + n % 10 = n := Nat.div_add_mod' n 10
    rw [List.foldlM_append, foldlM_digits (n / 10)]
    simp [digitValue?_digitChar hdigit, hvalue]
termination_by n

/-- The digits of a number are read as this number. -/
theorem readNat?_digits (n : Nat) : readNat? (digits n) = some n := by
  rw [readNat?, List.isEmpty_eq_false_iff.mpr (digits_ne_nil n), if_neg Bool.false_ne_true,
    foldlM_digits]

/-- Every number of a range reads back from its text. -/
theorem readWithin_write {low high : Nat} {n : Int} (hl : -(low : Int) ≤ n) (hh : n ≤ high) :
    readWithin low high (write n) = .ok n := by
  obtain ⟨d, rest, hd, he⟩ := digits_head n.natAbs
  have hsign : ∀ m, m < 10 → digitChar m ≠ '+' ∧ digitChar m ≠ '-' := by decide
  have hr := fun (b : Nat) (o : Fault) (h : n.natAbs ≤ b) =>
    @readDigits_digits b o n.natAbs h
  rw [he] at hr
  by_cases hn : n < 0
  · have hv : n = -Int.ofNat n.natAbs := by
      simp only [Int.ofNat_eq_natCast]; omega
    simp only [readWithin, write, if_pos hn, String.toList_ofList, he]
    rw [hr low .tooSmall (by omega)]
    exact congrArg Except.ok hv.symm
  · have hv : n = Int.ofNat n.natAbs := by
      simp only [Int.ofNat_eq_natCast]; omega
    simp only [readWithin, write, if_neg hn, String.toList_ofList, he]
    split
    · next h => simp at h
    · next h => exact absurd (List.cons.inj h).1 (hsign d hd).1
    · next h => exact absurd (List.cons.inj h).1 (hsign d hd).2
    · next h => exact absurd (List.cons.inj h).1 (hsign d hd).1
    · next h => exact absurd (List.cons.inj h).1 (hsign d hd).2
    · rw [hr high .tooLarge (by omega)]
      exact congrArg Except.ok hv.symm

end Numeral

end GrantLedger
