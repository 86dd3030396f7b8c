import GrantLedger.Proofs.Finding
import Mathlib.Algebra.Ring.Nat

/-!
# Keys survive their stored and their textual forms

An identifier is stored as a key, and it is also named by its text: in a request, in a message, or
in a column of texts.  Both forms are read back as the identifier, whatever the key type, so that
different identifiers have different texts.

* `Uuid.ofText?_toText`: the grouped text of a UUID is read back, over all 128 bits.
* `readInt64_write`: so is the numeral of a 64-bit integer, both ends of the range included.
* `narrow_eq_ok_iff`: a 64-bit integer is a 32-bit identifier exactly if they are one number.
* `keys_read_back`: the main result.
-/

namespace GrantLedger

/-! ## 1. UUIDs -/

namespace Uuid

theorem hexValue?_hexChar {n : Nat} (h : n < 16) : hexValue? (hexChar n) = some n := by
  have : ∀ m, m < 16 → hexValue? (hexChar m) = some m := by decide
  exact this n h

@[simp] theorem length_hexDigits (width n : Nat) : (hexDigits width n).length = width := by
  induction width generalizing n with
  | zero => rfl
  | succ width ih => rw [hexDigits, List.length_append, ih, List.length_singleton]

/-- The digits of a number give the number back, as far as it fits into them. -/
theorem ofHex?_hexDigits (width n : Nat) : ofHex? (hexDigits width n) = some (n % 16 ^ width) := by
  unfold ofHex?
  induction width generalizing n with
  | zero => simp [hexDigits, Nat.mod_one]
  | succ width ih =>
    have hdigit : n % 16 < 16 := Nat.mod_lt n (by decide)
    have hvalue : n / 16 % 16 ^ width * 16 + n % 16 = n % 16 ^ (width + 1) := by
      rw [Nat.pow_succ, Nat.mul_comm (16 ^ width) 16, Nat.mod_mul]
      omega
    rw [hexDigits, List.foldlM_append, ih]
    simp [hexValue?_hexChar hdigit, hvalue]

theorem ofPlain?_hexDigits (u : Uuid) : ofPlain? (hexDigits 32 u.bits.toNat) = some u := by
  have hsmall : u.bits.toNat < 16 ^ 32 := u.bits.isLt
  rw [ofPlain?, if_pos (length_hexDigits ..), ofHex?_hexDigits, Nat.mod_eq_of_lt hsmall]
  simp

/-- Groups of the right lengths with hyphens between them are read as one run of digits. -/
theorem ofGrouped?_groups {a b c d e : List Char} (ha : a.length = 8) (hb : b.length = 4)
    (hc : c.length = 4) (hd : d.length = 4) (he : e.length = 12) :
    ofGrouped? (a ++ '-' :: b ++ '-' :: c ++ '-' :: d ++ '-' :: e) =
      ofPlain? (a ++ b ++ c ++ d ++ e) := by
  have hlength : (a ++ '-' :: b ++ '-' :: c ++ '-' :: d ++ '-' :: e).length = 36 := by
    simp [ha, hb, hc, hd, he]
  have hhyphens : [8, 13, 18, 23].all (fun i =>
      (a ++ '-' :: b ++ '-' :: c ++ '-' :: d ++ '-' :: e)[i]? == some '-') = true := by
    simp [List.getElem?_append, List.getElem?_cons, ha, hb, hc, hd]
  rw [ofGrouped?, if_pos ⟨hlength, hhyphens⟩]
  simp [List.drop_append, List.drop_eq_nil_of_le, ha, hb, hc, hd]

/-- The five groups of a run of digits, one after the other. -/
theorem groups_append (ds : List Char) :
    ds.take 8 ++ (ds.drop 8).take 4 ++ (ds.drop 12).take 4 ++ (ds.drop 16).take 4 ++ ds.drop 20 =
      ds := by
  have hgroup : ∀ i, (ds.drop i).take 4 ++ ds.drop (i + 4) = ds.drop i := fun i => by
    rw [← List.drop_drop, List.take_append_drop]
  rw [List.append_assoc, List.append_assoc, List.append_assoc, hgroup 16, hgroup 12, hgroup 8,
    List.take_append_drop]

theorem length_toChars (u : Uuid) : u.toChars.length = 36 := by
  simp [toChars]

/-- **UUIDs** are read back from their texts. -/
theorem ofText?_toText (u : Uuid) : ofText? u.toText = some u := by
  have hgrouped : ofGrouped? u.toChars = some u := by
    rw [toChars, ofGrouped?_groups (by simp) (by simp) (by simp) (by simp) (by simp),
      groups_append, ofPlain?_hexDigits]
  have hlength := length_toChars u
  rw [ofText?, toText, String.toList_ofList, if_neg (by rw [hlength]; decide), if_pos hlength,
    hgrouped]

end Uuid

/-! ## 2. Integers -/

/-- **Integers** are read back from their numerals. -/
theorem readInt64_write (n : Int64) : Numeral.readInt64 (Numeral.write n.toInt) = .ok n := by
  have hlow := n.le_toInt
  have hhigh := n.toInt_lt
  rw [Numeral.readInt64, Numeral.readWithin_write (by omega) (by omega)]
  exact congrArg Except.ok n.ofInt_toInt

/-- Narrowing keeps the number. -/
theorem narrow_eq_ok_iff {n : Int64} {k : Int32} :
    EntityKey.narrow n = .ok k ↔ k.toInt = n.toInt := by
  constructor
  · intro h
    rw [← toInt64_of_narrow h, Int32.toInt_toInt64]
  · intro h
    have hsame : k.toInt64 = n := by rw [← Int64.toInt_inj, Int32.toInt_toInt64, h]
    rw [← hsame]
    exact LawfulEntityKey.ofKey_toKey k

/-- An integer is a 32-bit identifier exactly if it is in range. -/
theorem exists_narrow_iff (n : Int64) :
    (∃ k, EntityKey.narrow n = .ok k) ↔ -2_147_483_648 ≤ n.toInt ∧ n.toInt ≤ 2_147_483_647 := by
  constructor
  · rintro ⟨k, h⟩
    rw [← narrow_eq_ok_iff.mp h]
    exact ⟨k.le_toInt, k.toInt_le⟩
  · rintro ⟨hlow, hhigh⟩
    exact ⟨.ofInt n.toInt, narrow_eq_ok_iff.mpr (Int32.toInt_ofInt_of_le hlow (by omega))⟩

/-- An integer out of range is refused, with an error that names it. -/
theorem exists_narrow_refused_iff (n : Int64) :
    (∃ fault, EntityKey.narrow n = .error (.validation (.narrowKey n fault))) ↔
      ¬(-2_147_483_648 ≤ n.toInt ∧ n.toInt ≤ 2_147_483_647) := by
  rw [EntityKey.narrow]
  split
  · exact iff_of_true ⟨_, rfl⟩ (by omega)
  · split
    · exact iff_of_true ⟨_, rfl⟩ (by omega)
    · exact iff_of_false (fun ⟨_, h⟩ => by cases h) (by omega)

/-! ## 3. Key types -/

/-- A key type whose identifiers are read back from their texts. -/
class TextualKey (K : Type) [EntityKey K] : Prop where
  ofKey_toText : ∀ k : K, EntityKey.ofKey (.text (EntityKey.toText k)) = .ok k

instance : TextualKey String where
  ofKey_toText _ := rfl

instance : TextualKey Uuid where
  ofKey_toText u := by
    change EntityKey.readUuid (.text u.toText) = .ok u
    rw [EntityKey.readUuid, Uuid.ofText?_toText]

/-- The numeral of an integer is read as this integer. -/
theorem readInt64_numeral (n : Int64) :
    EntityKey.readInt64 (.text (Numeral.write n.toInt)) = .ok n := by
  rw [EntityKey.readInt64, readInt64_write]

instance : TextualKey Int64 where
  ofKey_toText n := readInt64_numeral n

instance : TextualKey Int32 where
  ofKey_toText k := by
    change (EntityKey.readInt64 (.text (Numeral.write k.toInt64.toInt))).bind EntityKey.narrow =
      .ok k
    rw [readInt64_numeral]
    exact LawfulEntityKey.ofKey_toKey k

instance (key : KeyType) : TextualKey key.type := by
  cases key
  · exact inferInstanceAs (TextualKey String)
  · exact inferInstanceAs (TextualKey Uuid)
  · exact inferInstanceAs (TextualKey Int64)
  · exact inferInstanceAs (TextualKey Int32)

/-- Different identifiers have different texts. -/
theorem toText_injective (K : Type) [EntityKey K] [TextualKey K] :
    Function.Injective (EntityKey.toText : K → String) := by
  intro i k h
  have hread := TextualKey.ofKey_toText i
  rw [h, TextualKey.ofKey_toText] at hread
  exact (Except.ok.inj hread).symm

/-- **Keys survive.**  Identifiers of every key type are read back from their stored forms and from
their texts, so that no two of them have one text.  A stored integer is the 32-bit identifier with
the same number, which there is exactly if it is in range; any other one is reported as malformed,
with its number. -/
theorem keys_read_back :
    (∀ key : KeyType,
      (∀ k : key.type, EntityKey.ofKey (EntityKey.toKey k) = .ok k ∧
        EntityKey.ofKey (.text (EntityKey.toText k)) = .ok k) ∧
      Function.Injective (EntityKey.toText : key.type → String)) ∧
    ∀ n : Int64,
      (∀ k : Int32, EntityKey.ofKey (.int n) = .ok k ↔ k.toInt = n.toInt) ∧
      ((∃ k : Int32, EntityKey.ofKey (.int n) = .ok k) ↔
        -2_147_483_648 ≤ n.toInt ∧ n.toInt ≤ 2_147_483_647) ∧
      ((∃ fault, (EntityKey.ofKey (.int n) : Except StoreError Int32) =
          .error (.validation (.narrowKey n fault))) ↔
        ¬(-2_147_483_648 ≤ n.toInt ∧ n.toInt ≤ 2_147_483_647)) := by
  refine ⟨fun key => ⟨fun k => ⟨LawfulEntityKey.ofKey_toKey k, TextualKey.ofKey_toText k⟩,
    toText_injective key.type⟩, fun n => ?_⟩
  exact ⟨fun k => narrow_eq_ok_iff, exists_narrow_iff n, exists_narrow_refused_iff n⟩

open EntityKey in
/-- The least of the 64-bit integers, the greatest of the 32-bit ones, the integer after it, and two
UUIDs. -/
theorem keys_read_back_extremes :
    toText Int64.minValue = "-9223372036854775808" ∧
      ofKey (.text "-9223372036854775808") = .ok Int64.minValue ∧
      toText Int32.maxValue = "2147483647" ∧ ofKey (.text "2147483647") = .ok Int32.maxValue ∧
      (∃ fault, (ofKey (.int 2147483648) : Except StoreError Int32) =
        .error (.validation (.narrowKey 2147483648 fault))) ∧
      toText (⟨1⟩ : Uuid) ≠ toText (⟨2⟩ : Uuid) := by
  have hleast : toText Int64.minValue = "-9223372036854775808" := by decide +kernel
  have hgreatest : toText Int32.maxValue = "2147483647" := by decide +kernel
  refine ⟨hleast, ?_, hgreatest, ?_, ?_, ?_⟩
  · rw [← hleast]
    exact ((keys_read_back.1 .int64).1 Int64.minValue).2
  · rw [← hgreatest]
    exact ((keys_read_back.1 .int32).1 Int32.maxValue).2
  · exact (keys_read_back.2 2147483648).2.2.mpr (by decide)
  · exact (keys_read_back.1 .uuid).2.ne (by decide : (⟨1⟩ : Uuid) ≠ ⟨2⟩)

end GrantLedger
