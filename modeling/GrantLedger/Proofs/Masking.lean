import GrantLedger.Database.Address
import Mathlib.Data.List.Basic

/-!
# What a masked address shows of its password

Two addresses that differ in their passwords only should be masked alike; then nothing that is shown
depends on a password.  The mask looks for its place in a way that a password takes part in: it ends
at the first `@` and begins behind the last colon before it, if this colon stands behind the first
place after the scheme.  A password may hold colons, and a user may have no name.

* `maskChars_of_colon` and `maskChars_of_plain` say what is left of an address: the part of a
  password up to its last colon; of a password without colons nothing, unless the user has no name.
  Then it is left as it is.
* `mask_eq_mask_iff`: two masked addresses are equal exactly if the passwords agree in what is left
  (`Covered`).
* `mask_shows_password`: two passwords that the mask tells apart, and one that it does not cover.
-/

namespace GrantLedger.Database.Address

/-! ## 1. Addresses with a password -/

/-- The address of a database with a user and a password. -/
def withPassword (user password rest : String) : String :=
  "postgres://" ++ user ++ ":" ++ password ++ "@" ++ rest

/-- Whether a character is a hexadecimal digit of either case. -/
def isHexDigit (c : Char) : Bool :=
  c.isDigit || ('a' ≤ c && c ≤ 'f') || ('A' ≤ c && c ≤ 'F')

/-- Whether a character may stand for itself in a password. -/
def isPasswordChar (c : Char) : Bool :=
  c.isAlphanum || "-._~!$&'()*+,;=:".toList.contains c

/-- Whether characters may stand as the password of an address.  Any other character is written as
a percent sign with two hexadecimal digits. -/
def isPassword : List Char → Bool
  | [] => true
  | '%' :: a :: b :: rest => isHexDigit a && isHexDigit b && isPassword rest
  | c :: rest => isPasswordChar c && isPassword rest

/-- Whether a text may stand as the name of a user, which may be empty. -/
def IsUserName (user : String) : Prop := ∀ c ∈ [':', '@', '/', '?', '#'], c ∉ user.toList

instance (user : String) : Decidable (IsUserName user) :=
  List.decidableBAll (fun c => c ∉ user.toList) [':', '@', '/', '?', '#']

/-- No password holds the character that ends it. -/
theorem at_notMem_of_isPassword {cs : List Char} (h : isPassword cs = true) : '@' ∉ cs := by
  fun_induction isPassword cs with
  | case1 => exact List.not_mem_nil
  | case2 a b rest ih =>
    simp only [Bool.and_eq_true] at h
    obtain ⟨⟨ha, hb⟩, hrest⟩ := h
    have hdigit : isHexDigit '@' = false := by decide
    simp only [List.mem_cons, not_or]
    refine ⟨by decide, ?_, ?_, ih hrest⟩
    · rintro rfl
      rw [hdigit] at ha
      cases ha
    · rintro rfl
      rw [hdigit] at hb
      cases hb
  | case3 c rest _ ih =>
    simp only [Bool.and_eq_true] at h
    obtain ⟨hc, hrest⟩ := h
    have hchar : isPasswordChar '@' = false := by decide
    simp only [List.mem_cons, not_or]
    refine ⟨?_, ih hrest⟩
    rintro rfl
    rw [hchar] at hc
    cases hc

/-! ## 2. Where the mask begins and ends -/

theorem splitAtText?_at {front : List Char} (h : '@' ∉ front) (rest : List Char) :
    splitAtText? ['@'] (front ++ '@' :: rest) = some (front, '@' :: rest) := by
  induction front with
  | nil => rfl
  | cons c front ih =>
    simp only [List.mem_cons, not_or] at h
    have hc : ['@'].isPrefixOf (c :: (front ++ '@' :: rest)) = false := by
      simp [List.isPrefixOf, h.1]
    rw [List.cons_append, splitAtText?, hc, ih h.2]
    rfl

theorem splitAtLastColon?_append (front : List Char) {back : List Char} (h : ':' ∉ back) :
    splitAtLastColon? (front ++ ':' :: back) = some (front, back) := by
  have hafter : ((front ++ ':' :: back).reverse.takeWhile (· ≠ ':')).reverse = back := by
    rw [List.reverse_append, List.reverse_cons, List.append_assoc, List.singleton_append,
      List.takeWhile_append_of_pos, List.takeWhile_cons_of_neg (by decide), List.append_nil,
      List.reverse_reverse]
    intro c hc
    have hne : c ≠ ':' := fun e => h (e ▸ List.mem_reverse.mp hc)
    simpa using hne
  have hlength : (front ++ ':' :: back).length - back.length - 1 = front.length := by
    simp only [List.length_append, List.length_cons]
    omega
  rw [splitAtLastColon?]
  simp only [hafter, hlength]
  rw [if_neg (by simp only [List.length_append, List.length_cons]; omega), List.take_left]

/-- A text with a colon is cut at its last one. -/
theorem exists_last_colon {cs : List Char} (h : ':' ∈ cs) :
    ∃ front back, cs = front ++ ':' :: back ∧ ':' ∉ back := by
  obtain ⟨back, front, hcs, hback⟩ := List.eq_append_cons_of_mem (List.mem_reverse.mpr h)
  refine ⟨front.reverse, back.reverse, ?_, by simpa using hback⟩
  rw [← List.reverse_reverse cs, hcs]
  simp

/-- What stands before the last colon is determined by the text. -/
theorem front_eq_of_last_colon {front front' back back' : List Char}
    (h : front ++ ':' :: back = front' ++ ':' :: back') (hback : ':' ∉ back)
    (hback' : ':' ∉ back') : front = front' := by
  have hsplit := splitAtLastColon?_append front hback
  rw [h, splitAtLastColon?_append front' hback'] at hsplit
  exact (Prod.mk.inj (Option.some.inj hsplit)).1.symm

/-- The scheme of an address, with the slashes after it. -/
def scheme : List Char := "postgres://".toList

theorem length_scheme : scheme.length = 11 := by decide

theorem at_notMem_scheme : '@' ∉ scheme := by decide

/-- The characters of an address. -/
def chars (user password rest : List Char) : List Char :=
  scheme ++ user ++ ':' :: (password ++ '@' :: rest)

theorem schemeLength_scheme (rest : List Char) : schemeLength (scheme ++ rest) = 11 := rfl

theorem schemeLength_chars (user password rest : List Char) :
    schemeLength (chars user password rest) = 11 := by
  rw [chars, List.append_assoc, schemeLength_scheme]

section

variable {user password rest : List Char}

theorem splitAtText?_chars (huser : '@' ∉ user) (hpassword : '@' ∉ password) :
    splitAtText? ['@'] (chars user password rest) =
      some (scheme ++ user ++ ':' :: password, '@' :: rest) := by
  have hfront : '@' ∉ scheme ++ user ++ ':' :: password := by
    simp only [List.mem_append, List.mem_cons, not_or]
    exact ⟨⟨at_notMem_scheme, huser⟩, by decide, hpassword⟩
  rw [← splitAtText?_at hfront rest, chars, List.append_assoc _ (':' :: password),
    List.cons_append]

/-- **A password with a colon** is shown up to its last one. -/
theorem maskChars_of_colon (huser : '@' ∉ user) {front back : List Char}
    (hpassword : '@' ∉ front ++ ':' :: back) (hback : ':' ∉ back) :
    maskChars (chars user (front ++ ':' :: back) rest) =
      chars user (front ++ ":****".toList) rest := by
  have hsplit := splitAtLastColon?_append (scheme ++ user ++ ':' :: front) hback
  rw [List.append_assoc, List.cons_append] at hsplit
  have hbehind : 11 < (scheme ++ user ++ ':' :: front).length := by
    simp only [List.length_append, List.length_cons, length_scheme]
    omega
  rw [maskChars, splitAtText?_chars huser hpassword, schemeLength_chars]
  dsimp only
  rw [hsplit]
  dsimp only
  rw [if_pos hbehind, chars]
  simp only [List.append_assoc, List.cons_append]

/-- **A password without colons** is covered if the user has a name, and shown as it is if not. -/
theorem maskChars_of_plain (huser : '@' ∉ user) (hpassword : '@' ∉ password)
    (hplain : ':' ∉ password) :
    maskChars (chars user password rest) =
      chars user (if user = [] then password else "****".toList) rest := by
  have hsplit := splitAtLastColon?_append (scheme ++ user) hplain
  rw [maskChars, splitAtText?_chars huser hpassword, schemeLength_chars]
  dsimp only
  rw [hsplit]
  dsimp only
  rw [List.length_append, length_scheme]
  cases user with
  | nil => rfl
  | cons c user =>
    rw [if_pos (by simp), if_neg (List.cons_ne_nil c user), chars]
    simp only [List.append_assoc]
    rfl

theorem chars_inj {password' : List Char} :
    chars user password rest = chars user password' rest ↔ password = password' := by
  simp only [chars, List.append_cancel_left_eq, List.cons.injEq, true_and,
    List.append_cancel_right_eq]

end

/-! ## 3. Two addresses -/

theorem toList_withPassword (user password rest : String) :
    (withPassword user password rest).toList =
      chars user.toList password.toList rest.toList := by
  have hparts : ∀ a b c d e f : String, (a ++ b ++ c ++ d ++ e ++ f).toList =
      a.toList ++ b.toList ++ (c.toList ++ (d.toList ++ (e.toList ++ f.toList))) := by
    simp
  exact hparts "postgres://" user ":" password "@" rest

/-- Whether the mask covers all that two passwords of a user differ in: the name of the user is not
empty and both passwords are without colons, or both have colons and agree up to the last one. -/
def Covered (user p q : List Char) : Prop :=
  p = q ∨ (user ≠ [] ∧ ':' ∉ p ∧ ':' ∉ q) ∨
    ∃ front back back', p = front ++ ':' :: back ∧ q = front ++ ':' :: back' ∧
      ':' ∉ back ∧ ':' ∉ back'

/-- Masked addresses without and with a colon in the password differ: the mask itself has none. -/
theorem plain_ne_colon {user rest p front : List Char} (hplain : ':' ∉ p) :
    chars user (if user = [] then p else "****".toList) rest ≠
      chars user (front ++ ":****".toList) rest := by
  intro h
  rw [chars_inj] at h
  have hcolon : ':' ∈ front ++ ":****".toList := List.mem_append_right front (by decide)
  rw [← h] at hcolon
  split at hcolon
  · exact hplain hcolon
  · revert hcolon
    decide

theorem covered_of_plain_of_colon {user p front back : List Char} (hplain : ':' ∉ p) :
    ¬ Covered user p (front ++ ':' :: back) := by
  have hmem : ':' ∈ front ++ ':' :: back := List.mem_append_right front List.mem_cons_self
  rintro (rfl | ⟨-, -, h⟩ | ⟨front', back', -, rfl, -⟩)
  · exact hplain hmem
  · exact h hmem
  · exact hplain (List.mem_append_right front' List.mem_cons_self)

theorem Covered.symm {user p q : List Char} (h : Covered user p q) : Covered user q p := by
  rcases h with rfl | ⟨huser, hp, hq⟩ | ⟨front, back, back', hp, hq, hback, hback'⟩
  · exact .inl rfl
  · exact .inr (.inl ⟨huser, hq, hp⟩)
  · exact .inr (.inr ⟨front, back', back, hq, hp, hback', hback⟩)

theorem maskChars_eq_iff {user rest p q : List Char} (huser : '@' ∉ user) (hp : '@' ∉ p)
    (hq : '@' ∉ q) :
    maskChars (chars user p rest) = maskChars (chars user q rest) ↔ Covered user p q := by
  by_cases hpc : ':' ∈ p <;> by_cases hqc : ':' ∈ q
  · obtain ⟨f, b, rfl, hb⟩ := exists_last_colon hpc
    obtain ⟨f', b', rfl, hb'⟩ := exists_last_colon hqc
    rw [maskChars_of_colon huser hp hb, maskChars_of_colon huser hq hb', chars_inj,
      List.append_cancel_right_eq]
    constructor
    · rintro rfl
      exact .inr (.inr ⟨f, b, b', rfl, rfl, hb, hb'⟩)
    · rintro (h | ⟨-, h, -⟩ | ⟨g, c, c', hg, hg', hc, hc'⟩)
      · exact front_eq_of_last_colon h hb hb'
      · exact absurd hpc h
      · exact (front_eq_of_last_colon hg hb hc).trans (front_eq_of_last_colon hg' hb' hc').symm
  · obtain ⟨f, b, rfl, hb⟩ := exists_last_colon hpc
    rw [maskChars_of_colon huser hp hb, maskChars_of_plain huser hq hqc]
    exact iff_of_false (plain_ne_colon hqc).symm
      fun h => covered_of_plain_of_colon hqc h.symm
  · obtain ⟨f, b, rfl, hb⟩ := exists_last_colon hqc
    rw [maskChars_of_colon huser hq hb, maskChars_of_plain huser hp hpc]
    exact iff_of_false (plain_ne_colon hpc) (covered_of_plain_of_colon hpc)
  · rw [maskChars_of_plain huser hp hpc, maskChars_of_plain huser hq hqc, chars_inj]
    constructor
    · intro h
      by_cases hname : user = []
      · rw [if_pos hname, if_pos hname] at h
        exact .inl h
      · exact .inr (.inl ⟨hname, hpc, hqc⟩)
    · rintro (rfl | ⟨hname, -, -⟩ | ⟨front, back, -, rfl, -⟩)
      · rfl
      · rw [if_neg hname, if_neg hname]
      · exact absurd (List.mem_append_right front List.mem_cons_self) hpc

/-- **Two masked addresses are equal exactly if the mask covers all that their passwords differ
in.**  Whatever follows the passwords takes no part in it. -/
theorem mask_eq_mask_iff {user p q : String} (huser : IsUserName user)
    (hp : isPassword p.toList = true) (hq : isPassword q.toList = true) (rest : String) :
    mask (withPassword user p rest) = mask (withPassword user q rest) ↔
      Covered user.toList p.toList q.toList := by
  have hat : '@' ∉ user.toList := huser '@' (by decide)
  rw [mask, mask, String.ofList_inj, toList_withPassword, toList_withPassword]
  exact maskChars_eq_iff hat (at_notMem_of_isPassword hp) (at_notMem_of_isPassword hq)

/-- Two passwords that agree up to their last colons. -/
theorem mask_eq_mask_iff_lastColons :
    IsUserName "ledger" ∧ isPassword "a:b%3a".toList = true ∧ isPassword "a:(z)!".toList = true ∧
      mask (withPassword "ledger" "a:b%3a" "localhost/db") =
        mask (withPassword "ledger" "a:(z)!" "localhost/db") := by
  have hp : isPassword "a:b%3a".toList = true := by decide
  have hq : isPassword "a:(z)!".toList = true := by decide
  refine ⟨by decide, hp, hq, (mask_eq_mask_iff (by decide) hp hq "localhost/db").mpr ?_⟩
  exact .inr (.inr ⟨"a".toList, "b%3a".toList, "(z)!".toList, by decide⟩)

/-- **Masked addresses that tell passwords.**  A password with a colon is shown up to it, so that
its address is told from one with another password; the password of a user without a name is shown
as a whole. -/
theorem mask_shows_password :
    IsUserName "u" ∧ IsUserName "" ∧ isPassword "a:b".toList = true ∧
      isPassword "c".toList = true ∧ isPassword "secret".toList = true ∧
      mask (withPassword "u" "a:b" "h/db") = "postgres://u:a:****@h/db" ∧
      mask (withPassword "u" "c" "h/db") = "postgres://u:****@h/db" ∧
      mask (withPassword "" "secret" "h/db") = "postgres://:secret@h/db" := by
  decide +kernel

end GrantLedger.Database.Address
