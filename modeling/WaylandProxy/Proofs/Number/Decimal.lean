/-
# Proofs.Number.Decimal -- what a whole number looks like

A numeral is at least one digit, with perhaps a plus sign before them, and stands for the value of
its digits, leading zeros included (`Numeral`).  Reading accepts exactly the numerals of numbers
below its bound (`readRadix_eq_ok_iff`): the bound is tested at each digit, and a value never
shrinks when digits are added to it.  A number that was written in digits is its own numeral
(`numeral_toString`).
-/
import Mathlib.Data.Nat.Basic
import WaylandProxy.Number.Decimal
import WaylandProxy.Proofs.Outcome

namespace WaylandProxy.Number.Decimal

set_option autoImplicit false

/-- The text writes a number in decimal digits, perhaps after a plus sign. -/
def Numeral (text : List Char) (n : Nat) : Prop :=
  ∃ digits, digits ≠ [] ∧ (∀ c ∈ digits, c.isDigit) ∧ (text = digits ∨ text = '+' :: digits) ∧
    n = Nat.ofDigitChars 10 digits 0

theorem isDigit_iff (c : Char) : c.isDigit ↔ 48 ≤ c.toNat ∧ c.toNat ≤ 57 := by
  simp [Char.isDigit, UInt32.le_iff_toNat_le]

/-- A decimal digit has the value that its place in the table of characters says. -/
theorem digit?_ten (c : Char) : digit? 10 c = if c.isDigit then some (c.toNat - 48) else none := by
  unfold digit?
  by_cases digit : c.isDigit
  · have range := (isDigit_iff c).1 digit
    have small : c.toNat - 48 < 10 := by omega
    simp [digit, small]
  · have lower (letter : 'a' ≤ c) : ¬ c.toNat - 87 < 10 := by
      have above : 97 ≤ c.toNat := letter
      omega
    have upper (letter : 'A' ≤ c) : ¬ c.toNat - 55 < 10 := by
      have above : 65 ≤ c.toNat := letter
      omega
    rw [if_neg digit, if_neg digit]
    refine if_neg ?_
    split
    · rename_i letter
      exact lower letter.1
    · split
      · rename_i letter
        exact upper letter.1
      · omega

theorem ofDigitChars_cons (c : Char) (digits : List Char) (value : Nat) :
    Nat.ofDigitChars 10 (c :: digits) value =
      Nat.ofDigitChars 10 digits (value * 10 + (c.toNat - 48)) := by
  rw [Nat.ofDigitChars_cons, Nat.mul_comm]
  rfl

theorem le_ofDigitChars (digits : List Char) (value : Nat) :
    value ≤ Nat.ofDigitChars 10 digits value := by
  induction digits generalizing value with
  | nil => exact Nat.le_refl value
  | cons c digits ih =>
      rw [ofDigitChars_cons]
      have more := ih (value * 10 + (c.toNat - 48))
      omega

/-- One more digit is taken if it is one and keeps the value below the bound. -/
theorem push_eq_ok_iff {bound value n : Nat} {c : Char} :
    push 10 bound value c = .ok n ↔
      c.isDigit ∧ n = value * 10 + (c.toNat - 48) ∧ n < bound := by
  unfold push
  rw [digit?_ten]
  by_cases digit : c.isDigit
  · rw [if_pos digit]
    simp only [digit, true_and]
    generalize value * 10 + (c.toNat - 48) = next
    by_cases fits : next < bound
    · rw [if_pos fits, Except.ok.injEq]
      exact ⟨fun same => ⟨same.symm, same ▸ fits⟩, fun both => both.1.symm⟩
    · rw [if_neg fits]
      exact ⟨nofun, fun both => absurd (both.1 ▸ both.2) fits⟩
  · simp [digit]

/-- Digits are read to their value, if the bound allows for it. -/
theorem foldlM_push_eq_ok_iff {bound : Nat} {digits : List Char} {value n : Nat} :
    digits.foldlM (push 10 bound) value = .ok n ↔
      (∀ c ∈ digits, c.isDigit) ∧ n = Nat.ofDigitChars 10 digits value ∧
        (digits = [] ∨ n < bound) := by
  induction digits generalizing value with
  | nil =>
      show Except.ok value = Except.ok n ↔ _
      rw [Except.ok.injEq]
      exact ⟨fun same => ⟨nofun, same.symm, .inl rfl⟩, fun all => all.2.1.symm⟩
  | cons c digits ih =>
      rw [List.foldlM_cons, ofDigitChars_cons]
      constructor
      · intro read
        obtain ⟨next, first, read⟩ := bind_eq_ok.1 read
        obtain ⟨digit, rfl, fits⟩ := push_eq_ok_iff.1 first
        obtain ⟨others, rfl, last⟩ := ih.1 read
        refine ⟨List.forall_mem_cons.2 ⟨digit, others⟩, rfl, .inr ?_⟩
        obtain rfl | below := last
        · exact fits
        · exact below
      · rintro ⟨all, rfl, last⟩
        obtain ⟨digit, others⟩ := List.forall_mem_cons.1 all
        have below := last.resolve_left (List.cons_ne_nil c digits)
        have grows := le_ofDigitChars digits (value * 10 + (c.toNat - 48))
        rw [push_eq_ok_iff.2 ⟨digit, rfl, Nat.lt_of_le_of_lt grows below⟩]
        exact ih.2 ⟨others, rfl, .inr below⟩

theorem readDigits_eq_ok_iff {bound n : Nat} {digits : List Char} :
    readDigits 10 bound digits = .ok n ↔
      digits ≠ [] ∧ (∀ c ∈ digits, c.isDigit) ∧ n = Nat.ofDigitChars 10 digits 0 ∧ n < bound := by
  unfold readDigits
  cases digits with
  | nil => simp
  | cons c digits =>
      rw [if_neg (by simp), foldlM_push_eq_ok_iff]
      simp

theorem not_digits_of_plus {digits : List Char} : ¬ ∀ c ∈ '+' :: digits, c.isDigit :=
  fun all => absurd (all '+' List.mem_cons_self) (by decide)

/-- After a plus sign stand the digits. -/
theorem readRadix_plus {bound n : Nat} {digits : List Char} :
    readRadix 10 bound ('+' :: digits) = .ok n ↔ readDigits 10 bound digits = .ok n := by
  cases digits with
  | nil => simp [readRadix, readDigits]
  | cons c digits => rfl

theorem readRadix_plain {bound : Nat} {text : List Char} (plain : ∀ digits, text ≠ '+' :: digits) :
    readRadix 10 bound text = readDigits 10 bound text :=
  readRadix.eq_3 10 bound text (plain []) plain

/-- **What is read as a number** are the numerals of the numbers below the bound. -/
theorem readRadix_eq_ok_iff {bound n : Nat} {text : List Char} :
    readRadix 10 bound text = .ok n ↔ Numeral text n ∧ n < bound := by
  by_cases signed : ∃ digits, text = '+' :: digits
  · obtain ⟨digits, rfl⟩ := signed
    rw [readRadix_plus, readDigits_eq_ok_iff]
    constructor
    · rintro ⟨some, all, value, below⟩
      exact ⟨⟨digits, some, all, .inr rfl, value⟩, below⟩
    · rintro ⟨⟨digits', some, all, rfl | same, value⟩, below⟩
      · exact absurd all not_digits_of_plus
      · cases same
        exact ⟨some, all, value, below⟩
  · have plain : ∀ digits, text ≠ '+' :: digits := fun digits same => signed ⟨digits, same⟩
    rw [readRadix_plain plain, readDigits_eq_ok_iff]
    constructor
    · rintro ⟨some, all, value, below⟩
      exact ⟨⟨text, some, all, .inl rfl, value⟩, below⟩
    · rintro ⟨⟨digits, some, all, rfl | same, value⟩, below⟩
      · exact ⟨some, all, value, below⟩
      · exact absurd same (plain digits)

theorem Numeral.unique {text : List Char} {n m : Nat} (numeral : Numeral text n)
    (other : Numeral text m) : n = m := by
  have first : readRadix 10 (n + m + 1) text = .ok n := readRadix_eq_ok_iff.2 ⟨numeral, by omega⟩
  have second : readRadix 10 (n + m + 1) text = .ok m := readRadix_eq_ok_iff.2 ⟨other, by omega⟩
  exact Except.ok.inj (first.symm.trans second)

/-- A number that is read into the type of the numbers below a bound. -/
theorem map_readRadix_eq_ok_iff {α : Type} {bound : Nat} {ofNat : Nat → α} {toNat : α → Nat}
    (inRange : ∀ value, toNat value < bound) (back : ∀ value, ofNat (toNat value) = value)
    (kept : ∀ n < bound, toNat (ofNat n) = n) {text : List Char} {value : α} :
    (readRadix 10 bound text).map ofNat = .ok value ↔ Numeral text (toNat value) := by
  rw [map_eq_ok_iff]
  constructor
  · rintro ⟨n, number, rfl⟩
    obtain ⟨numeral, below⟩ := readRadix_eq_ok_iff.1 number
    rwa [kept n below]
  · intro numeral
    exact ⟨toNat value, readRadix_eq_ok_iff.2 ⟨numeral, inRange value⟩, back value⟩

/-- **What is read as a number below `2 ^ 64`.** -/
theorem readU64_eq_ok_iff {s : String} {value : UInt64} :
    readU64 s = .ok value ↔ Numeral s.toList value.toNat :=
  map_readRadix_eq_ok_iff UInt64.toNat_lt_size (fun _ => UInt64.ofNat_toNat)
    fun _ => UInt64.toNat_ofNat_of_lt'

/-- **What is read as a number below `2 ^ 32`.** -/
theorem readU32_eq_ok_iff {s : String} {value : UInt32} :
    readU32 s = .ok value ↔ Numeral s.toList value.toNat :=
  map_readRadix_eq_ok_iff UInt32.toNat_lt_size (fun _ => UInt32.ofNat_toNat)
    fun _ => UInt32.toNat_ofNat_of_lt'

theorem isDigit_of_mem_toString {n : Nat} {c : Char} (member : c ∈ (toString n).toList) :
    c.isDigit := by
  rw [Nat.toString_eq_ofList_toDigits, String.toList_ofList] at member
  exact Nat.isDigit_of_mem_toDigits (by decide) (by decide) member

theorem numeral_toString (n : Nat) : Numeral (toString n).toList n := by
  refine ⟨(toString n).toList, ?_, fun c => isDigit_of_mem_toString, .inl rfl, ?_⟩ <;>
    rw [Nat.toString_eq_ofList_toDigits, String.toList_ofList]
  · exact Nat.toDigits_ne_nil
  · exact Nat.ofDigitChars_ten_toDigits.symm

/-- A numeral is made of digits and plus signs, which can all be seen. -/
theorem Numeral.visible {text : List Char} {n : Nat} (numeral : Numeral text n) :
    ∀ c ∈ text, 43 ≤ c.toNat ∧ c.toNat ≤ 57 := by
  obtain ⟨digits, -, all, rfl | rfl, -⟩ := numeral
  · intro c member
    have range := (isDigit_iff c).1 (all c member)
    omega
  · refine List.forall_mem_cons.2 ⟨by decide, fun c member => ?_⟩
    have range := (isDigit_iff c).1 (all c member)
    omega

theorem Numeral.ne_nil {text : List Char} {n : Nat} (numeral : Numeral text n) : text ≠ [] := by
  obtain ⟨digits, some, -, rfl | rfl, -⟩ := numeral
  · exact some
  · exact List.cons_ne_nil '+' digits

end WaylandProxy.Number.Decimal
