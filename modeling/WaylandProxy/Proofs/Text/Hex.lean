/-
# Proofs.Text.Hex -- what spells bytes in hexadecimal digits

Two digits of either case spell a byte, the high half first (`Spells`).  Reading goes over the
UTF-8 bytes of a text, not over its characters; but a digit is one byte, and no byte of any other
character is taken for one (`mapM_value?_utf8EncodeChar`).  So exactly the texts that spell bytes
are read, to these bytes (`decode_eq_ok_iff`), and what is written for some bytes spells them
(`spells_encodeChars`).
-/
import Mathlib.Data.List.Basic
import WaylandProxy.Proofs.Number.Decimal
import WaylandProxy.Text.Hex
import WaylandProxy.Text.Utf8

namespace WaylandProxy.Text

set_option autoImplicit false

theorem Utf8.encode_eq_flatMap (s : String) :
    encode s = s.toList.flatMap String.utf8EncodeChar := by
  unfold encode String.toUTF8
  rw [← String.utf8Encode_toList]
  simp [List.utf8Encode]

/-- What a text is encoded to is decoded to it again. -/
@[simp] theorem Utf8.decode?_encode (s : String) : decode? (encode s) = some s :=
  dif_pos s.isValidUTF8

namespace Hex

open Number.Decimal (digit?)

/-- The text spells the bytes in pairs of hexadecimal digits. -/
inductive Spells : List Char → List UInt8 → Prop where
  | nothing : Spells [] []
  | byte {high low : Char} {h l : Nat} {rest : List Char} {bytes : List UInt8}
      (isHigh : digit? 16 high = some h) (isLow : digit? 16 low = some l)
      (others : Spells rest bytes) :
      Spells (high :: low :: rest) (UInt8.ofNat (16 * h + l) :: bytes)

/-! ## Digits -/

/-- A character of ASCII is one byte, and is a digit as a byte if it is one as a character. -/
theorem value?_ascii (n : Nat) (ascii : n < 128) :
    value? (UInt8.ofNat n) = (digit? 16 (Char.ofNat n)).map UInt8.ofNat := by
  have table : ∀ n < 128, value? (UInt8.ofNat n) = (digit? 16 (Char.ofNat n)).map UInt8.ofNat := by
    decide +kernel
  exact table n ascii

theorem digit?_of_not_ascii {c : Char} (above : 128 ≤ c.toNat) : digit? 16 c = none := by
  have notDigit : c.isDigit = false := by
    by_contra digit
    simp only [Char.isDigit, Bool.not_eq_false, Bool.and_eq_true, decide_eq_true_eq] at digit
    have below : c.toNat ≤ 57 := digit.2
    omega
  have notLower : ¬ ('a' ≤ c ∧ c ≤ 'z') := by
    rintro ⟨-, letter⟩
    have below : c.toNat ≤ 122 := letter
    omega
  have notUpper : ¬ ('A' ≤ c ∧ c ≤ 'Z') := by
    rintro ⟨-, letter⟩
    have below : c.toNat ≤ 90 := letter
    omega
  unfold digit?
  simp [notDigit, notLower, notUpper]

theorem value?_of_not_ascii {byte : UInt8} (above : 128 ≤ byte.toNat) : value? byte = none := by
  have bound (limit : UInt8) (low : limit.toNat < 128) : ¬ byte ≤ limit := by
    rw [UInt8.le_iff_toNat_le]
    omega
  simp [value?, bound 57 (by decide), bound 102 (by decide), bound 70 (by decide)]

/-- The first byte decides whether all are digits. -/
theorem mapM_value?_of_first {byte : UInt8} (none : value? byte = none) (rest : List UInt8) :
    (byte :: rest).mapM value? = Option.none := by
  rw [List.mapM_cons, none]
  rfl

/-- **A digit is one byte**, and the bytes of any other character are not all digits. -/
theorem mapM_value?_utf8EncodeChar (c : Char) :
    (String.utf8EncodeChar c).mapM value? = (digit? 16 c).map fun d => [UInt8.ofNat d] := by
  by_cases ascii : c.toNat < 128
  · have one : String.utf8EncodeChar c = [UInt8.ofNat c.toNat] := by
      have small : c.val.toNat ≤ 127 := Nat.le_of_lt_succ ascii
      unfold String.utf8EncodeChar
      exact if_pos small
    have same := value?_ascii c.toNat ascii
    rw [Char.ofNat_toNat] at same
    rw [one, List.mapM_cons, same]
    cases digit? 16 c <;> rfl
  · have above : 128 ≤ c.toNat := Nat.not_lt.1 ascii
    have several : ¬ c.val.toNat ≤ 127 := Nat.not_le.2 above
    -- the first byte of a longer form has the marker of its length
    rw [digit?_of_not_ascii above]
    unfold String.utf8EncodeChar
    simp only [several, if_false]
    split
    · exact mapM_value?_of_first (value?_of_not_ascii (by simp; omega)) _
    · split
      · exact mapM_value?_of_first (value?_of_not_ascii (by simp; omega)) _
      · exact mapM_value?_of_first (value?_of_not_ascii (by simp; omega)) _

theorem digit?_lt {radix d : Nat} {c : Char} (digit : digit? radix c = some d) : d < radix := by
  unfold digit? at digit
  obtain ⟨below, same⟩ := Option.ite_none_right_eq_some.1 digit
  exact Option.some.inj same ▸ below

theorem digit?_visible {d : Nat} {c : Char} (digit : digit? 16 c = some d) :
    48 ≤ c.toNat ∧ c.toNat ≤ 122 := by
  unfold digit? at digit
  obtain ⟨below, -⟩ := Option.ite_none_right_eq_some.1 digit
  split at below
  · rename_i decimal
    have range := (Number.Decimal.isDigit_iff c).1 decimal
    omega
  · split at below
    · rename_i letter
      exact ⟨Nat.le_trans (by decide) letter.1, letter.2⟩
    · split at below
      · rename_i letter
        exact ⟨Nat.le_trans (by decide) letter.1, Nat.le_trans letter.2 (by decide)⟩
      · omega

theorem join_halves {h l : Nat} (high : h < 16) (low : l < 16) :
    UInt8.ofNat h <<< 4 ||| UInt8.ofNat l = UInt8.ofNat (16 * h + l) := by
  have table : ∀ h < 16, ∀ l < 16,
      UInt8.ofNat h <<< 4 ||| UInt8.ofNat l = UInt8.ofNat (16 * h + l) := by
    decide +kernel
  exact table h high l low

theorem Spells.visible {text : List Char} {bytes : List UInt8} (spells : Spells text bytes) :
    ∀ c ∈ text, 48 ≤ c.toNat ∧ c.toNat ≤ 122 := by
  induction spells with
  | nothing => exact nofun
  | byte isHigh isLow others ih =>
      exact List.forall_mem_cons.2 ⟨digit?_visible isHigh,
        List.forall_mem_cons.2 ⟨digit?_visible isLow, ih⟩⟩

/-! ## Reading -/

theorem length_of_mapM {α β : Type} {f : α → Option β} {list : List α} {images : List β}
    (all : list.mapM f = some images) : images.length = list.length := by
  induction list generalizing images with
  | nil =>
      cases all
      rfl
  | cons x list ih =>
      rw [List.mapM_cons] at all
      obtain ⟨y, -, all⟩ := Option.bind_eq_some_iff.1 all
      obtain ⟨ys, others, same⟩ := Option.bind_eq_some_iff.1 all
      cases same
      rw [List.length_cons, ih others, List.length_cons]

def valueAt (digit : UInt8 × Nat) : Except Flaw UInt8 :=
  match value? digit.1 with
  | some value => .ok value
  | none => .error (.notDigit digit.1 digit.2)

/-- Digits are read if all are digits. -/
theorem mapM_valueAt_eq_ok_iff {digits values : List UInt8} (position : Nat) :
    (digits.zipIdx position).mapM valueAt = .ok values ↔ digits.mapM value? = some values := by
  induction digits generalizing position values with
  | nil =>
      show Except.ok [] = Except.ok values ↔ some [] = some values
      rw [Except.ok.injEq, Option.some.injEq]
  | cons byte digits ih =>
      rw [List.zipIdx_cons, List.mapM_cons, List.mapM_cons]
      cases value : value? byte with
      | none =>
          have first : valueAt (byte, position) = .error (.notDigit byte position) := by
            simp [valueAt, value]
          rw [first]
          exact ⟨nofun, nofun⟩
      | some v =>
          have first : valueAt (byte, position) = .ok v := by simp [valueAt, value]
          have others (rest : List UInt8) := @ih rest (position + 1)
          rw [first]
          cases read : (digits.zipIdx (position + 1)).mapM valueAt with
          | error flaw =>
              rw [read] at others
              cases all : digits.mapM value? with
              | none => exact ⟨nofun, nofun⟩
              | some rest => cases (others rest).2 all
          | ok rest =>
              rw [(others rest).1 read]
              show Except.ok (v :: rest) = Except.ok values ↔ some (v :: rest) = some values
              rw [Except.ok.injEq, Option.some.injEq]

/-- The bytes of a text have the values of its characters. -/
theorem mapM_value?_flatMap (text : List Char) :
    (text.flatMap String.utf8EncodeChar).mapM value? =
      (text.mapM (digit? 16)).map (List.map UInt8.ofNat) := by
  induction text with
  | nil => rfl
  | cons c text ih =>
      rw [List.flatMap_cons, List.mapM_append, mapM_value?_utf8EncodeChar, ih, List.mapM_cons]
      cases digit? 16 c with
      | none => rfl
      | some d => cases text.mapM (digit? 16) <;> rfl

theorem spells_of_digits : ∀ (text : List Char) (bytes : List UInt8), text.length % 2 = 0 →
    (text.mapM (digit? 16)).map (fun ds => joinPairs (ds.map UInt8.ofNat)) = some bytes →
    Spells text bytes
  | [], bytes, _, joined => by
      cases joined
      exact .nothing
  | [c], _, even, _ => by cases even
  | high :: low :: rest, bytes, even, joined => by
      obtain ⟨ds, all, rfl⟩ := Option.map_eq_some_iff.1 joined
      rw [List.mapM_cons, List.mapM_cons] at all
      obtain ⟨h, isHigh, all⟩ := Option.bind_eq_some_iff.1 all
      obtain ⟨tail, all, same⟩ := Option.bind_eq_some_iff.1 all
      obtain ⟨l, isLow, all⟩ := Option.bind_eq_some_iff.1 all
      obtain ⟨ds', others, same'⟩ := Option.bind_eq_some_iff.1 all
      cases same'
      cases same
      have even' : rest.length % 2 = 0 := by
        simp only [List.length_cons] at even
        omega
      rw [List.map_cons, List.map_cons, joinPairs, join_halves (digit?_lt isHigh) (digit?_lt isLow)]
      exact .byte isHigh isLow (spells_of_digits rest _ even' (by rw [others]; rfl))

/-- A text spells bytes if all its characters are digits and there is an even number of them. -/
theorem spells_iff {text : List Char} {bytes : List UInt8} :
    Spells text bytes ↔
      text.length % 2 = 0 ∧
        (text.mapM (digit? 16)).map (fun ds => joinPairs (ds.map UInt8.ofNat)) = some bytes := by
  constructor
  · intro spells
    induction spells with
    | nothing => exact ⟨rfl, rfl⟩
    | @byte high low h l rest bytes isHigh isLow others ih =>
        obtain ⟨even, joined⟩ := ih
        refine ⟨by simp only [List.length_cons]; omega, ?_⟩
        obtain ⟨ds, all, rfl⟩ := Option.map_eq_some_iff.1 joined
        rw [List.mapM_cons, isHigh, List.mapM_cons, isLow, all]
        show some (joinPairs (UInt8.ofNat h :: UInt8.ofNat l :: ds.map UInt8.ofNat)) = _
        rw [joinPairs, join_halves (digit?_lt isHigh) (digit?_lt isLow)]
  · rintro ⟨even, joined⟩
    exact spells_of_digits text bytes even joined

/-- **What is read as bytes in hexadecimal digits.** -/
theorem decode_eq_ok_iff {s : String} {bytes : List UInt8} :
    decode (Utf8.encode s) = .ok bytes ↔ Spells s.toList bytes := by
  have read : decode (Utf8.encode s) =
      if (Utf8.encode s).length % 2 = 1 then .error .oddLength
      else ((Utf8.encode s).zipIdx.mapM valueAt).bind fun values => .ok (joinPairs values) := rfl
  have values := mapM_value?_flatMap s.toList
  rw [← Utf8.encode_eq_flatMap] at values
  rw [read, spells_iff]
  cases all : s.toList.mapM (digit? 16) with
  | none =>
      rw [all] at values
      refine ⟨fun decoded => ?_, fun spells => nomatch spells.2⟩
      split at decoded
      · cases decoded
      · cases some : (Utf8.encode s).zipIdx.mapM valueAt with
        | error flaw =>
            rw [some] at decoded
            cases decoded
        | ok found => cases values.symm.trans ((mapM_valueAt_eq_ok_iff 0).1 some)
  | some ds =>
      rw [all] at values
      -- there are as many digits in the bytes as in the text
      have length : (Utf8.encode s).length = s.toList.length := by
        rw [← length_of_mapM values, ← length_of_mapM all, List.length_map]
      have found := (mapM_valueAt_eq_ok_iff 0).2 values
      rw [found, length]
      by_cases odd : s.toList.length % 2 = 1
      · rw [if_pos odd]
        exact ⟨nofun, fun spells => by omega⟩
      · rw [if_neg odd]
        show Except.ok _ = Except.ok bytes ↔ _ ∧ some _ = some bytes
        rw [Except.ok.injEq, Option.some.injEq]
        exact ⟨fun same => ⟨by omega, same⟩, fun spells => spells.2⟩

/-! ## Writing -/

theorem digit?_digit {n : Nat} (small : n < 16) : digit? 16 (digit (UInt8.ofNat n)) = some n := by
  have table : ∀ n < 16, digit? 16 (digit (UInt8.ofNat n)) = some n := by decide
  exact table n small

theorem spells_encodeChars (bytes : List UInt8) : Spells (encodeChars bytes) bytes := by
  induction bytes with
  | nil => exact .nothing
  | cons byte bytes ih =>
      have shifted : byte >>> 4 = UInt8.ofNat (byte.toNat / 16) := by
        apply UInt8.toNat_inj.1
        have small : byte.toNat / 16 < 256 := by
          have := byte.toNat_lt
          omega
        simp [Nat.shiftRight_eq_div_pow, Nat.mod_eq_of_lt small]
      have masked : byte &&& 0xF = UInt8.ofNat (byte.toNat % 16) := by
        apply UInt8.toNat_inj.1
        have small : byte.toNat % 16 < 256 := by omega
        have low : byte.toNat &&& 15 = byte.toNat % 16 :=
          Nat.and_two_pow_sub_one_eq_mod byte.toNat 4
        simp [low, Nat.mod_eq_of_lt small]
      have whole : UInt8.ofNat (16 * (byte.toNat / 16) + byte.toNat % 16) = byte := by
        rw [Nat.div_add_mod, UInt8.ofNat_toNat]
      have high : byte.toNat / 16 < 16 := by
        have := byte.toNat_lt
        omega
      have low : byte.toNat % 16 < 16 := Nat.mod_lt _ (by decide)
      have spelled := Spells.byte (digit?_digit high) (digit?_digit low) ih
      rw [whole, ← shifted, ← masked] at spelled
      exact spelled

end Hex

end WaylandProxy.Text
