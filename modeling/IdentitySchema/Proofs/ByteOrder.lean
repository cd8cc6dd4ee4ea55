/-
  IdentitySchema/Proofs/ByteOrder.lean
  ====================================
  **The order of texts is the order of their bytes.**  Texts are compared
  character by character here, by the values of the characters.  UTF-8 is made
  so that comparing the bytes comes to the same: of two characters the greater
  one has the greater byte where their bytes first differ
  (`utf8EncodeChar_append_lt`).
-/
import IdentitySchema.Proofs.Json.Scanning
import Mathlib.Data.List.Lex
import Mathlib.Data.String.Basic

namespace IdentitySchema.Json

theorem bytesOf_eq_flatMap (text : String) :
    bytesOf text = text.toList.flatMap String.utf8EncodeChar := by
  unfold bytesOf
  rw [String.toUTF8_eq_toByteArray, ← String.utf8Encode_toList, List.utf8Encode,
    List.data_toByteArray]

variable {m n : Nat} {xs ys : List UInt8}

theorem ofNat_cons_lt (hm : m < 0x100) (hn : n < 0x100) (h : m < n) :
    UInt8.ofNat m :: xs < UInt8.ofNat n :: ys := by
  rw [List.cons_lt_cons_iff, UInt8.lt_iff_toNat_lt, Text.Utf8.toNat_ofNat hm,
    Text.Utf8.toNat_ofNat hn]
  exact .inl h

theorem ofNat_cons_lt_of_eq (h : m = n) (hrest : xs < ys) :
    UInt8.ofNat m :: xs < UInt8.ofNat n :: ys := by
  rw [h, List.cons_lt_cons_iff]
  exact .inr ⟨rfl, hrest⟩

/-- The last byte of a character decides if all others are equal. -/
theorem last_lt (hupper : m / 0x40 = n / 0x40) (h : m < n) :
    UInt8.ofNat (m % 0x40 + 0x80) :: xs < UInt8.ofNat (n % 0x40 + 0x80) :: ys :=
  ofNat_cons_lt (by omega) (by omega) (by omega)

theorem last_two_lt (hupper : m / 0x1000 = n / 0x1000) (h : m < n) :
    UInt8.ofNat (m / 0x40 % 0x40 + 0x80) :: UInt8.ofNat (m % 0x40 + 0x80) :: xs <
      UInt8.ofNat (n / 0x40 % 0x40 + 0x80) :: UInt8.ofNat (n % 0x40 + 0x80) :: ys := by
  by_cases hequal : m / 0x40 = n / 0x40
  · exact ofNat_cons_lt_of_eq (by omega) (last_lt hequal h)
  · exact ofNat_cons_lt (by omega) (by omega) (by omega)

theorem last_three_lt (hupper : m / 0x40000 = n / 0x40000) (h : m < n) :
    UInt8.ofNat (m / 0x1000 % 0x40 + 0x80) :: UInt8.ofNat (m / 0x40 % 0x40 + 0x80) ::
        UInt8.ofNat (m % 0x40 + 0x80) :: xs <
      UInt8.ofNat (n / 0x1000 % 0x40 + 0x80) :: UInt8.ofNat (n / 0x40 % 0x40 + 0x80) ::
        UInt8.ofNat (n % 0x40 + 0x80) :: ys := by
  by_cases hequal : m / 0x1000 = n / 0x1000
  · exact ofNat_cons_lt_of_eq (by omega) (last_two_lt hequal h)
  · exact ofNat_cons_lt (by omega) (by omega) (by omega)

/-- The bytes of the smaller character come first, whatever follows the two. -/
theorem utf8EncodeChar_append_lt {c d : Char} (h : c < d) (xs ys : List UInt8) :
    String.utf8EncodeChar c ++ xs < String.utf8EncodeChar d ++ ys := by
  have hless : c.val.toNat < d.val.toNat := h
  have hvalid : d.val.toNat < 0x110000 := by
    have hd := Text.Utf8.toNat_valid d
    have hval : d.val.toNat = d.toNat := rfl
    omega
  unfold String.utf8EncodeChar
  generalize c.val.toNat = m at *
  generalize d.val.toNat = n at *
  dsimp only
  -- by the number of bytes of the smaller character; more bytes start with a greater one
  split
  · split
    · exact ofNat_cons_lt (by omega) (by omega) hless
    · split
      · exact ofNat_cons_lt (by omega) (by omega) (by omega)
      · split
        · exact ofNat_cons_lt (by omega) (by omega) (by omega)
        · exact ofNat_cons_lt (by omega) (by omega) (by omega)
  · rw [if_neg (show ¬ n ≤ 0x7f by omega)]
    split
    · split
      · by_cases hequal : m / 0x40 = n / 0x40
        · exact ofNat_cons_lt_of_eq (by omega) (last_lt hequal hless)
        · exact ofNat_cons_lt (by omega) (by omega) (by omega)
      · split
        · exact ofNat_cons_lt (by omega) (by omega) (by omega)
        · exact ofNat_cons_lt (by omega) (by omega) (by omega)
    · rw [if_neg (show ¬ n ≤ 0x7ff by omega)]
      split
      · split
        · by_cases hequal : m / 0x1000 = n / 0x1000
          · exact ofNat_cons_lt_of_eq (by omega) (last_two_lt hequal hless)
          · exact ofNat_cons_lt (by omega) (by omega) (by omega)
        · exact ofNat_cons_lt (by omega) (by omega) (by omega)
      · rw [if_neg (show ¬ n ≤ 0xffff by omega)]
        by_cases hequal : m / 0x40000 = n / 0x40000
        · exact ofNat_cons_lt_of_eq (by omega) (last_three_lt hequal hless)
        · exact ofNat_cons_lt (by omega) (by omega) (by omega)

theorem flatMap_utf8EncodeChar_lt {cs ds : List Char} (h : cs < ds) :
    cs.flatMap String.utf8EncodeChar < ds.flatMap String.utf8EncodeChar := by
  induction cs generalizing ds with
  | nil =>
    cases ds with
    | nil => exact absurd h (List.lt_irrefl _)
    | cons d ds =>
      obtain ⟨byte, rest, hbytes, -⟩ := Text.Utf8.completes_utf8EncodeChar d
      rw [List.flatMap_nil, List.flatMap_cons, hbytes]
      exact List.nil_lt_cons _ _
  | cons c cs ih =>
    cases ds with
    | nil => exact absurd h (List.not_lt_nil _)
    | cons d ds =>
      rw [List.flatMap_cons, List.flatMap_cons]
      rcases List.cons_lt_cons_iff.mp h with hless | ⟨rfl, hrest⟩
      · exact utf8EncodeChar_append_lt hless _ _
      · exact List.append_left_lt (ih hrest)

/-- **Texts are in the order of their bytes.** -/
theorem bytesOf_lt_iff {s t : String} : bytesOf s < bytesOf t ↔ s < t := by
  have hmono : ∀ {s t : String}, s < t → bytesOf s < bytesOf t := by
    intro s t h
    rw [bytesOf_eq_flatMap, bytesOf_eq_flatMap]
    exact flatMap_utf8EncodeChar_lt (String.lt_iff.mp h)
  constructor
  · intro h
    by_contra hnot
    rcases eq_or_ne s t with rfl | hne
    · exact List.lt_irrefl _ h
    · have hgreater : t < s := lt_of_le_of_ne (String.not_lt.mp hnot) hne.symm
      exact List.lt_asymm h (hmono hgreater)
  · exact hmono

end IdentitySchema.Json
