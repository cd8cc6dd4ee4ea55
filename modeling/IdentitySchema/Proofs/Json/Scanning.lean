/-
  IdentitySchema/Proofs/Json/Scanning.lean
  ========================================
  **A text between quotes is scanned back.**  The writer puts characters as
  UTF-8 between quotes and escapes some of them; the scanner goes through the
  bytes one at a time and collects characters.  Both agree character by
  character:

    * the bytes of a character, in one to four steps, complete it
      (`Utf8.completes_utf8EncodeChar`), and none of them looks like a byte
      that has a meaning inside a string;
    * a character with an escape comes back from it (`exists_takesTo_escapeChar`).

  From there the text follows by induction over its characters
  (`spells_stringText`).
-/
import IdentitySchema.Json.Compact
import IdentitySchema.Json.Reader
import Mathlib.Tactic.SplitIfs

namespace IdentitySchema

/-! ### UTF-8 -/

namespace Text.Utf8

theorem first_of_two {byte : Nat} (hlow : 0xc2 ≤ byte) (hhigh : byte ≤ 0xdf) :
    first byte = .more ⟨byte - 0xc0, 1, 0x80, 0xbf⟩ := by
  rw [first, if_neg (by omega), if_neg (by omega), if_pos hhigh]

theorem first_of_three {byte : Nat} (hlow : 0xe0 ≤ byte) (hhigh : byte ≤ 0xef) :
    first byte = .more ⟨byte - 0xe0, 2, if byte = 0xe0 then 0xa0 else 0x80,
      if byte = 0xed then 0x9f else 0xbf⟩ := by
  rw [first, if_neg (by omega), if_neg (by omega), if_neg (by omega)]
  by_cases hleast : byte = 0xe0
  · subst hleast
    rfl
  · by_cases hsurrogates : byte = 0xed
    · subst hsurrogates
      rfl
    · simp only [hleast, hsurrogates, if_false, hhigh, if_true]

theorem first_of_four {byte : Nat} (hlow : 0xf0 ≤ byte) (hhigh : byte ≤ 0xf4) :
    first byte = .more ⟨byte - 0xf0, 3, if byte = 0xf0 then 0x90 else 0x80,
      if byte = 0xf4 then 0x8f else 0xbf⟩ := by
  rw [first, if_neg (by omega), if_neg (by omega), if_neg (by omega), if_neg (by omega),
    if_neg (by omega), if_neg (by omega)]
  by_cases hleast : byte = 0xf0
  · subst hleast
    rfl
  · by_cases hgreatest : byte = 0xf4
    · subst hgreatest
      rfl
    · have hbetween : byte ≤ 0xf3 := by omega
      simp only [hleast, hgreatest, if_false, hbetween, if_true]

/-- Some more bytes complete the character, after what the bytes before have led to. -/
inductive Completes (c : Char) : Step → List UInt8 → Prop
  | whole : Completes c (.complete c) []
  | part {read : Partial} {byte : UInt8} {rest : List UInt8}
      (hrest : Completes c (next read byte.toNat) rest) : Completes c (.more read) (byte :: rest)

theorem toNat_ofNat {byte : Nat} (h : byte < 0x100) : (UInt8.ofNat byte).toNat = byte :=
  UInt8.toNat_ofNat_of_lt' h

theorem completes_last {c : Char} {code low high byte : Nat} (hlow : low ≤ byte)
    (hhigh : byte ≤ high) (hbyte : byte < 0x100) (hcode : code * 0x40 + (byte - 0x80) = c.toNat) :
    Completes c (.more ⟨code, 1, low, high⟩) [UInt8.ofNat byte] := by
  have hnext : next ⟨code, 1, low, high⟩ byte = .complete c := by
    rw [next, if_pos ⟨hlow, hhigh⟩]
    simp only [hcode, Char.ofNat_toNat, if_true]
  refine .part ?_
  rw [toNat_ofNat hbyte, hnext]
  exact .whole

theorem completes_later {c : Char} {code owed low high byte : Nat} {rest : List UInt8}
    (hlow : low ≤ byte) (hhigh : byte ≤ high) (hbyte : byte < 0x100)
    (h : Completes c (.more ⟨code * 0x40 + (byte - 0x80), owed + 1, 0x80, 0xbf⟩) rest) :
    Completes c (.more ⟨code, owed + 2, low, high⟩) (UInt8.ofNat byte :: rest) := by
  have hnext : next ⟨code, owed + 2, low, high⟩ byte =
      .more ⟨code * 0x40 + (byte - 0x80), owed + 1, 0x80, 0xbf⟩ := by
    rw [next, if_pos ⟨hlow, hhigh⟩]
    rfl
  refine .part ?_
  rw [toNat_ofNat hbyte, hnext]
  exact h

/-- The values of characters leave out the surrogates. -/
theorem toNat_valid (c : Char) : c.toNat < 0xd800 ∨ (0xdfff < c.toNat ∧ c.toNat < 0x110000) :=
  c.valid

/-- The bytes of a character complete it. -/
theorem completes_utf8EncodeChar (c : Char) :
    ∃ byte rest, String.utf8EncodeChar c = byte :: rest ∧ Completes c (first byte.toNat) rest := by
  have hvalid := toNat_valid c
  have hval : c.val.toNat = c.toNat := rfl
  unfold String.utf8EncodeChar
  simp only [hval]
  split
  · rename_i hone
    refine ⟨_, _, rfl, ?_⟩
    rw [toNat_ofNat (by omega), first, if_pos hone, Char.ofNat_toNat]
    exact .whole
  · split
    · refine ⟨_, _, rfl, ?_⟩
      rw [toNat_ofNat (by omega), first_of_two (by omega) (by omega)]
      exact completes_last (by omega) (by omega) (by omega) (by omega)
    · split
      · refine ⟨_, _, rfl, ?_⟩
        rw [toNat_ofNat (by omega), first_of_three (by omega) (by omega)]
        refine completes_later ?_ ?_ (by omega) ?_
        · split <;> omega
        · split <;> omega
        · exact completes_last (by omega) (by omega) (by omega) (by omega)
      · refine ⟨_, _, rfl, ?_⟩
        rw [toNat_ofNat (by omega), first_of_four (by omega) (by omega)]
        refine completes_later ?_ ?_ (by omega) ?_
        · split <;> omega
        · split <;> omega
        · refine completes_later (by omega) (by omega) (by omega) ?_
          exact completes_last (by omega) (by omega) (by omega) (by omega)

/-- The only byte below 0x80 in a character is the one that is the whole character. -/
theorem toNat_of_mem_utf8EncodeChar {c : Char} {byte : UInt8} (h : byte ∈ String.utf8EncodeChar c) :
    byte.toNat = c.toNat ∨ 0x80 ≤ byte.toNat := by
  have hvalid := toNat_valid c
  have hval : c.val.toNat = c.toNat := rfl
  unfold String.utf8EncodeChar at h
  simp only [hval] at h
  split at h
  · left
    rw [List.mem_singleton.mp h, toNat_ofNat (by omega)]
  · right
    split at h
    · simp only [List.mem_cons, List.not_mem_nil, or_false] at h
      rcases h with rfl | rfl <;> rw [toNat_ofNat (by omega)] <;> omega
    · split at h
      · simp only [List.mem_cons, List.not_mem_nil, or_false] at h
        rcases h with rfl | rfl | rfl <;> rw [toNat_ofNat (by omega)] <;> omega
      · simp only [List.mem_cons, List.not_mem_nil, or_false] at h
        rcases h with rfl | rfl | rfl | rfl <;> rw [toNat_ofNat (by omega)] <;> omega

end Text.Utf8

namespace Json

/-! ### The bytes of a text -/

theorem bytesOf_append (first second : String) :
    bytesOf (first ++ second) = bytesOf first ++ bytesOf second := by
  unfold bytesOf
  rw [String.toUTF8_eq_toByteArray, String.toByteArray_append, ByteArray.data_append,
    Array.toList_append]
  rfl

theorem bytesOf_singleton (c : Char) :
    bytesOf (String.singleton c) = String.utf8EncodeChar c := by
  unfold bytesOf
  rw [String.toUTF8_eq_toByteArray, String.toByteArray_singleton, List.utf8Encode_singleton,
    List.data_toByteArray]

theorem bytesOf_join (texts : List String) :
    bytesOf (String.join texts) = texts.flatMap bytesOf := by
  induction texts with
  | nil => rfl
  | cons first rest ih => rw [String.join_cons, bytesOf_append, ih, List.flatMap_cons]

/-! ### Inside a string -/

open Text.Utf8

/-- The scanner has read some characters of a string and is between two of them. -/
structure StringScan.Holds (s : StringScan) (chars : List Char) : Prop where
  part : s.part = .plain
  chars : s.chars = chars.reverse
  pending : s.pending = none
  invalid : s.invalid = none

variable {s : StringScan} {c : Char} {chars : List Char}

/-- What some bytes inside a string amount to, wherever they stand. -/
def StringScan.TakesTo (s : StringScan) (bytes : List UInt8) (s' : StringScan) : Prop :=
  ∀ offset rest, (Scan.string s).run offset (bytes ++ rest) =
    (Scan.string s').run (offset + bytes.length) rest

theorem StringScan.TakesTo.nil (s : StringScan) : s.TakesTo [] s :=
  fun _ _ => rfl

theorem StringScan.TakesTo.cons {s' s'' : StringScan} {byte : UInt8} {bytes : List UInt8}
    (hstep : s.step byte.toNat = .more s') (h : s'.TakesTo bytes s'') :
    s.TakesTo (byte :: bytes) s'' := by
  intro offset rest
  have hscan : (Scan.string s).step offset byte.toNat = ([], some (.string s')) := by
    simp only [Scan.step, hstep]
  rw [List.cons_append, Scan.run, hscan, List.length_cons, Nat.add_comm bytes.length,
    ← Nat.add_assoc]
  exact h (offset + 1) rest

namespace StringScan

/-! ### Characters that stand for themselves -/

theorem step_of_plain {byte : Nat} (hpart : s.part = .plain) (hbyte : 0x20 ≤ byte)
    (hquote : byte ≠ 0x22) (hbackslash : byte ≠ 0x5c) : s.step byte = .more (s.plainByte byte) := by
  rw [step, hpart]
  simp only [hquote, hbackslash, if_false, Nat.not_lt.mpr hbyte]

/-- The scanner has read some characters of a string and, of the one after, bytes that have led to
`state`. -/
def At (s : StringScan) (chars : List Char) : Text.Utf8.Step → Prop
  | .complete c => s.Holds (chars ++ [c])
  | .more read => s.part = .plain ∧ s.chars = chars.reverse ∧ s.invalid = none ∧
      ∃ before, s.pending = some (before, read)
  | .invalid => True

theorem at_first (h : s.Holds chars) (byte : Nat) : (s.plainByte byte).At chars (first byte) := by
  cases hstate : first byte with
  | invalid => trivial
  | complete other =>
    constructor <;> simp [plainByte, h.pending, hstate, h.part, h.chars, h.invalid]
  | more read =>
    simp only [At, plainByte, h.pending, hstate, h.part, h.chars, h.invalid]
    exact ⟨trivial, trivial, trivial, s.size, rfl⟩

theorem at_next {read : Partial} (h : s.At chars (.more read)) (byte : Nat) :
    (s.plainByte byte).At chars (next read byte) := by
  obtain ⟨hpart, hchars, hinvalid, before, hpending⟩ := h
  cases hstate : next read byte with
  | invalid => trivial
  | complete other =>
    constructor <;> simp [plainByte, hpending, hstate, hpart, hchars, hinvalid]
  | more later =>
    simp only [At, plainByte, hpending, hstate, hpart, hchars, hinvalid]
    exact ⟨trivial, trivial, trivial, before, rfl⟩

/-- The bytes that are still owed for a character complete it. -/
theorem exists_takesTo_of_completes {state : Text.Utf8.Step} {bytes : List UInt8}
    (hcompletes : Completes c state bytes) (h : s.At chars state)
    (hplain : ∀ byte ∈ bytes, 0x20 ≤ byte.toNat ∧ byte.toNat ≠ 0x22 ∧ byte.toNat ≠ 0x5c) :
    ∃ s', s.TakesTo bytes s' ∧ s'.Holds (chars ++ [c]) := by
  induction hcompletes generalizing s with
  | whole => exact ⟨s, .nil s, h⟩
  | part _ ih =>
    obtain ⟨hbyte, hquote, hbackslash⟩ := hplain _ List.mem_cons_self
    obtain ⟨s', htakes, hholds⟩ := ih (at_next h _)
      (fun other hother => hplain other (List.mem_cons_of_mem _ hother))
    exact ⟨s', .cons (step_of_plain h.1 hbyte hquote hbackslash) htakes, hholds⟩

theorem exists_takesTo_utf8EncodeChar (h : s.Holds chars) (hc : 0x20 ≤ c.toNat)
    (hquote : c.toNat ≠ 0x22) (hbackslash : c.toNat ≠ 0x5c) :
    ∃ s', s.TakesTo (String.utf8EncodeChar c) s' ∧ s'.Holds (chars ++ [c]) := by
  have hplain : ∀ byte ∈ String.utf8EncodeChar c,
      0x20 ≤ byte.toNat ∧ byte.toNat ≠ 0x22 ∧ byte.toNat ≠ 0x5c := by
    intro byte hbyte
    have hvalue := toNat_of_mem_utf8EncodeChar hbyte
    omega
  obtain ⟨byte, rest, hbytes, hcompletes⟩ := completes_utf8EncodeChar c
  rw [hbytes] at hplain ⊢
  obtain ⟨hfirst, hnoQuote, hnoBackslash⟩ := hplain byte List.mem_cons_self
  obtain ⟨s', htakes, hholds⟩ := exists_takesTo_of_completes hcompletes (at_first h _)
    (fun other hother => hplain other (List.mem_cons_of_mem _ hother))
  exact ⟨s', .cons (step_of_plain h.part hfirst hnoQuote hnoBackslash) htakes, hholds⟩

/-! ### Escapes -/

theorem step_backslash (h : s.Holds chars) : s.step 0x5c = .more { s with part := .escape } := by
  have hsettle : s.settle = s := by
    rw [settle, h.pending]
  rw [step, h.part]
  simp only [hsettle]
  rfl

theorem Holds.push (h : s.Holds chars) (part : StringPart) (c : Char) :
    ({ s with part := part }.push c).Holds (chars ++ [c]) := by
  refine ⟨rfl, ?_, h.pending, h.invalid⟩
  rw [List.reverse_append, ← h.chars]
  rfl

theorem exists_takesTo_shortEscape {byte : UInt8} (h : s.Holds chars)
    (hescape : shortEscape? byte.toNat = some c) (hbyte : byte.toNat ≠ 0x75) :
    ∃ s', s.TakesTo [0x5c, byte] s' ∧ s'.Holds (chars ++ [c]) := by
  refine ⟨_, .cons (step_backslash h) (.cons ?_ (.nil _)), h.push .escape c⟩
  rw [step, if_neg hbyte, hescape]

theorem step_digit {byte owed code digit : Nat}
    (hpart : s.part = .hexadecimal (owed + 1) (some code) none)
    (hdigit : hexDigit? byte = some digit) :
    s.step byte = .more { s with part := .hexadecimal owed (some (code * 0x10 + digit)) none } := by
  rw [step, hpart]
  simp only [hdigit]
  rfl

theorem step_lastDigit {byte code digit : Nat} (hpart : s.part = .hexadecimal 0 (some code) none)
    (hdigit : hexDigit? byte = some digit) (hcode : code * 0x10 + digit = c.toNat)
    (hc : c.toNat < 0xd800) : s.step byte = .more (s.push c) := by
  have hhigh : isHigh c.toNat = false := by
    simp only [isHigh, Bool.and_eq_false_iff, decide_eq_false_iff_not]
    omega
  have hlow : isLow c.toNat = false := by
    simp only [isLow, Bool.and_eq_false_iff, decide_eq_false_iff_not]
    omega
  rw [step, hpart]
  simp only [hdigit]
  change s.unit (some (code * 0x10 + digit)) none = _
  simp only [hcode, unit, hlow, hhigh, Char.ofNat_toNat]
  rfl

/-- Two zeros and two digits after a backslash and the letter `u`. -/
theorem exists_takesTo_digits {first second : UInt8} {high low : Nat} (h : s.Holds chars)
    (hfirst : hexDigit? first.toNat = some high) (hsecond : hexDigit? second.toNat = some low)
    (hcode : high * 0x10 + low = c.toNat) (hc : c.toNat < 0xd800) :
    ∃ s', s.TakesTo [0x5c, 0x75, 0x30, 0x30, first, second] s' ∧ s'.Holds (chars ++ [c]) := by
  have hletter : { s with part := .escape }.step 0x75 =
      .more { s with part := .hexadecimal 3 (some 0) none } := rfl
  have hzero : ∀ owed, { s with part := .hexadecimal (owed + 1) (some 0) none }.step 0x30 =
      .more { s with part := .hexadecimal owed (some 0) none } := fun _ => rfl
  have hhigh : { s with part := .hexadecimal 1 (some 0) none }.step first.toNat =
      .more { s with part := .hexadecimal 0 (some high) none } := by
    rw [step_digit rfl hfirst, Nat.zero_mul, Nat.zero_add]
  have hlast := step_lastDigit (s := { s with part := .hexadecimal 0 (some high) none }) rfl
    hsecond hcode hc
  exact ⟨_, .cons (step_backslash h) (.cons hletter (.cons (hzero 2) (.cons (hzero 1)
    (.cons hhigh (.cons hlast (.nil _)))))), h.push _ c⟩

/-- A digit of a control character, as the writer puts it. -/
def hexByte (digit : Nat) : UInt8 :=
  UInt8.ofNat (if digit < 10 then 0x30 + digit else 0x57 + digit)

theorem hexDigit?_hexByte : ∀ digit < 0x10, hexDigit? (hexByte digit).toNat = some digit := by
  decide

theorem bytesOf_controlEscape : ∀ code < 0x20, bytesOf (controlEscape code) =
    [0x5c, 0x75, 0x30, 0x30, hexByte (code / 0x10), hexByte (code % 0x10)] := by
  decide +kernel

/-- A character is scanned back from what the writer puts for it. -/
theorem exists_takesTo_escapeChar (h : s.Holds chars) (c : Char) :
    ∃ s', s.TakesTo (bytesOf (escapeChar c)) s' ∧ s'.Holds (chars ++ [c]) := by
  have hshort : ∀ (byte : UInt8) (escaped : Char), shortEscape? byte.toNat = some escaped →
      byte.toNat ≠ 0x75 → c.toNat = escaped.toNat →
      ∃ s', s.TakesTo [0x5c, byte] s' ∧ s'.Holds (chars ++ [c]) := by
    intro byte escaped hescape hbyte hvalue
    rw [Char.toNat_inj.mp hvalue]
    exact exists_takesTo_shortEscape h hescape hbyte
  unfold escapeChar
  split_ifs with hquote hbackslash hbackspace hfeed hline hreturn htab hcontrol
  · exact hshort 0x22 '"' rfl (by decide) (congrArg Char.toNat hquote)
  · exact hshort 0x5c '\\' rfl (by decide) (congrArg Char.toNat hbackslash)
  · exact hshort 0x62 '\x08' rfl (by decide) hbackspace
  · exact hshort 0x66 '\x0c' rfl (by decide) hfeed
  · exact hshort 0x6e '\n' rfl (by decide) (congrArg Char.toNat hline)
  · exact hshort 0x72 '\r' rfl (by decide) (congrArg Char.toNat hreturn)
  · exact hshort 0x74 '\t' rfl (by decide) (congrArg Char.toNat htab)
  · rw [bytesOf_controlEscape c.toNat hcontrol]
    exact exists_takesTo_digits h (hexDigit?_hexByte _ (by omega)) (hexDigit?_hexByte _ (by omega))
      (by omega) (by omega)
  · rw [bytesOf_singleton]
    exact exists_takesTo_utf8EncodeChar h (by omega)
      (fun hvalue => hquote (Char.toNat_inj.mp hvalue))
      (fun hvalue => hbackslash (Char.toNat_inj.mp hvalue))

/-! ### Whole strings -/

theorem TakesTo.append {s' s'' : StringScan} {first second : List UInt8}
    (hfirst : s.TakesTo first s') (hsecond : s'.TakesTo second s'') :
    s.TakesTo (first ++ second) s'' := by
  intro offset rest
  rw [List.append_assoc, hfirst, hsecond, List.length_append, Nat.add_assoc]

theorem exists_takesTo_escaped (h : s.Holds chars) (text : List Char) :
    ∃ s', s.TakesTo (text.flatMap fun c => bytesOf (escapeChar c)) s' ∧
      s'.Holds (chars ++ text) := by
  induction text generalizing s chars with
  | nil =>
    rw [List.append_nil]
    exact ⟨s, .nil s, h⟩
  | cons c rest ih =>
    obtain ⟨s', hfirst, h'⟩ := exists_takesTo_escapeChar h c
    obtain ⟨s'', hrest, h''⟩ := ih h'
    rw [List.append_assoc] at h''
    exact ⟨s'', hfirst.append hrest, h''⟩

end StringScan

/-! ### Tokens -/

/-- The bytes are those of one token, wherever they stand between two tokens. -/
def Spells (bytes : List UInt8) (lexeme : Lexeme) : Prop :=
  ∀ offset rest, ∃ start stop next, Scan.run .between offset (bytes ++ rest) =
    ⟨start, stop, lexeme⟩ :: Scan.run .between next rest

theorem spells_comma : Spells [0x2c] .comma := fun _ _ => ⟨_, _, _, rfl⟩

theorem spells_colon : Spells [0x3a] .colon := fun _ _ => ⟨_, _, _, rfl⟩

theorem spells_openList : Spells [0x5b] .openList := fun _ _ => ⟨_, _, _, rfl⟩

theorem spells_closeList : Spells [0x5d] .closeList := fun _ _ => ⟨_, _, _, rfl⟩

theorem spells_openObject : Spells [0x7b] .openObject := fun _ _ => ⟨_, _, _, rfl⟩

theorem spells_closeObject : Spells [0x7d] .closeObject := fun _ _ => ⟨_, _, _, rfl⟩

theorem spells_null : Spells [0x6e, 0x75, 0x6c, 0x6c] .null := fun _ _ => ⟨_, _, _, rfl⟩

theorem spells_true : Spells [0x74, 0x72, 0x75, 0x65] (.bool true) := fun _ _ => ⟨_, _, _, rfl⟩

theorem spells_false : Spells [0x66, 0x61, 0x6c, 0x73, 0x65] (.bool false) :=
  fun _ _ => ⟨_, _, _, rfl⟩

/-- A quote ends the string. -/
theorem StringScan.run_quote {text : String} (h : s.Holds text.toList) (offset : Nat)
    (rest : List UInt8) :
    (Scan.string s).run offset (0x22 :: rest) =
      ⟨s.start, offset + 1, .string text⟩ :: Scan.run .between (offset + 1) rest := by
  have hclosed : s.step 0x22 = .closed s := by
    rw [step, h.part]
    simp only [settle, h.pending]
    rfl
  have htoken : s.finish (offset + 1) = ⟨s.start, offset + 1, .string text⟩ := by
    simp only [finish, h.invalid, h.chars, List.reverse_reverse, String.ofList_toList]
  have hscan : (Scan.string s).step offset (0x22 : UInt8).toNat =
      ([⟨s.start, offset + 1, .string text⟩], some .between) := by
    change (Scan.string s).step offset 0x22 = _
    simp only [Scan.step, hclosed, htoken]
  rw [Scan.run, hscan]
  rfl

/-- What the writer puts for a string is a token of that string. -/
theorem spells_stringText (text : String) : Spells (bytesOf (stringText text)) (.string text) := by
  intro offset rest
  have hbegun : ({ start := offset } : StringScan).Holds [] := ⟨rfl, rfl, rfl, rfl⟩
  obtain ⟨s, htakes, hholds⟩ := StringScan.exists_takesTo_escaped hbegun text.toList
  have hbytes : bytesOf (stringText text) ++ rest =
      0x22 :: ((text.toList.flatMap fun c => bytesOf (escapeChar c)) ++ 0x22 :: rest) := by
    have hquote : bytesOf "\"" = [0x22] := rfl
    rw [stringText, bytesOf_append, bytesOf_append, bytesOf_join, hquote, List.flatMap_map]
    simp only [List.append_assoc, List.cons_append, List.nil_append]
  have hopen : Scan.run .between offset (bytesOf (stringText text) ++ rest) =
      (Scan.string { start := offset }).run (offset + 1)
        ((text.toList.flatMap fun c => bytesOf (escapeChar c)) ++ 0x22 :: rest) := by
    rw [hbytes]
    rfl
  rw [hopen, htakes, StringScan.run_quote hholds]
  exact ⟨_, _, _, rfl⟩

/-- Spaces and line breaks between two tokens are skipped. -/
theorem exists_run_of_blank {bytes : List UInt8} (hblank : ∀ byte ∈ bytes, byte = 0x20 ∨ byte = 0x0a)
    (offset : Nat) (rest : List UInt8) :
    ∃ next, Scan.run .between offset (bytes ++ rest) = Scan.run .between next rest := by
  induction bytes generalizing offset with
  | nil => exact ⟨offset, rfl⟩
  | cons byte later ih =>
    obtain ⟨next, hnext⟩ :=
      ih (fun other hother => hblank other (List.mem_cons_of_mem _ hother)) (offset + 1)
    refine ⟨next, ?_⟩
    rw [← hnext]
    rcases hblank byte List.mem_cons_self with rfl | rfl
    · rfl
    · rfl

end Json

end IdentitySchema
