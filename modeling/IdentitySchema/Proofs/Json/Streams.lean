/-
  IdentitySchema/Proofs/Json/Streams.lean
  =======================================
  **Streams that break off.**  What is read from a stream up to a problem is
  the start of a text, and nobody knows how it would have gone on.  So it has
  no value, for one of two reasons: the problem itself, or a flaw that every
  text with these bytes at its start has (`brokenOff_cases`).

  That a flaw stays is seen from the tokens.  The tokens of a text and of a
  longer one are the same up to the end of the shorter text; there the last
  token may be cut off, and then the longer text has a token of the same kind
  in its place (`Scan.Sound.grown_run`).  The reader finds its flaw before it
  gets to what is different, or it finds that a byte is missing (`Grown.run`).
-/
import IdentitySchema.Proofs.Json.Grammar

namespace IdentitySchema.Json

/-! ### Tokens of a longer text -/

/-- The lexeme is a string, or has gone wrong inside one; or else it is a word or a number, or has
gone wrong there. -/
def Lexeme.Among (inString : Bool) : Lexeme → Prop
  | .string _ => inString = true
  | .null | .bool _ | .number _ => inString = false
  | .broken inside _ => inside = inString
  | _ => False

/-- A token that is cut off by the end of a text, and the token in its place in a longer one. -/
structure CutOff (length : Nat) (token whole : Token) (inString : Bool) : Prop where
  start_eq : whole.start = token.start
  among : token.lexeme.Among inString
  among_whole : whole.lexeme.Among inString
  isBeyond : ∀ inside flaw, token.lexeme = .broken inside flaw → flaw.isBeyond length = true

/-- The tokens of a text with so many bytes, and those of a longer one that starts with it. -/
inductive Grown (length : Nat) : List Token → List Token → Prop
  | ended (more : List Token) : Grown length [] more
  | cutOff {token whole : Token} {inString : Bool} (h : CutOff length token whole inString)
      (more : List Token) : Grown length [token] (whole :: more)
  | cons (token : Token) {ts us : List Token} (h : Grown length ts us) :
      Grown length (token :: ts) (token :: us)

variable {length : Nat} {ts us : List Token} {flaw : Flaw} {expecting : Expecting}
  {frames : List Frame}

theorem Grown.append (h : Grown length ts us) (first : List Token) :
    Grown length (first ++ ts) (first ++ us) := by
  induction first with
  | nil => exact h
  | cons token first ih => exact .cons token ih

theorem Grown.refl (ts : List Token) : Grown length ts ts := by
  have hended : Grown length [] [] := .ended []
  simpa using hended.append ts

/-- Where another token follows, one follows at the same place in the longer text. -/
theorem Grown.head_start (h : Grown length ts us) {offset : Nat}
    (hoffset : ts.head?.map (·.start) = some offset) : us.head?.map (·.start) = some offset := by
  cases h with
  | ended more => cases hoffset
  | cutOff h more =>
    rw [← hoffset]
    exact congrArg some h.start_eq
  | cons token h => exact hoffset

/-! ### Reading -/

section Among

variable {token : Token} {inString : Bool}

theorem misfit_congr {whole : Token} (h : whole.start = token.start) (fault : Fault) :
    misfit fault whole = misfit fault token := by
  rw [misfit, misfit, h]

theorem step_afterItem_of_among (h : token.lexeme.Among inString) (items : List Json) :
    (Expecting.afterItem items).step token frames = .error (misfit .expectedListEnd token) := by
  obtain ⟨start, stop, lexeme⟩ := token
  cases lexeme <;> first | rfl | cases h

theorem step_colon_of_among (h : token.lexeme.Among inString) (members : Members) (key : String) :
    (Expecting.colon members key).step token frames = .error (misfit .expectedColon token) := by
  obtain ⟨start, stop, lexeme⟩ := token
  cases lexeme <;> first | rfl | cases h

theorem step_afterMember_of_among (h : token.lexeme.Among inString) (members : Members) :
    (Expecting.afterMember members).step token frames =
      .error (misfit .expectedObjectEnd token) := by
  obtain ⟨start, stop, lexeme⟩ := token
  cases lexeme <;> first | rfl | cases h

/-- Where a key is expected, a word or a number is out of place. -/
theorem step_key_of_among (h : token.lexeme.Among false) (members : Members) :
    Expecting.firstKey.step token frames = .error (misfit .keyNotString token) ∧
    (Expecting.nextKey members).step token frames = .error (misfit .keyNotString token) := by
  obtain ⟨start, stop, lexeme⟩ := token
  cases lexeme with
  | broken inside flaw =>
    cases inside with
    | true => cases h
    | false => exact ⟨rfl, rfl⟩
  | null | bool _ | number _ => exact ⟨rfl, rfl⟩
  | _ => cases h

/-- Where a key is expected, a string is one, or has gone wrong. -/
theorem flaw_of_step_key (h : token.lexeme.Among true) (members : Members)
    (hstep : Expecting.firstKey.step token frames = .error flaw ∨
      (Expecting.nextKey members).step token frames = .error flaw) :
    token.lexeme = .broken true flaw := by
  obtain ⟨start, stop, lexeme⟩ := token
  cases lexeme with
  | broken inside other =>
    cases h
    rcases hstep with hstep | hstep <;> cases hstep <;> rfl
  | string text => rcases hstep with hstep | hstep <;> cases hstep
  | _ => cases h

/-- Where a value is expected, it is one, or has gone wrong. -/
theorem flaw_of_startValue (h : token.lexeme.Among inString)
    (hstart : startValue token frames = .error flaw) : token.lexeme = .broken inString flaw := by
  obtain ⟨start, stop, lexeme⟩ := token
  cases lexeme with
  | broken inside other =>
    cases h
    cases hstart
    rfl
  | null | bool _ | number _ | string _ => cases hstart
  | _ => cases h

theorem Lexeme.Among.ne_closeList {lexeme : Lexeme} (h : lexeme.Among inString) :
    lexeme ≠ .closeList := by
  rintro rfl
  cases h

end Among

/-- A token that is cut off is out of place for its kind, or it is missed how it goes on. -/
theorem CutOff.step {token whole : Token} {inString : Bool} (h : CutOff length token whole inString)
    (hstep : expecting.step token frames = .error flaw) (hflaw : flaw.isBeyond length = false) :
    expecting.step whole frames = .error flaw := by
  -- a flaw of the token itself takes more bytes than there are
  have hsound : ∀ inside, token.lexeme ≠ .broken inside flaw := by
    intro inside hbroken
    rw [h.isBeyond inside flaw hbroken] at hflaw
    cases hflaw
  have hvalue : ∀ inner, startValue token inner ≠ .error flaw := fun inner hstart =>
    hsound inString (flaw_of_startValue h.among hstart)
  cases expecting with
  | value => exact absurd hstep (hvalue frames)
  | firstItem =>
    rw [(Awaits.firstItem frames).step_eq h.among.ne_closeList] at hstep
    exact absurd hstep (hvalue _)
  | nextItem items =>
    rw [(Awaits.nextItem items frames).step_eq h.among.ne_closeList] at hstep
    exact absurd hstep (hvalue _)
  | afterItem items =>
    rw [step_afterItem_of_among h.among] at hstep
    rw [step_afterItem_of_among h.among_whole, misfit_congr h.start_eq]
    exact hstep
  | colon members key =>
    rw [step_colon_of_among h.among] at hstep
    rw [step_colon_of_among h.among_whole, misfit_congr h.start_eq]
    exact hstep
  | afterMember members =>
    rw [step_afterMember_of_among h.among] at hstep
    rw [step_afterMember_of_among h.among_whole, misfit_congr h.start_eq]
    exact hstep
  | firstKey =>
    cases inString with
    | true => exact absurd (flaw_of_step_key h.among [] (.inl hstep)) (hsound true)
    | false =>
      rw [(step_key_of_among h.among []).1] at hstep
      rw [(step_key_of_among h.among_whole []).1, misfit_congr h.start_eq]
      exact hstep
  | nextKey members =>
    cases inString with
    | true => exact absurd (flaw_of_step_key h.among members (.inr hstep)) (hsound true)
    | false =>
      rw [(step_key_of_among h.among members).2] at hstep
      rw [(step_key_of_among h.among_whole members).2, misfit_congr h.start_eq]
      exact hstep

/-- A text that ends too early has a flaw beyond its end. -/
theorem isBeyond_unfinished (expecting : Expecting) :
    (⟨expecting.unfinished, length, false⟩ : Flaw).isBeyond length = true := by
  cases expecting <;> rfl

/-- **The reader of a longer text** finds the flaw of the shorter one, unless that is beyond its
end, and it finds what follows the first value of the shorter one. -/
theorem Grown.run (h : Grown length ts us) (longer : Nat) :
    (∀ flaw, expecting.run length frames ts = .error flaw → flaw.isBeyond length = false →
      expecting.run longer frames us = .error flaw) ∧
    ∀ l offset, expecting.run length frames ts = .ok l → l.next? = some offset →
      ∃ whole, expecting.run longer frames us = .ok whole ∧ whole.next? = some offset := by
  induction h generalizing expecting frames with
  | ended more =>
    constructor
    · intro flaw hrun hflaw
      cases hrun
      rw [isBeyond_unfinished] at hflaw
      cases hflaw
    · intro l offset hrun
      cases hrun
  | @cutOff token whole inString h more =>
    rw [Expecting.run, Expecting.run]
    cases hstep : expecting.step token frames with
    | error first =>
      constructor
      · intro flaw hrun hflaw
        cases hrun
        rw [h.step hstep hflaw]
      · intro l offset hrun
        cases hrun
    | ok progress =>
      cases progress with
      | more after inner =>
        constructor
        · intro flaw hrun hflaw
          cases hrun
          rw [isBeyond_unfinished] at hflaw
          cases hflaw
        · intro l offset hrun
          cases hrun
      | complete value =>
        constructor
        · intro flaw hrun
          cases hrun
        · intro l offset hrun hoffset
          cases hrun
          cases hoffset
  | @cons token ts us h ih =>
    rw [Expecting.run, Expecting.run]
    cases expecting.step token frames with
    | error first =>
      constructor
      · intro flaw hrun _
        exact hrun
      · intro l offset hrun
        cases hrun
    | ok progress =>
      cases progress with
      | more after inner => exact ih
      | complete value =>
        constructor
        · intro flaw hrun
          cases hrun
        · intro l offset hrun hoffset
          cases hrun
          exact ⟨_, rfl, h.head_start hoffset⟩

/-! ### Starts of numbers and strings -/

theorem NumberScan.start_addWhole (n : NumberScan) (digit : Nat) :
    (n.addWhole digit).start = n.start := by
  unfold addWhole
  split <;> rfl

theorem NumberScan.start_addDecimal (n : NumberScan) (digit : Nat) :
    (n.addDecimal digit).start = n.start := by
  unfold addDecimal
  split <;> rfl

theorem NumberScan.start_of_addExponentDigit {n next : NumberScan} {digit : Nat}
    (h : n.addExponentDigit digit = .more next) : next.start = n.start := by
  unfold addExponentDigit at h
  dsimp only at h
  split_ifs at h <;> cases h <;> rfl

theorem NumberScan.start_of_afterWhole {n next : NumberScan} {byte : Nat}
    (h : n.afterWhole byte = .more next) : next.start = n.start := by
  unfold afterWhole at h
  split_ifs at h <;> cases h <;> rfl

/-- A number keeps the place where it started. -/
theorem NumberScan.start_of_step {n next : NumberScan} {byte : Nat}
    (h : n.step byte = .more next) : next.start = n.start := by
  unfold step at h
  dsimp only at h
  split at h
  all_goals
    split_ifs at h
    all_goals first
      | exact start_of_addExponentDigit h
      | exact start_of_afterWhole h
      | (cases h; first | rfl | exact start_addWhole _ _ | exact start_addDecimal _ _)

theorem StringScan.start_settle (s : StringScan) : s.settle.start = s.start := by
  unfold settle
  split <;> rfl

theorem StringScan.start_plainByte (s : StringScan) (byte : Nat) :
    (s.plainByte byte).start = s.start := by
  unfold plainByte
  split
  split <;> rfl

/-- What a string becomes still starts where it did. -/
def StringScan.Step.Keeps (start : Nat) : StringScan.Step → Prop
  | .more s | .closed s => s.start = start
  | .fault _ => True

theorem StringScan.keeps_unit (s : StringScan) (code high : Option Nat) :
    (s.unit code high).Keeps s.start := by
  unfold unit
  split
  · trivial
  all_goals
    split_ifs
    all_goals first | rfl | trivial

/-- A string keeps the place where it started. -/
theorem StringScan.keeps_step (s : StringScan) (byte : Nat) : (s.step byte).Keeps s.start := by
  unfold step
  split
  · split_ifs
    · exact s.start_settle
    · exact s.start_settle
    · trivial
    · exact s.start_plainByte byte
  · split_ifs
    · rfl
    · split
      · rfl
      · trivial
  · dsimp only
    split
    · exact s.keeps_unit _ _
    · rfl
  all_goals
    split_ifs
    · rfl
    · trivial

/-! ### In the middle of a token -/

/-- The scanner is in the middle of a token that started at an offset: inside a string, or in a word
or a number. -/
inductive Scan.Within (start : Nat) : Bool → Scan → Prop
  | word {letters : List Nat} {lexeme : Lexeme} (hletters : letters ≠ [])
      (hlexeme : lexeme.Among false) : Within start false (.word start letters lexeme)
  | number {n : NumberScan} (hstart : n.start = start) : Within start false (.number n)
  | string {s : StringScan} (hstart : s.start = start) : Within start true (.string s)

/-- The scanner is between two tokens or in the middle of one. -/
def Scan.Sound (scan : Scan) : Prop :=
  scan = .between ∨ ∃ start inString, scan.Within start inString

theorem Scan.Within.sound {scan : Scan} {start : Nat} {inString : Bool}
    (h : scan.Within start inString) : scan.Sound :=
  .inr ⟨start, inString, h⟩

variable {scan next : Scan} {start offset byte : Nat} {inString : Bool}

/-- A token that is opened at an offset starts there. -/
def Opening.StartsAt (offset : Nat) : Opening → Prop
  | .part scan => ∃ inString, scan.Within offset inString
  | _ => True

theorem Opening.StartsAt.ite {condition : Prop} [Decidable condition] {first second : Opening}
    (hfirst : first.StartsAt offset) (hsecond : second.StartsAt offset) :
    (if condition then first else second).StartsAt offset := by
  by_cases h : condition
  · rwa [if_pos h]
  · rwa [if_neg h]

theorem startsAt_opening (offset byte : Nat) : (opening offset byte).StartsAt offset := by
  unfold opening
  refine .ite trivial (.ite ⟨true, .string rfl⟩ ?_)
  iterate 6 refine .ite trivial ?_
  iterate 3 refine .ite ⟨false, .word (by decide) rfl⟩ ?_
  iterate 2 refine .ite ⟨false, .number rfl⟩ ?_
  trivial

theorem Scan.sound_of_between (h : (Scan.between.step offset byte).2 = some next) :
    next.Sound := by
  have hstarts := startsAt_opening offset byte
  unfold Scan.step at h
  dsimp only at h
  cases hopening : opening offset byte with
  | blank =>
    rw [hopening] at h
    cases h
    exact .inl rfl
  | part scan =>
    rw [hopening] at h hstarts
    cases h
    obtain ⟨inString, hwithin⟩ := hstarts
    exact hwithin.sound
  | whole lexeme =>
    rw [hopening] at h
    cases lexeme <;> cases h <;> exact .inl rfl

theorem NumberScan.start_finish (n : NumberScan) (stop : Nat) :
    (n.finish stop).start = n.start := by
  unfold finish
  split
  any_goals rfl
  split <;> rfl

/-- A number is one, or has gone wrong; if it has, that is found with another byte. -/
theorem NumberScan.finish_cases (n : NumberScan) (stop : Nat) :
    (∃ value, (n.finish stop).lexeme = .number value) ∨
    ∃ flaw, (n.finish stop).lexeme = .broken false flaw ∧ flaw.isBeyond stop = true := by
  unfold finish
  split
  any_goals exact .inr ⟨_, rfl, rfl⟩
  split
  · exact .inl ⟨_, rfl⟩
  · exact .inr ⟨_, rfl, decide_eq_true (Nat.lt_succ_self stop)⟩

theorem NumberScan.among_finish (n : NumberScan) (stop : Nat) :
    (n.finish stop).lexeme.Among false := by
  rcases n.finish_cases stop with ⟨value, h⟩ | ⟨flaw, h, -⟩ <;> rw [h] <;> rfl

theorem StringScan.start_finish (s : StringScan) (stop : Nat) :
    (s.finish stop).start = s.start := by
  unfold finish
  split <;> rfl

theorem StringScan.among_finish (s : StringScan) (stop : Nat) :
    (s.finish stop).lexeme.Among true := by
  unfold finish
  split <;> rfl

/-- The first of the tokens started at an offset, and is a string, or else a word or a number. -/
def Begins (start : Nat) (inString : Bool) (ts : List Token) : Prop :=
  ∃ whole more, ts = whole :: more ∧ whole.start = start ∧ whole.lexeme.Among inString

theorem Begins.append {ts : List Token} (h : Begins start inString ts) (us : List Token) :
    Begins start inString (ts ++ us) := by
  obtain ⟨whole, more, rfl, hwhole⟩ := h
  exact ⟨whole, more ++ us, rfl, hwhole⟩

/-- What a byte leads to in the middle of a token: the scanner goes on with the token, or completes
it, as the first, and then it may have come to its end. -/
inductive Continues (start : Nat) (inString : Bool) : List Token × Option Scan → Prop
  | more {next : Scan} (h : next.Within start inString) : Continues start inString ([], some next)
  | complete {ts : List Token} {next : Scan} (h : Begins start inString ts) (hnext : next.Sound) :
      Continues start inString (ts, some next)
  | last {ts : List Token} (h : Begins start inString ts) : Continues start inString (ts, none)

theorem continues_word {letters : List Nat} {lexeme : Lexeme} (hletters : letters ≠ [])
    (hlexeme : lexeme.Among false) :
    Continues start false ((Scan.word start letters lexeme).step offset byte) := by
  cases letters with
  | nil => exact absurd rfl hletters
  | cons letter rest =>
    unfold Scan.step
    dsimp only
    split_ifs with hbyte hrest
    · exact .last ⟨_, _, rfl, rfl, rfl⟩
    · exact .complete ⟨_, _, rfl, rfl, hlexeme⟩ (.inl rfl)
    · refine .more (.word ?_ hlexeme)
      rintro rfl
      exact hrest rfl

theorem continues_number {n : NumberScan} (hstart : n.start = start) :
    Continues start false ((Scan.number n).step offset byte) := by
  cases hstep : n.step byte with
  | more after =>
    simp only [Scan.step, hstep]
    exact .more (.number ((NumberScan.start_of_step hstep).trans hstart))
  | fault kind =>
    simp only [Scan.step, hstep]
    exact .last ⟨_, _, rfl, hstart, rfl⟩
  | ended =>
    have hbegins : ∀ ts, Begins start false (n.finish offset :: ts) := fun ts =>
      ⟨_, ts, rfl, (n.start_finish offset).trans hstart, n.among_finish offset⟩
    rcases n.finish_cases offset with ⟨value, hfinish⟩ | ⟨flaw, hfinish, -⟩
    · -- the byte after a number is looked at as one between two tokens
      have hscan : (Scan.number n).step offset byte =
          (n.finish offset :: (Scan.between.step offset byte).1,
            (Scan.between.step offset byte).2) := by
        simp only [Scan.step, hstep, hfinish]
      rw [hscan]
      cases hnext : (Scan.between.step offset byte).2 with
      | none => exact .last (hbegins _)
      | some next => exact .complete (hbegins _) (Scan.sound_of_between hnext)
    · simp only [Scan.step, hstep, hfinish]
      exact .last (hbegins [])

theorem continues_string {s : StringScan} (hstart : s.start = start) :
    Continues start true ((Scan.string s).step offset byte) := by
  have hkeeps := s.keeps_step byte
  cases hstep : s.step byte with
  | more after =>
    rw [hstep] at hkeeps
    simp only [Scan.step, hstep]
    exact .more (.string (hkeeps.trans hstart))
  | fault kind =>
    simp only [Scan.step, hstep]
    exact .last ⟨_, _, rfl, hstart, rfl⟩
  | closed after =>
    rw [hstep] at hkeeps
    have hbegins : Begins start true [after.finish (offset + 1)] :=
      ⟨_, _, rfl, (after.start_finish _).trans (hkeeps.trans hstart), after.among_finish _⟩
    simp only [Scan.step, hstep]
    split
    · exact .last hbegins
    · exact .complete hbegins (.inl rfl)

theorem Scan.Within.step (h : scan.Within start inString) (offset byte : Nat) :
    Continues start inString (scan.step offset byte) := by
  cases h with
  | word hletters hlexeme => exact continues_word hletters hlexeme
  | number hstart => exact continues_number hstart
  | string hstart => exact continues_string hstart

/-- What the scanner is in the middle of stays sound. -/
theorem Scan.Sound.step (h : scan.Sound) (hnext : (scan.step offset byte).2 = some next) :
    next.Sound := by
  rcases h with rfl | ⟨start, inString, hwithin⟩
  · exact sound_of_between hnext
  · have hcontinues := hwithin.step offset byte
    generalize scan.step offset byte = result at hcontinues hnext
    cases hcontinues with
    | more hafter =>
      cases hnext
      exact hafter.sound
    | complete hbegins hsound =>
      cases hnext
      exact hsound
    | last hbegins => cases hnext

/-- Whatever bytes follow, the token that the scanner is in the middle of comes first. -/
theorem Scan.Within.run (h : scan.Within start inString) (offset : Nat) (bytes : List UInt8) :
    Begins start inString (scan.run offset bytes) := by
  induction bytes generalizing scan offset with
  | nil =>
    cases h with
    | word => exact ⟨_, _, rfl, rfl, rfl⟩
    | @number n hstart =>
      exact ⟨_, _, rfl, (n.start_finish offset).trans hstart, n.among_finish offset⟩
    | string hstart => exact ⟨_, _, rfl, hstart, rfl⟩
  | cons byte bytes ih =>
    have hcontinues := h.step offset byte.toNat
    rw [Scan.run]
    generalize scan.step offset byte.toNat = result at hcontinues
    cases hcontinues with
    | more hnext => exact ih hnext (offset + 1)
    | complete hbegins hsound => exact hbegins.append _
    | last hbegins => exact hbegins

/-- At the end of the bytes the token that the scanner is in the middle of is cut off. -/
theorem Scan.Within.finish (h : scan.Within start inString) (offset : Nat) {whole : Token}
    (hstart : whole.start = start) (hwhole : whole.lexeme.Among inString) :
    ∃ token, scan.finish offset = [token] ∧ CutOff offset token whole inString := by
  cases h with
  | word =>
    refine ⟨_, rfl, ⟨hstart, rfl, hwhole, ?_⟩⟩
    rintro inside flaw ⟨⟩
    rfl
  | @number n hfirst =>
    refine ⟨_, rfl, ⟨?_, n.among_finish offset, hwhole, ?_⟩⟩
    · rw [hstart, n.start_finish, hfirst]
    · intro inside flaw hbroken
      rcases n.finish_cases offset with ⟨value, hfinish⟩ | ⟨other, hfinish, hbeyond⟩
      · rw [hfinish] at hbroken
        cases hbroken
      · rw [hfinish] at hbroken
        cases hbroken
        exact hbeyond
  | string hfirst =>
    refine ⟨_, rfl, ⟨hstart.trans hfirst.symm, rfl, hwhole, ?_⟩⟩
    rintro inside flaw ⟨⟩
    rfl

/-- **The scanner of a longer text** gives the same tokens up to where the shorter one ends. -/
theorem Scan.Sound.grown_run (h : scan.Sound) (offset : Nat) (bytes more : List UInt8) :
    Grown (offset + bytes.length) (scan.run offset bytes) (scan.run offset (bytes ++ more)) := by
  induction bytes generalizing scan offset with
  | nil =>
    rcases h with rfl | ⟨start, inString, hwithin⟩
    · exact .ended _
    · obtain ⟨whole, rest, hrun, hstart, hwhole⟩ := hwithin.run offset more
      obtain ⟨token, hfinish, hcut⟩ := hwithin.finish offset hstart hwhole
      rw [List.nil_append, hrun, Scan.run, hfinish]
      exact .cutOff hcut rest
  | cons byte bytes ih =>
    have hlength : offset + (byte :: bytes).length = offset + 1 + bytes.length := by
      rw [List.length_cons]
      omega
    rw [List.cons_append, Scan.run, Scan.run, hlength]
    cases hstep : scan.step offset byte.toNat with
    | mk ts next? =>
      cases next? with
      | none => exact .refl ts
      | some next => exact (ih (h.step (congrArg Prod.snd hstep)) (offset + 1)).append ts

theorem grown_tokens (bytes more : List UInt8) :
    Grown bytes.length (tokens bytes) (tokens (bytes ++ more)) := by
  have h := Scan.Sound.grown_run (.inl rfl) 0 bytes more
  rwa [Nat.zero_add] at h

/-! ### Whole texts -/

/-- The first value of a longer text has the same flaw, unless that is beyond the end of the shorter
one, and is followed where the first value of the shorter one is. -/
theorem leading_append (bytes more : List UInt8) :
    (∀ flaw, leading bytes = .error flaw → flaw.isBeyond bytes.length = false →
      leading (bytes ++ more) = .error flaw) ∧
    ∀ l offset, leading bytes = .ok l → l.next? = some offset →
      ∃ whole, leading (bytes ++ more) = .ok whole ∧ whole.next? = some offset :=
  (grown_tokens bytes more).run (bytes ++ more).length

/-- A flaw that is found within a text is that of every text which starts with it. -/
theorem read_append {bytes : List UInt8} (h : read bytes = .error flaw)
    (hflaw : flaw.isBeyond bytes.length = false) (more : List UInt8) :
    read (bytes ++ more) = .error flaw := by
  obtain ⟨hflaws, hends⟩ := leading_append bytes more
  unfold read at h ⊢
  cases hleading : leading bytes with
  | error first =>
    rw [hleading] at h
    cases h
    rw [hflaws flaw hleading hflaw]
    rfl
  | ok l =>
    rw [hleading] at h
    cases hnext : l.next? with
    | none =>
      have hended : l.ended = .ok () := by rw [Leading.ended, hnext]
      simp only [bind, Except.bind, hended, pure, Except.pure] at h
      cases h
    | some offset =>
      -- something follows the first value, and then it does in the longer text
      have hended : ∀ l : Leading, l.next? = some offset →
          l.ended = .error ⟨.trailingCharacters, offset + 1, false⟩ := by
        intro l hnext
        rw [Leading.ended, hnext]
      obtain ⟨whole, hwhole, hsame⟩ := hends l offset hleading hnext
      simp only [bind, Except.bind, hended l hnext] at h
      simp only [hwhole, bind, Except.bind, hended whole hsame]
      exact h

/-- The place of a flaw that is found within a text does not depend on what follows. -/
theorem Flaw.position_append {bytes : List UInt8} (h : flaw.isBeyond bytes.length = false)
    (more : List UInt8) :
    flaw.position .stream (bytes ++ more) = flaw.position .stream bytes := by
  obtain ⟨fault, reach, ahead⟩ := flaw
  have hreach : reach + ahead.toNat ≤ bytes.length := by
    simp only [Flaw.isBeyond, Bool.or_eq_false_iff, decide_eq_false_iff_not, Nat.not_lt] at h
    exact h.2
  unfold Flaw.position
  dsimp only
  rw [List.take_append_of_le_length]
  cases ahead with
  | true => exact hreach
  | false => exact hreach

/-- Why a stream that breaks off has no value: the problem, or what is wrong with every text that
starts with its bytes. -/
theorem brokenOff_cases (bytes : List UInt8) (problem : FileProblem) :
    brokenOff bytes problem = .unreadable problem ∨
    ∀ more, ofBytes .stream (bytes ++ more) = .error (brokenOff bytes problem) := by
  cases hread : read bytes with
  | ok value =>
    left
    rw [brokenOff, hread]
  | error flaw =>
    cases hflaw : flaw.isBeyond bytes.length with
    | true =>
      left
      simp only [brokenOff, hread, hflaw, if_true]
    | false =>
      right
      intro more
      have hoff : brokenOff bytes problem =
          .malformed flaw.fault (flaw.position .stream bytes) := by
        simp only [brokenOff, hread, hflaw, Bool.false_eq_true, if_false]
      rw [ofBytes, read_append hread hflaw, hoff, ← Flaw.position_append hflaw more]

end IdentitySchema.Json
