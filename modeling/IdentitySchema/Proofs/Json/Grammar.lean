/-
  IdentitySchema/Proofs/Json/Grammar.lean
  =======================================
  **Which texts are documents.**  `Denotes` is the grammar of values over the
  lexemes of a text: a value that is no list and no object is one lexeme, and
  the parts of a list or an object stand between brackets, with commas between
  them and none after the last.  It says nothing about a reader, its states or
  its frames.

  What is denoted has the members of each object in increasing order of their
  keys, each key once (`Denotes.sorted`), in whatever order the text has them.

  The reader accepts a text exactly when its lexemes denote a value, and gives
  that value (`read_eq_ok_iff`).  One direction goes by what has been read so
  far: inside the frames that are open, some parts with a comma after each and
  perhaps a value (`Reached`), and each token leads from there to such a state
  again.  The other goes by the grammar: what denotes a value takes the reader
  from anywhere that a value is expected to where it is complete.
-/
import IdentitySchema.Proofs.Failures
import IdentitySchema.Proofs.Json.Writing
import Mathlib.Data.List.Induction

namespace IdentitySchema.Json

/-! ### The grammar -/

/-- Some lexemes and the value that they are said to denote. -/
structure Part where
  lexemes : List Lexeme
  value : Json

/-- The lexemes of a member with the part as its value. -/
def Part.under (part : Part) (key : String) : List Lexeme :=
  .string key :: .colon :: part.lexemes

/-- The lexemes of several parts, with commas between them. -/
def separated : List (List Lexeme) → List Lexeme
  | [] => []
  | [part] => part
  | part :: next :: rest => part ++ .comma :: separated (next :: rest)

/-- The members of an object. Of several with one key the last counts. -/
def membersOf (parts : List (String × Part)) : Members :=
  parts.foldl (fun members part => members.insert part.1 part.2.value) []

/-- The lexemes are those of the value, inside so many lists and objects. -/
inductive Denotes : Nat → List Lexeme → Json → Prop
  | null {depth : Nat} : Denotes depth [.null] .null
  | bool {depth : Nat} (flag : Bool) : Denotes depth [.bool flag] (.bool flag)
  | number {depth : Nat} (n : Number) : Denotes depth [.number n] (.number n)
  | string {depth : Nat} (text : String) : Denotes depth [.string text] (.string text)
  | array {depth : Nat} (parts : List Part) (hdepth : depth < depthLimit)
      (hparts : ∀ part ∈ parts, Denotes (depth + 1) part.lexemes part.value) :
      Denotes depth (.openList :: separated (parts.map (·.lexemes)) ++ [.closeList])
        (.array (parts.map (·.value)))
  | object {depth : Nat} (parts : List (String × Part)) (hdepth : depth < depthLimit)
      (hparts : ∀ part ∈ parts, Denotes (depth + 1) part.2.lexemes part.2.value) :
      Denotes depth
        (.openObject :: separated (parts.map fun part => part.2.under part.1) ++ [.closeObject])
        (.object (membersOf parts))

/-- The text is one document, with this value: nothing but blanks stands around its lexemes, its
numbers are in range and it is not nested deeper than is read. -/
def IsDocument (text : String) (value : Json) : Prop :=
  Denotes 0 ((tokens (bytesOf text)).map (·.lexeme)) value

/-- Only a list starts with the bracket of a list. -/
theorem Denotes.exists_array {depth : Nat} {rest : List Lexeme} {value : Json}
    (h : Denotes depth (.openList :: rest) value) : ∃ items, value = .array items := by
  cases h with
  | array parts => exact ⟨_, rfl⟩

/-! ### Parts with commas -/

/-- The lexemes of several parts, with a comma after each. -/
def ended (parts : List (List Lexeme)) : List Lexeme :=
  parts.flatMap fun part => part ++ [.comma]

theorem ended_concat (parts : List (List Lexeme)) (last : List Lexeme) :
    ended (parts ++ [last]) = ended parts ++ (last ++ [.comma]) := by
  simp [ended]

theorem separated_concat (parts : List (List Lexeme)) (last : List Lexeme) :
    separated (parts ++ [last]) = ended parts ++ last := by
  induction parts with
  | nil => rfl
  | cons part rest ih =>
    cases rest with
    | nil => simp [separated, ended]
    | cons next rest =>
      have hseparated : separated (part :: next :: rest ++ [last]) =
          part ++ .comma :: separated (next :: rest ++ [last]) := rfl
      rw [hseparated, ih]
      simp [ended]

theorem separated_cons (first : List Lexeme) (rest : List (List Lexeme)) :
    separated (first :: rest) = first ++ rest.flatMap fun part => .comma :: part := by
  induction rest generalizing first with
  | nil => simp [separated]
  | cons next rest ih => rw [separated, ih, List.flatMap_cons, List.cons_append]

@[simp] theorem membersOf_nil : membersOf [] = [] := rfl

theorem membersOf_concat (parts : List (String × Part)) (key : String) (part : Part) :
    membersOf (parts ++ [(key, part)]) = (membersOf parts).insert key part.value := by
  rw [membersOf, List.foldl_append]
  rfl

/-! ### The order of members -/

theorem pairwise_keys_membersOf (parts : List (String × Part)) :
    (Members.keys (membersOf parts)).Pairwise (· < ·) := by
  induction parts using List.reverseRecOn with
  | nil => exact .nil
  | append_singleton parts part ih =>
    rw [membersOf_concat]
    exact Members.pairwise_keys_insert ih

theorem exists_part_of_mem_membersOf {parts : List (String × Part)} {member : String × Json}
    (h : member ∈ membersOf parts) : ∃ part ∈ parts, member = (part.1, part.2.value) := by
  induction parts using List.reverseRecOn with
  | nil => cases h
  | append_singleton parts part ih =>
    rw [membersOf_concat] at h
    rcases Members.mem_insert h with rfl | h
    · exact ⟨part, by simp, rfl⟩
    · obtain ⟨earlier, hearlier, hmember⟩ := ih h
      exact ⟨earlier, List.mem_append_left _ hearlier, hmember⟩

/-- **What is denoted has its members in order.** -/
theorem Denotes.sorted {depth : Nat} {lexemes : List Lexeme} {value : Json}
    (h : Denotes depth lexemes value) : value.Sorted := by
  induction h with
  | null | bool _ | number _ | string _ => simp only [Sorted]
  | array parts hdepth _ ih =>
    simp only [Sorted]
    rw [sortedItems_iff, List.forall_mem_map]
    exact ih
  | object parts hdepth _ ih =>
    simp only [Sorted]
    refine ⟨pairwise_keys_membersOf parts, sortedMembers_iff.mpr fun member hmember => ?_⟩
    obtain ⟨part, hpart, rfl⟩ := exists_part_of_mem_membersOf hmember
    exact ih part hpart

/-! ### What has been read -/

/-- The lexemes before a value inside the frames. In a list or an object, parts with a comma after
each stand before it, and its key. -/
inductive Opened : List Frame → List Lexeme → Prop
  | outermost : Opened [] []
  | item {frames : List Frame} {lexemes : List Lexeme} {items : List Json} (parts : List Part)
      (houter : Opened frames lexemes) (hroom : frames.length < depthLimit)
      (hparts : ∀ part ∈ parts, Denotes (frames.length + 1) part.lexemes part.value)
      (hitems : items = (parts.map (·.value)).reverse) :
      Opened (.list items :: frames)
        (lexemes ++ .openList :: ended (parts.map (·.lexemes)))
  | member {frames : List Frame} {lexemes : List Lexeme} {members : Members} {key : String}
      (parts : List (String × Part))
      (houter : Opened frames lexemes) (hroom : frames.length < depthLimit)
      (hparts : ∀ part ∈ parts, Denotes (frames.length + 1) part.2.lexemes part.2.value)
      (hmembers : members = membersOf parts) :
      Opened (.member members key :: frames)
        (lexemes ++ .openObject :: ended (parts.map fun part => part.2.under part.1) ++
          [.string key, .colon])

/-- The lexemes lead to where the reader is. -/
inductive Reached : Expecting → List Frame → List Lexeme → Prop
  | value {expecting : Expecting} {frames inner : List Frame} {lexemes : List Lexeme}
      (hawaits : Awaits expecting frames inner) (h : Opened inner lexemes) :
      Reached expecting frames lexemes
  | afterItem {frames : List Frame} {before own : List Lexeme} {items : List Json} {value : Json}
      (h : Opened (.list items :: frames) before)
      (hvalue : Denotes (frames.length + 1) own value) :
      Reached (.afterItem (value :: items)) frames (before ++ own)
  | firstKey {frames : List Frame} {lexemes : List Lexeme}
      (houter : Opened frames lexemes) (hroom : frames.length < depthLimit) :
      Reached .firstKey frames (lexemes ++ [.openObject])
  | nextKey {frames : List Frame} {lexemes : List Lexeme} {members : Members}
      (h : ∀ key, Opened (.member members key :: frames) (lexemes ++ [.string key, .colon])) :
      Reached (.nextKey members) frames lexemes
  | colon {frames : List Frame} {lexemes : List Lexeme} {members : Members} {key : String}
      (h : Opened (.member members key :: frames) (lexemes ++ [.colon])) :
      Reached (.colon members key) frames lexemes
  | afterMember {frames : List Frame} {before own : List Lexeme} {members : Members}
      {key : String} {value : Json} (h : Opened (.member members key :: frames) before)
      (hvalue : Denotes (frames.length + 1) own value) :
      Reached (.afterMember (members.insert key value)) frames (before ++ own)

/-- The lexemes lead to the progress: at its end, they are those of the value. -/
def Progress.Reached : Progress → List Lexeme → Prop
  | .more expecting frames, lexemes => Json.Reached expecting frames lexemes
  | .complete value, lexemes => Denotes 0 lexemes value

section Reached

variable {frames : List Frame} {before own lexemes : List Lexeme} {items : List Json}
  {members : Members} {key : String} {value : Json} {token : Token} {progress : Progress}

theorem Opened.completed (h : Opened frames before) (hvalue : Denotes frames.length own value) :
    (completed value frames).Reached (before ++ own) := by
  cases frames with
  | nil =>
    cases h
    exact hvalue
  | cons frame frames =>
    cases frame with
    | list items => exact .afterItem h hvalue
    | member members key => exact .afterMember h hvalue

theorem Opened.nextItem (h : Opened (.list items :: frames) before)
    (hvalue : Denotes (frames.length + 1) own value) :
    Opened (.list (value :: items) :: frames) (before ++ own ++ [.comma]) := by
  rcases h with _ | ⟨parts, houter, hroom, hparts, rfl⟩
  have hall : ∀ part ∈ parts ++ [⟨own, value⟩],
      Denotes (frames.length + 1) part.lexemes part.value :=
    List.forall_mem_append.mpr ⟨hparts, List.forall_mem_singleton.mpr hvalue⟩
  have hnext := Opened.item _ houter hroom hall rfl
  simpa [ended_concat] using hnext

theorem Opened.array (h : Opened (.list items :: frames) before)
    (hvalue : Denotes (frames.length + 1) own value) :
    (Json.completed (.array (value :: items).reverse) frames).Reached
      (before ++ own ++ [.closeList]) := by
  rcases h with _ | ⟨parts, houter, hroom, hparts, rfl⟩
  have hall : ∀ part ∈ parts ++ [⟨own, value⟩],
      Denotes (frames.length + 1) part.lexemes part.value :=
    List.forall_mem_append.mpr ⟨hparts, List.forall_mem_singleton.mpr hvalue⟩
  have hlist := houter.completed (.array _ hroom hall)
  simpa [separated_concat] using hlist

theorem Opened.emptyArray (h : Opened (.list [] :: frames) before) :
    (Json.completed (.array []) frames).Reached (before ++ [.closeList]) := by
  rcases h with _ | ⟨parts, houter, hroom, -, hitems⟩
  -- No item has been read, so there is no part.
  have hnone : parts = [] := by simpa using hitems
  subst hnone
  have hlist := houter.completed (.array [] hroom (List.forall_mem_nil _))
  simpa [separated, ended] using hlist

theorem Opened.nextMember (h : Opened (.member members key :: frames) before)
    (hvalue : Denotes (frames.length + 1) own value) (next : String) :
    Opened (.member (members.insert key value) next :: frames)
      (before ++ own ++ [.comma] ++ [.string next, .colon]) := by
  rcases h with _ | _ | ⟨parts, houter, hroom, hparts, rfl⟩
  have hall : ∀ part ∈ parts ++ [(key, ⟨own, value⟩)],
      Denotes (frames.length + 1) part.2.lexemes part.2.value :=
    List.forall_mem_append.mpr ⟨hparts, List.forall_mem_singleton.mpr hvalue⟩
  have hnext : Opened (.member _ next :: frames) _ :=
    .member _ houter hroom hall (membersOf_concat ..).symm
  simpa [ended_concat, Part.under] using hnext

theorem Opened.object (h : Opened (.member members key :: frames) before)
    (hvalue : Denotes (frames.length + 1) own value) :
    (Json.completed (.object (members.insert key value)) frames).Reached
      (before ++ own ++ [.closeObject]) := by
  rcases h with _ | _ | ⟨parts, houter, hroom, hparts, rfl⟩
  have hall : ∀ part ∈ parts ++ [(key, ⟨own, value⟩)],
      Denotes (frames.length + 1) part.2.lexemes part.2.value :=
    List.forall_mem_append.mpr ⟨hparts, List.forall_mem_singleton.mpr hvalue⟩
  have hobject := houter.completed (.object _ hroom hall)
  simpa [separated_concat, Part.under, membersOf_concat] using hobject

theorem enter_eq_ok {expecting : Expecting} (h : enter expecting token frames = .ok progress) :
    frames.length < depthLimit ∧ progress = .more expecting frames := by
  unfold enter at h
  split at h
  · cases h
    exact ⟨‹_›, rfl⟩
  · cases h

/-- A token where a value is expected leads on. -/
theorem Opened.startValue (h : Opened frames lexemes)
    (hstart : startValue token frames = .ok progress) :
    progress.Reached (lexemes ++ [token.lexeme]) := by
  obtain ⟨start, stop, lexeme⟩ := token
  cases lexeme with
  | openList =>
    obtain ⟨hroom, hprogress⟩ := enter_eq_ok hstart
    subst hprogress
    exact .value (.firstItem frames) (.item [] h hroom (List.forall_mem_nil _) rfl)
  | openObject =>
    obtain ⟨hroom, hprogress⟩ := enter_eq_ok hstart
    subst hprogress
    exact .firstKey h hroom
  | null =>
    cases hstart
    exact h.completed .null
  | bool flag =>
    cases hstart
    exact h.completed (.bool flag)
  | number n =>
    cases hstart
    exact h.completed (.number n)
  | string text =>
    cases hstart
    exact h.completed (.string text)
  | _ => cases hstart

/-- Where a value is expected, a token starts it, or ends the list that has none yet. -/
theorem Opened.step {expecting : Expecting} {inner : List Frame} (h : Opened inner lexemes)
    (hawaits : Awaits expecting frames inner) (hstep : expecting.step token frames = .ok progress) :
    progress.Reached (lexemes ++ [token.lexeme]) := by
  by_cases hend : token.lexeme = .closeList
  · obtain ⟨start, stop, lexeme⟩ := token
    subst hend
    cases hawaits with
    | value => cases hstep
    | nextItem items => cases hstep
    | firstItem =>
      cases hstep
      exact h.emptyArray
  · rw [hawaits.step_eq hend] at hstep
    exact h.startValue hstep

/-- **What one token leads to.** -/
theorem Reached.step {expecting : Expecting} (h : Reached expecting frames lexemes)
    (hstep : expecting.step token frames = .ok progress) :
    progress.Reached (lexemes ++ [token.lexeme]) := by
  obtain ⟨start, stop, lexeme⟩ := token
  cases h with
  | value hawaits h => exact h.step hawaits hstep
  | afterItem h hvalue =>
    cases lexeme with
    | comma =>
      cases hstep
      exact .value (.nextItem _ frames) (h.nextItem hvalue)
    | closeList =>
      cases hstep
      exact h.array hvalue
    | _ => cases hstep
  | firstKey houter hroom =>
    cases lexeme with
    | string key =>
      cases hstep
      have hmember : Opened (.member [] key :: frames) _ :=
        .member [] houter hroom (List.forall_mem_nil _) rfl
      refine .colon ?_
      simpa [ended] using hmember
    | closeObject =>
      cases hstep
      have hobject := houter.completed (.object [] hroom (List.forall_mem_nil _))
      simpa [separated] using hobject
    | broken inString flaw => cases inString <;> cases hstep
    | _ => cases hstep
  | nextKey h =>
    cases lexeme with
    | string key =>
      cases hstep
      refine .colon ?_
      simpa using h key
    | broken inString flaw => cases inString <;> cases hstep
    | _ => cases hstep
  | @colon _ _ members key h =>
    cases lexeme with
    | colon =>
      cases hstep
      exact .value (.value (.member members key :: frames)) h
    | _ => cases hstep
  | afterMember h hvalue =>
    cases lexeme with
    | comma =>
      cases hstep
      exact .nextKey (h.nextMember hvalue)
    | closeObject =>
      cases hstep
      exact h.object hvalue
    | _ => cases hstep

/-- What is read to the end is denoted by the lexemes up to there. -/
theorem Reached.run {expecting : Expecting} {length : Nat} {ts : List Token} {l : Leading}
    (h : Reached expecting frames lexemes) (hrun : expecting.run length frames ts = .ok l) :
    ∃ first rest, ts = first ++ rest ∧ Denotes 0 (lexemes ++ first.map (·.lexeme)) l.value ∧
      l.next? = rest.head?.map (·.start) := by
  induction ts generalizing expecting frames lexemes with
  | nil => cases hrun
  | cons token ts ih =>
    rw [Expecting.run] at hrun
    cases hstep : expecting.step token frames with
    | error flaw =>
      rw [hstep] at hrun
      cases hrun
    | ok progress =>
      rw [hstep] at hrun
      have hreached := h.step hstep
      cases progress with
      | more after inner =>
        obtain ⟨first, rest, rfl, hdenotes, hnext⟩ := ih hreached hrun
        refine ⟨token :: first, rest, rfl, ?_, hnext⟩
        simpa using hdenotes
      | complete value =>
        cases hrun
        exact ⟨[token], ts, rfl, hreached, rfl⟩

end Reached

/-! ### Reading what the grammar allows -/

/-- Tokens with these lexemes take the reader on, wherever they stand. -/
def Passes (lexemes : List Lexeme) (expecting : Expecting) (frames : List Frame)
    (progress : Progress) : Prop :=
  ∀ ts : List Token, ts.map (·.lexeme) = lexemes → ∀ length rest, ∃ stop,
    expecting.run length frames (ts ++ rest) = progress.run length stop rest

section Passes

variable {first second : List Lexeme} {expecting after : Expecting} {frames inner : List Frame}
  {progress : Progress} {depth : Nat}

theorem passes_nil : Passes [] expecting frames (.more expecting frames) := by
  intro ts hts length rest
  rw [List.map_eq_nil_iff.mp hts]
  exact ⟨0, rfl⟩

theorem passes_of_step {lexeme : Lexeme}
    (hstep : ∀ start stop, expecting.step ⟨start, stop, lexeme⟩ frames = .ok progress) :
    Passes [lexeme] expecting frames progress := by
  intro ts hts length rest
  obtain ⟨⟨start, stop, _⟩, rfl, rfl⟩ := List.map_eq_singleton_iff.mp hts
  refine ⟨stop, ?_⟩
  rw [List.singleton_append, Expecting.run, hstep]
  cases progress with
  | more after inner => rfl
  | complete value => rfl

theorem Passes.append (hfirst : Passes first expecting frames (.more after inner))
    (hsecond : Passes second after inner progress) :
    Passes (first ++ second) expecting frames progress := by
  intro ts hts length rest
  obtain ⟨before, behind, rfl, hbefore, hbehind⟩ := List.map_eq_append_iff.mp hts
  obtain ⟨_, hrun⟩ := hfirst before hbefore length (behind ++ rest)
  obtain ⟨stop, hend⟩ := hsecond behind hbehind length rest
  refine ⟨stop, ?_⟩
  rw [List.append_assoc, hrun]
  exact hend

/-- The lexemes are read as the value wherever a value is expected, inside so many frames. -/
def PassesAt (depth : Nat) (lexemes : List Lexeme) (value : Json) : Prop :=
  ∀ expecting frames inner, Awaits expecting frames inner → inner.length = depth →
    Passes lexemes expecting frames (completed value inner)

theorem passesAt_single {lexeme : Lexeme} {value : Json} (hend : lexeme ≠ .closeList)
    (hstart : ∀ start stop frames,
      startValue ⟨start, stop, lexeme⟩ frames = .ok (completed value frames)) :
    PassesAt depth [lexeme] value := by
  intro expecting frames inner hawaits _
  refine passes_of_step fun start stop => ?_
  rw [hawaits.step_eq hend]
  exact hstart start stop inner

/-! ### Lists -/

/-- The items of a list after some others. -/
theorem passes_items {parts : List Part}
    (hparts : ∀ part ∈ parts, PassesAt (frames.length + 1) part.lexemes part.value)
    (read : List Json) :
    Passes ((parts.map (·.lexemes)).flatMap fun part => .comma :: part) (.afterItem read) frames
      (.more (.afterItem ((parts.map (·.value)).reverse ++ read)) frames) := by
  induction parts generalizing read with
  | nil => exact passes_nil
  | cons part parts ih =>
    obtain ⟨hpart, hrest⟩ := List.forall_mem_cons.mp hparts
    have hcomma : Passes [.comma] (.afterItem read) frames (.more (.nextItem read) frames) :=
      passes_of_step fun _ _ => rfl
    have hitem := hpart _ _ _ (.nextItem read frames) rfl
    have hitems := ih hrest (part.value :: read)
    have hread : (parts.map (·.value)).reverse ++ part.value :: read =
        ((part :: parts).map (·.value)).reverse ++ read := by simp
    rw [hread] at hitems
    exact (hcomma.append hitem).append hitems

theorem passesAt_array {parts : List Part} (hdepth : depth < depthLimit)
    (hparts : ∀ part ∈ parts, PassesAt (depth + 1) part.lexemes part.value) :
    PassesAt depth (.openList :: separated (parts.map (·.lexemes)) ++ [.closeList])
      (.array (parts.map (·.value))) := by
  intro expecting frames inner hawaits hinner
  subst hinner
  have hopen : Passes [.openList] expecting frames (.more .firstItem inner) := by
    refine passes_of_step fun start stop => ?_
    rw [hawaits.step_eq (by simp)]
    exact if_pos hdepth
  cases parts with
  | nil => exact hopen.append (passes_of_step fun _ _ => rfl)
  | cons part parts =>
    obtain ⟨hpart, hrest⟩ := List.forall_mem_cons.mp hparts
    have hitem := hpart _ _ _ (.firstItem inner) rfl
    have hitems := passes_items hrest [part.value]
    have hclose : Passes [.closeList]
        (.afterItem ((parts.map (·.value)).reverse ++ [part.value])) inner
        (completed (.array ((parts.map (·.value)).reverse ++ [part.value]).reverse) inner) :=
      passes_of_step fun _ _ => rfl
    have hall := hopen.append ((hitem.append hitems).append hclose)
    rw [List.map_cons, separated_cons, List.map_cons]
    simpa using hall

/-! ### Objects -/

/-- One member, where a key is expected. -/
theorem passes_member {key : String} {part : Part} {members : Members}
    (hpart : PassesAt (frames.length + 1) part.lexemes part.value)
    (hawaits : AwaitsKey expecting frames members) :
    Passes (part.under key) expecting frames
      (.more (.afterMember (members.insert key part.value)) frames) := by
  have hkey : Passes [.string key] expecting frames (.more (.colon members key) frames) :=
    passes_of_step fun start stop => hawaits start stop key
  have hcolon : Passes [.colon] (.colon members key) frames
      (.more .value (.member members key :: frames)) :=
    passes_of_step fun _ _ => rfl
  have hvalue := hpart _ _ _ (.value (.member members key :: frames)) rfl
  exact hkey.append (hcolon.append hvalue)

/-- The members of an object after some others. -/
theorem passes_members {parts : List (String × Part)}
    (hparts : ∀ part ∈ parts, PassesAt (frames.length + 1) part.2.lexemes part.2.value)
    (read : Members) :
    Passes ((parts.map fun part => part.2.under part.1).flatMap fun part => .comma :: part)
      (.afterMember read) frames
      (.more (.afterMember
        (parts.foldl (fun members part => members.insert part.1 part.2.value) read)) frames) := by
  induction parts generalizing read with
  | nil => exact passes_nil
  | cons part parts ih =>
    obtain ⟨hpart, hrest⟩ := List.forall_mem_cons.mp hparts
    have hcomma : Passes [.comma] (.afterMember read) frames (.more (.nextKey read) frames) :=
      passes_of_step fun _ _ => rfl
    have hmember : Passes (part.2.under part.1) (.nextKey read) frames
        (.more (.afterMember (read.insert part.1 part.2.value)) frames) :=
      passes_member hpart fun _ _ _ => rfl
    exact (hcomma.append hmember).append (ih hrest _)

theorem passesAt_object {parts : List (String × Part)} (hdepth : depth < depthLimit)
    (hparts : ∀ part ∈ parts, PassesAt (depth + 1) part.2.lexemes part.2.value) :
    PassesAt depth
      (.openObject :: separated (parts.map fun part => part.2.under part.1) ++ [.closeObject])
      (.object (membersOf parts)) := by
  intro expecting frames inner hawaits hinner
  subst hinner
  have hopen : Passes [.openObject] expecting frames (.more .firstKey inner) := by
    refine passes_of_step fun start stop => ?_
    rw [hawaits.step_eq (by simp)]
    exact if_pos hdepth
  cases parts with
  | nil => exact hopen.append (passes_of_step fun _ _ => rfl)
  | cons part parts =>
    obtain ⟨hpart, hrest⟩ := List.forall_mem_cons.mp hparts
    have hmember : Passes (part.2.under part.1) .firstKey inner
        (.more (.afterMember (Members.insert part.1 part.2.value [])) inner) :=
      passes_member hpart fun _ _ _ => rfl
    have hmembers := passes_members hrest (Members.insert part.1 part.2.value [])
    have hclose : Passes [.closeObject] (.afterMember (membersOf (part :: parts))) inner
        (completed (.object (membersOf (part :: parts))) inner) :=
      passes_of_step fun _ _ => rfl
    have hall := hopen.append ((hmember.append hmembers).append hclose)
    rw [List.map_cons, separated_cons]
    simpa using hall

/-! ### Documents -/

/-- What denotes a value is read as the value. -/
theorem Denotes.passesAt {lexemes : List Lexeme} {value : Json}
    (h : Denotes depth lexemes value) : PassesAt depth lexemes value := by
  induction h with
  | null => exact passesAt_single (by simp) fun _ _ _ => rfl
  | bool flag => exact passesAt_single (by simp) fun _ _ _ => rfl
  | number n => exact passesAt_single (by simp) fun _ _ _ => rfl
  | string text => exact passesAt_single (by simp) fun _ _ _ => rfl
  | array parts hdepth _ ih => exact passesAt_array hdepth ih
  | object parts hdepth _ ih => exact passesAt_object hdepth ih

end Passes

section Texts

variable {bytes : List UInt8} {value : Json}

/-- The value that a text starts with is denoted by its first tokens. -/
theorem leading_eq_ok {l : Leading} (h : leading bytes = .ok l) :
    ∃ first rest, tokens bytes = first ++ rest ∧ Denotes 0 (first.map (·.lexeme)) l.value ∧
      l.next? = rest.head?.map (·.start) :=
  Reached.run (.value (.value []) .outermost) h

/-- If the first tokens denote a value, the text starts with it. -/
theorem exists_leading_of_denotes {first rest : List Token} (htokens : tokens bytes = first ++ rest)
    (h : Denotes 0 (first.map (·.lexeme)) value) :
    ∃ stop, leading bytes = .ok ⟨value, stop, rest.head?.map (·.start)⟩ := by
  obtain ⟨stop, hrun⟩ := h.passesAt _ _ _ (.value []) rfl first rfl bytes.length rest
  refine ⟨stop, ?_⟩
  rw [leading, htokens]
  exact hrun

/-- **Which texts are read.** Those whose lexemes denote a value, and they are read as that. -/
theorem read_eq_ok_iff :
    read bytes = .ok value ↔ Denotes 0 ((tokens bytes).map (·.lexeme)) value := by
  constructor
  · intro h
    obtain ⟨l, hleading, h⟩ := bind_eq_ok.mp h
    obtain ⟨first, rest, htokens, hdenotes, hnext⟩ := leading_eq_ok hleading
    obtain ⟨_, hended, h⟩ := bind_eq_ok.mp h
    cases h
    cases rest with
    | nil =>
      rw [htokens, List.append_nil]
      exact hdenotes
    | cons token rest =>
      -- Where another token follows, the reader complains.
      rw [Leading.ended, hnext] at hended
      cases hended
  · intro h
    obtain ⟨stop, hleading⟩ := exists_leading_of_denotes (List.append_nil _).symm h
    rw [read, hleading]
    rfl

/-- What is read has its members in order. -/
theorem sorted_of_read (h : read bytes = .ok value) : value.Sorted :=
  (read_eq_ok_iff.mp h).sorted

/-- Of the values under a key that is repeated, the last counts. -/
example : IsDocument "\x7b\"a\": null, \"a\": [true]\x7d" (.object [("a", .array [.bool true])]) :=
  read_eq_ok_iff.mp rfl

/-- A text that goes on after a document is none itself. -/
theorem not_isDocument_of_prefix {text : String} {first rest : List Token}
    (htokens : tokens (bytesOf text) = first ++ rest) (hrest : rest ≠ [])
    (h : Denotes 0 (first.map (·.lexeme)) value) : ¬ ∃ whole, IsDocument text whole := by
  rintro ⟨whole, hwhole⟩
  obtain ⟨stop, hleading⟩ := exists_leading_of_denotes htokens h
  have hread := read_eq_ok_iff.mpr hwhole
  rw [read, hleading] at hread
  cases rest with
  | nil => exact hrest rfl
  | cons token rest => cases hread

end Texts

end IdentitySchema.Json
