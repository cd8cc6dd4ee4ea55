/-
  IdentitySchema/Proofs/Json/Writing.lean
  =======================================
  **What is written is read back.**  `indented` writes a value over several
  lines; `read_indented` says that reading the text gives the value again, with
  the members of its objects in order, if the value has no numbers and is not
  nested deeper than the reader allows.

  The induction is over the value.  Its hypothesis must hold wherever a value
  can stand, inside any frames and before any further text; `Leads` says that
  of some bytes, and the bytes of a list or an object are put together from
  those of brackets, separators and parts with `Leads.append`.
-/
import IdentitySchema.Proofs.Induction
import IdentitySchema.Proofs.Json.Scanning

namespace IdentitySchema.Json

/-! ### Values in order -/

mutual

/-- The value with the members of every object in the order of their keys. Of several members with
one key the last counts. -/
def arranged : Json → Json
  | .array items => .array (arrangedItems items)
  | .object members => .object (arrangedMembers [] members)
  | other => other
  termination_by structural x => x

def arrangedItems : List Json → List Json
  | [] => []
  | item :: rest => arranged item :: arrangedItems rest
  termination_by structural items => items

/-- The members in order, among members that are so already. -/
def arrangedMembers (placed : Members) : List (String × Json) → Members
  | [] => placed
  | (key, value) :: rest => arrangedMembers (Members.insert key (arranged value) placed) rest
  termination_by structural members => members

end

theorem arrangedItems_eq_map (items : List Json) : arrangedItems items = items.map arranged := by
  induction items with
  | nil => rfl
  | cons item rest ih => rw [arrangedItems, ih, List.map_cons]

/-! ### Members in order -/

section Order

variable {members placed : Members} {key : String} {value : Json}

theorem get?_arrangedMembers_of_notMem (h : key ∉ members.keys) :
    (arrangedMembers placed members).get? key = placed.get? key := by
  induction members generalizing placed with
  | nil => rfl
  | cons member rest ih =>
    obtain ⟨first, other⟩ := member
    have hfirst : first ≠ key := fun hsame => h (hsame ▸ List.mem_cons_self)
    have hrest : key ∉ Members.keys rest := fun hmem => h (List.mem_cons_of_mem _ hmem)
    rw [arrangedMembers, ih hrest, Members.get?_insert, if_neg hfirst]

/-- If no key is repeated, every member is found in order. -/
theorem get?_arrangedMembers_of_mem (hnodup : members.keys.Nodup) (h : (key, value) ∈ members) :
    (arrangedMembers placed members).get? key = some value.arranged := by
  induction members generalizing placed with
  | nil => cases h
  | cons member rest ih =>
    obtain ⟨first, other⟩ := member
    have hkeys : (first :: Members.keys rest).Nodup := hnodup
    obtain ⟨hfirst, hrest⟩ := List.nodup_cons.mp hkeys
    rw [arrangedMembers]
    rcases List.mem_cons.mp h with hhead | htail
    · cases hhead
      rw [get?_arrangedMembers_of_notMem hfirst, Members.get?_insert, if_pos rfl]
    · exact ih hrest htail

theorem mem_keys_arrangedMembers (h : key ∈ (arrangedMembers placed members).keys) :
    key ∈ placed.keys ∨ key ∈ members.keys := by
  induction members generalizing placed with
  | nil => exact .inl h
  | cons member rest ih =>
    obtain ⟨first, other⟩ := member
    rcases ih h with hplaced | hrest
    · rcases Members.mem_keys_insert hplaced with rfl | hplaced
      · exact .inr List.mem_cons_self
      · exact .inl hplaced
    · exact .inr (List.mem_cons_of_mem _ hrest)

end Order

/-! ### Plain values -/

mutual

/-- The value has no numbers and at most `room` lists and objects inside each other. -/
def plainWithin : Json → Nat → Bool
  | .number _, _ => false
  | .array _, 0 => false
  | .array items, room + 1 => plainItems items room
  | .object _, 0 => false
  | .object members, room + 1 => plainMembers members room
  | _, _ => true
  termination_by structural x => x

def plainItems : List Json → Nat → Bool
  | [], _ => true
  | item :: rest, room => plainWithin item room && plainItems rest room
  termination_by structural items => items

def plainMembers : List (String × Json) → Nat → Bool
  | [], _ => true
  | (_, value) :: rest, room => plainWithin value room && plainMembers rest room
  termination_by structural members => members

end

theorem plainItems_iff {items : List Json} {room : Nat} :
    plainItems items room = true ↔ ∀ item ∈ items, item.plainWithin room = true := by
  induction items with
  | nil => simp [plainItems]
  | cons item rest ih => rw [plainItems, Bool.and_eq_true, ih, List.forall_mem_cons]

theorem plainMembers_iff {members : Members} {room : Nat} :
    plainMembers members room = true ↔ ∀ member ∈ members, member.2.plainWithin room = true := by
  induction members with
  | nil => simp [plainMembers]
  | cons member rest ih => rw [plainMembers, Bool.and_eq_true, ih, List.forall_mem_cons]

/-! ### Reading on -/

/-- Read on after some progress, of which the last token ended at an offset. -/
def Progress.run (length stop : Nat) : Progress → List Token → Except Flaw Leading
  | .more expecting frames, tokens => expecting.run length frames tokens
  | .complete value, tokens => .ok ⟨value, stop, tokens.head?.map (·.start)⟩

/-- What the bytes lead the reader to, wherever they stand. -/
def Leads (bytes : List UInt8) (expecting : Expecting) (frames : List Frame)
    (progress : Progress) : Prop :=
  ∀ length offset rest, ∃ stop next,
    expecting.run length frames (Scan.run .between offset (bytes ++ rest)) =
      progress.run length stop (Scan.run .between next rest)

def Blank (bytes : List UInt8) : Prop :=
  ∀ byte ∈ bytes, byte = 0x20 ∨ byte = 0x0a

section Leads

variable {bytes before : List UInt8} {expecting after : Expecting} {frames inner : List Frame}
  {progress : Progress}

theorem leads_nil : Leads [] expecting frames (.more expecting frames) :=
  fun _ offset _ => ⟨0, offset, rfl⟩

theorem leads_of_spells {lexeme : Lexeme} (hspells : Spells bytes lexeme)
    (hstep : ∀ start stop, expecting.step ⟨start, stop, lexeme⟩ frames = .ok progress) :
    Leads bytes expecting frames progress := by
  intro length offset rest
  obtain ⟨start, stop, next, hscan⟩ := hspells offset rest
  refine ⟨stop, next, ?_⟩
  rw [hscan, Expecting.run, hstep]
  cases progress with
  | more after inner => rfl
  | complete value => rfl

theorem Leads.append (hbefore : Leads before expecting frames (.more after inner))
    (h : Leads bytes after inner progress) : Leads (before ++ bytes) expecting frames progress := by
  intro length offset rest
  obtain ⟨_, middle, hfirst⟩ := hbefore length offset (bytes ++ rest)
  obtain ⟨stop, next, hsecond⟩ := h length middle rest
  refine ⟨stop, next, ?_⟩
  rw [List.append_assoc, hfirst]
  exact hsecond

theorem Leads.after_blank (hblank : Blank before) (h : Leads bytes expecting frames progress) :
    Leads (before ++ bytes) expecting frames progress := by
  intro length offset rest
  obtain ⟨middle, hskipped⟩ := exists_run_of_blank hblank offset (bytes ++ rest)
  rw [List.append_assoc, hskipped]
  exact h length middle rest

end Leads

/-! ### Lines -/

theorem bytesOf_intercalate (first : String) (rest : List String) :
    bytesOf (",\n".intercalate (first :: rest)) =
      bytesOf first ++ rest.flatMap fun line => 0x2c :: 0x0a :: bytesOf line := by
  induction rest generalizing first with
  | nil => rw [String.intercalate_singleton, List.flatMap_nil, List.append_nil]
  | cons second rest ih =>
    have hseparator : bytesOf ",\n" = [0x2c, 0x0a] := rfl
    rw [String.intercalate_cons_cons, bytesOf_append, bytesOf_append, ih, hseparator,
      List.flatMap_cons]
    simp only [List.append_assoc, List.cons_append, List.nil_append]

/-- A line of a block, with the line break before it. -/
def lineBytes (indent line : String) : List UInt8 :=
  0x0a :: (bytesOf (indent ++ "  ") ++ bytesOf line)

theorem bytesOf_block_cons (opening closing indent first : String) (rest : List String) :
    bytesOf (block opening closing indent (first :: rest)) =
      bytesOf opening ++ (lineBytes indent first ++
        ((rest.flatMap fun line => [0x2c] ++ lineBytes indent line) ++
          ((0x0a :: bytesOf indent) ++ bytesOf closing))) := by
  have hbreak : bytesOf "\n" = [0x0a] := rfl
  unfold block lineBytes
  rw [if_neg (by simp)]
  simp only [List.map_cons, bytesOf_append, bytesOf_intercalate, hbreak, List.flatMap_map, List.append_assoc,
    List.cons_append, List.nil_append]

theorem bytesOf_block_nil (opening closing indent : String) :
    bytesOf (block opening closing indent []) = bytesOf opening ++ bytesOf closing := by
  have hblock : block opening closing indent [] = opening ++ closing := rfl
  rw [hblock, bytesOf_append]

theorem indentedItems_eq_map (indent : String) (items : List Json) :
    indentedItems indent items = items.map (indentedBelow indent) := by
  induction items with
  | nil => rfl
  | cons item rest ih => rw [indentedItems, ih, List.map_cons]

theorem indentedMembers_eq_map (indent : String) (members : Members) :
    indentedMembers indent members =
      members.map fun member => stringText member.1 ++ ": " ++ indentedBelow indent member.2 := by
  induction members with
  | nil => rfl
  | cons member rest ih => rw [indentedMembers, ih, List.map_cons]

/-! ### Values -/

/-- A value is expected, and will be inside the frames. -/
inductive Awaits : Expecting → List Frame → List Frame → Prop
  | value (frames : List Frame) : Awaits .value frames frames
  | firstItem (frames : List Frame) : Awaits .firstItem frames (.list [] :: frames)
  | nextItem (items : List Json) (frames : List Frame) :
      Awaits (.nextItem items) frames (.list items :: frames)

/-- Anything but the end of a list starts the value that is expected. -/
theorem Awaits.step_eq {expecting : Expecting} {frames inner : List Frame} {token : Token}
    (h : Awaits expecting frames inner) (htoken : token.lexeme ≠ .closeList) :
    expecting.step token frames = startValue token inner := by
  obtain ⟨start, stop, lexeme⟩ := token
  cases h with
  | value => rfl
  | firstItem => cases lexeme <;> first | rfl | exact absurd rfl htoken
  | nextItem items => cases lexeme <;> first | rfl | exact absurd rfl htoken

/-- The text of the value is read as the value in order, wherever a value is expected inside at most
so many frames. -/
def ReadsWithin (room : Nat) (value : Json) : Prop :=
  ∀ indent, Blank (bytesOf indent) → ∀ expecting frames inner, Awaits expecting frames inner →
    inner.length + room ≤ depthLimit →
      Leads (bytesOf (indentedBelow indent value)) expecting frames (completed value.arranged inner)

section Parts

variable {room : Nat} {indent : String} {frames : List Frame}

theorem blank_indented (hblank : Blank (bytesOf indent)) : Blank (bytesOf (indent ++ "  ")) := by
  intro byte hbyte
  have hspaces : bytesOf "  " = [0x20, 0x20] := rfl
  rw [bytesOf_append, hspaces] at hbyte
  rcases List.mem_append.mp hbyte with hindent | hspace
  · exact hblank byte hindent
  · left
    simpa using hspace

theorem leads_line {line : String} {expecting : Expecting} {progress : Progress}
    (hblank : Blank (bytesOf indent)) (h : Leads (bytesOf line) expecting frames progress) :
    Leads (lineBytes indent line) expecting frames progress := by
  have hline : Blank (0x0a :: bytesOf (indent ++ "  ")) :=
    List.forall_mem_cons.mpr ⟨.inr rfl, blank_indented hblank⟩
  exact h.after_blank hline

theorem leads_end {closing : List UInt8} {expecting : Expecting} {progress : Progress}
    (hblank : Blank (bytesOf indent)) (h : Leads closing expecting frames progress) :
    Leads ((0x0a :: bytesOf indent) ++ closing) expecting frames progress :=
  h.after_blank (List.forall_mem_cons.mpr ⟨.inr rfl, hblank⟩)

/-! ### Lists -/

theorem leads_item {item : Json} {expecting : Expecting} {read : List Json}
    (hblank : Blank (bytesOf indent)) (hitem : ReadsWithin room item)
    (hroom : frames.length + 1 + room ≤ depthLimit)
    (hawaits : Awaits expecting frames (.list read :: frames)) :
    Leads (lineBytes indent (indentedBelow (indent ++ "  ") item)) expecting frames
      (.more (.afterItem (item.arranged :: read)) frames) :=
  leads_line hblank (hitem _ (blank_indented hblank) _ _ _ hawaits hroom)

/-- The lines of a list after the first. -/
theorem leads_items {items : List Json} (hblank : Blank (bytesOf indent))
    (hitems : ∀ item ∈ items, ReadsWithin room item)
    (hroom : frames.length + 1 + room ≤ depthLimit) (read : List Json) :
    Leads ((items.map (indentedBelow (indent ++ "  "))).flatMap
        fun line => [0x2c] ++ lineBytes indent line)
      (.afterItem read) frames (.more (.afterItem ((items.map arranged).reverse ++ read)) frames) := by
  induction items generalizing read with
  | nil => exact leads_nil
  | cons item rest ih =>
    have hcomma : Leads [0x2c] (.afterItem read) frames (.more (.nextItem read) frames) :=
      leads_of_spells spells_comma fun _ _ => rfl
    have hitem := leads_item hblank (hitems item List.mem_cons_self) hroom (.nextItem read frames)
    have hrest := ih (fun other hother => hitems other (List.mem_cons_of_mem _ hother))
      (item.arranged :: read)
    have hread : (rest.map arranged).reverse ++ item.arranged :: read =
        ((item :: rest).map arranged).reverse ++ read := by
      rw [List.map_cons, List.reverse_cons, List.append_assoc]
      rfl
    rw [hread] at hrest
    rw [List.map_cons, List.flatMap_cons]
    exact (hcomma.append hitem).append hrest

theorem leads_array {items : List Json} {expecting : Expecting} {inner : List Frame}
    (hblank : Blank (bytesOf indent)) (hitems : ∀ item ∈ items, ReadsWithin room item)
    (hroom : inner.length + (room + 1) ≤ depthLimit) (hawaits : Awaits expecting frames inner) :
    Leads (bytesOf (indentedBelow indent (.array items))) expecting frames
      (completed (.array (items.map arranged)) inner) := by
  have hroom : inner.length + 1 + room ≤ depthLimit := by omega
  have hopen : Leads [0x5b] expecting frames (.more .firstItem inner) := by
    refine leads_of_spells spells_openList fun start stop => ?_
    rw [hawaits.step_eq (by simp)]
    exact if_pos (by omega)
  have hclose : ∀ read, Leads [0x5d] (.afterItem read) inner
      (completed (.array read.reverse) inner) :=
    fun read => leads_of_spells spells_closeList fun _ _ => rfl
  have hopening : bytesOf "[" = [0x5b] := rfl
  have hclosing : bytesOf "]" = [0x5d] := rfl
  rw [indentedBelow, indentedItems_eq_map]
  cases items with
  | nil =>
    rw [List.map_nil, bytesOf_block_nil, hopening, hclosing]
    exact hopen.append (leads_of_spells spells_closeList fun _ _ => rfl)
  | cons item rest =>
    have hitem := leads_item hblank (hitems item List.mem_cons_self) hroom (.firstItem inner)
    have hrest := leads_items hblank
      (fun other hother => hitems other (List.mem_cons_of_mem _ hother)) hroom [item.arranged]
    have hend := leads_end hblank (hclose ((rest.map arranged).reverse ++ [item.arranged]))
    rw [List.map_cons, bytesOf_block_cons, hopening, hclosing]
    rw [List.reverse_append, List.reverse_reverse] at hend
    exact hopen.append (hitem.append (hrest.append hend))

/-! ### Objects -/

/-- A key is expected, after some members. -/
def AwaitsKey (expecting : Expecting) (frames : List Frame) (members : Members) : Prop :=
  ∀ start stop key, expecting.step ⟨start, stop, .string key⟩ frames =
    .ok (.more (.colon members key) frames)

theorem leads_member {key : String} {value : Json} {expecting : Expecting} {members : Members}
    (hblank : Blank (bytesOf indent)) (hvalue : ReadsWithin room value)
    (hroom : frames.length + 1 + room ≤ depthLimit)
    (hawaits : AwaitsKey expecting frames members) :
    Leads (lineBytes indent (stringText key ++ ": " ++ indentedBelow (indent ++ "  ") value))
      expecting frames (.more (.afterMember (members.insert key value.arranged)) frames) := by
  have hkey : Leads (bytesOf (stringText key)) expecting frames
      (.more (.colon members key) frames) :=
    leads_of_spells (spells_stringText key) fun start stop => hawaits start stop key
  have hcolon : Leads [0x3a] (.colon members key) frames
      (.more .value (.member members key :: frames)) :=
    leads_of_spells spells_colon fun _ _ => rfl
  have hspace : Blank [0x20] := by
    intro byte hbyte
    exact .inl (List.mem_singleton.mp hbyte)
  have hvalue := (hvalue _ (blank_indented hblank) _ _ _ (.value (.member members key :: frames))
    hroom).after_blank hspace
  have hseparator : bytesOf ": " = [0x3a] ++ [0x20] := rfl
  refine leads_line hblank ?_
  rw [bytesOf_append, bytesOf_append, hseparator, List.append_assoc, List.append_assoc]
  exact hkey.append (hcolon.append hvalue)

/-- The lines of an object after the first. -/
theorem leads_members {members : Members} (hblank : Blank (bytesOf indent))
    (hmembers : ∀ member ∈ members, ReadsWithin room member.2)
    (hroom : frames.length + 1 + room ≤ depthLimit) (read : Members) :
    Leads ((members.map fun member =>
          stringText member.1 ++ ": " ++ indentedBelow (indent ++ "  ") member.2).flatMap
        fun line => [0x2c] ++ lineBytes indent line)
      (.afterMember read) frames (.more (.afterMember (arrangedMembers read members)) frames) := by
  induction members generalizing read with
  | nil => exact leads_nil
  | cons member rest ih =>
    obtain ⟨key, value⟩ := member
    have hcomma : Leads [0x2c] (.afterMember read) frames (.more (.nextKey read) frames) :=
      leads_of_spells spells_comma fun _ _ => rfl
    have hawaits : AwaitsKey (.nextKey read) frames read := fun _ _ _ => rfl
    have hmember := @leads_member _ _ _ key _ _ _ hblank
      (hmembers (key, value) List.mem_cons_self) hroom hawaits
    have hrest := ih (fun other hother => hmembers other (List.mem_cons_of_mem _ hother))
      (Members.insert key value.arranged read)
    rw [List.map_cons, List.flatMap_cons]
    exact (hcomma.append hmember).append hrest

theorem leads_object {members : Members} {expecting : Expecting} {inner : List Frame}
    (hblank : Blank (bytesOf indent)) (hmembers : ∀ member ∈ members, ReadsWithin room member.2)
    (hroom : inner.length + (room + 1) ≤ depthLimit) (hawaits : Awaits expecting frames inner) :
    Leads (bytesOf (indentedBelow indent (.object members))) expecting frames
      (completed (.object (arrangedMembers [] members)) inner) := by
  have hroom : inner.length + 1 + room ≤ depthLimit := by omega
  have hopen : Leads [0x7b] expecting frames (.more .firstKey inner) := by
    refine leads_of_spells spells_openObject fun start stop => ?_
    rw [hawaits.step_eq (by simp)]
    exact if_pos (by omega)
  have hopening : bytesOf "\x7b" = [0x7b] := rfl
  have hclosing : bytesOf "\x7d" = [0x7d] := rfl
  rw [indentedBelow, indentedMembers_eq_map]
  cases members with
  | nil =>
    rw [List.map_nil, bytesOf_block_nil, hopening, hclosing]
    exact hopen.append (leads_of_spells spells_closeObject fun _ _ => rfl)
  | cons member rest =>
    obtain ⟨key, value⟩ := member
    have hawaitsKey : AwaitsKey .firstKey inner [] := fun _ _ _ => rfl
    have hmember := @leads_member _ _ _ key _ _ _ hblank
      (hmembers (key, value) List.mem_cons_self) hroom hawaitsKey
    have hrest := leads_members hblank
      (fun other hother => hmembers other (List.mem_cons_of_mem _ hother)) hroom
      (Members.insert key value.arranged [])
    have hclose : Leads [0x7d] (.afterMember (arrangedMembers [] ((key, value) :: rest))) inner
        (completed (.object (arrangedMembers [] ((key, value) :: rest))) inner) :=
      leads_of_spells spells_closeObject fun _ _ => rfl
    rw [List.map_cons, bytesOf_block_cons, hopening, hclosing]
    exact hopen.append (hmember.append (hrest.append (leads_end hblank hclose)))

end Parts

/-! ### Any value -/

theorem readsWithin_of_plain (value : Json) :
    ∀ room, value.plainWithin room = true → ReadsWithin room value := by
  induction value with
  | null =>
    intro room _ indent _ expecting frames inner hawaits _
    have hbytes : bytesOf (indentedBelow indent .null) = [0x6e, 0x75, 0x6c, 0x6c] := rfl
    rw [hbytes]
    refine leads_of_spells spells_null fun start stop => ?_
    rw [hawaits.step_eq (by simp)]
    rfl
  | bool flag =>
    intro room _ indent _ expecting frames inner hawaits _
    cases flag with
    | false =>
      refine leads_of_spells spells_false fun start stop => ?_
      rw [hawaits.step_eq (by simp)]
      rfl
    | true =>
      refine leads_of_spells spells_true fun start stop => ?_
      rw [hawaits.step_eq (by simp)]
      rfl
  | number n =>
    intro room hplain
    cases hplain
  | string text =>
    intro room _ indent _ expecting frames inner hawaits _
    refine leads_of_spells (spells_stringText text) fun start stop => ?_
    rw [hawaits.step_eq (by simp)]
    rfl
  | array items ih =>
    intro room hplain indent hblank expecting frames inner hawaits hroom
    cases room with
    | zero => cases hplain
    | succ room =>
      have hitems := plainItems_iff.mp hplain
      rw [arranged, arrangedItems_eq_map]
      exact leads_array hblank (fun item hitem => ih item hitem room (hitems item hitem)) hroom
        hawaits
  | object members ih =>
    intro room hplain indent hblank expecting frames inner hawaits hroom
    cases room with
    | zero => cases hplain
    | succ room =>
      have hmembers := plainMembers_iff.mp hplain
      rw [arranged]
      exact leads_object hblank
        (fun member hmember => ih member hmember room (hmembers member hmember)) hroom hawaits

/-- **What is written is read back.** The text of a value without numbers, not nested too deep, is
read as the value with the members of its objects in order. -/
theorem read_indented {value : Json} (hplain : value.plainWithin depthLimit = true) :
    read (bytesOf value.indented) = .ok value.arranged := by
  have hblank : Blank (bytesOf "") := List.forall_mem_nil _
  have hleads := readsWithin_of_plain value depthLimit hplain "" hblank _ _ _ (.value [])
    (Nat.le_of_eq (Nat.zero_add depthLimit))
  obtain ⟨stop, next, hrun⟩ := hleads (bytesOf value.indented).length 0 []
  rw [List.append_nil] at hrun
  have hleading : leading (bytesOf value.indented) = .ok ⟨value.arranged, stop, none⟩ := hrun
  rw [read, hleading]
  rfl

end IdentitySchema.Json
