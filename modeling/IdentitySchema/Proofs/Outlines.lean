/-
  IdentitySchema/Proofs/Outlines.lean
  ===================================
  **The text of a report is an outline of it.**  The text is put together from
  the inside out: what stands below a group is a text already, and a tab is put
  after every line break of it.  Seen from the outside, each node of the tree
  comes once, depth first, with as many tabs as it has groups around it; a line
  break within a message or a location is followed by these tabs as well.

  Putting a tab after the line breaks of a text again and again puts several
  there (`indentBy_indentBy`).  With this the outline of what stands below a
  node is the outline of the parts below it, at any depth (`outline_nodesAt`).
-/
import IdentitySchema.Proofs.Reports
import IdentitySchema.Violation
import Mathlib.Data.List.Basic

namespace IdentitySchema

namespace Report

variable {α : Type}

/-- What holds of a report if it holds of the reports of its group holds of every report. -/
@[elab_as_elim, induction_eliminator] theorem induction {motive : Report α → Prop}
    (leaf : ∀ violation, motive (.leaf violation))
    (group : ∀ location reports, (∀ report ∈ reports, motive report) →
      motive (.group location reports))
    (report : Report α) : motive report :=
  @Report.rec α motive (fun reports => ∀ report ∈ reports, motive report)
    leaf group
    (fun _ h => absurd h List.not_mem_nil)
    (fun _ _ hhead htail => List.forall_mem_cons.mpr ⟨hhead, htail⟩)
    report

/-! ### Nodes and lines -/

mutual

/-- A report and everything in it, depth first, each with the number of groups around it; there are
`depth` of them around the report itself. -/
def nodesAt (depth : Nat) : Report α → List (Nat × Report α)
  | .leaf violation => [(depth, .leaf violation)]
  | .group location reports => (depth, .group location reports) :: nodesBelow (depth + 1) reports
  termination_by structural r => r

def nodesBelow (depth : Nat) : List (Report α) → List (Nat × Report α)
  | [] => []
  | report :: rest => nodesAt depth report ++ nodesBelow depth rest
  termination_by structural rs => rs

end

theorem nodesBelow_eq_flatMap (depth : Nat) (reports : List (Report α)) :
    nodesBelow depth reports = reports.flatMap (nodesAt depth) := by
  induction reports with
  | nil => rfl
  | cons report rest ih => rw [nodesBelow, ih, List.flatMap_cons]

def nodes (report : Report α) : List (Nat × Report α) := nodesAt 0 report

/-- The violation that a node is, unless it is a group. -/
def leaf? : Report α → Option α
  | .leaf violation => some violation
  | .group _ _ => none

/-- What a node says by itself. -/
def line [Worded α] : Report α → String
  | .leaf violation => Worded.message violation
  | .group location reports => Worded.heading α location reports.length

def tabs (depth : Nat) : List Char := List.replicate depth '\t'

/-- A text with tabs put after every line break. -/
def indentBy (depth : Nat) (text : List Char) : List Char :=
  text.flatMap fun c => if c = '\n' then '\n' :: tabs depth else [c]

/-- What a node puts into an outline: below the first one, it begins a new line. -/
def entry [Worded α] (node : Nat × Report α) : String :=
  String.ofList
    ((if node.1 = 0 then [] else '\n' :: tabs node.1) ++ indentBy node.1 node.2.line.toList)

/-- There is a line break in no message and in no location. -/
def Unbroken [Worded α] (report : Report α) : Prop :=
  ∀ node ∈ report.nodes, match node.2 with
    | .leaf violation => '\n' ∉ (Worded.message violation).toList
    | .group location _ => '\n' ∉ location.toList

/-- The text of the report is an outline. -/
structure Outlined [Worded α] (report : Report α) : Prop where
  /-- Every node puts its entry into the text, one after the other. -/
  text_eq : report.text = String.join (report.nodes.map entry)
  /-- The nodes that are no groups are the violations. -/
  violations_eq : report.nodes.filterMap (fun node => node.2.leaf?) = report.violations
  /-- Unless something breaks a line, there is one line for each node. -/
  lines_eq : report.Unbroken → report.text.toList.splitOn '\n' =
    report.nodes.map fun node => tabs node.1 ++ node.2.line.toList

/-! ### Nodes of a tree -/

theorem depth_le_of_mem_nodesAt (report : Report α) :
    ∀ depth, ∀ node ∈ nodesAt depth report, depth ≤ node.1 := by
  induction report with
  | leaf violation =>
    intro depth node hnode
    rw [nodesAt, List.mem_singleton] at hnode
    subst hnode
    exact Nat.le_refl depth
  | group location reports ih =>
    intro depth node hnode
    rw [nodesAt, nodesBelow_eq_flatMap, List.mem_cons, List.mem_flatMap] at hnode
    rcases hnode with rfl | ⟨report, hreport, hnode⟩
    · exact Nat.le_refl depth
    · have hdeeper := ih report hreport (depth + 1) node hnode
      omega

/-- A report is the first of its nodes, and the others are deeper. -/
theorem exists_nodes_eq_cons (report : Report α) :
    ∃ below, report.nodes = (0, report) :: below ∧ ∀ node ∈ below, node.1 ≠ 0 := by
  cases report with
  | leaf violation => exact ⟨[], rfl, List.forall_mem_nil _⟩
  | group location reports =>
    refine ⟨nodesBelow 1 reports, rfl, ?_⟩
    intro node hnode
    rw [nodesBelow_eq_flatMap, List.mem_flatMap] at hnode
    obtain ⟨report, -, hnode⟩ := hnode
    have hdeeper := depth_le_of_mem_nodesAt report 1 node hnode
    omega

theorem filterMap_leaf?_nodesAt (report : Report α) : ∀ depth,
    (nodesAt depth report).filterMap (fun node => node.2.leaf?) = report.violations := by
  induction report with
  | leaf violation =>
    intro depth
    rfl
  | group location reports ih =>
    intro depth
    simp only [nodesAt, nodesBelow_eq_flatMap, List.filterMap_cons, leaf?, List.filterMap_flatMap,
      violations_group]
    apply List.flatMap_congr
    intro report hreport
    exact ih report hreport (depth + 1)

/-! ### Indentation -/

theorem indentBy_append (depth : Nat) (first second : List Char) :
    indentBy depth (first ++ second) = indentBy depth first ++ indentBy depth second :=
  List.flatMap_append

theorem indentBy_flatMap {β : Type} (depth : Nat) (items : List β) (text : β → List Char) :
    indentBy depth (items.flatMap text) = items.flatMap fun item => indentBy depth (text item) :=
  List.flatMap_assoc

theorem indentBy_of_notMem (depth : Nat) {text : List Char} (h : '\n' ∉ text) :
    indentBy depth text = text := by
  induction text with
  | nil => rfl
  | cons c rest ih =>
    rw [List.mem_cons, not_or] at h
    obtain ⟨hfirst, hrest⟩ := h
    have hrest := ih hrest
    unfold indentBy at hrest ⊢
    rw [List.flatMap_cons, if_neg (Ne.symm hfirst), hrest]
    rfl

theorem indentBy_zero (text : List Char) : indentBy 0 text = text := by
  have hkept : (fun c : Char => if c = '\n' then '\n' :: tabs 0 else [c]) = fun c => [c] := by
    funext c
    by_cases hbreak : c = '\n'
    · rw [if_pos hbreak, hbreak]
      rfl
    · rw [if_neg hbreak]
  rw [indentBy, hkept, List.flatMap_singleton']

theorem indentBy_tabs (depth count : Nat) : indentBy depth (tabs count) = tabs count := by
  apply indentBy_of_notMem
  simp [tabs]

theorem tabs_append (depth count : Nat) : tabs depth ++ tabs count = tabs (depth + count) :=
  List.replicate_append_replicate

theorem indentBy_break_cons (depth : Nat) (text : List Char) :
    indentBy depth ('\n' :: text) = '\n' :: tabs depth ++ indentBy depth text := by
  rw [indentBy, List.flatMap_cons, if_pos rfl]
  rfl

/-- Indenting twice is indenting by both depths. -/
theorem indentBy_indentBy (depth count : Nat) (text : List Char) :
    indentBy depth (indentBy count text) = indentBy (depth + count) text := by
  have hinner : indentBy count text =
      text.flatMap fun c => if c = '\n' then '\n' :: tabs count else [c] := rfl
  rw [hinner, indentBy_flatMap]
  apply List.flatMap_congr
  intro c _
  by_cases hbreak : c = '\n'
  · rw [if_pos hbreak, if_pos hbreak, indentBy_break_cons, indentBy_tabs, List.cons_append,
      tabs_append]
  · rw [if_neg hbreak, if_neg hbreak]
    exact indentBy_of_notMem depth (by simpa using Ne.symm hbreak)

theorem toList_indent (text : String) : (indent text).toList = indentBy 1 text.toList := by
  rw [indent, String.toList_ofList]
  rfl

/-! ### The outline of a tree -/

section Outline

variable [Worded α]

theorem toList_text_group (location : String) (reports : List (Report α)) :
    (text (.group location reports)).toList =
      (Worded.heading α location reports.length).toList ++
        reports.flatMap fun report => '\n' :: '\t' :: indentBy 1 report.text.toList := by
  rw [text, String.toList_append, textBelow_eq_join, String.toList_join, List.flatMap_map,
    List.append_right_inj]
  apply List.flatMap_congr
  intro report _
  rw [String.toList_append, toList_indent]
  rfl

/-- The part of a text that belongs to a report at some depth has a line for every node of it. -/
theorem outline_nodesAt (report : Report α) : ∀ depth,
    (nodesAt depth report).flatMap
        (fun node => '\n' :: tabs node.1 ++ indentBy node.1 node.2.line.toList) =
      '\n' :: tabs depth ++ indentBy depth report.text.toList := by
  induction report with
  | leaf violation =>
    intro depth
    rw [nodesAt, List.flatMap_singleton]
    rfl
  | group location reports ih =>
    intro depth
    have hbelow : ∀ report ∈ reports,
        (nodesAt (depth + 1) report).flatMap
            (fun node => '\n' :: tabs node.1 ++ indentBy node.1 node.2.line.toList) =
          indentBy depth ('\n' :: '\t' :: indentBy 1 report.text.toList) := by
      intro report hreport
      -- the tab of the group joins the tabs around it
      have hparts : '\t' :: indentBy 1 report.text.toList =
          tabs 1 ++ indentBy 1 report.text.toList := rfl
      rw [ih report hreport, indentBy_break_cons, hparts, indentBy_append, indentBy_tabs,
        indentBy_indentBy, ← tabs_append, List.cons_append, List.cons_append, List.append_assoc]
    rw [nodesAt, nodesBelow_eq_flatMap, List.flatMap_cons, List.flatMap_assoc,
      List.flatMap_congr hbelow, toList_text_group, indentBy_append, indentBy_flatMap,
      List.append_assoc]
    rfl

theorem text_eq_join_entries (report : Report α) :
    report.text = String.join (report.nodes.map entry) := by
  have houtline := outline_nodesAt report 0
  obtain ⟨below, hnodes, hdeeper⟩ := report.exists_nodes_eq_cons
  have hbelow : below.flatMap (fun node => (entry node).toList) =
      below.flatMap fun node => '\n' :: tabs node.1 ++ indentBy node.1 node.2.line.toList := by
    apply List.flatMap_congr
    intro node hnode
    rw [entry, String.toList_ofList, if_neg (hdeeper node hnode)]
  have hfirst : (entry (0, report)).toList = report.line.toList := by
    rw [entry, String.toList_ofList, if_pos rfl, indentBy_zero]
    rfl
  rw [← String.toList_inj, String.toList_join, List.flatMap_map, hnodes, List.flatMap_cons, hbelow,
    hfirst]
  rw [nodes] at hnodes
  rw [hnodes, List.flatMap_cons, indentBy_zero, indentBy_zero] at houtline
  exact (List.cons.inj houtline).2.symm

end Outline

/-! ### Lines -/

theorem cons_intercalate_break {lines : List (List Char)} (hsome : lines ≠ []) :
    '\n' :: ['\n'].intercalate lines = lines.flatMap fun line => '\n' :: line := by
  induction lines with
  | nil => exact absurd rfl hsome
  | cons line rest ih =>
    cases rest with
    | nil => rw [List.intercalate_singleton, List.flatMap_singleton]
    | cons next rest =>
      rw [List.intercalate_cons_cons, List.flatMap_cons, ← ih (List.cons_ne_nil _ _)]
      simp

/-- A heading has no line break but those of the location. -/
class PlainHeadings (α : Type) [Worded α] : Prop where
  newline_notMem : ∀ {location : String} (count : Nat), '\n' ∉ location.toList →
    '\n' ∉ (Worded.heading α location count).toList

theorem newline_notMem_toDigits (n : Nat) : '\n' ∉ Nat.toDigits 10 n := by
  intro h
  have hdigit := Nat.isDigit_of_mem_toDigits (by decide) (by decide) h
  revert hdigit
  decide

instance : PlainHeadings SchemaViolation where
  newline_notMem count hlocation := by
    simp [Worded.heading, hlocation, newline_notMem_toDigits count]

instance : PlainHeadings PayloadViolation where
  newline_notMem count hlocation := by
    simp [Worded.heading, hlocation, newline_notMem_toDigits count]

theorem newline_notMem_line [Worded α] [PlainHeadings α] {report : Report α}
    (h : report.Unbroken) : ∀ node ∈ report.nodes, '\n' ∉ node.2.line.toList := by
  intro node hnode
  have hplain := h node hnode
  cases hreport : node.2 with
  | leaf violation =>
    rw [hreport] at hplain
    exact hplain
  | group location reports =>
    rw [hreport] at hplain
    exact PlainHeadings.newline_notMem reports.length hplain

theorem splitOn_text [Worded α] [PlainHeadings α] {report : Report α} (h : report.Unbroken) :
    report.text.toList.splitOn '\n' =
      report.nodes.map fun node => tabs node.1 ++ node.2.line.toList := by
  have hplain := newline_notMem_line h
  have hsome : (report.nodes.map fun node => tabs node.1 ++ node.2.line.toList) ≠ [] := by
    obtain ⟨below, hnodes, -⟩ := report.exists_nodes_eq_cons
    simp [hnodes]
  have hlines : '\n' :: report.text.toList =
      '\n' :: ['\n'].intercalate
        (report.nodes.map fun node => tabs node.1 ++ node.2.line.toList) := by
    rw [cons_intercalate_break hsome, List.flatMap_map]
    have houtline := outline_nodesAt report 0
    rw [indentBy_zero] at houtline
    refine houtline.symm.trans (List.flatMap_congr fun node hnode => ?_)
    rw [indentBy_of_notMem node.1 (hplain node hnode)]
    rfl
  rw [(List.cons.inj hlines).2]
  apply List.splitOn_intercalate '\n'
  · intro line hline
    obtain ⟨node, hnode, rfl⟩ := List.mem_map.mp hline
    rw [List.mem_append, not_or]
    exact ⟨by simp [tabs], hplain node hnode⟩
  · exact hsome

theorem outlined [Worded α] [PlainHeadings α] (report : Report α) : report.Outlined where
  text_eq := report.text_eq_join_entries
  violations_eq := report.filterMap_leaf?_nodesAt 0
  lines_eq := splitOn_text

/-- A line break in a location is followed by the tabs of the node it belongs to. -/
example :
    text (.group "x" [.group "a\nb" [.leaf .missingSchemas]] : PayloadError) =
      "Found 1 aggregated exceptions at x:\n\tFound 1 aggregated exceptions at a\n\tb:" ++
        "\n\t\tResponse has no specified schema" := by
  decide +kernel

end Report

/-- **Texts of reports are outlines.** The text of a report on a schema document, or on a payload,
consists of what every node of the tree puts into it, depth first: on a line of its own, behind as
many tabs as there are groups around it, the message of a violation or the heading of a group with
its location and the number of its reports, and these tabs again after every line break in it. So
the messages come in the order of the violations, and without any line break in a message or a
location the text has one line for each node. -/
theorem report_texts_are_outlines :
    (∀ report : SchemaError, report.Outlined) ∧ ∀ report : PayloadError, report.Outlined := by
  constructor
  · intro report
    exact report.outlined
  · intro report
    exact report.outlined

end IdentitySchema
