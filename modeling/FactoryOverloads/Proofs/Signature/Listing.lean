import Mathlib.Data.List.Forall2
import FactoryOverloads.Proofs.Emission.Reading
import FactoryOverloads.Proofs.Signature.Inversion
import FactoryOverloads.Proofs.Text.Splitting
import FactoryOverloads.Signature.Listing

/-!
# Reading a listing

A listing is a heading, an empty line, and a line for each plan (`text_eq`). On its
line a plan has four cells. None of them is cut short: a column is as wide as its
widest cell, whatever the plans are, so that the arrow before the call stands at
one place on all lines (`shown_ofRows`).

A line is read back from its arrow. Behind it stands the call, and an item of a
call gives its slot (`call?_parenthesized`). Of a planned row no cell before the
arrow holds another one, so the call is found, and with it the partition and all of
the plan (`plan?_text`).
-/

namespace FactoryOverloads.Listing

open Text (Avoids Spelled avoids_append notMem_of_avoids cut? cut?_append fields?
  fields?_append fieldsBefore?_last itemsOf)
open Plan (ofPartition)

/-! ## Columns -/

/-- Blanks. -/
def blanks (count : Nat) : String := String.ofList (List.replicate count ' ')

@[simp] theorem length_blanks (count : Nat) : (blanks count).length = count := by
  simp [blanks]

theorem blanks_append (m n : Nat) : blanks m ++ blanks n = blanks (m + n) := by
  rw [blanks, blanks, blanks, ← String.ofList_append, List.replicate_append_replicate]

theorem padded_eq (width : Nat) (cell : String) :
    padded width cell = cell ++ blanks (width - cell.length) :=
  rfl

theorem foldl_width_le_iff (cells : List String) (start bound : Nat) :
    cells.foldl (fun widest cell => max widest cell.length) start ≤ bound ↔
      start ≤ bound ∧ ∀ cell ∈ cells, cell.length ≤ bound := by
  induction cells generalizing start with
  | nil => simp
  | cons cell cells ih =>
    rw [List.foldl_cons, ih, Nat.max_le, List.forall_mem_cons, and_assoc]

theorem width_le_iff {cells : List String} {bound : Nat} :
    width cells ≤ bound ↔ ∀ cell ∈ cells, cell.length ≤ bound := by
  simp [width, foldl_width_le_iff]

/-- No cell is wider than its column. -/
theorem length_le_width {rows : List Row} {row : Row} (cell : Row → String) (mem : row ∈ rows) :
    (cell row).length ≤ width (rows.map cell) :=
  width_le_iff.mp (Nat.le_refl _) _ (List.mem_map_of_mem mem)

/-! ## Lines -/

/-- What stands on a line before the arrow. -/
def Row.lead (widths : Widths) (row : Row) : String :=
  "  " ++ padded widths.pattern row.pattern ++ "  " ++ padded widths.key row.key ++ "  " ++
    padded widths.arguments row.arguments ++ "  "

theorem Row.text_eq (widths : Widths) (row : Row) :
    row.text widths = row.lead widths ++ ("-> " ++ row.call) := by
  simp only [text, lead, String.append_assoc]
  rfl

/-- The place of the arrow. -/
def Widths.arrow (widths : Widths) : Nat := widths.pattern + widths.key + widths.arguments + 8

/-- A line with the cells of a row, an arrow before the last one. The arrow has
`column` characters before it. -/
def Row.Shown (row : Row) (column : Nat) (line : String) : Prop :=
  ∃ first second third : Nat,
    let lead := blanks 2 ++ row.pattern ++ blanks first ++ row.key ++ blanks second ++
      row.arguments ++ blanks third
    line = lead ++ "-> " ++ row.call ∧ lead.length = column ∧
      2 ≤ first ∧ 2 ≤ second ∧ 2 ≤ third

theorem shown_ofRows {rows : List Row} {row : Row} (mem : row ∈ rows) :
    row.Shown (Widths.ofRows rows).arrow (row.text (Widths.ofRows rows)) := by
  have pattern := length_le_width Row.pattern mem
  have key := length_le_width Row.key mem
  have arguments := length_le_width Row.arguments mem
  refine ⟨width (rows.map Row.pattern) - row.pattern.length + 2,
    width (rows.map Row.key) - row.key.length + 2,
    width (rows.map Row.arguments) - row.arguments.length + 2, ?_, ?_, ?_, ?_, ?_⟩
  · have gap : "  " = blanks 2 := rfl
    simp only [Row.text_eq, Row.lead, Widths.ofRows, padded_eq, gap, ← blanks_append,
      String.append_assoc]
  · simp only [String.length_append, length_blanks, Widths.arrow, Widths.ofRows]
    omega
  all_goals exact Nat.le_add_left 2 _

/-- The heading of a listing. -/
def heading (arity count : Nat) : String :=
  "Arity " ++ toString arity ++ ": " ++ toString count ++ " overloads"

/-- The lines of plans. -/
def lines (plans : List Plan) : List String :=
  let rows := plans.map Row.ofPlan
  rows.map fun row => row.text (Widths.ofRows rows)

theorem text_eq (arity : Nat) (plans : List Plan) :
    text arity plans =
      "\n".intercalate (heading arity plans.length :: "" :: lines plans) := by
  have last : " overloads\n" = " overloads" ++ "\n" := rfl
  rw [Text.intercalate_cons, List.map_cons, String.join_cons, lines, List.map_map, text, last,
    heading]
  simp only [String.append_assoc, String.append_empty, List.map_map]
  rfl

theorem shown_lines (plans : List Plan) :
    List.Forall₂ (fun plan line =>
      (Row.ofPlan plan).Shown (Widths.ofRows (plans.map Row.ofPlan)).arrow line)
      plans (lines plans) := by
  rw [lines, List.map_map, List.forall₂_map_right_iff, List.forall₂_same]
  exact fun plan mem => shown_ofRows (List.mem_map_of_mem mem)

example : lines [ofPartition ⟨0, 0, by decide, by decide⟩] = ["  <empty>  /0  ()  -> ()"] := by
  decide

/-! ## Reading a call -/

/-- The slot of an item of a call. -/
def slot? (item : List Char) : Option Slot :=
  match fields? "resolve<" [">"] item with
  | some [type] => (numbered? "T" type).map .injectedResolve
  | _ => (numbered? "arg" (String.ofList item)).map .explicitRef

/-- The slots of a call in parentheses. -/
def call? (text : List Char) : Option (List Slot) :=
  match fields? "(" [")"] text with
  | some [items] => (itemsOf .ignored ", ".toList items.toList).mapM slot?
  | _ => none

theorem slot?_slotText (slot : Slot) : slot? (slotText slot).toList = some slot := by
  cases slot with
  | explicitRef index =>
    have other : fields? "resolve<" [">"] (argumentName index).toList = none := by
      rw [argumentName, String.toList_append]
      rfl
    have number : numbered? "arg" (argumentName index) = some index := numbered?_append "arg" index
    rw [slotText, slot?, other]
    simp only [String.ofList_toList, number]
    rfl
  | injectedResolve position =>
    have number : numbered? "T" (injectedTypeParameter position) = some position :=
      numbered?_append "T" position
    rw [slotText, slot?, String.append_assoc, fields?_append,
      fieldsBefore?_last (avoids_injectedTypeParameter rfl position (by decide))]
    simp only [number]
    rfl

/-- The words of an item of a call. -/
def slotWords : List String := ["arg", "resolve<", "T", ">"]

theorem spelled_slotText (slot : Slot) : Spelled slotWords (slotText slot).toList := by
  cases slot with
  | explicitRef index => exact spelled_numbered (by decide) index
  | injectedResolve position =>
    exact spelled_enclosed (by decide) (spelled_numbered (by decide) position) (by decide)

theorem spelled_slotTexts (call : List Slot) :
    ∀ item ∈ call.map slotText, Spelled slotWords item.toList :=
  List.forall_mem_map.mpr fun slot _ => spelled_slotText slot

/-- The words of a call. -/
def callWords : List String := ["(", ")", ", "] ++ slotWords

theorem spelled_call (call : List Slot) :
    Spelled callWords (parenthesized (call.map slotText)).toList := by
  refine spelled_enclosed (by decide) (spelled_commaSeparated (by decide) ?_) (by decide)
  exact fun item mem => (spelled_slotTexts call item mem).mono (by decide)

/-- A call is told by its items, whatever the slots are. -/
theorem call?_parenthesized (call : List Slot) :
    call? (parenthesized (call.map slotText)).toList = some call := by
  have closing : Avoids ")".toList (commaSeparated (call.map slotText)).toList :=
    avoids_commaSeparated (spelled_slotTexts call) (by decide) rfl
  have items : (itemsOf .ignored ", ".toList (commaSeparated (call.map slotText)).toList).mapM
      slot? = some call := by
    refine mapM_itemsOf_commaSeparated (spelled_slotTexts call) (by decide) ?_ rfl
    rw [List.map_map]
    exact List.map_congr_left fun slot _ => slot?_slotText slot
  rw [parenthesized, call?, String.append_assoc, fields?_append, fieldsBefore?_last closing]
  exact items

/-! ## Reading a line -/

/-- The plan of a line, from the call behind its arrow. -/
def plan? (line : String) : Option Plan := do
  let (_, call) ← cut? "-> ".toList line.toList
  let partition ← (Partition.ofCall (← call? call)).toOption
  return ofPartition partition

/-- The words of what stands before the arrow. -/
def leadWords : List String := ["  ", " ", "<empty>", "E", "I", "/", "(", ")", ", ", "arg"]

variable {words : List String}

theorem spelled_blanks (mem : " " ∈ words) (count : Nat) : Spelled words (blanks count).toList := by
  rw [blanks, String.toList_ofList]
  induction count with
  | zero => exact .nil
  | succ count ih => exact .word mem ih

theorem spelled_padded {cell : String} (mem : " " ∈ words) (h : Spelled words cell.toList)
    (width : Nat) : Spelled words (padded width cell).toList :=
  spelled_append h (spelled_blanks mem _)

theorem spelled_letters (explicit : "E" ∈ words) (injected : "I" ∈ words) (tags : List Tag) :
    Spelled words (String.ofList (tags.map Tag.letter)).toList := by
  rw [String.toList_ofList]
  induction tags with
  | nil => exact .nil
  | cons tag tags ih =>
    cases tag
    · exact .word explicit ih
    · exact .word injected ih

theorem spelled_key (key : Key) : Spelled leadWords key.text.toList := by
  have letters : Spelled leadWords (String.ofList (key.tags.map Tag.letter)).toList :=
    spelled_letters (by decide) (by decide) key.tags
  exact spelled_append (spelled_append letters (.ofWord (by decide))) (spelled_toString _)

theorem spelled_arguments (p : Partition) :
    Spelled leadWords (parenthesized (ofPartition p).explicitArguments).toList := by
  refine spelled_enclosed (by decide) (spelled_commaSeparated (by decide) ?_) (by decide)
  rw [Plan.explicitArguments_ofPartition]
  exact List.forall_mem_map.mpr fun index _ => spelled_numbered (by decide) index

theorem spelled_lead (widths : Widths) (p : Partition) :
    Spelled leadWords ((Row.ofPlan (ofPartition p)).lead widths).toList := by
  have gap : Spelled leadWords "  ".toList := .ofWord (by decide)
  have text : Spelled leadWords p.text.toList := Target.spelled_text (by decide) p
  have pattern := spelled_padded (by decide) text widths.pattern
  have key := spelled_padded (by decide) (spelled_key (ofPartition p).key) widths.key
  have arguments := spelled_padded (by decide) (spelled_arguments p) widths.arguments
  exact spelled_append (spelled_append (spelled_append (spelled_append (spelled_append
    (spelled_append gap pattern) gap) key) gap) arguments) gap

/-- A line of any widths is told by the plan on it. -/
theorem plan?_text (widths : Widths) (p : Partition) :
    plan? ((Row.ofPlan (ofPartition p)).text widths) = some (ofPartition p) := by
  have lead : Avoids "-> ".toList ((Row.ofPlan (ofPartition p)).lead widths).toList :=
    (spelled_lead widths p).avoids (by decide) rfl
  have call : call? (Row.ofPlan (ofPartition p)).call.toList = some (ofPartition p).call :=
    call?_parenthesized (ofPartition p).call
  rw [Row.text_eq, plan?, String.toList_append, String.toList_append, cut?_append lead]
  show ((call? _).bind fun slots => (Partition.ofCall slots).toOption.bind _) = _
  rw [call, Option.bind_some, Partition.ofCall_ofPartition]
  rfl

theorem read_lines (ps : List Partition) :
    (lines (ps.map ofPartition)).map plan? = (ps.map ofPartition).map some := by
  simp only [lines, List.map_map]
  exact List.map_congr_left fun p _ => plan?_text _ p

/-! ## Taking a listing apart -/

theorem newline_notMem_heading (arity count : Nat) : '\n' ∉ (heading arity count).toList := by
  have spelled : Spelled ["Arity ", ": ", " overloads"] (heading arity count).toList :=
    spelled_append (spelled_append (spelled_append (spelled_numbered (by decide) arity)
      (.ofWord (by decide))) (spelled_toString count)) (.ofWord (by decide))
  exact notMem_of_avoids (spelled.avoids (by decide) rfl)

theorem newline_notMem_text (widths : Widths) (p : Partition) :
    '\n' ∉ ((Row.ofPlan (ofPartition p)).text widths).toList := by
  have lead : Avoids ['\n'] ((Row.ofPlan (ofPartition p)).lead widths).toList :=
    (spelled_lead widths p).avoids (by decide) rfl
  have call : Avoids ['\n'] (Row.ofPlan (ofPartition p)).call.toList :=
    (spelled_call (ofPartition p).call).avoids (by decide) rfl
  rw [Row.text_eq, String.toList_append, String.toList_append]
  exact notMem_of_avoids (avoids_append lead (avoids_append (by decide) call))

/-- Behind the heading and an empty line, a listing has the lines of its plans. -/
theorem split_text (arity : Nat) (ps : List Partition) :
    Text.split '\n' (text arity (ps.map ofPartition)) =
      heading arity ps.length :: "" :: lines (ps.map ofPartition) := by
  rw [text_eq, List.length_map]
  refine Text.split_intercalate rfl (List.cons_ne_nil _ _) ?_
  refine List.forall_mem_cons.mpr ⟨newline_notMem_heading arity ps.length, ?_⟩
  refine List.forall_mem_cons.mpr ⟨List.not_mem_nil, ?_⟩
  simp only [lines, List.map_map]
  exact List.forall_mem_map.mpr fun p _ => newline_notMem_text _ p

end FactoryOverloads.Listing
