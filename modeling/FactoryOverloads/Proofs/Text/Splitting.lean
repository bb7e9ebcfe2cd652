import FactoryOverloads.Text

/-!
# Splitting and joining

Splitting at a separator and joining with it undo one another
(`Text.intercalate_split`, and `Text.split_intercalate` for pieces that hold no
separator), so that a text may be told by its pieces.
-/

namespace FactoryOverloads.Text

variable {separator : Char} {text : List Char} {joint : String} {pieces : List String}

theorem splitFrom_of_notMem (h : separator ∉ text) (piece : List Char) :
    splitFrom separator piece text = [String.ofList (piece.reverse ++ text)] := by
  induction text generalizing piece with
  | nil => rw [splitFrom, List.append_nil]
  | cons c text ih =>
    obtain ⟨head, tail⟩ := not_or.mp (mt List.mem_cons.mpr h)
    rw [splitFrom, if_neg (Ne.symm head), ih tail, List.reverse_cons, List.append_assoc,
      List.singleton_append]

/-- What stands before and behind a separator is taken apart by itself. -/
theorem splitFrom_append (separator : Char) (piece text rest : List Char) :
    splitFrom separator piece (text ++ separator :: rest) =
      splitFrom separator piece text ++ splitFrom separator [] rest := by
  induction text generalizing piece with
  | nil => simp [splitFrom]
  | cons c text ih =>
    rw [List.cons_append, splitFrom, splitFrom]
    split
    · rw [ih, List.cons_append]
    · exact ih (c :: piece)

/-- The first piece begins with what has been read. -/
theorem exists_splitFrom_eq (separator : Char) (piece text : List Char) :
    ∃ more pieces,
      splitFrom separator piece text = String.ofList (piece.reverse ++ more) :: pieces := by
  induction text generalizing piece with
  | nil => exact ⟨[], [], by rw [splitFrom, List.append_nil]⟩
  | cons c text ih =>
    rw [splitFrom]
    split
    · exact ⟨[], _, by rw [List.append_nil]⟩
    · obtain ⟨more, pieces, split⟩ := ih (c :: piece)
      exact ⟨c :: more, pieces,
        by rw [split, List.reverse_cons, List.append_assoc, List.singleton_append]⟩

theorem notMem_of_mem_splitFrom {piece : List Char} (h : separator ∉ piece) :
    ∀ part ∈ splitFrom separator piece text, separator ∉ part.toList := by
  induction text generalizing piece with
  | nil => simpa [splitFrom] using h
  | cons c text ih =>
    rw [splitFrom]
    split
    · exact List.forall_mem_cons.mpr ⟨by simpa using h, ih List.not_mem_nil⟩
    · next apart =>
      exact ih (fun mem => (List.mem_cons.mp mem).elim (fun same => apart same.symm) h)

/-- Joining puts the joint before every piece but the first. -/
theorem intercalate_cons (joint first : String) (rest : List String) :
    joint.intercalate (first :: rest) = first ++ String.join (rest.map (joint ++ ·)) := by
  induction rest generalizing first with
  | nil => simp
  | cons next rest ih =>
    rw [String.intercalate_cons_cons, ih, List.map_cons, String.join_cons]
    simp only [String.append_assoc]

section Joint

variable (single : joint.toList = [separator])
include single

theorem intercalate_splitFrom (piece text : List Char) :
    (joint.intercalate (splitFrom separator piece text)).toList = piece.reverse ++ text := by
  induction text generalizing piece with
  | nil => simp [splitFrom]
  | cons c text ih =>
    rw [splitFrom]
    split
    · next same =>
      obtain ⟨more, pieces, split⟩ := exists_splitFrom_eq separator [] text
      have rest := ih []
      rw [split] at rest ⊢
      rw [String.intercalate_cons_cons, String.toList_append, rest, same, String.toList_append,
        single]
      simp
    · rw [ih]
      simp

theorem intercalate_split (text : String) : joint.intercalate (split separator text) = text :=
  String.toList_inj.mp (intercalate_splitFrom single [] text.toList)

theorem split_intercalate (filled : pieces ≠ []) (h : ∀ piece ∈ pieces, separator ∉ piece.toList) :
    split separator (joint.intercalate pieces) = pieces := by
  induction pieces with
  | nil => exact absurd rfl filled
  | cons piece pieces ih =>
    obtain ⟨head, tail⟩ := List.forall_mem_cons.mp h
    cases pieces with
    | nil =>
      rw [String.intercalate_singleton, split, splitFrom_of_notMem head]
      simp
    | cons next pieces =>
      have rest := ih (List.cons_ne_nil next pieces) tail
      rw [split] at rest ⊢
      rw [String.intercalate_cons_cons, String.toList_append, String.toList_append,
        List.append_assoc, single, List.singleton_append, splitFrom_append,
        splitFrom_of_notMem head, rest]
      simp

end Joint

end FactoryOverloads.Text
