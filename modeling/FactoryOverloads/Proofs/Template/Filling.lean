import FactoryOverloads.Target
import FactoryOverloads.Template

/-!
# Filling templates piece by piece

A template is filled from left to right, so it can be filled piece by piece: a
text without a dollar sign stands for itself (`render_text_append`), and a
placeholder for what is bound to its name (`render_hole_append`). Both come from
what the segments of the whole are (`segmentsAfter_text_append`,
`segmentsAfter_hole_append`), by induction on the characters of the piece.
-/

namespace FactoryOverloads.Template

/-! ## Segments -/

theorem placeholderName?_of_ne {c : Char} (h : c ≠ '$') (rest : List Char) :
    placeholderName? (c :: rest) = none := by
  unfold placeholderName?
  split
  · rename_i e
    exact absurd (List.cons.inj e).1 h
  · rfl

theorem segmentsAfter_character {c : Char} {rest : List Char}
    (h : placeholderName? (c :: rest) = none) :
    segmentsAfter 0 (c :: rest) = .character c :: segmentsAfter 0 rest := by
  rw [segmentsAfter, h]

/-- Without a dollar sign, no placeholder begins. -/
theorem segmentsAfter_text_append {text : List Char} (h : '$' ∉ text) (rest : List Char) :
    segmentsAfter 0 (text ++ rest) = text.map .character ++ segmentsAfter 0 rest := by
  induction text with
  | nil => rfl
  | cons c text ih =>
    simp only [List.mem_cons, not_or] at h
    have inert := placeholderName?_of_ne (Ne.symm h.1) (text ++ rest)
    rw [List.cons_append, segmentsAfter_character inert, ih h.2, List.map_cons, List.cons_append]

/-- The characters of a placeholder that has been read are passed over. -/
theorem segmentsAfter_skip (read rest : List Char) :
    segmentsAfter read.length (read ++ rest) = segmentsAfter 0 rest := by
  induction read with
  | nil => rfl
  | cons c read ih => exact ih

theorem all_isNameCharacter {name : List Char} (h : isName name = true) :
    ∀ c ∈ name, isNameCharacter c = true := by
  cases name with
  | nil => simp
  | cons c name =>
    simp only [isName, Bool.and_eq_true, List.all_eq_true] at h
    refine List.forall_mem_cons.mpr ⟨?_, h.2⟩
    have start := h.1
    simp only [isNameStart, Bool.or_eq_true] at start
    simp only [isNameCharacter, Char.isAlphanum, Bool.or_eq_true]
    exact start.imp Or.inl id

theorem placeholderName?_hole {name : List Char} (h : isName name = true) (rest : List Char) :
    placeholderName? ('$' :: '{' :: (name ++ '}' :: rest)) = some name := by
  have upTo : (name ++ '}' :: rest).takeWhile isNameCharacter = name := by
    rw [List.takeWhile_append_of_pos (all_isNameCharacter h),
      List.takeWhile_cons_of_neg (by decide), List.append_nil]
  simp [placeholderName?, upTo, h]

/-- A name in its braces is read as one placeholder, whatever follows. -/
theorem segmentsAfter_hole_append {name : String} (h : isName name.toList = true)
    (rest : List Char) :
    segmentsAfter 0 ((hole name).toList ++ rest) = .placeholder name :: segmentsAfter 0 rest := by
  have shape : (hole name).toList ++ rest = '$' :: '{' :: (name.toList ++ '}' :: rest) := by
    simp [hole]
  rw [shape, segmentsAfter, placeholderName?_hole h]
  simp only [String.ofList_toList, List.cons.injEq, true_and]
  have skip := segmentsAfter_skip ('{' :: (name.toList ++ ['}'])) rest
  simpa using skip

/-! ## Rendering -/

/-- What stands before a segment stays before what the segment stands for. -/
theorem append_eq_map (bindings : Bindings) (text : String) (segment : Segment) :
    append bindings text segment = (text ++ ·) <$> append bindings "" segment := by
  cases segment with
  | character c =>
    have pushed : text.push c = text ++ "".push c := by simp
    rw [append, pushed]
    rfl
  | placeholder name => cases h : bindings.find? name <;> simp [append, h, Functor.map, Except.map]

theorem foldlM_append_eq_map (bindings : Bindings) (segments : List Segment) (text : String) :
    segments.foldlM (append bindings) text =
      (text ++ ·) <$> segments.foldlM (append bindings) "" := by
  induction segments generalizing text with
  | nil => simp [Functor.map, Except.map, pure, Except.pure]
  | cons segment segments ih =>
    rw [List.foldlM_cons, List.foldlM_cons, append_eq_map]
    cases append bindings "" segment with
    | error cause => rfl
    | ok value =>
      show segments.foldlM (append bindings) (text ++ value) =
        (text ++ ·) <$> segments.foldlM (append bindings) value
      rw [ih, ih value]
      cases segments.foldlM (append bindings) "" <;>
        simp [Functor.map, Except.map, String.append_assoc]

theorem foldlM_append_characters (bindings : Bindings) (text : List Char) :
    (text.map Segment.character).foldlM (append bindings) "" = .ok (String.ofList text) := by
  induction text with
  | nil => rfl
  | cons c text ih =>
    rw [List.map_cons, List.foldlM_cons]
    show (text.map Segment.character).foldlM (append bindings) ("".push c) = _
    rw [foldlM_append_eq_map, ih]
    refine congrArg Except.ok ?_
    simp

/-- A text without a dollar sign is copied. -/
theorem render_text_append {text : String} {characters : List Char}
    (e : text = String.ofList characters) (h : '$' ∉ characters) (rest : String)
    (bindings : Bindings) :
    render (text ++ rest) bindings = (text ++ ·) <$> render rest bindings := by
  rw [render, segments, e, String.toList_append, String.toList_ofList,
    segmentsAfter_text_append h, List.foldlM_append, foldlM_append_characters]
  exact foldlM_append_eq_map bindings (segments rest) (String.ofList characters)

theorem render_text {text : String} {characters : List Char}
    (e : text = String.ofList characters) (h : '$' ∉ characters) (bindings : Bindings) :
    render text bindings = .ok text := by
  have whole := render_text_append e h "" bindings
  rw [String.append_empty] at whole
  rw [whole]
  simp [render, segments, segmentsAfter, Functor.map, Except.map, pure, Except.pure]

/-- A placeholder whose name is bound is filled with the text bound to it. -/
theorem render_hole_append {name : String} {characters : List Char}
    (e : name = String.ofList characters) (h : isName characters = true) {value : String}
    {bindings : Bindings} (bound : bindings.find? name = some value) (rest : String) :
    render (hole name ++ rest) bindings = (value ++ ·) <$> render rest bindings := by
  rw [render, segments, String.toList_append,
    segmentsAfter_hole_append (by rw [e, String.toList_ofList]; exact h), List.foldlM_cons]
  have filled : append bindings "" (.placeholder name) = .ok value := by
    simp [append, bound]
  rw [filled]
  exact foldlM_append_eq_map bindings (segments rest) value

end FactoryOverloads.Template
