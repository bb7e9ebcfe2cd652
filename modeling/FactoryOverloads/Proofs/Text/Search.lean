import Mathlib.Data.List.Infix

/-!
# Searching texts

A reader of emitted text finds a pattern (`cut?`), takes what stands between two
patterns (`between?`) or the fields of a whole form (`fields?`), and takes a
list apart at its separator (`itemsOf`), either everywhere or only outside of
angle brackets. All of them look for the first occurrence. What the emitter put
between its patterns is found again when no occurrence begins earlier:

* `Avoids`: no occurrence of a pattern begins inside a text, whatever follows
  it. It is decided for a fixed text, and goes over to texts one after the
  other;
* `Spelled`: a text is put together from fixed words and digits, so that it
  avoids what all the words avoid (`Spelled.avoids`);
* `cut?_append`, `between?_append`, `fieldsBefore?_append`: what stands before a
  pattern is found;
* `itemsOf_intercalate`: taking apart at a separator undoes joining with it.
-/

namespace FactoryOverloads.Text

/-! ## Texts in which a pattern does not begin -/

/-- No occurrence of the pattern begins inside the text, whatever follows it. -/
inductive Avoids (pattern : List Char) : List Char → Prop
  | nil : Avoids pattern []
  | cons {c : Char} {text : List Char} (notPrefix : ¬ pattern <+: c :: text)
    (notBeginning : ¬ c :: text <+: pattern) (rest : Avoids pattern text) :
    Avoids pattern (c :: text)

section Avoids

variable {pattern : List Char}

theorem avoids_cons {c : Char} {text : List Char} :
    Avoids pattern (c :: text) ↔
      ¬ pattern <+: c :: text ∧ ¬ c :: text <+: pattern ∧ Avoids pattern text :=
  ⟨fun | .cons notPrefix notBeginning rest => ⟨notPrefix, notBeginning, rest⟩,
    fun h => .cons h.1 h.2.1 h.2.2⟩

instance instDecidableAvoids : (text : List Char) → Decidable (Avoids pattern text)
  | [] => isTrue .nil
  | _ :: text =>
    have := instDecidableAvoids text
    decidable_of_iff' _ avoids_cons

theorem avoids_append {first second : List Char} (h₁ : Avoids pattern first)
    (h₂ : Avoids pattern second) : Avoids pattern (first ++ second) := by
  induction h₁ with
  | nil => exact h₂
  | @cons c first notPrefix notBeginning _ ih =>
    refine .cons (fun h => ?_) (fun h => notBeginning ((List.prefix_append _ _).trans h)) ih
    rcases List.prefix_or_prefix_of_prefix h (List.prefix_append (c :: first) second) with h | h
    · exact notPrefix h
    · exact notBeginning h

/-- Texts one after the other avoid what each of them avoids. -/
theorem avoids_join {texts : List String} (h : ∀ text ∈ texts, Avoids pattern text.toList) :
    Avoids pattern (String.join texts).toList := by
  induction texts with
  | nil => exact .nil
  | cons text texts ih =>
    obtain ⟨head, tail⟩ := List.forall_mem_cons.mp h
    rw [String.join_cons, String.toList_append]
    exact avoids_append head (ih tail)

/-- A pattern does not begin with a character that is not its first one. -/
theorem avoids_singleton {c d : Char} (h : c ≠ d) : Avoids (c :: pattern) [d] :=
  .cons (fun e => h (List.cons_prefix_cons.mp e).1) (fun e => h (List.cons_prefix_cons.mp e).1.symm)
    .nil

/-- A character by itself is avoided where it does not occur. -/
theorem notMem_of_avoids {c : Char} {text : List Char} (h : Avoids [c] text) : c ∉ text := by
  induction h with
  | nil => exact List.not_mem_nil
  | @cons d text notPrefix _ _ ih =>
    refine List.not_mem_cons_of_ne_of_not_mem (fun e => ?_) ih
    subst e
    exact notPrefix (List.prefix_append [c] text)

end Avoids

/-! ## Texts of words and digits -/

/-- A text of words and decimal digits, in any order. -/
inductive Spelled (words : List String) : List Char → Prop
  | nil : Spelled words []
  | word {word : String} {rest : List Char} (mem : word ∈ words) (h : Spelled words rest) :
    Spelled words (word.toList ++ rest)
  | digit {c : Char} {rest : List Char} (digit : c.isDigit = true) (h : Spelled words rest) :
    Spelled words (c :: rest)

namespace Spelled

variable {words : List String} {first second text : List Char}

theorem append (h₁ : Spelled words first) (h₂ : Spelled words second) :
    Spelled words (first ++ second) := by
  induction h₁ with
  | nil => exact h₂
  | word mem _ ih =>
    rw [List.append_assoc]
    exact .word mem ih
  | digit digit _ ih => exact .digit digit ih

theorem ofWord {word : String} (mem : word ∈ words) : Spelled words word.toList := by
  have h := Spelled.word mem .nil
  rwa [List.append_nil] at h

theorem ofDigits (h : ∀ c ∈ text, c.isDigit = true) : Spelled words text := by
  induction text with
  | nil => exact .nil
  | cons c text ih =>
    obtain ⟨head, tail⟩ := List.forall_mem_cons.mp h
    exact .digit head (ih tail)

theorem mono {words' : List String} (h : Spelled words text) (sub : words ⊆ words') :
    Spelled words' text := by
  induction h with
  | nil => exact .nil
  | word mem _ ih => exact .word (sub mem) ih
  | digit digit _ ih => exact .digit digit ih

theorem intercalate {separator : String} {texts : List (List Char)} (mem : separator ∈ words)
    (h : ∀ text ∈ texts, Spelled words text) :
    Spelled words (separator.toList.intercalate texts) := by
  induction texts with
  | nil => exact .nil
  | cons text texts ih =>
    obtain ⟨head, tail⟩ := List.forall_mem_cons.mp h
    cases texts with
    | nil =>
      rw [List.intercalate_singleton]
      exact head
    | cons next texts =>
      rw [List.intercalate_cons_cons]
      exact (head.append (ofWord mem)).append (ih tail)

/-- A pattern that all words avoid, and that does not begin with a digit, is
avoided by what is spelled with them. -/
theorem avoids {pattern : List Char} (h : Spelled words text)
    (hw : ∀ word ∈ words, Avoids pattern word.toList)
    (start : pattern.head?.map Char.isDigit = some false) : Avoids pattern text := by
  induction h with
  | nil => exact .nil
  | word mem _ ih => exact avoids_append (hw _ mem) ih
  | digit digit _ ih =>
    cases pattern with
    | nil => cases start
    | cons c pattern =>
      refine avoids_append (avoids_singleton fun e => ?_) ih
      rw [List.head?_cons, e, Option.map_some, digit] at start
      cases start

end Spelled

/-! ## Cutting -/

/-- The text before and after the first occurrence of a pattern. -/
def cut? (pattern : List Char) : List Char → Option (List Char × List Char)
  | [] => if pattern = [] then some ([], []) else none
  | c :: text =>
    match pattern.isPrefixOf? (c :: text) with
    | some after => some ([], after)
    | none => (cut? pattern text).map fun (before, after) => (c :: before, after)

/-- The text from behind the first occurrence of `opening` to the next one of
`closing`. -/
def between? (opening closing text : List Char) : Option (List Char) := do
  let (_, rest) ← cut? opening text
  let (inner, _) ← cut? closing rest
  return inner

theorem isPrefixOf?_append (pattern rest : List Char) :
    pattern.isPrefixOf? (pattern ++ rest) = some rest :=
  List.isPrefixOf?_eq_some_iff_append_eq.mpr rfl

theorem isPrefixOf?_eq_none {pattern text : List Char} (h : ¬ pattern <+: text) :
    pattern.isPrefixOf? text = none := by
  cases found : pattern.isPrefixOf? text with
  | none => rfl
  | some rest => exact absurd ⟨rest, List.isPrefixOf?_eq_some_iff_append_eq.mp found⟩ h

theorem not_prefix_of_avoids {c : Char} {pattern before : List Char}
    (h : Avoids pattern (c :: before)) (text : List Char) :
    ¬ pattern <+: c :: (before ++ text) := by
  intro found
  obtain ⟨notPrefix, notBeginning, -⟩ := avoids_cons.mp h
  rcases List.prefix_or_prefix_of_prefix found (List.prefix_append (c :: before) text) with e | e
  · exact notPrefix e
  · exact notBeginning e

theorem cut?_self (pattern rest : List Char) :
    cut? pattern (pattern ++ rest) = some ([], rest) := by
  cases pattern with
  | nil => cases rest <;> rfl
  | cons c pattern =>
    have found := isPrefixOf?_append (c :: pattern) rest
    rw [List.cons_append] at found ⊢
    rw [cut?, found]

/-- What a reader finds is what stands before the pattern, when the pattern does
not begin there. -/
theorem cut?_append {pattern before : List Char} (h : Avoids pattern before) (rest : List Char) :
    cut? pattern (before ++ (pattern ++ rest)) = some (before, rest) := by
  induction before with
  | nil => exact cut?_self pattern rest
  | cons c before ih =>
    rw [List.cons_append, cut?, isPrefixOf?_eq_none (not_prefix_of_avoids h _),
      ih (avoids_cons.mp h).2.2]
    rfl

theorem cut?_of_avoids {pattern text : List Char} (h : Avoids pattern text) (hp : pattern ≠ []) :
    cut? pattern text = none := by
  induction text with
  | nil => rw [cut?, if_neg hp]
  | cons c text ih =>
    have here := not_prefix_of_avoids h []
    rw [List.append_nil] at here
    rw [cut?, isPrefixOf?_eq_none here, ih (avoids_cons.mp h).2.2]
    rfl

/-- The text may also end like a beginning of the pattern, when the last
character of the pattern is new. -/
theorem cut?_append_of_notMem {c : Char} {pattern before : List Char} (h : c ∉ before)
    (hp : c ∉ pattern) (rest : List Char) :
    cut? (pattern ++ [c]) (before ++ (pattern ++ [c] ++ rest)) = some (before, rest) := by
  induction before with
  | nil => exact cut?_self (pattern ++ [c]) rest
  | cons d before ih =>
    have later : ¬ pattern ++ [c] <+: d :: (before ++ (pattern ++ [c] ++ rest)) := by
      intro found
      have early : pattern ++ [c] <+: d :: (before ++ pattern) := by
        refine List.prefix_of_prefix_length_le found ⟨[c] ++ rest, by simp⟩ ?_
        simp only [List.length_append, List.length_cons, List.length_nil]
        omega
      have mem := early.subset (List.mem_append_right pattern List.mem_cons_self)
      simp only [List.mem_cons, List.mem_append] at mem h
      rcases mem with e | mem | mem
      · exact h (.inl e)
      · exact h (.inr mem)
      · exact hp mem
    rw [List.cons_append, cut?, isPrefixOf?_eq_none later,
      ih (List.not_mem_of_not_mem_cons h)]
    rfl

theorem between?_eq {opening closing before inner text rest : List Char}
    (h₁ : Avoids opening before) (h₂ : cut? closing text = some (inner, rest)) :
    between? opening closing (before ++ (opening ++ text)) = some inner := by
  rw [between?, cut?_append h₁]
  show ((cut? closing text).bind fun _ => _) = _
  rw [h₂]
  rfl

theorem between?_append {opening closing before inner : String}
    (h₁ : Avoids opening.toList before.toList) (h₂ : Avoids closing.toList inner.toList)
    (rest : String) :
    between? opening.toList closing.toList
      (before ++ (opening ++ (inner ++ (closing ++ rest)))).toList = some inner.toList := by
  simp only [String.toList_append]
  exact between?_eq h₁ (cut?_append h₂ rest.toList)

theorem between?_append_of_notMem {opening pattern before inner : String} {c : Char}
    (h₁ : Avoids opening.toList before.toList) (h₂ : c ∉ inner.toList) (hp : c ∉ pattern.toList)
    (rest : String) :
    between? opening.toList (pattern.push c).toList
      (before ++ (opening ++ (inner ++ (pattern.push c ++ rest)))).toList = some inner.toList := by
  simp only [String.toList_append, String.toList_push]
  exact between?_eq h₁ (cut?_append_of_notMem h₂ hp rest.toList)

/-! ## Reading forms -/

/-- The fields of a text, each of them ended by its mark. Nothing may follow the
last mark. -/
def fieldsBefore? : (marks : List String) → List Char → Option (List String)
  | [], text => if text = [] then some [] else none
  | mark :: marks, text => do
    let (field, rest) ← cut? mark.toList text
    let fields ← fieldsBefore? marks rest
    return String.ofList field :: fields

/-- The fields of a text that begins with `opening`. -/
def fields? (opening : String) (marks : List String) (text : List Char) : Option (List String) :=
  (opening.toList.isPrefixOf? text).bind (fieldsBefore? marks)

theorem fieldsBefore?_append {mark field : String} (h : Avoids mark.toList field.toList)
    (marks : List String) (rest : String) :
    fieldsBefore? (mark :: marks) (field ++ (mark ++ rest)).toList =
      (fieldsBefore? marks rest.toList).map (field :: ·) := by
  rw [String.toList_append, String.toList_append, fieldsBefore?, cut?_append h]
  show ((fieldsBefore? marks rest.toList).bind fun fields =>
    some (String.ofList field.toList :: fields)) = _
  rw [String.ofList_toList]
  cases fieldsBefore? marks rest.toList <;> rfl

theorem fieldsBefore?_last {mark field : String} (h : Avoids mark.toList field.toList) :
    fieldsBefore? [mark] (field ++ mark).toList = some [field] := by
  have last := fieldsBefore?_append h [] ""
  rw [String.append_empty] at last
  rw [last]
  rfl

theorem fields?_append (opening : String) (marks : List String) (rest : String) :
    fields? opening marks (opening ++ rest).toList = fieldsBefore? marks rest.toList := by
  rw [fields?, String.toList_append, isPrefixOf?_append]
  rfl

/-! ## Taking lists apart -/

/-- Whether a character counts for the nesting of angle brackets. -/
inductive Nesting where
  /-- Brackets are characters like any other. -/
  | ignored
  /-- Angle brackets enclose what stands between them. -/
  | angled

/-- How many brackets are open behind a character. -/
def Nesting.after : Nesting → (depth : Nat) → Char → Nat
  | .angled, depth, '<' => depth + 1
  | .angled, depth, '>' => depth - 1
  | _, depth, _ => depth

/-- The pieces between occurrences of a separator outside of brackets. Of the
last occurrence, `skip` characters have still to be passed over. -/
def piecesAfter (nesting : Nesting) (separator : List Char) :
    (depth skip : Nat) → List Char → List (List Char)
  | _, _, [] => [[]]
  | depth, skip + 1, _ :: text => piecesAfter nesting separator depth skip text
  | depth, 0, c :: text =>
    if depth = 0 ∧ separator.isPrefixOf (c :: text) then
      [] :: piecesAfter nesting separator 0 (separator.length - 1) text
    else (piecesAfter nesting separator (nesting.after depth c) 0 text).modifyHead (c :: ·)

/-- The items of a text with a separator between them. A text without
characters has none. -/
def itemsOf (nesting : Nesting) (separator text : List Char) : List (List Char) :=
  if text = [] then [] else piecesAfter nesting separator 0 0 text

/-- A text that is passed over as a part of one piece. -/
def Whole (nesting : Nesting) (separator text : List Char) : Prop :=
  ∀ rest, piecesAfter nesting separator 0 0 (text ++ rest) =
    (piecesAfter nesting separator 0 0 rest).modifyHead (text ++ ·)

section Pieces

variable {nesting : Nesting} {separator : List Char}

theorem whole_append {first second : List Char} (h₁ : Whole nesting separator first)
    (h₂ : Whole nesting separator second) : Whole nesting separator (first ++ second) := by
  intro rest
  rw [List.append_assoc, h₁, h₂, List.modifyHead_modifyHead]
  congr 1
  funext piece
  exact (List.append_assoc first second piece).symm

theorem whole_of_avoids {text : List Char} (h : Avoids separator text)
    (level : ∀ c ∈ text, nesting.after 0 c = 0) : Whole nesting separator text := by
  intro rest
  induction text with
  | nil =>
    rw [List.nil_append]
    cases piecesAfter nesting separator 0 0 rest <;> rfl
  | cons c text ih =>
    obtain ⟨head, tail⟩ := List.forall_mem_cons.mp level
    have here := not_prefix_of_avoids h rest
    rw [List.cons_append, piecesAfter, if_neg (by simpa using here), head,
      ih (avoids_cons.mp h).2.2 tail,
      List.modifyHead_modifyHead]
    rfl

/-- Inside of brackets, separators are characters like any other. -/
theorem piecesAfter_inside {text : List Char} (h : ∀ c ∈ text, c ≠ '<' ∧ c ≠ '>')
    (rest : List Char) :
    piecesAfter .angled separator 1 0 (text ++ '>' :: rest) =
      (piecesAfter .angled separator 0 0 rest).modifyHead (text ++ '>' :: ·) := by
  induction text with
  | nil =>
    rw [List.nil_append, piecesAfter, if_neg (by simp)]
    rfl
  | cons c text ih =>
    obtain ⟨⟨notOpening, notClosing⟩, tail⟩ := List.forall_mem_cons.mp h
    have level : Nesting.angled.after 1 c = 1 := by
      unfold Nesting.after
      split <;> simp_all
    rw [List.cons_append, piecesAfter, if_neg (by simp), level, ih tail, List.modifyHead_modifyHead]
    rfl

/-- A text in angle brackets is passed over as a part of one piece. -/
theorem whole_angled {c : Char} {text : List Char} (hc : c ≠ '<')
    (h : ∀ c ∈ text, c ≠ '<' ∧ c ≠ '>') :
    Whole .angled (c :: separator) ('<' :: (text ++ ['>'])) := by
  intro rest
  rw [List.cons_append, List.append_assoc, List.singleton_append, piecesAfter,
    if_neg (by simp [hc])]
  show (piecesAfter .angled (c :: separator) 1 0 (text ++ '>' :: rest)).modifyHead _ = _
  rw [piecesAfter_inside h, List.modifyHead_modifyHead]
  congr 1
  funext piece
  simp

theorem piecesAfter_skip (read rest : List Char) :
    piecesAfter nesting separator 0 read.length (read ++ rest) =
      piecesAfter nesting separator 0 0 rest := by
  induction read with
  | nil => rfl
  | cons c read ih => exact ih

theorem piecesAfter_separator (h : separator ≠ []) (rest : List Char) :
    piecesAfter nesting separator 0 0 (separator ++ rest) =
      [] :: piecesAfter nesting separator 0 0 rest := by
  cases separator with
  | nil => exact absurd rfl h
  | cons c separator =>
    rw [List.cons_append, piecesAfter, if_pos ⟨rfl, by simp⟩, List.length_cons,
      Nat.add_sub_cancel, piecesAfter_skip]

theorem piecesAfter_intercalate (h : separator ≠ []) (item : List Char) (items : List (List Char))
    (whole : ∀ text ∈ item :: items, Whole nesting separator text) :
    piecesAfter nesting separator 0 0 (separator.intercalate (item :: items)) = item :: items := by
  induction items generalizing item with
  | nil =>
    have last := whole item List.mem_cons_self []
    rw [List.append_nil] at last
    rw [List.intercalate_singleton, last]
    simp [piecesAfter]
  | cons next items ih =>
    obtain ⟨head, tail⟩ := List.forall_mem_cons.mp whole
    rw [List.intercalate_cons_cons, List.append_assoc, head, piecesAfter_separator h, ih next tail]
    simp

/-- Taking apart at a separator undoes joining with it, for items that are not
taken apart themselves. Only a list of one empty item is not told from the empty
list. -/
theorem itemsOf_intercalate {items : List (List Char)} (h : separator ≠ [])
    (filled : items ≠ [[]]) (whole : ∀ text ∈ items, Whole nesting separator text) :
    itemsOf nesting separator (separator.intercalate items) = items := by
  cases items with
  | nil => rfl
  | cons item items =>
    have some : separator.intercalate (item :: items) ≠ [] := by
      intro empty
      cases items with
      | nil =>
        rw [List.intercalate_singleton] at empty
        exact filled (congrArg (· :: []) empty)
      | cons next items =>
        rw [List.intercalate_cons_cons, List.append_assoc] at empty
        exact h (List.append_eq_nil_iff.mp (List.append_eq_nil_iff.mp empty).2).1
    rw [itemsOf, if_neg some, piecesAfter_intercalate h item items whole]

end Pieces

end FactoryOverloads.Text
