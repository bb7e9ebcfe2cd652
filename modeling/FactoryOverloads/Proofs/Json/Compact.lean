import Mathlib.Data.List.Basic
import FactoryOverloads.Signature.Json
import FactoryOverloads.Proofs.Text.Number

/-!
# The compact form of a document

No two documents have one compact form (`Json.compact_injective`). A form also
stands inside of longer ones, so that what is proved by induction on the document
is more: the form tells where it ends, whatever follows, if only that is no digit
(`Json.Ends`, `Json.ends_compact`).

* A character of a string is read back from its escapes (`Json.unescape?_escaped`),
  and none of them begins with the quote that ends the string.
* The items of a list are told apart by the commas, and the last one by the bracket
  behind it, which no item begins with (`Json.listed_append_inj`).
* The first character tells which kind of document follows (`Json.mark?_eq`).
-/

namespace FactoryOverloads.Json

variable {rest rest' : List Char}

/-! ## Strings -/

/-- The value of a hexadecimal digit. -/
def hexValue (c : Char) : Nat :=
  if c.isDigit then c.toNat - '0'.toNat else c.toNat - 'a'.toNat + 10

theorem hexValue_hexDigit : ∀ n < 16, hexValue (hexDigit n) = n := by decide

/-- The character that is escaped by another one behind a backslash. -/
def shortEscape? (c : Char) : Option Char :=
  [('"', '"'), ('\\', '\\'), ('n', '\n'), ('r', '\r'), ('t', '\t'), ('b', '\x08'),
    ('f', '\x0c')].lookup c

/-- The character whose escape follows a backslash, and the text behind it. -/
def readEscape? : List Char → Option (Char × List Char)
  | 'u' :: '0' :: '0' :: high :: low :: text =>
    some (Char.ofNat (16 * hexValue high + hexValue low), text)
  | c :: text => (shortEscape? c).map (·, text)
  | [] => none

/-- The first character of a string's inside, and the text behind it. -/
def unescape? : List Char → Option (Char × List Char)
  | '\\' :: text => readEscape? text
  | c :: text => some (c, text)
  | [] => none

theorem unescape?_escaped (c : Char) (rest : List Char) :
    unescape? (escaped c ++ rest) = some (c, rest) := by
  unfold escaped
  split_ifs with quote backslash newline ret tab back feed control
  · rw [quote]; rfl
  · rw [backslash]; rfl
  · rw [newline]; rfl
  · rw [ret]; rfl
  · rw [tab]; rfl
  · rw [show c = '\x08' from Char.toNat_inj.mp back]; rfl
  · rw [show c = '\x0c' from Char.toNat_inj.mp feed]; rfl
  · show some (Char.ofNat (16 * hexValue (hexDigit (c.toNat / 16)) +
      hexValue (hexDigit (c.toNat % 16))), rest) = some (c, rest)
    rw [hexValue_hexDigit _ (by omega), hexValue_hexDigit _ (by omega), Nat.div_add_mod,
      Char.ofNat_toNat]
  · simp [unescape?]

theorem escaped_append_inj {c d : Char} (h : escaped c ++ rest = escaped d ++ rest') :
    c = d ∧ rest = rest' := by
  have read := congrArg unescape? h
  simpa [unescape?_escaped] using read

/-- No character of a string begins like the quote that ends it. -/
theorem escaped_append_ne (c : Char) (rest rest' : List Char) :
    escaped c ++ rest ≠ '"' :: rest' := by
  unfold escaped
  split_ifs with quote <;> simp_all

theorem inside_append_inj {text text' : List Char}
    (h : text.flatMap escaped ++ '"' :: rest = text'.flatMap escaped ++ '"' :: rest') :
    text = text' ∧ rest = rest' := by
  induction text generalizing text' with
  | nil =>
    cases text' with
    | nil => exact ⟨rfl, (List.cons.inj h).2⟩
    | cons d text' =>
      rw [List.flatMap_cons, List.append_assoc] at h
      exact absurd h.symm (escaped_append_ne d _ _)
  | cons c text ih =>
    rw [List.flatMap_cons, List.append_assoc] at h
    cases text' with
    | nil => exact absurd h (escaped_append_ne c _ _)
    | cons d text' =>
      rw [List.flatMap_cons, List.append_assoc] at h
      obtain ⟨rfl, more⟩ := escaped_append_inj h
      obtain ⟨rfl, same⟩ := ih more
      exact ⟨rfl, same⟩

theorem toList_quoted (s : String) :
    (quoted s).toList = '"' :: (s.toList.flatMap escaped ++ ['"']) := by
  rw [quoted, String.toList_ofList, List.cons_append]

theorem quoted_append_inj {s t : String}
    (h : (quoted s).toList ++ rest = (quoted t).toList ++ rest') : s = t ∧ rest = rest' := by
  simp only [toList_quoted, List.cons_append, List.append_assoc, List.nil_append,
    List.cons.injEq, true_and] at h
  obtain ⟨characters, same⟩ := inside_append_inj h
  exact ⟨String.toList_injective characters, same⟩

/-! ## Lists -/

/-- The text of a value is not that of another one, and ends where it ends, whatever
follows. A digit must not follow, since it would belong to a number. -/
def Ends {α : Type} (text : α → List Char) (a : α) : Prop :=
  ∀ (b : α) (rest rest' : List Char), EndsNumber rest → EndsNumber rest' →
    text a ++ rest = text b ++ rest' → a = b ∧ rest = rest'

section Lists

variable {α : Type} {text : α → List Char} {closing : Char} {items items' : List α}

/-- The first of the items has no comma before it, and all others have. -/
theorem intercalate_comma_cons (text : α → List Char) (a : α) (items : List α) :
    [','].intercalate ((a :: items).map text) = text a ++ items.flatMap (',' :: text ·) := by
  induction items generalizing a with
  | nil => simp
  | cons b items ih =>
    rw [List.map_cons, List.map_cons, List.intercalate_cons_cons, ← List.map_cons, ih b,
      List.flatMap_cons]
    simp

/-- What follows an item is a comma or the closing bracket. -/
theorem endsNumber_items (mark : closing.isDigit = false) (text : α → List Char)
    (items : List α) (rest : List Char) :
    EndsNumber (items.flatMap (',' :: text ·) ++ closing :: rest) := by
  cases items with
  | nil => exact endsNumber_cons mark
  | cons b items => exact endsNumber_cons (by decide)

/-- Items behind commas, by induction on them. -/
theorem items_append_inj (mark : closing.isDigit = false) (comma : closing ≠ ',')
    (each : ∀ a ∈ items, Ends text a)
    (h : items.flatMap (',' :: text ·) ++ closing :: rest =
      items'.flatMap (',' :: text ·) ++ closing :: rest') : items = items' ∧ rest = rest' := by
  induction items generalizing items' with
  | nil =>
    cases items' with
    | nil => exact ⟨rfl, (List.cons.inj h).2⟩
    | cons b items' => exact absurd (List.cons.inj h).1 comma
  | cons a items ih =>
    cases items' with
    | nil => exact absurd (List.cons.inj h).1.symm comma
    | cons b items' =>
      obtain ⟨own, others⟩ := List.forall_mem_cons.mp each
      simp only [List.flatMap_cons, List.cons_append, List.append_assoc, List.cons.injEq,
        true_and] at h
      obtain ⟨rfl, more⟩ := own b _ _ (endsNumber_items mark text items rest)
        (endsNumber_items mark text items' rest') h
      obtain ⟨rfl, same⟩ := ih others more
      exact ⟨rfl, same⟩

/-- A list up to the bracket behind it. No item begins with the bracket, so that the
empty list is told from the others. -/
theorem listed_append_inj (mark : closing.isDigit = false) (comma : closing ≠ ',')
    (starts : ∀ a rest rest', text a ++ rest ≠ closing :: rest')
    (each : ∀ a ∈ items, Ends text a)
    (h : [','].intercalate (items.map text) ++ closing :: rest =
      [','].intercalate (items'.map text) ++ closing :: rest') : items = items' ∧ rest = rest' := by
  cases items with
  | nil =>
    cases items' with
    | nil => exact ⟨rfl, (List.cons.inj h).2⟩
    | cons b items' =>
      rw [intercalate_comma_cons, List.append_assoc] at h
      exact absurd h.symm (starts b _ _)
  | cons a items =>
    cases items' with
    | nil =>
      rw [intercalate_comma_cons, List.append_assoc] at h
      exact absurd h (starts a _ _)
    | cons b items' =>
      rw [intercalate_comma_cons, intercalate_comma_cons, List.append_assoc,
        List.append_assoc] at h
      obtain ⟨own, others⟩ := List.forall_mem_cons.mp each
      obtain ⟨rfl, more⟩ := own b _ _ (endsNumber_items mark text items rest)
        (endsNumber_items mark text items' rest') h
      obtain ⟨rfl, same⟩ := items_append_inj mark comma others more
      exact ⟨rfl, same⟩

end Lists

/-! ## Documents -/

/-- Induction over a document, through the lists inside of it. -/
theorem induction {motive : Json → Prop} (number : ∀ value, motive (.number value))
    (string : ∀ value, motive (.string value))
    (array : ∀ items, (∀ item ∈ items, motive item) → motive (.array items))
    (object : ∀ members, (∀ member ∈ members, motive member.2) → motive (.object members))
    (document : Json) : motive document :=
  @Json.rec motive (fun items => ∀ item ∈ items, motive item)
    (fun members => ∀ member ∈ members, motive member.2) (fun member => motive member.2)
    number string array object nofun (fun _ _ head tail => List.forall_mem_cons.mpr ⟨head, tail⟩)
    nofun (fun _ _ head tail => List.forall_mem_cons.mpr ⟨head, tail⟩) (fun _ _ value => value)
    document

/-- The characters of a document's compact form. -/
def characters (document : Json) : List Char := document.compact.toList

/-- The characters of a member's compact form. -/
def memberCharacters (member : String × Json) : List Char :=
  (quoted member.1).toList ++ ':' :: member.2.characters

theorem map_toList_compactItems (items : List Json) :
    (compactItems items).map String.toList = items.map characters := by
  induction items with
  | nil => rfl
  | cons item items ih => rw [compactItems, List.map_cons, ih, List.map_cons, characters]

theorem map_toList_compactMembers (members : List (String × Json)) :
    (compactMembers members).map String.toList = members.map memberCharacters := by
  induction members with
  | nil => rfl
  | cons member members ih =>
    rw [compactMembers, List.map_cons, ih, List.map_cons, memberCharacters, characters]
    simp

theorem characters_number (value : Nat) :
    (number value).characters = (toString value).toList := by
  rw [characters, compact]

theorem characters_string (value : String) :
    (string value).characters = (quoted value).toList := by
  rw [characters, compact]

theorem characters_array (items : List Json) :
    (array items).characters = '[' :: ([','].intercalate (items.map characters) ++ [']']) := by
  rw [characters, compact, ← map_toList_compactItems]
  simp

theorem characters_object (members : List (String × Json)) :
    (object members).characters =
      '\x7b' :: ([','].intercalate (members.map memberCharacters) ++ ['\x7d']) := by
  rw [characters, compact, ← map_toList_compactMembers]
  simp

/-- The mark that a document begins with, unless it is a number. -/
def mark? : Json → Option Char
  | .number _ => none
  | .string _ => some '"'
  | .array _ => some '['
  | .object _ => some '\x7b'

/-- The first character tells the mark. -/
theorem mark?_eq (document : Json) (rest : List Char) :
    document.mark? = (document.characters ++ rest).head?.filter fun c => !c.isDigit := by
  cases document with
  | number value =>
    rw [characters_number]
    cases digits : (toString value).toList with
    | nil => simp at digits
    | cons c text =>
      have digit : c.isDigit = true :=
        isDigit_of_mem_toString (n := value) (by rw [digits]; exact List.mem_cons_self)
      rw [List.cons_append, List.head?_cons, Option.filter_some, digit]
      rfl
  | string value => rw [characters_string, toList_quoted]; rfl
  | array items => rw [characters_array]; rfl
  | object members => rw [characters_object]; rfl

theorem mark?_eq_of_append {first second : Json}
    (h : first.characters ++ rest = second.characters ++ rest') : first.mark? = second.mark? := by
  rw [mark?_eq first rest, mark?_eq second rest', h]

/-- No document begins with a bracket that closes an array. -/
theorem characters_append_ne (document : Json) (rest rest' : List Char) :
    document.characters ++ rest ≠ ']' :: rest' := by
  intro h
  have mark : document.mark? = some ']' := by rw [mark?_eq document rest, h]; rfl
  cases document <;> exact absurd mark (by simp [mark?])

/-- The value of a member ends where the member ends. -/
theorem ends_member {member : String × Json} (value : Ends characters member.2) :
    Ends memberCharacters member := by
  intro other rest rest' ends ends' h
  simp only [memberCharacters, List.append_assoc, List.cons_append] at h
  obtain ⟨name, h⟩ := quoted_append_inj h
  obtain ⟨same, more⟩ := value other.2 rest rest' ends ends' (List.cons.inj h).2
  exact ⟨Prod.ext name same, more⟩

/-- A compact form tells the document and where it ends, by induction on the
document. Documents of different kinds begin with different marks. -/
theorem ends_compact (document : Json) : Ends characters document := by
  induction document using induction with
  | number value =>
    intro other rest rest' ends ends' h
    have mark := mark?_eq_of_append h
    cases other with
    | number value' =>
      rw [characters_number, characters_number] at h
      obtain ⟨rfl, more⟩ := toString_append_inj ends ends' h
      exact ⟨rfl, more⟩
    | string _ | array _ | object _ => exact absurd mark (by simp [mark?])
  | string value =>
    intro other rest rest' ends ends' h
    have mark := mark?_eq_of_append h
    cases other with
    | string value' =>
      rw [characters_string, characters_string] at h
      obtain ⟨rfl, more⟩ := quoted_append_inj h
      exact ⟨rfl, more⟩
    | number _ | array _ | object _ => exact absurd mark (by simp [mark?])
  | array items each =>
    intro other rest rest' ends ends' h
    have mark := mark?_eq_of_append h
    cases other with
    | array items' =>
      simp only [characters_array, List.cons_append, List.append_assoc, List.nil_append,
        List.cons.injEq, true_and] at h
      obtain ⟨rfl, more⟩ :=
        listed_append_inj (by decide) (by decide) characters_append_ne each h
      exact ⟨rfl, more⟩
    | number _ | string _ | object _ => exact absurd mark (by simp [mark?])
  | object members each =>
    intro other rest rest' ends ends' h
    have mark := mark?_eq_of_append h
    cases other with
    | object members' =>
      simp only [characters_object, List.cons_append, List.append_assoc, List.nil_append,
        List.cons.injEq, true_and] at h
      have starts (member : String × Json) (rest rest' : List Char) :
          memberCharacters member ++ rest ≠ '\x7d' :: rest' := by
        simp [memberCharacters, toList_quoted]
      obtain ⟨rfl, more⟩ := listed_append_inj (by decide) (by decide) starts
        (fun member mem => ends_member (each member mem)) h
      exact ⟨rfl, more⟩
    | number _ | string _ | array _ => exact absurd mark (by simp [mark?])

/-- No two documents have one compact form. -/
theorem compact_injective : Function.Injective compact := by
  intro first second h
  refine (ends_compact first second [] [] endsNumber_nil endsNumber_nil ?_).1
  rw [characters, characters, h]

end FactoryOverloads.Json
