import FactoryOverloads.Proofs.Emission.Frame
import FactoryOverloads.Proofs.Emission.Words

/-!
# What a prologue tells

A prologue names the target's kind of overloads and both bounds of the arities,
each of them ended by a mark of its own. A reader (`heading?`) finds them in every
text that begins with the prologue, whatever follows (`heading?_prologueText`):
the digits of a bound hold no mark, so that a shorter number and what follows it
are never taken for a longer one. So the prologues of different targets or bounds
do not begin one another (`prologueText_append_inj`).
-/

namespace FactoryOverloads.Target

open Text (Avoids cut? cut?_append)

/-- What the overloads of a target are called. -/
def overloadsName : Target → String
  | .cpp => "overloads"
  | .rust => "functions"

theorem overloadsName_injective : Function.Injective overloadsName := by
  intro first second h
  cases first <;> cases second <;> first | rfl | exact absurd h (by decide)

/-- The name of the overloads and the bounds that a text tells, as far as it has
the marks that end them. -/
def heading? (text : List Char) : Option (List Char × List Char × List Char) := do
  let (_, text) ← cut? "Factory ".toList text
  let (name, text) ← cut? " for constructor arities ".toList text
  let (least, text) ← cut? " through ".toList text
  let (most, _) ← cut? ".".toList text
  return (name, least, most)

/-- The beginning of a prologue, mark by mark. -/
theorem exists_prologueText (minArity maxArity : Nat) (target : Target) :
    ∃ closing, prologueText minArity maxArity target =
      "// @generated by genmakeimpl. Do not edit by hand.\n//\n// " ++ ("Factory " ++
        (target.overloadsName ++ (" for constructor arities " ++ (toString minArity ++
          (" through " ++ (toString maxArity ++ ("." ++ closing))))))) := by
  cases target with
  | cpp =>
    unfold prologueText overloadsName
    rw [show "// Factory overloads for constructor arities " =
      "// " ++ ("Factory " ++ ("overloads" ++ " for constructor arities ")) from rfl,
      show ".\n" = "." ++ "\n" from rfl,
      show "// @generated by genmakeimpl. Do not edit by hand.\n//\n// " =
        "// @generated by genmakeimpl. Do not edit by hand.\n" ++ ("//\n" ++ "// ") from rfl]
    simp only [String.append_assoc]
    exact ⟨_, rfl⟩
  | rust =>
    unfold prologueText overloadsName
    rw [show "// Factory functions for constructor arities " =
      "// " ++ ("Factory " ++ ("functions" ++ " for constructor arities ")) from rfl,
      show ".\n" = "." ++ "\n" from rfl,
      show "// @generated by genmakeimpl. Do not edit by hand.\n//\n// " =
        "// @generated by genmakeimpl. Do not edit by hand.\n" ++ ("//\n" ++ "// ") from rfl]
    simp only [String.append_assoc]
    exact ⟨_, rfl⟩

/-- A reader finds in a prologue what it has been made of. -/
theorem heading?_prologueText (minArity maxArity : Nat) (target : Target) (rest : List Char) :
    heading? ((prologueText minArity maxArity target).toList ++ rest) =
      some (target.overloadsName.toList, (toString minArity).toList,
        (toString maxArity).toList) := by
  obtain ⟨closing, shape⟩ := exists_prologueText minArity maxArity target
  have name : Avoids " for constructor arities ".toList target.overloadsName.toList := by
    cases target <;> decide
  have digits {mark : List Char} (start : mark.head?.map Char.isDigit = some false) (n : Nat) :
      Avoids mark (toString n).toList :=
    (show Text.Spelled [] _ from spelled_toString n).avoids (by simp) start
  rw [shape]
  simp only [String.toList_append, List.append_assoc]
  rw [heading?, cut?_append (by decide +kernel)]
  show (cut? _ _).bind _ = _
  rw [cut?_append name]
  show (cut? _ _).bind _ = _
  rw [cut?_append (digits rfl minArity)]
  show (cut? _ _).bind _ = _
  rw [cut?_append (digits rfl maxArity)]
  rfl

/-- A text begins with the prologue of one target and one pair of bounds at
most. -/
theorem prologueText_append_inj {first second : Target} {min₁ max₁ min₂ max₂ : Nat}
    {rest₁ rest₂ : List Char}
    (h : (prologueText min₁ max₁ first).toList ++ rest₁ =
      (prologueText min₂ max₂ second).toList ++ rest₂) :
    (first, min₁, max₁) = (second, min₂, max₂) := by
  have told := congrArg heading? h
  rw [heading?_prologueText, heading?_prologueText, Option.some_inj, Prod.mk.injEq,
    Prod.mk.injEq] at told
  obtain ⟨name, least, most⟩ := told
  rw [overloadsName_injective (String.toList_injective name), toString_nat_injective least,
    toString_nat_injective most]

end FactoryOverloads.Target
