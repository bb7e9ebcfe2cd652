import Mathlib.Data.List.TakeWhile
import Mathlib.Logic.Function.Defs

/-!
# Numbers in texts

A number is written in decimal digits, and its digits give it back
(`toString_nat_injective`). In a longer text it ends where the digits end, so that
it is told apart from what follows when that begins with something else
(`toString_append_inj`).
-/

namespace FactoryOverloads

variable {m n : Nat}

theorem isDigit_of_mem_toString {c : Char} (h : c ∈ (toString n).toList) : c.isDigit = true := by
  rw [show (toString n).toList = Nat.toDigits 10 n from Nat.toList_repr] at h
  exact Nat.isDigit_of_mem_toDigits (by decide) (by decide) h

theorem toString_nat_injective : Function.Injective fun n : Nat => (toString n).toList := by
  intro m n h
  have numbers := congrArg (fun digits => Nat.ofDigitChars 10 digits 0) h
  simpa using numbers

/-- A text that does not go on with a digit. -/
def EndsNumber (rest : List Char) : Prop := ∀ c ∈ rest.head?, c.isDigit = false

theorem endsNumber_nil : EndsNumber [] := nofun

theorem endsNumber_cons {c : Char} {rest : List Char} (h : c.isDigit = false) :
    EndsNumber (c :: rest) := by
  simpa [EndsNumber] using h

theorem takeWhile_isDigit_toString {rest : List Char} (h : EndsNumber rest) :
    ((toString n).toList ++ rest).takeWhile Char.isDigit = (toString n).toList := by
  rw [List.takeWhile_append_of_pos fun _ => isDigit_of_mem_toString]
  cases rest with
  | nil => rw [List.takeWhile_nil, List.append_nil]
  | cons c rest =>
    have other : ¬ c.isDigit = true := by simp [h c rfl]
    rw [List.takeWhile_cons_of_neg other, List.append_nil]

/-- A number is read up to the last of its digits. -/
theorem toString_append_inj {rest rest' : List Char} (ends : EndsNumber rest)
    (ends' : EndsNumber rest') (h : (toString m).toList ++ rest = (toString n).toList ++ rest') :
    m = n ∧ rest = rest' := by
  have digits := congrArg (List.takeWhile Char.isDigit) h
  rw [takeWhile_isDigit_toString ends, takeWhile_isDigit_toString ends'] at digits
  rw [digits] at h
  exact ⟨toString_nat_injective digits, List.append_cancel_left h⟩

end FactoryOverloads
