import FactoryOverloads.Log.Filter

/-!
# Filters that are levels

A specification can be the word of a level (`Level.word`). However texts are searched,
nothing about it is to be complained of, and a record is shown exactly when it is at
least as urgent (`Filter.parse_word`, `Filter.shows_ofLevel`). No record is more urgent
than a warning (`Record.level_ne_error`).
-/

namespace FactoryOverloads

namespace Level

/-- The word that asks for a level in a specification. -/
def word : Level → String
  | .error => "error"
  | .warn => "warn"
  | .info => "info"
  | .debug => "debug"
  | .trace => "trace"

theorem toLower_word (level : Level) : level.word.toLower = level.word := by
  apply String.toList_inj.mp
  refine (String.toList_map).trans ?_
  cases level <;> rfl

theorem toLower_name (level : Level) : level.name.toLower = level.word := by
  apply String.toList_inj.mp
  refine (String.toList_map).trans ?_
  cases level <;> rfl

theorem threshold?_word (level : Level) : threshold? level.word = some (some level) := by
  have switchedOn : level.word ≠ "off" := by cases level <;> decide
  simp only [threshold?, toLower_word, if_neg switchedOn, toLower_name]
  cases level <;> rfl

theorem rank_le_error_iff {level : Level} : level.rank ≤ error.rank ↔ level = error := by
  cases level <;> decide

theorem rank_le_warn_iff {level : Level} :
    level.rank ≤ warn.rank ↔ level = error ∨ level = warn := by
  cases level <;> decide

end Level

namespace Filter

/-- The filter that shows what is at least as urgent as a level. -/
def ofLevel (level : Level) : Filter := ⟨[⟨none, some level⟩], anyText⟩

theorem parseDirectives_word (level : Level) :
    parseDirectives level.word = ([⟨none, some level⟩], []) := by
  have parts : ((Text.split ',' level.word).map Text.trim).filter (!·.isEmpty) = [level.word] := by
    cases level <;> rfl
  have name : Text.split '=' level.word = [level.word] := by cases level <;> rfl
  rw [parseDirectives, parts, List.foldl_cons, parseDirective, name]
  dsimp only
  rw [Level.threshold?_word]
  rfl

theorem parse_word (search : Search) (level : Level) :
    parse search level.word = (ofLevel level, []) := by
  have parts : Text.split '/' level.word = [level.word] := by cases level <;> rfl
  rw [parse, parts]
  dsimp only
  rw [parseDirectives_word, ofDirectives, List.mergeSort_singleton]
  rfl

theorem shows_ofLevel (level : Level) (record : Record) :
    (ofLevel level).shows record = decide (record.level.rank ≤ level.rank) := by
  show (Directive.permits ⟨none, some level⟩ record.level && anyText record.text) = _
  rw [anyText, Bool.and_true]
  rfl

end Filter

namespace Record

/-- No record is about an error, which ends a run with a report instead. -/
theorem level_ne_error (record : Record) : record.level ≠ .error := by
  cases record <;> exact nofun

/-- The records that a filter for warnings shows are warnings. -/
theorem shows_warn_iff {record : Record} :
    (Filter.ofLevel .warn).shows record = true ↔ record.level = .warn := by
  rw [Filter.shows_ofLevel, decide_eq_true_iff, Level.rank_le_warn_iff]
  exact or_iff_right record.level_ne_error

/-- A filter for errors shows no record. -/
theorem shows_error {record : Record} : (Filter.ofLevel .error).shows record = false := by
  rw [Filter.shows_ofLevel, decide_eq_false_iff_not, Level.rank_le_error_iff]
  exact record.level_ne_error

end Record

end FactoryOverloads
