import LineTally.Predicate
import LineTally.Proofs.Reader

/-!
# What a search finds

A search for a term finds it wherever it occurs in a line; if case is ignored, it finds the
lower-case form of the term in that of the line.  Nothing is found in an empty line, so that it does
not matter whether empty lines are looked at.
-/

namespace LineTally

namespace Text

theorem lowerChar_ne_nil (char : Char) : lowerChar char ≠ [] := by
  unfold lowerChar
  split
  · exact List.cons_ne_nil _ _
  · split
    · exact List.cons_ne_nil _ _
    · split <;> exact List.cons_ne_nil _ _

theorem lowerIn_ne_nil (before : List Char) (char : Char) (after : List Char) :
    lowerIn before char after ≠ [] := by
  unfold lowerIn
  split
  · split <;> exact List.cons_ne_nil _ _
  · exact lowerChar_ne_nil char

/-- Only the empty text is empty in lower case. -/
theorem lowercase_eq_nil_iff {text : List Char} : lowercase text = [] ↔ text = [] := by
  cases text with
  | nil => simp
  | cons char after => simp [lowercase, lowerIn_ne_nil]

end Text

namespace Search

/-- Whether a line holds a term, which may be to be compared in lower case. -/
def Occurs (term : String) (ignoreCase : Bool) (line : String) : Prop :=
  if ignoreCase then Text.lowercase term.toList <:+: Text.lowercase line.toList
  else term.toList <:+: line.toList

/-- The search for a term finds it where it occurs. -/
theorem holds_ofTerm_iff (term : String) (ignoreCase : Bool) (line : String) :
    (ofTerm term ignoreCase).holds line = true ↔ Occurs term ignoreCase line := by
  cases ignoreCase with
  | false => exact Text.occursIn_iff
  | true =>
      rw [ofTerm, if_pos rfl, caseless, holds, if_pos rfl, String.toList_ofList, Occurs, if_pos rfl]
      exact Text.occursIn_iff

/-- Nothing is found in an empty line. -/
theorem holds_empty {term : String} (some : term ≠ "") (ignoreCase : Bool) :
    (ofTerm term ignoreCase).holds "" = false := by
  have chars : term.toList ≠ [] := by simpa using some
  rw [Bool.eq_false_iff]
  intro found
  have occurs := (holds_ofTerm_iff term ignoreCase "").mp found
  unfold Occurs at occurs
  split at occurs
  · exact chars (Text.lowercase_eq_nil_iff.mp (List.infix_nil.mp occurs))
  · exact chars (List.infix_nil.mp occurs)

/-- Empty lines do not count. -/
theorem countP_nonEmpty {term : String} (some : term ≠ "") (ignoreCase : Bool)
    (lines : List String) :
    (nonEmpty lines).countP (ofTerm term ignoreCase).holds =
      lines.countP (ofTerm term ignoreCase).holds := by
  rw [nonEmpty, List.countP_filter]
  apply List.countP_congr
  intro line _
  by_cases empty : line = ""
  · simp [empty, holds_empty some]
  · simp [empty]

end Search

end LineTally
