import LineTally.Text.Lowercase

/-!
# Predicates on lines

A predicate says whether a line counts.  The usual one looks for a term anywhere in the line; it may
ignore case by comparing lower-case forms.
-/

namespace LineTally

namespace Text

/-- Whether a stretch of characters occurs in a line. -/
def occursIn (term : List Char) : List Char → Bool
  | [] => term.isEmpty
  | char :: rest => term.isPrefixOf (char :: rest) || occursIn term rest

/-- Looking for a stretch of characters finds it exactly where it is. -/
theorem occursIn_iff {term line : List Char} : occursIn term line = true ↔ term <:+: line := by
  induction line with
  | nil => simp [occursIn]
  | cons char rest ih => simp [occursIn, ih, List.infix_cons_iff]

end Text

/-- The search for a term. -/
structure Search where
  /-- The term that lines are compared with. -/
  term : String
  /-- Whether lines are put into lower case before they are compared. -/
  ignoreCase : Bool := false
  deriving DecidableEq, Repr

namespace Search

/-- The search for a term as it is written. -/
def exact (term : String) : Search := { term }

/-- The search for a term in lower case, in the lower-case forms of the lines. -/
def caseless (term : String) : Search :=
  { term := String.ofList (Text.lowercase term.toList), ignoreCase := true }

/-- The search for a term, ignoring case or not. -/
def ofTerm (term : String) (ignoreCase : Bool) : Search :=
  if ignoreCase then caseless term else exact term

/-- Whether a line holds the term. -/
def holds (search : Search) (line : String) : Bool :=
  if search.ignoreCase then Text.occursIn search.term.toList (Text.lowercase line.toList)
  else Text.occursIn search.term.toList line.toList

end Search

end LineTally
