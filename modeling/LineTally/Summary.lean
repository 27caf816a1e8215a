import LineTally.Tally

/-!
# What a run came to
-/

namespace LineTally

/-- What a run came to. -/
structure Summary where
  /-- The sum of what the workers counted. -/
  tally : Tally
  /-- The lines that the source gave. -/
  linesRead : Count
  /-- The lines put into the queue. -/
  produced : Count
  /-- The run was cut short. -/
  cancelled : Bool
  /-- The error of the source. -/
  sourceError : Option String
  deriving DecidableEq, Repr

end LineTally
