import LineTally.Proofs.Command.Answers
import LineTally.Proofs.Text.Ascii
import LineTally.Proofs.Text.Lowercase

/-!
# What ignoring case finds

A search that ignores case compares lower-case forms.  On ASCII it finds the term up to the case of
letters, byte by byte.  Elsewhere it may miss a line that holds the term as it is written: the form
of a capital sigma depends on what stands around it, and in the line that may be something else than
in the term.  Terms that settle the form of their sigmas themselves are found wherever they occur,
and only those.
-/

namespace LineTally.Search

open Text

theorem holds_exact_iff {term line : String} :
    (exact term).holds line = true ↔ term.toList <:+: line.toList :=
  holds_ofTerm_iff term false line

theorem holds_caseless_iff {term line : String} :
    (caseless term).holds line = true ↔ lowercase term.toList <:+: lowercase line.toList :=
  holds_ofTerm_iff term true line

/-! ## Terms with capital sigmas -/

/-- If ignoring case loses no line that holds the term, it loses no line of the total.  Of two
commands that look for the term in the same bytes, and end well, the one that ignores case tells the
greater total, or the same. -/
theorem tells_more_of_keeps {term : String}
    (keeps : ∀ line, (exact term).holds line = true → (caseless term).holds line = true)
    {plain folded : Command.Task} {bytes : List UInt8} {failure : Option IoError}
    {interruptions interruptions' : Nat} {ending ending' : Command.Ending}
    (plainValid : plain.plan.check = .ok ()) (foldedValid : folded.plan.check = .ok ())
    (plainSearch : plain.plan.search = exact term)
    (foldedSearch : folded.plan.search = caseless term)
    (plainBrings : plain.input.Brings bytes failure)
    (foldedBrings : folded.input.Brings bytes failure)
    (plainEnds : plain.Ends interruptions ending) (foldedEnds : folded.Ends interruptions' ending')
    (plainFine : ending.code = 0) (foldedFine : ending'.code = 0) :
    ∃ found found', ending.Tells plain found ∧ ending'.Tells folded found' ∧ found ≤ found' := by
  have told := ((plainEnds.trustworthy plainValid plainBrings).whole plainFine).2
  have told' := ((foldedEnds.trustworthy foldedValid foldedBrings).whole foldedFine).2
  rw [plainSearch] at told
  rw [foldedSearch] at told'
  exact ⟨_, _, told, told', List.countP_mono_left fun line _ => keeps line⟩

/-- Ignoring case keeps all lines that hold a term exactly if the term settles the form of each
capital sigma in it: if it holds, for each of them, a cased letter behind it, or characters on both
sides that are not passed over, or such characters before it of which the last has no case.  In
particular it keeps them if the term has no capital sigma.  Then the total of a whole scan that
ignores case is at least that of one that does not. -/
theorem caseless_keeps_matches_iff_settled (term : String) :
    ((∀ line, (exact term).holds line = true → (caseless term).holds line = true) ↔
      SettlesSigmas term.toList) ∧
    (SettlesSigmas term.toList →
      ∀ (plain folded : Command.Task) (bytes : List UInt8) (failure : Option IoError)
        (interruptions interruptions' : Nat) (ending ending' : Command.Ending),
        plain.plan.check = .ok () → folded.plan.check = .ok () →
        plain.plan.search = exact term → folded.plan.search = caseless term →
        plain.input.Brings bytes failure → folded.input.Brings bytes failure →
        plain.Ends interruptions ending → folded.Ends interruptions' ending' →
        ending.code = 0 → ending'.code = 0 →
        ∃ found found', ending.Tells plain found ∧ ending'.Tells folded found' ∧
          found ≤ found') := by
  have keeps (settles : SettlesSigmas term.toList) (line : String)
      (found : (exact term).holds line = true) : (caseless term).holds line = true :=
    holds_caseless_iff.mpr (settles.lowercase_infix (holds_exact_iff.mp found))
  refine ⟨⟨fun kept => ?_, keeps⟩, ?_⟩
  · by_contra loose
    rcases exists_lowercase_not_infix loose with ⟨line, occurs, lost⟩
    have found : (exact term).holds (String.ofList line) = true := by
      rw [holds_exact_iff, String.toList_ofList]
      exact occurs
    have still := kept _ found
    rw [holds_caseless_iff, String.toList_ofList] at still
    exact lost still
  · intro settles plain folded bytes failure interruptions interruptions' ending ending'
    exact tells_more_of_keeps (keeps settles)

/-- A name whose capital sigma stands at its start, and is settled by the letter behind it: both
lines that spell it are counted when case is ignored, and one of them when it is not. -/
theorem caseless_keeps_matches_iff_settled_of_name :
    let term := "Σίσυφος"
    let bytes := Utf8.encode "Σίσυφος\nσίσυφος\n"
    let plain : Command.Task := {
      settings := .defaults ⟨2, by decide⟩, options := {}, term, input := .ofBytes bytes }
    let folded : Command.Task := { plain with options := { ignoreCase := true } }
    SettlesSigmas term.toList ∧ plain.plan.check = .ok () ∧ folded.plan.check = .ok () ∧
      plain.plan.search = exact term ∧ folded.plan.search = caseless term ∧
      plain.input.Brings bytes none ∧
      ∃ ending ending', plain.Ends 0 ending ∧ folded.Ends 0 ending' ∧
        ending.code = 0 ∧ ending'.code = 0 ∧
        ∃ found found', ending.Tells plain found ∧ ending'.Tells folded found' ∧
          found ≤ found' := by
  intro term bytes plain folded
  have settles : SettlesSigmas term.toList := by
    intro before after split
    cases before with
    | nil =>
        rw [show after = term.toList.tail by simp [split]]
        decide +kernel
    | cons char before =>
        have later : 'Σ' ∈ term.toList.tail := by simp [split]
        exact absurd later (by decide +kernel)
  have plainValid : plain.plan.check = .ok () := by decide +kernel
  have foldedValid : folded.plan.check = .ok () := by decide +kernel
  have brings : plain.input.Brings bytes none :=
    .reads (Lines.delivers_data bytes) (by decide)
  have few : (Lines.deliveredLines bytes none).length < Count.limit := by decide +kernel
  rcases Command.Task.ends_of_run plainValid ⟨0, .ofSeconds 0 0⟩ with ⟨events, report, ends⟩
  rcases Command.Task.ends_of_run foldedValid ⟨0, .ofSeconds 0 0⟩ with ⟨events', report', ends'⟩
  have fine := (ends.trustworthy plainValid brings).alone rfl rfl few
  have fine' := (ends'.trustworthy foldedValid brings).alone rfl rfl few
  exact ⟨settles, plainValid, foldedValid, rfl, rfl, brings, _, _, ends, ends', fine, fine',
    (caseless_keeps_matches_iff_settled term).2 settles plain folded bytes none 0 0 _ _ plainValid
      foldedValid rfl rfl brings brings ends ends' fine fine'⟩

/-- A capital sigma at the end of a word is not the one that is looked for. -/
theorem caseless_loses_final_sigma :
    (exact "Σ").holds "ΑΣ" = true ∧ (caseless "Σ").holds "ΑΣ" = false := by
  decide +kernel

/-! ## Terms and lines of ASCII -/

section Ascii

variable {term line : String}

/-- A stretch occurs in another if it is what some characters from an offset on are. -/
theorem infix_iff_exists_offset {α : Type} {part whole : List α} :
    part <:+: whole ↔ ∃ offset, (whole.drop offset).take part.length = part := by
  constructor
  · rintro ⟨before, after, rfl⟩
    exact ⟨before.length, by simp⟩
  · rintro ⟨offset, there⟩
    rw [← there]
    exact (List.take_prefix ..).isInfix.trans (List.drop_suffix ..).isInfix

theorem lowercase_of_ascii (ascii : IsAscii line) :
    lowercase line.toList = line.toList.map lowerAscii :=
  lowercaseFrom_of_ascii ascii []

/-- Texts of ASCII that agree byte by byte have one lower-case form. -/
theorem lowercase_eq_of_sameLetters {line' : String} (ascii : IsAscii line)
    (same : SameLetters (Utf8.encode line) (Utf8.encode line')) :
    lowercase line.toList = lowercase line'.toList := by
  have ascii' := same.isAscii ascii
  rw [encode_of_ascii ascii, encode_of_ascii ascii'] at same
  rw [lowercase_of_ascii ascii, lowercase_of_ascii ascii']
  exact (map_lowerAscii_eq_iff ascii ascii').mpr same

/-- The search finds the term where the bytes of the line agree with it. -/
theorem holds_caseless_iff_offset (termAscii : IsAscii term) (lineAscii : IsAscii line) :
    (caseless term).holds line = true ↔ ∃ offset,
      SameLetters (((Utf8.encode line).drop offset).take (Utf8.encode term).length)
        (Utf8.encode term) := by
  rw [holds_caseless_iff, lowercase_of_ascii termAscii, lowercase_of_ascii lineAscii,
    infix_iff_exists_offset]
  apply exists_congr
  intro offset
  have part : ∀ char ∈ (line.toList.drop offset).take term.toList.length, char.toNat < 0x80 :=
    fun char member => lineAscii char (List.mem_of_mem_drop (List.mem_of_mem_take member))
  rw [encode_of_ascii termAscii, encode_of_ascii lineAscii, List.length_map, List.length_map,
    ← List.map_drop, ← List.map_take, ← List.map_drop, ← List.map_take,
    map_lowerAscii_eq_iff part termAscii]

/-- On ASCII, ignoring case is ignoring the case of letters, byte by byte: the search finds the term
in a line exactly if, from some offset on, as many bytes of the line as the term has are those of
the term up to the case of letters.  So it comes to the same whatever the case of the letters in the
term and in the line, and what it finds in a line it finds as well behind or before other text. -/
theorem caseless_ignores_case_of_ascii (termAscii : IsAscii term) (lineAscii : IsAscii line) :
    ((caseless term).holds line = true ↔ ∃ offset,
      SameLetters (((Utf8.encode line).drop offset).take (Utf8.encode term).length)
        (Utf8.encode term)) ∧
    (∀ term' line', SameLetters (Utf8.encode term) (Utf8.encode term') →
      SameLetters (Utf8.encode line) (Utf8.encode line') →
      (caseless term').holds line' = (caseless term).holds line) ∧
    ∀ before after, IsAscii before → IsAscii after → (caseless term).holds line = true →
      (caseless term).holds (before ++ line ++ after) = true := by
  refine ⟨holds_caseless_iff_offset termAscii lineAscii, ?_, ?_⟩
  · intro term' line' sameTerm sameLine
    rw [Bool.eq_iff_iff, holds_caseless_iff, holds_caseless_iff,
      lowercase_eq_of_sameLetters termAscii sameTerm,
      lowercase_eq_of_sameLetters lineAscii sameLine]
  · intro before after beforeAscii afterAscii found
    rw [holds_caseless_iff] at found ⊢
    apply found.trans
    rw [lowercase_of_ascii lineAscii,
      lowercase_of_ascii ((beforeAscii.append lineAscii).append afterAscii), String.toList_append,
      String.toList_append, List.map_append, List.map_append]
    exact ⟨_, _, rfl⟩

end Ascii

/-- A term in other capitals than the line, which then stands between other text. -/
theorem caseless_ignores_case_of_ascii_of_quoted :
    let term := "Foo [1]"
    let line := "a fOO [1]!"
    IsAscii term ∧ IsAscii line ∧
      SameLetters (((Utf8.encode line).drop 2).take (Utf8.encode term).length)
        (Utf8.encode term) ∧
      (caseless "FOO [1]").holds "A foo [1]!" = true ∧
      (caseless term).holds (">> " ++ line ++ " <<") = true := by
  intro term line
  have termAscii : IsAscii term := by decide +kernel
  have lineAscii : IsAscii line := by decide +kernel
  have there : SameLetters (((Utf8.encode line).drop 2).take (Utf8.encode term).length)
      (Utf8.encode term) := by decide +kernel
  rcases caseless_ignores_case_of_ascii termAscii lineAscii with ⟨finds, same, more⟩
  have found := finds.mpr ⟨2, there⟩
  have around := more ">> " " <<" (by decide +kernel) (by decide +kernel) found
  refine ⟨termAscii, lineAscii, there, ?_, around⟩
  exact (same "FOO [1]" "A foo [1]!" (by decide +kernel) (by decide +kernel)).trans found

end LineTally.Search
