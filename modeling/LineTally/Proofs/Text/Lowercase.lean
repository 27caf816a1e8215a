import LineTally.Text.Lowercase
import Mathlib.Data.List.Basic

/-!
# Lower case in context

Inside a longer text, a text has the lower-case form that it has alone, but for its capital sigmas:
their form depends on what the first character that is not passed over is, on either side.  If the
text itself settles the form of each of them, its lower-case form occurs in that of every text in
which it occurs.  If it does not, one letter more is enough to lose it.
-/

namespace LineTally.Text

/-! ## The neighbours of a sigma -/

/-- There is a character that is not passed over. -/
def anchors (chars : List Char) : Bool :=
  chars.any (!isCaseIgnorable ·)

theorem meetsCased_cons (char : Char) (rest : List Char) :
    meetsCased (char :: rest) = if isCaseIgnorable char then meetsCased rest else isCased char := by
  cases passed : isCaseIgnorable char <;> simp [meetsCased, passed]

/-- The nearest characters decide, unless all of them are passed over. -/
theorem meetsCased_append (near far : List Char) :
    meetsCased (near ++ far) = if anchors near then meetsCased near else meetsCased far := by
  induction near with
  | nil => rfl
  | cons char rest ih =>
      rw [List.cons_append, meetsCased_cons, meetsCased_cons, ih]
      cases passed : isCaseIgnorable char <;> simp [anchors, passed]

/-- Characters that are all passed over are like none. -/
theorem meetsCased_of_bare {chars : List Char} (bare : anchors chars = false) :
    meetsCased chars = false := by
  have alone := meetsCased_append chars []
  rw [List.append_nil, bare] at alone
  exact alone

/-- Whether a capital sigma between these characters, nearest first, is at the end of a word. -/
def isFinal (before after : List Char) : Bool :=
  meetsCased before && !meetsCased after

/-- The forms of a small sigma. -/
def smallSigma (final : Bool) : Char :=
  if final then 'ς' else 'σ'

theorem count_smallSigma (final form : Bool) :
    [smallSigma final].count (smallSigma form) = if final = form then 1 else 0 := by
  cases final <;> cases form <;> decide

theorem lowerIn_sigma (before after : List Char) :
    lowerIn before 'Σ' after = [smallSigma (isFinal before after)] := by
  rw [lowerIn, if_pos rfl, isFinal, smallSigma]
  split <;> rfl

theorem lowerIn_of_ne {char : Char} (plain : char ≠ 'Σ') (before after : List Char) :
    lowerIn before char after = lowerChar char :=
  if_neg plain

/-- Whether the characters around a capital sigma, nearest first, settle whether it is at the end of
a word, whatever stands beyond them. -/
def isSettled (before after : List Char) : Bool :=
  meetsCased after || anchors before && (anchors after || !meetsCased before)

theorem isFinal_append {before after : List Char} (settled : isSettled before after = true)
    (further later : List Char) :
    isFinal (before ++ further) (after ++ later) = isFinal before after := by
  unfold isSettled at settled
  unfold isFinal
  rw [meetsCased_append, meetsCased_append]
  cases early : anchors before <;> cases late : anchors after
  · simp [early, meetsCased_of_bare late] at settled
  · rw [early, Bool.false_and, Bool.or_false] at settled
    simp [settled]
  · rw [early, late, meetsCased_of_bare late] at settled
    have lone : meetsCased before = false := by simpa using settled
    simp [lone]
  · rfl

/-- A sigma that is not settled is final for want of a neighbour behind it, or it is not final for
want of one before it. -/
theorem cases_of_not_settled {before after : List Char} (loose : isSettled before after = false) :
    (meetsCased before = true ∧ anchors after = false ∨ anchors before = false) ∧
      meetsCased after = false := by
  unfold isSettled at loose
  cases cased : meetsCased after <;> cases anchored : anchors before <;>
    cases behind : anchors after <;> cases early : meetsCased before <;> simp_all

/-! ## A text inside another -/

/-- Lower-cases characters that stand between others; those before come nearest first. -/
def lowercaseBetween (before : List Char) : List Char → List Char → List Char
  | [], _ => []
  | char :: rest, after =>
    lowerIn before char (rest ++ after) ++ lowercaseBetween (char :: before) rest after

theorem lowercaseFrom_append (before first second : List Char) :
    lowercaseFrom before (first ++ second) =
      lowercaseBetween before first second ++ lowercaseFrom (first.reverse ++ before) second := by
  induction first generalizing before with
  | nil => rfl
  | cons char rest ih =>
      rw [List.cons_append, lowercaseFrom_cons, ih, lowercaseBetween, List.append_assoc,
        List.reverse_cons, List.append_assoc, List.singleton_append]

theorem lowercaseBetween_append (before first second after : List Char) :
    lowercaseBetween before (first ++ second) after =
      lowercaseBetween before first (second ++ after) ++
        lowercaseBetween (first.reverse ++ before) second after := by
  induction first generalizing before with
  | nil => rfl
  | cons char rest ih =>
      rw [List.cons_append, lowercaseBetween, ih, lowercaseBetween, List.append_assoc,
        List.append_assoc, List.reverse_cons, List.append_assoc, List.singleton_append]

theorem lowercaseBetween_nil (before text : List Char) :
    lowercaseBetween before text [] = lowercaseFrom before text := by
  induction text generalizing before with
  | nil => rfl
  | cons char rest ih => rw [lowercaseBetween, lowercaseFrom_cons, ih, List.append_nil]

/-- The text settles the form of each capital sigma in it. -/
def SettlesSigmas (text : List Char) : Prop :=
  ∀ before after, text = before ++ 'Σ' :: after → isSettled before.reverse after = true

/-- A text that settles its sigmas is put into lower case everywhere as it is alone.  The characters
nearest to what is left of it are those of the text itself. -/
theorem lowercaseBetween_eq_of_settled {near text : List Char}
    (settled : ∀ before after, text = before ++ 'Σ' :: after →
      isSettled (before.reverse ++ near) after = true) (further later : List Char) :
    lowercaseBetween (near ++ further) text later = lowercaseFrom near text := by
  induction text generalizing near with
  | nil => rfl
  | cons char rest ih =>
      have first : lowerIn (near ++ further) char (rest ++ later) = lowerIn near char rest := by
        by_cases sigma : char = 'Σ'
        · subst sigma
          have here : isSettled near rest = true := settled [] rest rfl
          rw [lowerIn_sigma, lowerIn_sigma, isFinal_append here]
        · rw [lowerIn_of_ne sigma, lowerIn_of_ne sigma]
      have others : lowercaseBetween (char :: near ++ further) rest later =
          lowercaseFrom (char :: near) rest := by
        apply ih
        rintro before after rfl
        have there := settled (char :: before) after rfl
        rwa [List.reverse_cons, List.append_assoc] at there
      rw [lowercaseBetween, lowercaseFrom_cons, first]
      exact congrArg _ others

/-- The lower-case form of a text that settles its sigmas occurs wherever the text does. -/
theorem SettlesSigmas.lowercase_infix {term line : List Char} (settles : SettlesSigmas term)
    (occurs : term <:+: line) : lowercase term <:+: lowercase line := by
  rcases occurs with ⟨before, after, rfl⟩
  have settled : ∀ first second, term = first ++ 'Σ' :: second →
      isSettled (first.reverse ++ []) second = true := by
    intro first second split
    rw [List.append_nil]
    exact settles first second split
  have inside : lowercaseBetween before.reverse term after = lowercase term :=
    lowercaseBetween_eq_of_settled settled before.reverse after
  refine ⟨lowercaseBetween [] before (term ++ after),
    lowercaseFrom (term.reverse ++ before.reverse) after, ?_⟩
  calc lowercaseBetween [] before (term ++ after) ++ lowercase term ++
        lowercaseFrom (term.reverse ++ before.reverse) after
      = lowercaseBetween [] before (term ++ after) ++
          lowercaseFrom before.reverse (term ++ after) := by
        rw [lowercaseFrom_append, inside, List.append_assoc]
    _ = lowercase (before ++ term ++ after) := by
        rw [lowercase, List.append_assoc, lowercaseFrom_append [] before, List.append_nil]

/-! ## A sigma that is not settled -/

section Forms

variable {form : Bool} {before before' after after' : List Char}

/-- If no sigma takes on a form in other surroundings, the form is not to be found there more
often. -/
theorem count_lowercaseBetween_le (text : List Char)
    (each : ∀ first second, isFinal (first ++ before') (second ++ after') = form →
      isFinal (first ++ before) (second ++ after) = form) :
    (lowercaseBetween before' text after').count (smallSigma form) ≤
      (lowercaseBetween before text after).count (smallSigma form) := by
  induction text generalizing before before' with
  | nil => exact Nat.le_refl _
  | cons char rest ih =>
      have here : (lowerIn before' char (rest ++ after')).count (smallSigma form) ≤
          (lowerIn before char (rest ++ after)).count (smallSigma form) := by
        by_cases sigma : char = 'Σ'
        · subst sigma
          have kept := each [] rest
          simp only [List.nil_append] at kept
          rw [lowerIn_sigma, lowerIn_sigma, count_smallSigma, count_smallSigma]
          split
          next taken => exact Nat.le_of_eq (if_pos (kept taken)).symm
          next => exact Nat.zero_le _
        · exact Nat.le_of_eq (by rw [lowerIn_of_ne sigma, lowerIn_of_ne sigma])
      have later : (lowercaseBetween (char :: before') rest after').count (smallSigma form) ≤
          (lowercaseBetween (char :: before) rest after).count (smallSigma form) :=
        ih fun first second => by simpa using each (first ++ [char]) second
      rw [lowercaseBetween, lowercaseBetween, List.count_append, List.count_append]
      exact Nat.add_le_add here later

/-- If moreover one sigma gives the form up there, it is to be found less often. -/
theorem count_lowercaseBetween_lt {first second : List Char}
    (each : ∀ first second, isFinal (first ++ before') (second ++ after') = form →
      isFinal (first ++ before) (second ++ after) = form)
    (own : isFinal (first.reverse ++ before) (second ++ after) = form)
    (given : isFinal (first.reverse ++ before') (second ++ after') ≠ form) :
    (lowercaseBetween before' (first ++ 'Σ' :: second) after').count (smallSigma form) <
      (lowercaseBetween before (first ++ 'Σ' :: second) after).count (smallSigma form) := by
  have early : (lowercaseBetween before' first ('Σ' :: second ++ after')).count (smallSigma form) ≤
      (lowercaseBetween before first ('Σ' :: second ++ after)).count (smallSigma form) := by
    apply count_lowercaseBetween_le
    intro nearer further
    rw [← List.append_assoc, ← List.append_assoc]
    exact each nearer (further ++ 'Σ' :: second)
  have late : (lowercaseBetween ('Σ' :: (first.reverse ++ before')) second after').count
        (smallSigma form) ≤
      (lowercaseBetween ('Σ' :: (first.reverse ++ before)) second after).count
        (smallSigma form) := by
    apply count_lowercaseBetween_le
    intro nearer further
    have kept := each (nearer ++ 'Σ' :: first.reverse) further
    simpa only [List.append_assoc, List.cons_append] using kept
  rw [lowercaseBetween_append, lowercaseBetween_append, lowercaseBetween, lowercaseBetween,
    lowerIn_sigma, lowerIn_sigma]
  simp only [List.count_append, count_smallSigma, if_pos own, if_neg given]
  omega

end Forms

/-- The letter that is put next to a text. -/
theorem meetsCased_letter : meetsCased ['A'] = true := by decide +kernel

theorem lowerIn_letter (before after : List Char) : lowerIn before 'A' after = ['a'] :=
  lowerIn_of_ascii (by decide) before after

/-- A letter behind a text can only make its sigmas not final. -/
theorem isFinal_append_letter (before after : List Char) :
    isFinal before (after ++ ['A']) = (isFinal before after && anchors after) := by
  rw [isFinal, isFinal, meetsCased_append, meetsCased_letter]
  cases anchored : anchors after <;> simp

/-- A letter before a text can only make its sigmas final. -/
theorem isFinal_letter_append (before after : List Char) :
    isFinal (before ++ ['A']) after =
      (isFinal before after || !anchors before && !meetsCased after) := by
  rw [isFinal, isFinal, meetsCased_append, meetsCased_letter]
  cases bare : anchors before with
  | true => simp
  | false => simp [meetsCased_of_bare bare]

/-- If a text does not settle its sigmas, one letter before or behind it changes the form of one of
them for good: its lower-case form has a sigma too many to occur in that of the longer text. -/
theorem exists_lowercase_not_infix {term : List Char} (loose : ¬ SettlesSigmas term) :
    ∃ line, term <:+: line ∧ ¬ lowercase term <:+: lowercase line := by
  simp only [SettlesSigmas, not_forall, Bool.not_eq_true] at loose
  rcases loose with ⟨first, second, rfl, loose⟩
  have alone : lowercase (first ++ 'Σ' :: second) =
      lowercaseBetween [] (first ++ 'Σ' :: second) [] := (lowercaseBetween_nil _ _).symm
  rcases cases_of_not_settled loose with ⟨⟨cased, bare⟩ | bare, uncased⟩
  · refine ⟨first ++ 'Σ' :: second ++ ['A'], ⟨[], ['A'], rfl⟩, fun occurs => ?_⟩
    have fewer : (lowercaseBetween [] (first ++ 'Σ' :: second) ['A']).count (smallSigma true) <
        (lowercaseBetween [] (first ++ 'Σ' :: second) []).count (smallSigma true) := by
      apply count_lowercaseBetween_lt
      · intro nearer further final
        rw [isFinal_append_letter, Bool.and_eq_true] at final
        rw [List.append_nil, List.append_nil]
        simpa using final.1
      · simp [isFinal, cased, uncased]
      · simp [isFinal_append_letter, bare]
    have many := occurs.sublist.count_le (smallSigma true)
    rw [alone, lowercase, lowercaseFrom_append, lowercaseFrom_cons, lowerIn_letter,
      List.count_append] at many
    have letter : (['a'] ++ ([] : List Char)).count (smallSigma true) = 0 := by decide
    rw [lowercaseFrom, letter] at many
    omega
  · refine ⟨'A' :: (first ++ 'Σ' :: second), ⟨['A'], [], by simp⟩, fun occurs => ?_⟩
    have fewer : (lowercaseBetween ['A'] (first ++ 'Σ' :: second) []).count (smallSigma false) <
        (lowercaseBetween [] (first ++ 'Σ' :: second) []).count (smallSigma false) := by
      apply count_lowercaseBetween_lt
      · intro nearer further open_
        rw [isFinal_letter_append, Bool.or_eq_false_iff] at open_
        rw [List.append_nil]
        exact open_.1
      · simp [isFinal, meetsCased_of_bare bare]
      · simp [isFinal_letter_append, bare, uncased]
    have many := occurs.sublist.count_le (smallSigma false)
    rw [alone, lowercase, lowercaseFrom_cons, lowerIn_letter, List.count_append,
      ← lowercaseBetween_nil] at many
    have letter : ['a'].count (smallSigma false) = 0 := by decide
    omega

end LineTally.Text
