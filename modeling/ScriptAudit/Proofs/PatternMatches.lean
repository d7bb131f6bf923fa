import ScriptAudit.Rule.Pattern

/-!
# What patterns match

A pattern stands for a set of texts. A search takes the text one character at a time, and keeps as a
pattern what still has to match.

- `Pattern.Matches`: the texts that a pattern stands for, each put together from what its parts match.
- `Pattern.acceptsEmpty_iff`, `Pattern.matches_after_iff`: **what still has to match after a character
  matches what the pattern matches behind that character.**
- `Pattern.matchesHead_iff`, `Pattern.occursIn_iff`: **a search finds something if and only if some stretch
  of the text matches**, wherever it starts and however it is put together.
-/

namespace ScriptAudit

namespace Pattern

variable {p q : Pattern} {c : Char} {text : List Char}

/-- Whether a pattern stands for a text. -/
inductive Matches : Pattern → List Char → Prop
  | empty : Matches empty []
  | char {holds : Char → Bool} {c : Char} (hholds : holds c = true) : Matches (char holds) [c]
  | andThen {p q : Pattern} {front back : List Char} (hfront : Matches p front)
      (hback : Matches q back) : Matches (andThen p q) (front ++ back)
  | left {p q : Pattern} {text : List Char} (h : Matches p text) : Matches (either p q) text
  | right {p q : Pattern} {text : List Char} (h : Matches q text) : Matches (either p q) text
  | done {p : Pattern} : Matches (many p) []
  | more {p : Pattern} {front back : List Char} (hfront : Matches p front)
      (hback : Matches (many p) back) : Matches (many p) (front ++ back)

/-! ## Parts of patterns -/

theorem not_matches_never : ¬never.Matches text := by
  intro h
  cases h

theorem matches_empty_iff : empty.Matches text ↔ text = [] := by
  constructor
  · intro h
    cases h
    rfl
  · rintro rfl
    exact .empty

theorem matches_char_iff {holds : Char → Bool} :
    (char holds).Matches text ↔ ∃ c, holds c = true ∧ text = [c] := by
  constructor
  · intro h
    cases h with
    | char hholds => exact ⟨_, hholds, rfl⟩
  · rintro ⟨c, hholds, rfl⟩
    exact .char hholds

theorem matches_andThen_iff : (andThen p q).Matches text ↔
    ∃ front back, text = front ++ back ∧ p.Matches front ∧ q.Matches back := by
  constructor
  · intro h
    cases h with
    | andThen hfront hback => exact ⟨_, _, rfl, hfront, hback⟩
  · rintro ⟨front, back, rfl, hfront, hback⟩
    exact .andThen hfront hback

theorem matches_either_iff : (either p q).Matches text ↔ p.Matches text ∨ q.Matches text := by
  constructor
  · intro h
    cases h with
    | left h => exact .inl h
    | right h => exact .inr h
  · rintro (h | h)
    · exact .left h
    · exact .right h

/-- Repetitions that match a text with a first character start with one that has this character. -/
theorem matches_many_cons_iff : (many p).Matches (c :: text) ↔
    ∃ front back, text = front ++ back ∧ p.Matches (c :: front) ∧ (many p).Matches back := by
  constructor
  · intro h
    generalize hpattern : many p = pattern at h
    generalize htext : c :: text = whole at h
    induction h with
    | empty | char | andThen | left | right => cases hpattern
    | done => cases htext
    | @more _ front back hfront hback _ ih =>
      cases hpattern
      -- Repetitions of the empty text come before the one that is looked for.
      cases front with
      | nil => exact ih rfl htext
      | cons first front =>
        obtain ⟨rfl, rfl⟩ := List.cons.inj htext
        exact ⟨front, back, rfl, hfront, hback⟩
  · rintro ⟨front, back, rfl, hfront, hback⟩
    exact .more hfront hback

/-- Repetitions of a character of a class match the texts of such characters. -/
theorem matches_many_char_iff {holds : Char → Bool} :
    (many (char holds)).Matches text ↔ ∀ c ∈ text, holds c = true := by
  induction text with
  | nil => simpa using Matches.done
  | cons c text ih =>
    rw [matches_many_cons_iff, List.forall_mem_cons, ← ih]
    simp only [matches_char_iff, List.cons.injEq]
    constructor
    · rintro ⟨front, back, rfl, ⟨c, hholds, rfl, rfl⟩, hback⟩
      exact ⟨hholds, hback⟩
    · rintro ⟨hholds, htext⟩
      exact ⟨[], text, rfl, ⟨c, hholds, rfl, rfl⟩, htext⟩

theorem matches_some_iff : (some p).Matches text ↔
    ∃ front back, text = front ++ back ∧ p.Matches front ∧ (many p).Matches back :=
  matches_andThen_iff

/-- Two repetitions come before any further ones. -/
theorem matches_repeated_iff : (repeated p).Matches text ↔
    ∃ first second rest, text = first ++ (second ++ rest) ∧ p.Matches first ∧ p.Matches second ∧
      (many p).Matches rest := by
  rw [repeated, matches_andThen_iff]
  constructor
  · rintro ⟨first, back, rfl, hfirst, hback⟩
    obtain ⟨second, rest, rfl, hsecond, hrest⟩ := matches_andThen_iff.1 hback
    exact ⟨first, second, rest, rfl, hfirst, hsecond, hrest⟩
  · rintro ⟨first, second, rest, rfl, hfirst, hsecond, hrest⟩
    exact ⟨first, second ++ rest, rfl, hfirst, .andThen hsecond hrest⟩

theorem matches_exactly_iff : (exactly c).Matches text ↔ text = [c] := by
  rw [exactly, matches_char_iff]
  simp

/-! ## One character at a time -/

theorem acceptsEmpty_iff (p : Pattern) : p.acceptsEmpty = true ↔ p.Matches [] := by
  induction p with
  | never => exact iff_of_false Bool.false_ne_true not_matches_never
  | empty => exact iff_of_true rfl .empty
  | char holds => simp [acceptsEmpty, matches_char_iff]
  -- The empty text is two empty texts in a row.
  | andThen p q ihp ihq =>
    rw [acceptsEmpty, Bool.and_eq_true, ihp, ihq, matches_andThen_iff]
    constructor
    · rintro ⟨hp, hq⟩
      exact ⟨[], [], rfl, hp, hq⟩
    · rintro ⟨front, back, hnil, hp, hq⟩
      obtain ⟨rfl, rfl⟩ := List.append_eq_nil_iff.1 hnil.symm
      exact ⟨hp, hq⟩
  | either p q ihp ihq => rw [acceptsEmpty, Bool.or_eq_true, ihp, ihq, matches_either_iff]
  | many p => exact iff_of_true rfl .done

/-- What is left out of two expressions in a row changes nothing. -/
theorem matches_followedBy_iff :
    (p.followedBy q).Matches text ↔ (andThen p q).Matches text := by
  cases p with
  | never =>
    -- Nothing follows what never matches.
    rw [followedBy, matches_andThen_iff]
    refine iff_of_false not_matches_never ?_
    rintro ⟨front, back, -, hfront, -⟩
    exact not_matches_never hfront
  | empty =>
    rw [followedBy, matches_andThen_iff]
    simp only [matches_empty_iff]
    constructor
    · intro h
      exact ⟨[], text, rfl, rfl, h⟩
    · rintro ⟨front, back, rfl, rfl, h⟩
      exact h
  | char | andThen | either | many => rfl

theorem matches_orElse_iff : (p.orElse q).Matches text ↔ p.Matches text ∨ q.Matches text := by
  unfold orElse
  split
  · exact (or_iff_right not_matches_never).symm
  · exact (or_iff_left not_matches_never).symm
  · exact matches_either_iff

/-- Two expressions in a row match a text with a first character in the first of them or, if that matches
the empty text, in the second. -/
theorem matches_andThen_cons_iff : (andThen p q).Matches (c :: text) ↔
    (∃ front back, text = front ++ back ∧ p.Matches (c :: front) ∧ q.Matches back) ∨
      p.Matches [] ∧ q.Matches (c :: text) := by
  rw [matches_andThen_iff]
  constructor
  · rintro ⟨front, back, htext, hp, hq⟩
    -- The character belongs to the first expression or, if that took nothing, to the second.
    cases front with
    | nil =>
      rw [List.nil_append] at htext
      rw [htext]
      exact .inr ⟨hp, hq⟩
    | cons first front =>
      obtain ⟨rfl, rfl⟩ := List.cons.inj htext
      exact .inl ⟨front, back, rfl, hp, hq⟩
  · rintro (⟨front, back, rfl, hp, hq⟩ | ⟨hp, hq⟩)
    · exact ⟨c :: front, back, rfl, hp, hq⟩
    · exact ⟨[], c :: text, rfl, hp, hq⟩

/-- **What has to match after a character is what the pattern matches behind it.** -/
theorem matches_after_iff (p : Pattern) (c : Char) (text : List Char) :
    (p.after c).Matches text ↔ p.Matches (c :: text) := by
  induction p generalizing text with
  | never => exact iff_of_false not_matches_never not_matches_never
  | empty =>
    refine iff_of_false not_matches_never ?_
    simp [matches_empty_iff]
  -- A single character leaves the empty text to be matched, if it is the right one.
  | char holds =>
    rw [after, matches_char_iff]
    by_cases hholds : holds c = true
    · rw [if_pos hholds, matches_empty_iff]
      constructor
      · rintro rfl
        exact ⟨c, hholds, rfl⟩
      · rintro ⟨other, -, heq⟩
        exact (List.cons.inj heq).2
    · rw [if_neg hholds]
      refine iff_of_false not_matches_never ?_
      rintro ⟨other, hother, heq⟩
      obtain ⟨rfl, -⟩ := List.cons.inj heq
      exact hholds hother
  -- The character is taken by the first part, or by the second if the first can match nothing.
  | andThen p q ihp ihq =>
    have hfirst : ((p.after c).followedBy q).Matches text ↔
        ∃ front back, text = front ++ back ∧ p.Matches (c :: front) ∧ q.Matches back := by
      rw [matches_followedBy_iff, matches_andThen_iff]
      simp only [ihp]
    rw [matches_andThen_cons_iff, ← hfirst, ← acceptsEmpty_iff, ← ihq, after]
    by_cases hempty : p.acceptsEmpty = true
    · rw [if_pos hempty, matches_orElse_iff, and_iff_right hempty]
    · rw [if_neg hempty, or_iff_left (fun h => hempty h.1)]
  | either p q ihp ihq => rw [after, matches_orElse_iff, ihp, ihq, matches_either_iff]
  | many p ih =>
    rw [after, matches_followedBy_iff, matches_andThen_iff, matches_many_cons_iff]
    simp only [ih]

/-! ## Searches -/

theorem isNever_iff : p.isNever = true ↔ p = never := by
  cases p <;> simp [isNever]

theorem matchesHead_iff (p : Pattern) (text : List Char) :
    p.matchesHead text = true ↔ ∃ front, front <+: text ∧ p.Matches front := by
  induction text generalizing p with
  | nil =>
    rw [matchesHead, acceptsEmpty_iff]
    simp
  | cons c text ih =>
    -- An expression that never matches is not tried, and would not have matched.
    have hafter : (!p.isNever && (p.after c).matchesHead text) = true ↔
        ∃ front, front <+: text ∧ p.Matches (c :: front) := by
      rw [Bool.and_eq_true, Bool.not_eq_true', Bool.eq_false_iff, Ne, isNever_iff, ih]
      simp only [matches_after_iff]
      refine and_iff_right_of_imp ?_
      rintro ⟨front, -, hfront⟩ rfl
      exact not_matches_never hfront
    rw [matchesHead, Bool.or_eq_true, acceptsEmpty_iff, hafter]
    constructor
    · rintro (hempty | ⟨front, hprefix, hfront⟩)
      · exact ⟨[], List.nil_prefix, hempty⟩
      · exact ⟨c :: front, List.cons_prefix_cons.2 ⟨rfl, hprefix⟩, hfront⟩
    · rintro ⟨front, hprefix, hfront⟩
      cases front with
      | nil => exact .inl hfront
      | cons first front =>
        obtain ⟨rfl, hrest⟩ := List.cons_prefix_cons.1 hprefix
        exact .inr ⟨front, hrest, hfront⟩

/-- **A search finds something if and only if some stretch of the text matches.** -/
theorem occursIn_iff (p : Pattern) (text : List Char) :
    p.occursIn text = true ↔ ∃ stretch, stretch <:+: text ∧ p.Matches stretch := by
  induction text with
  | nil =>
    rw [occursIn, matchesHead_iff]
    simp
  | cons c text ih =>
    rw [occursIn, Bool.or_eq_true, matchesHead_iff, ih, ← exists_or]
    refine exists_congr fun stretch => ?_
    rw [List.infix_cons_iff, or_and_right]

end Pattern

end ScriptAudit
