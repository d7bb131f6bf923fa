import Mathlib.Data.List.Basic
import Mathlib.Data.List.TakeWhile
import ScriptAudit.Proofs.PatternMatches
import ScriptAudit.Rule.Vocabulary

/-!
# Regular expressions with several quantifiers

Two patterns are meant to find regular expressions that nest or repeat their quantifiers. The first of them
begins with a group, but that may be left out, and between its two quantifiers there may stand anything that
is on one line. So what it finds is two quantifiers on one line, and the second pattern finds nothing else.

- `Vocabulary.OpensTwice`: one quantifier opens behind another one, with no line end between them.
- `Vocabulary.occursIn_nestedQuantifiers_iff`, `Vocabulary.occursIn_nested_of_repeated`: **the first pattern
  finds exactly that, and whatever the second one finds.**
- `Vocabulary.exists_positions_iff`, `Vocabulary.opensTwice_iff_line`: the same by positions, and by lines.
- `Vocabulary.isRedosProne_iff`: **an expression is reported if and only if two quantifiers open on one of
  its lines.**
-/

namespace ScriptAudit

namespace Vocabulary

open Pattern

variable {c : Char} {text : List Char}

/-- The characters that open a quantifier. -/
def quantifierOpeners : List Char := ['+', '*', '\x7b']

theorem opensQuantifier_iff : opensQuantifier c = true ↔ c ∈ quantifierOpeners := by
  simp [opensQuantifier, quantifierOpeners, or_assoc]

theorem newline_notMem_openers : '\n' ∉ quantifierOpeners := by decide

/-! ## Two quantifiers on one line -/

/-- Whether a quantifier opens on the first line of a text. -/
def OpensOnLine (text : List Char) : Prop :=
  ∃ inner b after, text = inner ++ b :: after ∧ b ∈ quantifierOpeners ∧ '\n' ∉ inner

/-- Whether a quantifier opens somewhere in a text, and another one behind it on the same line. -/
def OpensTwice (text : List Char) : Prop :=
  ∃ before a rest, text = before ++ a :: rest ∧ a ∈ quantifierOpeners ∧ OpensOnLine rest

/-- A quantifier, anything that is on one line, and another quantifier. -/
def quantifierPair : Pattern :=
  .andThen (.char opensQuantifier) (.andThen (.many (.char withinLine)) (.char opensQuantifier))

/-- A star, a plus, or numbers in braces. -/
def singleQuantifier : Pattern :=
  .either (.exactly '*') (.either (.exactly '+')
    (.andThen (.exactly '\x7b') (.andThen (.some (.char isCountChar)) (.exactly '\x7d'))))

theorem matches_quantifierPair_iff : quantifierPair.Matches text ↔
    ∃ a inner b, text = a :: (inner ++ [b]) ∧ a ∈ quantifierOpeners ∧ b ∈ quantifierOpeners ∧
      '\n' ∉ inner := by
  -- A character that is on the line is any but the line end.
  have hinner (inner : List Char) : (∀ c ∈ inner, withinLine c = true) ↔ '\n' ∉ inner := by
    simp only [withinLine, bne_iff_ne]
    exact ⟨fun h hmem => h _ hmem rfl, fun h c hc heq => h (heq ▸ hc)⟩
  constructor
  · intro h
    obtain ⟨front, back, rfl, hfront, hback⟩ := matches_andThen_iff.1 h
    obtain ⟨a, ha, rfl⟩ := matches_char_iff.1 hfront
    obtain ⟨inner, last, rfl, hmany, hlast⟩ := matches_andThen_iff.1 hback
    obtain ⟨b, hb, rfl⟩ := matches_char_iff.1 hlast
    exact ⟨a, inner, b, rfl, opensQuantifier_iff.1 ha, opensQuantifier_iff.1 hb,
      (hinner inner).1 (matches_many_char_iff.1 hmany)⟩
  · rintro ⟨a, inner, b, rfl, ha, hb, hline⟩
    have hmany : (many (char withinLine)).Matches inner := matches_many_char_iff.2 ((hinner inner).2 hline)
    exact .andThen (.char (opensQuantifier_iff.2 ha))
      (.andThen hmany (.char (opensQuantifier_iff.2 hb)))

theorem occursIn_quantifierPair_iff : quantifierPair.occursIn text = true ↔ OpensTwice text := by
  rw [occursIn_iff]
  constructor
  · rintro ⟨stretch, ⟨before, after, rfl⟩, hmatches⟩
    obtain ⟨a, inner, b, rfl, ha, hb, hline⟩ := matches_quantifierPair_iff.1 hmatches
    exact ⟨before, a, inner ++ b :: after, by simp, ha, inner, b, after, rfl, hb, hline⟩
  · rintro ⟨before, a, rest, rfl, ha, inner, b, after, rfl, hb, hline⟩
    refine ⟨a :: (inner ++ [b]), ⟨before, after, by simp⟩, ?_⟩
    exact matches_quantifierPair_iff.2 ⟨a, inner, b, rfl, ha, hb, hline⟩

/-! ## What the patterns find -/

/-- If in all that matches one pattern there is a stretch that matches another, then the other one is found
wherever the first is. -/
theorem occursIn_of_occursIn {p q : Pattern}
    (h : ∀ found, p.Matches found → ∃ stretch, stretch <:+: found ∧ q.Matches stretch)
    (hp : p.occursIn text = true) : q.occursIn text = true := by
  obtain ⟨found, hfound, hmatches⟩ := (occursIn_iff p text).1 hp
  obtain ⟨stretch, hstretch, hq⟩ := h found hmatches
  exact (occursIn_iff q text).2 ⟨stretch, hstretch.trans hfound, hq⟩

/-- The group in front makes no difference: it may be left out. -/
theorem occursIn_nestedQuantifiers_iff :
    nestedQuantifiers.occursIn text = true ↔ OpensTwice text := by
  rw [← occursIn_quantifierPair_iff]
  constructor
  · refine occursIn_of_occursIn fun found hfound => ?_
    obtain ⟨group, pair, rfl, -, hpair⟩ := matches_andThen_iff.1 hfound
    exact ⟨pair, List.infix_append' group pair [] |>.trans (by simp), hpair⟩
  · refine occursIn_of_occursIn fun found hfound => ?_
    exact ⟨found, List.infix_rfl, .andThen (.right .empty) hfound⟩

/-- A single quantifier begins with a character that opens one, and is on one line. -/
theorem exists_opener_of_matches (h : singleQuantifier.Matches text) :
    ∃ a rest, text = a :: rest ∧ a ∈ quantifierOpeners ∧ '\n' ∉ rest := by
  rcases matches_either_iff.1 h with hstar | h
  · exact ⟨'*', [], matches_exactly_iff.1 hstar, by decide, List.not_mem_nil⟩
  · rcases matches_either_iff.1 h with hplus | hcount
    · exact ⟨'+', [], matches_exactly_iff.1 hplus, by decide, List.not_mem_nil⟩
    · obtain ⟨opening, back, rfl, hopening, hback⟩ := matches_andThen_iff.1 hcount
      obtain ⟨count, closing, rfl, hmany, hclosing⟩ := matches_andThen_iff.1 hback
      rw [matches_exactly_iff] at hopening hclosing
      subst hopening hclosing
      -- What is counted are digits and commas, and a line end is neither.
      have hdigits : ∀ c ∈ count, isCountChar c = true := by
        obtain ⟨first, rest, rfl, hfirst, hrest⟩ := matches_some_iff.1 hmany
        exact matches_many_char_iff.1 (.more hfirst hrest)
      refine ⟨'\x7b', count ++ ['\x7d'], rfl, by decide, fun hmem => ?_⟩
      rcases List.mem_append.1 hmem with hcount | hbrace
      · exact absurd (hdigits '\n' hcount) (by decide)
      · exact absurd (List.mem_singleton.1 hbrace) (by decide)

/-- **Whatever the second pattern finds, the first one finds as well.** -/
theorem occursIn_nested_of_repeated (h : repeatedQuantifiers.occursIn text = true) :
    nestedQuantifiers.occursIn text = true := by
  rw [occursIn_nestedQuantifiers_iff, ← occursIn_quantifierPair_iff]
  refine occursIn_of_occursIn (fun found hfound => ?_) h
  obtain ⟨first, second, rest, rfl, hfirst, hsecond, -⟩ :=
    (matches_repeated_iff (p := singleQuantifier)).1 hfound
  obtain ⟨a, inner, rfl, ha, hline⟩ := exists_opener_of_matches hfirst
  obtain ⟨b, after, rfl, hb, -⟩ := exists_opener_of_matches hsecond
  refine ⟨a :: (inner ++ [b]), ⟨[], after ++ rest, by simp⟩, ?_⟩
  exact matches_quantifierPair_iff.2 ⟨a, inner, b, rfl, ha, hb, hline⟩

theorem isRedosProne_eq_true_iff : isRedosProne text = true ↔ OpensTwice text := by
  rw [isRedosProne, Bool.or_eq_true, or_iff_left_of_imp occursIn_nested_of_repeated]
  exact occursIn_nestedQuantifiers_iff

/-! ## By positions -/

/-- Whether quantifiers open at two positions of a text, with no line end between them. -/
structure OpenAt (text : List Char) (i j : Nat) : Prop where
  lt : i < j
  first : ∃ a ∈ quantifierOpeners, text[i]? = some a
  second : ∃ b ∈ quantifierOpeners, text[j]? = some b
  sameLine : ∀ k, i < k → k < j → text[k]? ≠ some '\n'

/-- A text can be taken apart at a position. -/
theorem exists_append_of_getElem? {i : Nat} (h : text[i]? = some c) :
    ∃ before after, text = before ++ c :: after ∧ before.length = i := by
  obtain ⟨hlt, rfl⟩ := List.getElem?_eq_some_iff.1 h
  refine ⟨text.take i, text.drop (i + 1), ?_, List.length_take_of_le hlt.le⟩
  rw [← List.drop_eq_getElem_cons hlt, List.take_append_drop]

theorem exists_positions_iff : (∃ i j, OpenAt text i j) ↔ OpensTwice text := by
  constructor
  · rintro ⟨i, j, hlt, ⟨a, ha, hi⟩, ⟨b, hb, hj⟩, hline⟩
    obtain ⟨before, rest, rfl, rfl⟩ := exists_append_of_getElem? hi
    -- The second one is searched in what is behind the first, where positions start anew.
    have hrest : rest[j - (before.length + 1)]? = some b := by
      rw [← hj, List.append_cons, List.getElem?_append_right (by simp; omega)]
      simp
    obtain ⟨inner, after, rfl, hlength⟩ := exists_append_of_getElem? hrest
    refine ⟨before, a, _, rfl, ha, inner, b, after, rfl, hb, fun hmem => ?_⟩
    obtain ⟨k, hk, hnewline⟩ := List.mem_iff_getElem.1 hmem
    refine hline (before.length + 1 + k) (by omega) (by omega) ?_
    rw [List.append_cons, List.getElem?_append_right (by simp), List.getElem?_append_left (by simpa),
      List.getElem?_eq_some_iff]
    exact ⟨by simpa using hk, by simpa using hnewline⟩
  · rintro ⟨before, a, rest, rfl, ha, inner, b, after, rfl, hb, hline⟩
    refine ⟨before.length, before.length + 1 + inner.length, by omega, ⟨a, ha, by simp⟩, ⟨b, hb, ?_⟩, ?_⟩
    · rw [List.append_cons, List.getElem?_append_right (by simp)]
      simp
    · intro k hi hj hnewline
      rw [List.append_cons, List.getElem?_append_right (by simp; omega),
        List.getElem?_append_left (by simp; omega)] at hnewline
      exact hline (List.mem_of_getElem? hnewline)

/-! ## By lines -/

theorem opensOnLine_iff :
    OpensOnLine text ↔ 1 ≤ (text.takeWhile (· != '\n')).countP opensQuantifier := by
  rw [Nat.one_le_iff_ne_zero, ← Nat.pos_iff_ne_zero, List.countP_pos_iff]
  simp only [opensQuantifier_iff]
  constructor
  · -- Up to the opener there is no line end, so it is on the first line.
    rintro ⟨inner, b, after, rfl, hb, hline⟩
    have hne : b ≠ '\n' := fun heq => newline_notMem_openers (heq ▸ hb)
    have hinner : ∀ c ∈ inner, (c != '\n') = true :=
      fun c hc => bne_iff_ne.2 fun heq => hline (heq ▸ hc)
    rw [List.takeWhile_append_of_pos hinner, List.takeWhile_cons_of_pos (by simpa using hne)]
    exact ⟨b, by simp, hb⟩
  · rintro ⟨b, hmem, hb⟩
    obtain ⟨inner, rest, htake⟩ := List.append_of_mem hmem
    refine ⟨inner, b, rest ++ text.dropWhile (· != '\n'), ?_, hb, fun hnewline => ?_⟩
    · rw [← List.cons_append, ← List.append_assoc, ← htake, List.takeWhile_append_dropWhile]
    · have hnewline : '\n' ∈ text.takeWhile (· != '\n') := by
        rw [htake]
        exact List.mem_append_left _ hnewline
      exact absurd (List.mem_takeWhile_imp hnewline) (by decide)

theorem opensTwice_cons_iff :
    OpensTwice (c :: text) ↔ (c ∈ quantifierOpeners ∧ OpensOnLine text) ∨ OpensTwice text := by
  constructor
  · rintro ⟨before, a, rest, htext, ha, hrest⟩
    cases before with
    | nil =>
      obtain ⟨rfl, rfl⟩ := List.cons.inj htext
      exact .inl ⟨ha, hrest⟩
    | cons first before =>
      obtain ⟨rfl, rfl⟩ := List.cons.inj htext
      exact .inr ⟨before, a, rest, rfl, ha, hrest⟩
  · rintro (⟨hc, hrest⟩ | ⟨before, a, rest, rfl, ha, hrest⟩)
    · exact ⟨[], c, text, rfl, hc, hrest⟩
    · exact ⟨c :: before, a, rest, rfl, ha, hrest⟩

/-- The first piece of a text is what stands in front of the first separator. -/
theorem exists_split_eq (separator : Char) (text : List Char) :
    ∃ pieces, Text.split separator text = text.takeWhile (· != separator) :: pieces := by
  induction text with
  | nil => exact ⟨[], rfl⟩
  | cons c text ih =>
    obtain ⟨pieces, hpieces⟩ := ih
    rw [Text.split, hpieces]
    by_cases hc : c = separator
    · rw [if_pos hc, List.takeWhile_cons_of_neg (by simpa using hc)]
      exact ⟨_, rfl⟩
    · rw [if_neg hc, List.takeWhile_cons_of_pos (by simpa using hc)]
      exact ⟨pieces, rfl⟩

theorem opensTwice_iff_line :
    OpensTwice text ↔ ∃ line ∈ Text.split '\n' text, 2 ≤ line.countP opensQuantifier := by
  induction text with
  | nil => simp [OpensTwice, Text.split]
  | cons c text ih =>
    -- A further character belongs to the first line, and so only that line can change.
    obtain ⟨pieces, hpieces⟩ := exists_split_eq '\n' text
    rw [hpieces, List.exists_mem_cons_iff] at ih
    rw [opensTwice_cons_iff, ih, Text.split, hpieces, opensOnLine_iff]
    by_cases hc : c = '\n'
    · simp [hc, newline_notMem_openers]
    · rw [if_neg hc, List.exists_mem_cons_iff, List.countP_cons, ← opensQuantifier_iff, ← or_assoc]
      refine or_congr_left ?_
      by_cases hopens : opensQuantifier c = true
      · rw [if_pos hopens, and_iff_right hopens]
        omega
      · simp [hopens]

/-! ## What is reported -/

/-- **An expression is reported if and only if two quantifiers open on one of its lines.** It is reported if
some stretch of it matches one of the two patterns, and that comes to two positions at which a quantifier
opens, with no line end between them. The second pattern finds nothing that the first one does not find, and
an expression is passed over if and only if none of its lines has more than one such position. -/
theorem isRedosProne_iff (text : List Char) :
    (isRedosProne text = true ↔ ∃ pattern ∈ [nestedQuantifiers, repeatedQuantifiers],
      ∃ stretch, stretch <:+: text ∧ pattern.Matches stretch) ∧
    (isRedosProne text = true ↔ ∃ i j, OpenAt text i j) ∧
    (repeatedQuantifiers.occursIn text = true → nestedQuantifiers.occursIn text = true) ∧
    (isRedosProne text = false ↔
      ∀ line ∈ Text.split '\n' text, line.countP opensQuantifier ≤ 1) := by
  refine ⟨?_, ?_, occursIn_nested_of_repeated, ?_⟩
  · simp only [isRedosProne, Bool.or_eq_true, occursIn_iff, List.mem_cons, List.not_mem_nil, or_false,
      exists_eq_or_imp, exists_eq_left]
  · rw [isRedosProne_eq_true_iff, exists_positions_iff]
  · rw [← Bool.not_eq_true, isRedosProne_eq_true_iff, opensTwice_iff_line, not_exists]
    refine forall_congr' fun line => ?_
    rw [not_and, Nat.not_le, Nat.lt_succ_iff]

/-- Quantifiers on different lines are passed over. -/
example : isRedosProne "a+\nb*".toList = false ∧ isRedosProne "a+ b*".toList = true := by decide

end Vocabulary

end ScriptAudit
