import ScriptAudit.Proofs.Annotations

/-!
# Escaped messages

A message stands in a command with its percent signs and line ends escaped. It comes to the same
whether every character is escaped by itself or one special character after the other is replaced in
the whole text, the percent sign first.

- `replaced`, `escape_eq_replaced`: escaping a message as three replacements in turn.
- `IsEscaped`: the grammar of escaped messages.
- `escape_eq_iff`: **a message is escaped to a text exactly if the text is in that grammar and is
  read as the message.**
- `escape_readBack`: no line end is left, and different messages are escaped to different texts.
-/

namespace ScriptAudit.Workflow

variable {message text : List Char}

/-! ## Replacements in turn -/

/-- A text with others in place of every occurrence of a character. -/
def replaced (c : Char) (others text : List Char) : List Char :=
  text.flatMap fun d => if d = c then others else [d]

/-- Escaping replaces the percent signs, then the carriage returns, then the line feeds. The percent
signs that the last two bring in come too late to be replaced. -/
theorem escape_eq_replaced (message : List Char) :
    escape message = replaced '\n' ['%', '0', 'A']
      (replaced '\r' ['%', '0', 'D'] (replaced '%' ['%', '2', '5'] message)) := by
  unfold replaced escape
  rw [List.flatMap_assoc, List.flatMap_assoc]
  congr 1
  funext c
  -- Each character is followed through the three replacements.
  unfold escapeChar
  split_ifs with hpercent hreturn hline
  · rfl
  · rw [hreturn]
    rfl
  · rw [hline]
    rfl
  · simp [hreturn, hline]

/-- With the percent signs replaced last, a line feed is not read back. -/
example : unescape (replaced '%' ['%', '2', '5'] (replaced '\n' ['%', '0', 'A'] ['\n']))
    = ['%', '0', 'A'] := by decide

/-! ## The grammar of escaped messages -/

/-- Whether a text is made of escapes, and of characters that are neither percent signs nor line
ends. -/
inductive IsEscaped : List Char → Prop
  | nil : IsEscaped []
  | percent {rest : List Char} (h : IsEscaped rest) : IsEscaped ('%' :: '2' :: '5' :: rest)
  | carriageReturn {rest : List Char} (h : IsEscaped rest) : IsEscaped ('%' :: '0' :: 'D' :: rest)
  | lineFeed {rest : List Char} (h : IsEscaped rest) : IsEscaped ('%' :: '0' :: 'A' :: rest)
  | plain {c : Char} {rest : List Char} (hpercent : c ≠ '%') (hend : isLineEnd c = false)
    (h : IsEscaped rest) : IsEscaped (c :: rest)

theorem isEscaped_escape (message : List Char) : IsEscaped (escape message) := by
  induction message with
  | nil => exact .nil
  | cons c message ih =>
    rw [escape] at ih
    rw [escape, List.flatMap_cons, escapeChar]
    split_ifs with hpercent hreturn hline
    · exact .percent ih
    · exact .carriageReturn ih
    · exact .lineFeed ih
    · exact .plain hpercent (by simp [isLineEnd, hreturn, hline]) ih

/-- What a text in the grammar is read as is escaped to that text. -/
theorem escape_unescape (h : IsEscaped text) : escape (unescape text) = text := by
  induction h with
  | nil => rfl
  | percent h ih => exact congrArg (['%', '2', '5'] ++ ·) ih
  | carriageReturn h ih => exact congrArg (['%', '0', 'D'] ++ ·) ih
  | lineFeed h ih => exact congrArg (['%', '0', 'A'] ++ ·) ih
  | @plain c rest hpercent hend h ih =>
    have hchar : escapeChar c = [c] := by
      obtain ⟨hline, hreturn⟩ := Bool.or_eq_false_iff.1 hend
      rw [escapeChar, if_neg hpercent, if_neg (by simpa using hreturn),
        if_neg (by simpa using hline)]
    rw [escape] at ih
    rw [unescape_cons hpercent, escape, List.flatMap_cons, hchar, ih, List.singleton_append]

/-- **A message is escaped to a text exactly if the text is in the grammar and is read as the
message.** So whatever is read from a text in the grammar is what was escaped to it. -/
theorem escape_eq_iff : escape message = text ↔ IsEscaped text ∧ unescape text = message := by
  constructor
  · rintro rfl
    exact ⟨isEscaped_escape message, unescape_escape message⟩
  · rintro ⟨h, rfl⟩
    exact escape_unescape h

/-! ## What is left of a message -/

theorem lineEnd_notMem_escape (message : List Char) :
    '\r' ∉ escape message ∧ '\n' ∉ escape message := by
  have hends := List.any_eq_false.1 (any_isLineEnd_escape message)
  exact ⟨fun hmem => hends '\r' hmem rfl, fun hmem => hends '\n' hmem rfl⟩

/-- **An escaped message is on one line and can be read back**, in a single pass from left to right.
This holds of the three replacements in turn, whatever a message holds, also what special characters
are escaped to. So different messages are escaped to different texts. -/
theorem escape_readBack (message : List Char) :
    escape message = replaced '\n' ['%', '0', 'A']
      (replaced '\r' ['%', '0', 'D'] (replaced '%' ['%', '2', '5'] message)) ∧
    '\r' ∉ escape message ∧ '\n' ∉ escape message ∧ unescape (escape message) = message ∧
    ∀ other, escape other = escape message ↔ other = message := by
  obtain ⟨hreturn, hline⟩ := lineEnd_notMem_escape message
  obtain ⟨hescaped, hread⟩ := escape_eq_iff.1 (rfl : escape message = escape message)
  refine ⟨escape_eq_replaced message, hreturn, hline, hread, fun other => ?_⟩
  rw [escape_eq_iff, hread]
  exact ⟨fun h => h.2.symm, fun h => ⟨hescaped, h.symm⟩⟩

end ScriptAudit.Workflow
