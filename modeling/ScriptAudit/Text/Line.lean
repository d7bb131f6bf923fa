/-!
# Lines and pieces

A text cut at a separator, and the few searches built on it.

* `split` : the pieces between the separators, one more than there are separators.
* `lineCount` : the number of lines; a missing line end at the end still counts.
* `contains`, `startsWith`, `endsWith` : whether a text holds another, anywhere or at an end.
* `join` : pieces with a separator between them.
-/

namespace ScriptAudit.Text

/-- The pieces of a text between the separators. -/
def split (separator : Char) : List Char → List (List Char)
  | [] => [[]]
  | c :: rest =>
    if c = separator then [] :: split separator rest
    else match split separator rest with
      | piece :: pieces => (c :: piece) :: pieces
      | [] => [[c]]

/-- The number of lines of a text. -/
def lineCount (text : List Char) : Nat :=
  (split '\n' text).length

theorem split_ne_nil (separator : Char) (text : List Char) : split separator text ≠ [] := by
  cases text with
  | nil => simp [split]
  | cons c rest =>
    rw [split]
    split
    · simp
    · split <;> simp

/-- Every text has a line. -/
theorem lineCount_pos (text : List Char) : 0 < lineCount text :=
  List.length_pos_iff.2 (split_ne_nil '\n' text)

/-- A text without separators is one piece. -/
theorem split_of_notMem {separator : Char} {text : List Char} (h : separator ∉ text) :
    split separator text = [text] := by
  induction text with
  | nil => rfl
  | cons c text ih =>
    rw [List.mem_cons, not_or] at h
    rw [split, if_neg (Ne.symm h.1), ih h.2]

/-- What follows the last separator of a text, read from its end. -/
theorem takeWhile_reverse_append {separator : Char} {before text : List Char}
    (h : separator ∉ text) :
    (before ++ separator :: text).reverse.takeWhile (· != separator) = text.reverse := by
  have hall : ∀ c ∈ text.reverse, (c != separator) = true := by
    intro c hc
    rw [bne_iff_ne]
    rintro rfl
    exact h (List.mem_reverse.1 hc)
  rw [List.reverse_append, List.reverse_cons, List.append_assoc, List.takeWhile_append_of_pos hall,
    List.singleton_append, List.takeWhile_cons_of_neg (by simp), List.append_nil]

/-- Whether some stretch of a text is the given one. -/
def contains (part : List Char) : List Char → Bool
  | [] => part.isEmpty
  | c :: rest => part.isPrefixOf (c :: rest) || contains part rest

/-- Whether a string begins with another. -/
def startsWith (part text : String) : Bool :=
  part.toList.isPrefixOf text.toList

/-- Whether a string ends with another. -/
def endsWith (part text : String) : Bool :=
  part.toList.isSuffixOf text.toList

/-- Pieces with a separator between them. -/
def join (separator : List Char) : List (List Char) → List Char
  | [] => []
  | [piece] => piece
  | piece :: pieces => piece ++ separator ++ join separator pieces

/-- The pieces of a string between the separators. -/
def splitString (separator : Char) (text : String) : List String :=
  (split separator text.toList).map String.ofList

end ScriptAudit.Text
