/-!
# Console markup

Text with tags in square brackets, such as `[bold]` and `[/bold]`. A backslash before a tag makes
it plain text.

* `Markup.tag?` : a tag at the head of a text.
* `Markup.escape` : a text that shows itself.
-/

namespace ScriptAudit.Markup

/-- Whether a character may follow the bracket that opens a tag. -/
def opensTag (c : Char) : Bool :=
  ('a' ≤ c && c ≤ 'z') || c == '#' || c == '/' || c == '@'

/-- Whether a character goes on with the inside of a tag. -/
def insideTag (c : Char) : Bool :=
  c != '[' && c != ']'

/-- A tag at the head of a text: what stands between its brackets, and what follows. -/
def tag? : List Char → Option (List Char × List Char)
  | '[' :: c :: rest =>
    if opensTag c then
      match rest.dropWhile insideTag with
      | ']' :: after => some (c :: rest.takeWhile insideTag, after)
      | _ => none
    else none
  | _ => none

/-- A tag begins with a bracket. -/
theorem tag?_eq_none_of_ne {c : Char} {text : List Char} (h : c ≠ '[') :
    tag? (c :: text) = none := by
  unfold tag?
  split
  · rename_i heq
    exact absurd (List.cons.inj heq).1 h
  · rfl

/-- Doubles the backslashes in front of each tag and puts one more there. The first argument is
the number of backslashes just read. -/
def escapeFrom : Nat → List Char → List Char
  | slashes, [] => List.replicate slashes '\\'
  | slashes, c :: rest =>
    if c = '\\' then escapeFrom (slashes + 1) rest
    else
      let count := if (tag? (c :: rest)).isSome then 2 * slashes + 1 else slashes
      List.replicate count '\\' ++ c :: escapeFrom 0 rest

/-- A backslash is kept until it shows what follows it. -/
theorem escapeFrom_slash (slashes : Nat) (text : List Char) :
    escapeFrom slashes ('\\' :: text) = escapeFrom (slashes + 1) text := by
  rw [escapeFrom, if_pos rfl]

/-- Doubles a single backslash at the end, which would make plain text of a tag that follows. -/
def closeSlash (text : List Char) : List Char :=
  match text.reverse with
  | '\\' :: '\\' :: _ => text
  | '\\' :: _ => text ++ ['\\']
  | _ => text

/-- A text that shows itself. -/
def escape (text : List Char) : List Char :=
  closeSlash (escapeFrom 0 text)

/-- A string that shows itself. -/
def escapeString (text : String) : String :=
  String.ofList (escape text.toList)

end ScriptAudit.Markup
