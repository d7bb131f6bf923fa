import ScriptAudit.Format.Console
import ScriptAudit.Format.Emoji
import ScriptAudit.Format.Markup
import ScriptAudit.Format.Style
import ScriptAudit.Text.Width
import ScriptAudit.Text.Word

/-!
# Plain consoles

What a console without colours shows. Tags leave no trace, but they have to match: a closing tag
without an open one cannot be shown.

* `Markup.pieces` : markup as plain text and tags.
* `Markup.afterTag?` : the tags that are open after one more.
* `Markup.shown?` : the characters that are shown.
* `ConsoleItem.shown?`, `Terminal.plain` : something for a console as lines of text.
-/

namespace ScriptAudit

namespace Markup

/-- A stretch of plain text, or the inside of a tag. -/
inductive Piece where
  | plain (text : List Char)
  | tag (content : List Char)
  deriving DecidableEq, Repr

/-- Cuts markup into plain text and tags. The first argument is the number of characters that belong
to a tag already read, the second the number of backslashes just read, and the third the plain text
before them, the last character first. Half of the backslashes in front of a tag are shown, and an
odd one makes the tag a stretch of plain text. In front of any other bracket one is left out. -/
def piecesFrom : Nat → Nat → List Char → List Char → List Piece
  | _, slashes, read, [] => [.plain (read.reverse ++ List.replicate slashes '\\')]
  | skipped + 1, _, read, _ :: rest => piecesFrom skipped 0 read rest
  | 0, slashes, read, c :: rest =>
    if c = '\\' then piecesFrom 0 (slashes + 1) read rest
    else
      match tag? (c :: rest) with
      | some (content, _) =>
        let before := read.reverse ++ List.replicate (slashes / 2) '\\'
        let found := if slashes % 2 = 1 then .plain ('[' :: content ++ [']']) else .tag content
        .plain before :: found :: piecesFrom (content.length + 1) 0 [] rest
      | none =>
        let count := if c = '[' then slashes - 1 else slashes
        piecesFrom 0 0 (c :: List.replicate count '\\' ++ read) rest

/-- A backslash is only counted, until something else follows. -/
theorem piecesFrom_slash (slashes : Nat) (read rest : List Char) :
    piecesFrom 0 slashes read ('\\' :: rest) = piecesFrom 0 (slashes + 1) read rest := by
  rw [piecesFrom, if_pos rfl]

/-- Markup as plain text and tags. -/
def pieces (markup : List Char) : List Piece :=
  piecesFrom 0 0 [] markup

/-- A tag that is open: the normal form of its name, and what stands after an equals sign. -/
structure OpenTag where
  name : String
  parameters : List Char
  deriving DecidableEq, Repr

/-- Whether a text is nothing, or stands in parentheses. -/
def isArguments (text : List Char) : Bool :=
  text.isEmpty || (text.head? == some '(' && text.getLast? == some ')')

/-- Whether a tag can be closed. The parameters of one that stands for an action are a name, perhaps
with arguments in parentheses. -/
def OpenTag.isClosable (t : OpenTag) : Bool :=
  !Text.startsWith "@" t.name ||
    isArguments ((Text.strip t.parameters).dropWhile fun c => Text.isWord c || c == '.')

/-- The tags that are left when the last one with a name is closed. -/
def closeNamed? (name : String) : List OpenTag → Option (List OpenTag)
  | [] => none
  | tag :: opened =>
    if tag.name = name then if tag.isClosable then some opened else none
    else (closeNamed? name opened).map (tag :: ·)

/-- The tags that are left when the last one of all is closed. -/
def closeLast? : List OpenTag → Option (List OpenTag)
  | [] => none
  | tag :: opened => if tag.isClosable then some opened else none

/-- The tags that stay open after a tag; the last one opened comes first. A tag that starts with a
slash closes the last one of its name, or the last one of all if it has no name. -/
def afterTag? (opened : List OpenTag) (content : List Char) : Option (List OpenTag) :=
  let isName (c : Char) : Bool := c != '='
  match content.takeWhile isName with
  | '/' :: name =>
    let name := Text.strip name
    if name.isEmpty then closeLast? opened
    else (Style.normalName name).bind (closeNamed? · opened)
  | name =>
    (Style.normalName name).map (⟨·, (content.dropWhile isName).drop 1⟩ :: opened)

/-- Whether a character controls a terminal. Such characters are not shown. -/
def isControl (c : Char) : Bool :=
  [0x07, 0x08, 0x0B, 0x0C, 0x0D].contains c.toNat

/-- The characters that are shown while some tags are open. -/
def shownFrom? : List OpenTag → List Piece → Option (List Char)
  | _, [] => some []
  | opened, .plain text :: pieces =>
    (shownFrom? opened pieces).map ((Emoji.replaced text).filter (!isControl ·) ++ ·)
  | opened, .tag content :: pieces =>
    (afterTag? opened content).bind (shownFrom? · pieces)

/-- Plain text can be shown anywhere. -/
theorem isSome_shownFrom?_plain (opened : List OpenTag) (text : List Char) (pieces : List Piece) :
    (shownFrom? opened (.plain text :: pieces)).isSome = (shownFrom? opened pieces).isSome := by
  rw [shownFrom?, Option.isSome_map]

/-- The width of a column that a tab stop stands for. -/
def tabWidth : Nat := 8

/-- Replaces tabs by blanks up to the next tab stop, starting at a column. -/
def expandTabs : Nat → List Char → List Char
  | _, [] => []
  | column, c :: rest =>
    if c = '\t' then
      let width := tabWidth - column % tabWidth
      List.replicate width ' ' ++ expandTabs (column + width) rest
    else if c = '\n' then c :: expandTabs 0 rest
    else c :: expandTabs (column + Text.charWidth c) rest

/-- The text that is shown for markup. -/
def shown? (markup : String) : Option String :=
  (shownFrom? [] (pieces markup.toList)).map fun shown => String.ofList (expandTabs 0 shown)

end Markup

/-- Cells side by side, as a line of text. -/
def Markup.shownLine? (cells : List String) : Option String :=
  (cells.mapM shown?).map fun shown => "  ".intercalate shown ++ "\n"

/-- Something for a console as lines of text. -/
def ConsoleItem.shown? (item : ConsoleItem) : Option String :=
  (item.lines.mapM Markup.shownLine?).map String.join

/-- A console without colours. -/
def Terminal.plain : Terminal where
  escape := Markup.escapeString
  shown? := ConsoleItem.shown?

end ScriptAudit
