import ScriptAudit.Source.Grammar
import ScriptAudit.Text.Blank
import ScriptAudit.Text.Word

/-!
# Script blocks

The code of a component file stands in script blocks. Everything else is blanked out with its line
ends kept, so that a position in the code is a position in the file.

* `Piece`, `pieces` : a file as markup and script blocks, the leftmost block first.
* `scriptText` : the file with everything but the bodies of its blocks blanked out.
* `scriptGrammar` : plain TypeScript when some block declares it.

Tags are read without regard to case. Letters that only fold to a Latin letter count too, such as
the long s and the dotted and dotless i.
-/

namespace ScriptAudit.Script

/-- Whether a character is a form of a lower-case letter. -/
def isForm (letter c : Char) : Bool :=
  (Text.lowerChar c).head? == some letter
    || (letter == 's' && c == '\u017F') || (letter == 'i' && c == '\u0131')

/-- What follows a word at the head of a text, in any form. -/
def afterWord? : List Char → List Char → Option (List Char)
  | [], text => some text
  | letter :: word, c :: text => if isForm letter c then afterWord? word text else none
  | _ :: _, [] => none

/-- The letters of the tag. -/
def tagName : List Char := ['s', 'c', 'r', 'i', 'p', 't']

/-- The letters of the attribute that names the language. -/
def attributeName : List Char := ['l', 'a', 'n', 'g']

/-- Whether a text does not go on with a word character. -/
def endsWord : List Char → Bool
  | [] => true
  | c :: _ => !Text.isWord c

/-- An opening tag at the head of a text: the tag, its attributes, and what follows. -/
def openTag? (text : List Char) : Option (List Char × List Char × List Char) :=
  match text with
  | '<' :: rest =>
    match afterWord? tagName rest with
    | none => none
    | some rest =>
      if endsWord rest then
        let attributes := rest.takeWhile (· != '>')
        match rest.dropWhile (· != '>') with
        | '>' :: after => some (text.take (text.length - after.length), attributes, after)
        | _ => none
      else none
  | _ => none

/-- Whether a closing tag stands at the head of a text. -/
def closesHere (text : List Char) : Bool :=
  match text with
  | '<' :: '/' :: rest =>
    match afterWord? tagName rest with
    | none => false
    | some rest => (rest.dropWhile Text.isBlank).head? == some '>'
  | _ => false

/-- The text up to the first closing tag, and the text from that tag on. -/
def body? (text : List Char) : Option (List Char × List Char) :=
  if closesHere text then some ([], text)
  else match text with
    | [] => none
    | c :: rest => (body? rest).map fun (body, after) => (c :: body, after)

/-- A piece of a component file: a character of markup, or an opening tag with its attributes and
the body up to the closing tag. -/
inductive Piece where
  | markup (c : Char)
  | block (opening attributes body : List Char)
  deriving DecidableEq, Repr

/-- An opening tag with a body that is closed, and the text from the closing tag on. -/
def block? (text : List Char) : Option (Piece × List Char) :=
  match openTag? text with
  | none => none
  | some (opening, attributes, rest) =>
    (body? rest).map fun (body, after) => (.block opening attributes body, after)

/-! ## Lengths -/

/-- What stands before a closing tag and what starts with it make up the text. -/
theorem body?_eq_some {text body after : List Char} (h : body? text = some (body, after)) :
    text = body ++ after := by
  fun_induction body? text generalizing body with
  | case1 text closes => simp at h; obtain ⟨rfl, rfl⟩ := h; rfl
  | case2 => simp at h
  | case3 closes c rest ih =>
    simp only [Option.map_eq_some_iff] at h
    obtain ⟨⟨b, a⟩, hb, he⟩ := h
    simp only [Prod.mk.injEq] at he
    obtain ⟨rfl, rfl⟩ := he
    rw [ih hb, List.cons_append]

/-- What follows a word is no longer than what the word started. -/
theorem afterWord?_length {word text rest : List Char} (h : afterWord? word text = some rest) :
    rest.length ≤ text.length := by
  fun_induction afterWord? word text with
  | case1 => simp at h; simp [h]
  | case2 letter word c text hc ih => have := ih h; simp only [List.length_cons]; omega
  | case3 => simp at h
  | case4 => simp at h

/-- An opening tag uses up part of the text. -/
theorem openTag?_length {text opening attributes rest : List Char}
    (h : openTag? text = some (opening, attributes, rest)) : rest.length < text.length := by
  unfold openTag? at h
  split at h
  · next tail =>
    split at h
    · simp at h
    · next after hword =>
      split at h
      · split at h
        · next tail' hdrop =>
          simp only [Option.some.injEq, Prod.mk.injEq] at h
          obtain ⟨-, -, rfl⟩ := h
          have h₁ := afterWord?_length hword
          have h₂ := (List.dropWhile_suffix (l := after) (· != '>')).length_le
          rw [hdrop] at h₂
          simp only [List.length_cons] at h₂ ⊢
          omega
        · simp at h
      · simp at h
  · simp at h

/-- A block uses up part of the text. -/
theorem block?_length {text after : List Char} {piece : Piece}
    (h : block? text = some (piece, after)) : after.length < text.length := by
  unfold block? at h
  split at h
  · simp at h
  · next opening attributes rest hopen =>
    simp only [Option.map_eq_some_iff] at h
    obtain ⟨⟨body, a⟩, hbody, he⟩ := h
    simp only [Prod.mk.injEq] at he
    obtain ⟨-, rfl⟩ := he
    have h₁ := openTag?_length hopen
    have h₂ := congrArg List.length (body?_eq_some hbody)
    simp only [List.length_append] at h₂
    omega

/-! ## Pieces -/

/-- A component file as markup and script blocks. -/
def pieces (text : List Char) : List Piece :=
  match text with
  | [] => []
  | c :: rest =>
    match _found : block? (c :: rest) with
    | some (piece, after) => piece :: pieces after
    | none => .markup c :: pieces rest
termination_by text.length
decreasing_by
  · exact block?_length _found
  · simp

/-- A character of markup: only line ends are kept. -/
def blankOut (c : Char) : Char :=
  if c = '\n' then '\n' else ' '

/-- What a piece leaves of the file. -/
def Piece.kept : Piece → List Char
  | .markup c => [blankOut c]
  | .block opening _ body => opening.map blankOut ++ body

/-- The file with everything but the bodies of its blocks blanked out. -/
def scriptText (text : List Char) : List Char :=
  (pieces text).flatMap Piece.kept

/-- Whether a character may stand in the name of a language. -/
def isLanguageChar (c : Char) : Bool :=
  Text.isWord c || c == '-'

/-- The text without one quote at its head. -/
def skipQuote : List Char → List Char
  | c :: rest => if c = '"' ∨ c = '\'' then rest else c :: rest
  | [] => []

/-- A declaration of a language at the head of a text. -/
def languageHere? (text : List Char) : Option (List Char) :=
  match afterWord? attributeName text with
  | none => none
  | some rest =>
    match rest.dropWhile Text.isBlank with
    | '=' :: rest =>
      let language := (skipQuote (rest.dropWhile Text.isBlank)).takeWhile isLanguageChar
      if language.isEmpty then none else some language
    | _ => none

/-- The language that attributes declare first. The declaration starts a word. -/
def language? (afterWordChar : Bool) : List Char → Option (List Char)
  | [] => none
  | c :: rest =>
    match if afterWordChar then none else languageHere? (c :: rest) with
    | some language => some language
    | none => language? (Text.isWord c) rest

/-- The names of plain TypeScript. -/
def typescriptNames : List String := ["ts", "typescript"]

/-- Whether a piece is a block that declares plain TypeScript. -/
def Piece.isTypescript : Piece → Bool
  | .markup _ => false
  | .block _ attributes _ =>
    match language? false attributes with
    | some language => typescriptNames.contains (String.ofList (Text.lower language))
    | none => false

/-- The grammar for the blocks of a file. -/
def scriptGrammar (text : List Char) : Grammar :=
  if (pieces text).any Piece.isTypescript then .typescript else .tsx

end ScriptAudit.Script
