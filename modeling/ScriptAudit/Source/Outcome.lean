import ScriptAudit.Source.Script
import ScriptAudit.Text.Quoted
import ScriptAudit.Tree.Damage

/-!
# Parse outcomes

A file is parsed into a document, or refused with a diagnosis. A tree with damage is still a
document, unless at least half of the text is damaged.

* `Parser` : the grammars at hand and the trees they give.
* `Source.prepared` : the text that is parsed, and with which grammar.
* `Outcome` : a document, or the message and the position of a diagnosis.
* `parse` : the outcome for a file.
-/

namespace ScriptAudit

/-- A parsing engine: the grammars it has, and the tree it makes of some bytes, if any. -/
structure Parser where
  grammars : List Grammar
  tree? : (bytes : List UInt8) → Grammar → Option Tree

/-- What came of parsing a file. The position of a diagnosis is one-based, and zero when there is
nothing to point at. -/
inductive Outcome where
  | parsed (grammar : Grammar) (document : Document)
  | refused (message : String) (line column : Nat)

namespace Source

/-- The text that is parsed for a file, and the grammar. -/
def prepared (path : String) (source : List Char) : List Char × Grammar :=
  if isTemplate path then (Script.scriptText source, Script.scriptGrammar source)
  else (source, Grammar.ofPath path)

end Source

/-- The first word of some bytes. -/
def firstToken (bytes : List UInt8) : List UInt8 :=
  (bytes.dropWhile Text.isBlankByte).takeWhile (!Text.isBlankByte ·)

/-- The longest part of a token that a diagnosis shows, in characters. -/
def shownToken : Nat := 40

/-- What a diagnosis says about a damaged node. -/
def diagnosis (d : Document) : Option Node → String
  | none => "Unexpected token"
  | some n =>
    if n.label.isMissing then "Missing " ++ n.kind
    else
      let token := firstToken (d.slice n)
      if token.isEmpty then "Unexpected token"
      else "Unexpected token " ++ String.ofList (Text.quote ((Utf8.decode token).take shownToken))

/-- The verdict on a tree. -/
def judge (grammar : Grammar) (d : Document) : Outcome :=
  if d.tree.label.hasError && (damageOf d).isHopeless then
    let first := d.root.firstDamage?
    .refused (diagnosis d first) ((first.map d.line).getD 0) ((first.map d.column).getD 0)
  else .parsed grammar d

/-- Parses a file, given its path and its text. -/
def parse (parser : Parser) (path : String) (source : List Char) : Outcome :=
  let (text, grammar) := Source.prepared path source
  if !parser.grammars.contains grammar then
    .refused ("No " ++ grammar.name ++ " grammar available for " ++ path) 0 0
  else
    let bytes := Utf8.encode text
    match parser.tree? bytes grammar with
    | none => .refused ("Unable to parse " ++ path ++ " as " ++ grammar.name) 0 0
    | some tree => judge grammar ⟨bytes, tree⟩

end ScriptAudit
