import ScriptAudit.Text.Utf8
import ScriptAudit.Text.Line
import ScriptAudit.Tree.Basic

/-!
# Documents

A text together with its syntax tree. Nodes give byte offsets; the document turns them into text
and into positions. Lines end at a line feed only, and columns count bytes.

* `Document` : the bytes and the tree.
* `Document.slice`, `Document.text` : the bytes and the text of a node.
* `rowOf`, `columnOf` : the zero-based position of an offset.
* `Document.line`, `Document.column` : the one-based position of a node's start.
-/

namespace ScriptAudit

/-- The byte that ends a line. -/
def lineFeed : UInt8 := 10

/-- The number of line ends before an offset. -/
def rowOf (bytes : List UInt8) (offset : Nat) : Nat :=
  (bytes.take offset).count lineFeed

/-- The offset just after the last line end of some bytes, or zero. -/
def afterLastLineFeed (bytes : List UInt8) : Nat :=
  match bytes.reverse.findIdx? (· == lineFeed) with
  | some fromEnd => bytes.length - fromEnd
  | none => 0

/-- The number of bytes between the last line end before an offset and the offset. -/
def columnOf (bytes : List UInt8) (offset : Nat) : Nat :=
  offset - afterLastLineFeed (bytes.take offset)

/-- The bytes from one offset to another. -/
def byteRange (bytes : List UInt8) (start stop : Nat) : List UInt8 :=
  (bytes.drop start).take (stop - start)

/-- The bytes of a text and its syntax tree. -/
structure Document where
  bytes : List UInt8
  tree : Tree

namespace Document

/-- The root of the tree in its place. -/
def root (d : Document) : Node :=
  .root d.tree

/-- The bytes that a node covers. -/
def slice (d : Document) (n : Node) : List UInt8 :=
  byteRange d.bytes n.label.start n.label.stop

/-- The text that a node covers. -/
def text (d : Document) (n : Node) : String :=
  Utf8.decodeString (d.slice n)

/-- The text of a node that may be absent. -/
def text? (d : Document) (n : Option Node) : String :=
  (n.map d.text).getD ""

/-- The zero-based row of a node's start. -/
def row (d : Document) (n : Node) : Nat :=
  rowOf d.bytes n.label.start

/-- The one-based line of a node's start. -/
def line (d : Document) (n : Node) : Nat :=
  d.row n + 1

/-- The one-based column of a node's start. -/
def column (d : Document) (n : Node) : Nat :=
  columnOf d.bytes n.label.start + 1

/-- The number of line ends between a node's start and its stop. -/
def lineSpan (d : Document) (n : Node) : Int :=
  (rowOf d.bytes n.label.stop : Int) - d.row n

end Document

end ScriptAudit
