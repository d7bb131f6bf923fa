import ScriptAudit.Decimal.Binary
import ScriptAudit.Text.Blank
import ScriptAudit.Tree.Document

/-!
# Damage

A grammar never refuses a text. Where it cannot go on it leaves an error node around what it could
not read, or puts in a missing node of no width. How much of a text is damaged decides whether its
tree can be trusted.

* `Node.damage` : the error and missing nodes, in document order, nothing below an error node.
* `Node.enclosingStatement?` : the statement around a missing node.
* `damagedSpans` : the stretches that count as damaged.
* `coveredBytes` : the bytes other than blanks in a union of stretches, each counted once.
* `damageOf` : the damaged bytes and all bytes that are not blank.
* `Node.firstDamage?` : the node that a diagnosis is about.
-/

namespace ScriptAudit

namespace Node

/-- Works off an agenda of nodes in document order. A node without damage below it is not opened,
and neither is an error node. -/
def damageFrom : List Node → List Node
  | [] => []
  | n :: agenda =>
    if n.label.isError then n :: damageFrom agenda
    else
      let opened := if n.label.hasError then n.children else []
      if n.label.isMissing then n :: damageFrom (opened ++ agenda)
      else damageFrom (opened ++ agenda)
termination_by agenda => sizes agenda
decreasing_by
  all_goals
    have := size_eq n
    simp only [sizes_append, sizes_cons]
    first
      | omega
      | (split
         · omega
         · simp only [sizes_nil]; omega)

/-- The error nodes and the missing nodes at and below a node. -/
def damage (n : Node) : List Node :=
  damageFrom [n]

/-- Whether a kind is a block, a statement or a declaration. -/
def isStatementKind (kind : String) : Bool :=
  kind == "statement_block" || Text.endsWith "_statement" kind || Text.endsWith "_declaration" kind

/-- The nearest block, statement or declaration strictly between a node and the root. -/
def enclosingStatement? (n : Node) : Option Node :=
  n.ancestors.dropLast.find? fun above => isStatementKind above.kind

/-- The node that a diagnosis is about: the first damaged node other than the root, or else the
root if it is damaged itself. -/
def firstDamage? (n : Node) : Option Node :=
  match n.damage.find? fun damaged => !damaged.isSame n with
  | some damaged => some damaged
  | none => if n.label.isError || n.label.isMissing then some n else none

end Node

/-- A stretch of bytes: the first offset, and the offset after the last. -/
abbrev Span := Nat × Nat

/-- The stretch that a damaged node stands for: an error node covers itself, and a missing node
spoils the statement around it. -/
def damagedSpan? (n : Node) : Option Span :=
  let region := if n.label.isError then some n else n.enclosingStatement?
  region.map fun n => (n.label.start, n.label.stop)

/-- The damaged stretches below a root. -/
def damagedSpans (root : Node) : List Span :=
  root.damage.filterMap damagedSpan?

/-- The bytes that are not blank. -/
def solidBytes (bytes : List UInt8) : Nat :=
  bytes.countP (!Text.isBlankByte ·)

/-- Orders stretches by their start, then by their stop. -/
def spanOrder (a b : Span) : Bool :=
  a.1 < b.1 || (a.1 == b.1 && a.2 ≤ b.2)

/-- Sweeps over stretches in ascending order and counts what lies behind the furthest offset
reached so far. -/
def sweep (bytes : List UInt8) : Nat → List Span → Nat
  | _, [] => 0
  | reached, (start, stop) :: spans =>
    let start := max start reached
    if start < stop then solidBytes (byteRange bytes start stop) + sweep bytes stop spans
    else sweep bytes reached spans

/-- The bytes other than blanks that lie in some stretch. -/
def coveredBytes (bytes : List UInt8) (spans : List Span) : Nat :=
  sweep bytes 0 (spans.mergeSort spanOrder)

/-- The damaged part of a text: damaged bytes out of all bytes that are not blank. -/
structure DamageShare where
  damaged : Nat
  total : Nat
  deriving DecidableEq, Repr

/-- The damage of a document. A root that is an error node damages everything. -/
def damageOf (d : Document) : DamageShare :=
  let total := solidBytes d.bytes
  if d.tree.label.isError then ⟨total, total⟩
  else ⟨coveredBytes d.bytes (damagedSpans d.root), total⟩

/-- The damaged part as a fraction in floating point; a blank text is undamaged. -/
def DamageShare.fraction (share : DamageShare) : Binary :=
  if share.total = 0 then .finite false 0 (-1074) else .ofRatio false share.damaged share.total

/-- Whether at least half of a text that is not blank is damaged. -/
def DamageShare.isHopeless (share : DamageShare) : Bool :=
  share.total != 0 && share.total ≤ 2 * share.damaged

end ScriptAudit
