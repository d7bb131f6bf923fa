import ScriptAudit.Tree.Basic
import ScriptAudit.Value.Field

/-!
# Trees as rows

A tree written as a list of rows, one for each node, every node before those below it. A row holds
the depth, the kind, four flags in one number, where the node starts and ends, and perhaps the name
of a field.

* `Label.ofRow` : the label in a row.
* `Tree.ofRows?` : the tree that rows stand for.
-/

namespace ScriptAudit

/-- Whether a flag is set in a number of flags. -/
def hasFlag (flags flag : Nat) : Bool :=
  flags / flag % 2 == 1

/-- The label in a row without its depth. -/
def Label.ofRow (row : List Value) : Label :=
  let item (i : Nat) : Value := row.getD i .null
  let flags := (item 1).nat
  { kind := ((item 0).text?).getD "", named := hasFlag flags 1, isError := hasFlag flags 2
    isMissing := hasFlag flags 4, hasError := hasFlag flags 8, start := (item 2).nat
    stop := (item 3).nat, field := (item 4).text? }

namespace Tree

/-- Puts a row in front of the trees that follow it, each with its depth. Those that lie deeper
become its children. -/
def attach (row : Value) (following : List (Nat × Tree)) : List (Nat × Tree) :=
  let depth := (row.elements.headD .null).nat
  let isBelow (other : Nat × Tree) : Bool := depth < other.1
  (depth, .node (.ofRow (row.elements.drop 1)) ((following.takeWhile isBelow).map (·.2)))
    :: following.dropWhile isBelow

/-- The tree that rows stand for: that of the first row. -/
def ofRows? (rows : List Value) : Option Tree :=
  ((rows.foldr attach []).head?).map (·.2)

/-- The tree that a value stands for, if it is a list of rows. -/
def ofValue? : Value → Option Tree
  | .list rows => ofRows? rows
  | _ => none

end Tree

end ScriptAudit
