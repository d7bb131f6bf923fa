import ScriptAudit.Text.Case
import ScriptAudit.Text.Line

/-!
# Paths

Paths as text, without a file system.

* `Path` : whether a path starts at the root of the file system, and its components; a parsed path
  has neither empty components nor single dots.
* `Path.parse`, `Path.text` : reading and writing.
* `Path.join`, `Path.normal` : one path under another; double dots removed by the text alone.
* `Path.name`, `Path.above` : the last component, and the path without it.
* `Path.isBroken` : whether the system cannot be asked about a path.
* `Path.relativeTo` : the way from one directory to a path.
* `suffix`, `extension` : two notions of what follows the last dot of a name.
-/

namespace ScriptAudit

/-- A path as the components between its slashes. -/
structure Path where
  absolute : Bool
  parts : List String
  deriving DecidableEq, Repr, Inhabited

namespace Path

/-- The components of a path that count: neither empty nor a single dot. -/
def components (text : String) : List String :=
  (Text.splitString '/' text).filter fun part => part != "" && part != "."

/-- Reads a path. -/
def parse (text : String) : Path :=
  ⟨Text.startsWith "/" text, components text⟩

/-- The absolute path with the given components. -/
def ofParts (parts : List String) : Path :=
  ⟨true, parts⟩

/-- Components with slashes between them. -/
def joined (parts : List String) : String :=
  "/".intercalate parts

/-- Writes a path; a relative path without components is a single dot. -/
def text (p : Path) : String :=
  if p.absolute then "/" ++ joined p.parts
  else if p.parts.isEmpty then "." else joined p.parts

/-- A path below another; an absolute path stands for itself. -/
def join (base p : Path) : Path :=
  if p.absolute then p else ⟨base.absolute, base.parts ++ p.parts⟩

/-- A path below another, given as text. -/
def under (base : Path) (text : String) : Path :=
  base.join (parse text)

/-- The last component, or the empty text. -/
def name (p : Path) : String :=
  p.parts.getLast?.getD ""

/-- The path without its last component. -/
def above (p : Path) : Path :=
  { p with parts := p.parts.dropLast }

/-- Whether a NUL stands in a path, so that it cannot be handed to the system. -/
def isBroken (p : Path) : Bool :=
  p.parts.any fun part => part.toList.contains (Char.ofNat 0)

/-- Adds a component to those of an absolute path, a double dot taking one away. The components
are held last first. -/
def normalStep (above : List String) (part : String) : List String :=
  if part = ".." then above.drop 1 else part :: above

/-- The components of an absolute path without double dots. -/
def normal (p : Path) : List String :=
  (p.parts.foldl normalStep []).reverse

/-- Drops the components that two lists share at their head. -/
def dropShared : List String → List String → List String × List String
  | a :: as, b :: bs => if a = b then dropShared as bs else (a :: as, b :: bs)
  | as, bs => (as, bs)

/-- The way from an absolute directory to an absolute path, judged by the text alone. -/
def relativeTo (p directory : Path) : String :=
  let (up, down) := dropShared directory.normal p.normal
  let parts := up.map (fun _ => "..") ++ down
  if parts.isEmpty then "." else joined parts

end Path

/-- The text from the last dot on, if there is a dot: what stands before it, and the rest. -/
def lastDot? (name : List Char) : Option (List Char × List Char) :=
  let after := name.reverse.takeWhile (· != '.')
  if after.length = name.length then none
  else
    let before := name.length - after.length - 1
    some (name.take before, name.drop before)

/-- The suffix of a name: from its last dot on, unless the dot is the first or the last
character. -/
def suffix (name : String) : String :=
  match lastDot? name.toList with
  | some (before, rest) =>
    if before.isEmpty || rest.length == 1 then "" else String.ofList rest
  | none => ""

/-- The extension of a name: from its last dot on, unless only dots stand before it. A slash
starts the name afresh. -/
def extension (name : String) : String :=
  let last := (Text.split '/' name.toList).getLast?.getD []
  match lastDot? last with
  | some (before, rest) => if before.all (· == '.') then "" else String.ofList rest
  | none => ""

/-- The extension of a name in lower case. -/
def lowerExtension (name : String) : String :=
  Text.lowerString (extension name)

end ScriptAudit
