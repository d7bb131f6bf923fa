import ScriptAudit.File.Path

/-!
# Grammars

Two grammars read the whole family of script files. The one with embedded markup reads everything
that is not plain TypeScript, where a cast in angle brackets would clash with markup.

* `Grammar`, `Grammar.ofPath` : the grammars, and the one for a path.
* `isTemplate` : whether a path names a component file, whose code lives in script blocks.
-/

namespace ScriptAudit

/-- The grammars. -/
inductive Grammar where
  | typescript
  | tsx
  deriving DecidableEq, Repr

namespace Grammar

/-- The name of a grammar. -/
def name : Grammar → String
  | typescript => "typescript"
  | tsx => "tsx"

/-- The grammar with a name. -/
def ofName? (name : String) : Option Grammar :=
  [typescript, tsx].find? (·.name == name)

/-- The suffixes of plain TypeScript files. -/
def typescriptSuffixes : List String := [".ts", ".mts", ".cts"]

/-- The grammar that belongs to a path. -/
def ofPath (path : String) : Grammar :=
  if typescriptSuffixes.contains (Text.lowerString (suffix (Path.parse path).name)) then typescript
  else tsx

end Grammar

/-- The suffixes of component files. -/
def templateSuffixes : List String := [".vue", ".svelte"]

/-- Whether a path names a component file. -/
def isTemplate (path : String) : Bool :=
  templateSuffixes.contains (Text.lowerString (suffix (Path.parse path).name))

end ScriptAudit
