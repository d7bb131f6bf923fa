import ScriptAudit.Failure.Basic
import ScriptAudit.Json.Printer

/-!
# Lint profiles

What an external linter is told to check, by the framework of a project. A linter reads its
configuration in one of two shapes: a legacy one, which is plain data, and a flat one, which is a
module of code.

* `LintPreset`, `LintPreset.all` : ready-made rule sets, and where the flat shape finds them.
* `LintProfile` : a rule set and a dialect; `LintProfile.ofFramework` picks one.
* `LintProfile.legacyConfig` : the legacy shape.
* `LintProfile.flatConfig` : the flat shape, which fails for an unknown preset.
-/

namespace ScriptAudit

/-- A ready-made rule set: its name, the package that holds it, how it is read off the package, and
whether it is a list of rule sets. -/
structure LintPreset where
  name : String
  package : String
  member : String
  isList : Bool
  deriving DecidableEq, Repr

namespace LintPreset

/-- The known presets. -/
def all : List LintPreset :=
  [⟨"eslint:recommended", "@eslint/js", "configs.recommended", false⟩,
    ⟨"plugin:react/recommended", "eslint-plugin-react", "configs.flat.recommended", false⟩,
    ⟨"plugin:vue/vue3-recommended", "eslint-plugin-vue", "configs[\"flat/recommended\"]", true⟩,
    ⟨"plugin:@typescript-eslint/recommended", "typescript-eslint", "configs.recommended", true⟩,
    ⟨"plugin:svelte/recommended", "eslint-plugin-svelte", "configs[\"flat/recommended\"]", true⟩]

/-- The preset with a name. -/
def ofName (name : String) : Except Failure LintPreset :=
  match all.find? (·.name == name) with
  | some preset => .ok preset
  | none => .error (.ofFault .unknownKey (Text.quoteString name))

/-- The line that puts a preset into a flat configuration. -/
def flatLine (preset : LintPreset) : String :=
  (if preset.isList then "  ..." else "  ") ++ "require(" ++ Json.quoteString preset.package ++ ")."
    ++ preset.member ++ ","

end LintPreset

/-- A rule set and a dialect. The edition is the version of the language standard, and `markup`
tells whether code may contain markup. -/
structure LintProfile where
  name : String
  presets : List String
  plugins : List String
  edition : Value
  markup : Bool

namespace LintProfile

/-- The edition of the language standard that is usually asked for. -/
def usualEdition : Value := .int 2021

/-- The profile of a project without a framework that matters here. -/
def default : LintProfile :=
  ⟨"default", ["eslint:recommended"], [], usualEdition, false⟩

/-- The profile for components in markup. -/
def react : LintProfile :=
  ⟨"react", ["eslint:recommended", "plugin:react/recommended"], ["react", "react-hooks"],
    usualEdition, true⟩

/-- The profile for component files with templates. -/
def vue : LintProfile :=
  ⟨"vue", ["plugin:vue/vue3-recommended"], ["vue"], usualEdition, false⟩

/-- The profile for typed projects. -/
def typescript : LintProfile :=
  ⟨"typescript", ["plugin:@typescript-eslint/recommended"], ["@typescript-eslint"], .int 2022,
    false⟩

/-- The profile for component files that are compiled away. -/
def svelte : LintProfile :=
  ⟨"svelte", ["plugin:svelte/recommended"], ["svelte"], usualEdition, false⟩

/-- The frameworks with a profile of their own. -/
def byFramework : List (String × LintProfile) :=
  [("react", react), ("next", react), ("reactnative", react), ("expo", react), ("vue", vue),
    ("nuxt", vue), ("angular", typescript), ("nest", typescript), ("svelte", svelte)]

/-- The profile for a framework. -/
def ofFramework (framework : String) : LintProfile :=
  (lookup? framework byFramework).getD default

/-! ## The legacy shape -/

/-- The feature that allows markup. -/
def features (p : LintProfile) : List (String × Value) :=
  if p.markup then [("ecmaFeatures", .table [("jsx", .bool true)])] else []

/-- A profile in the legacy shape. -/
def legacyConfig (p : LintProfile) : Value :=
  .table [("root", .bool true),
    ("env", .table [("es2021", .bool true), ("node", .bool true)]),
    ("parserOptions",
      .table ([("ecmaVersion", p.edition), ("sourceType", .text "module")] ++ p.features)),
    ("extends", .list (p.presets.map .text)), ("plugins", .list (p.plugins.map .text))]

/-! ## The flat shape -/

/-- The files that are linted. -/
def lintedFiles : Value :=
  .list [.text "**/*.\x7bjs,jsx,mjs,cjs,ts,tsx,mts,cts,vue,svelte\x7d"]

/-- The options of the language. -/
def languageOptions (p : LintProfile) : Value :=
  .table [("ecmaVersion", p.edition), ("sourceType", .text "module"),
    ("parserOptions", .table p.features)]

/-- The lines before the list of rule sets. Packages are looked for where the linter is installed;
a package that is missing does no harm. -/
def flatHead (resolveFrom : String) : List String :=
  ["import \x7b createRequire \x7d from \"node:module\";",
    "const require = createRequire(" ++ Json.quoteString resolveFrom ++ ");",
    "function optional(name) \x7b", "  try \x7b", "    return require(name);", "  \x7d catch \x7b",
    "    return undefined;", "  \x7d", "\x7d", "const globals = optional(\"globals\");",
    "export default ["]

/-- The lines of the rule set that names files and options. -/
def flatOptions (p : LintProfile) : List String :=
  ["  \x7b", "    files: " ++ Json.compact lintedFiles ++ ",",
    "    languageOptions: Object.assign(" ++ Json.compact p.languageOptions ++ ", \x7b",
    "      globals: globals ? \x7b ...globals.es2021, ...globals.node \x7d : \x7b\x7d,",
    "    \x7d),", "  \x7d,"]

/-- A profile in the flat shape. -/
def flatConfig (p : LintProfile) (resolveFrom : String) : Except Failure String :=
  (p.presets.mapM LintPreset.ofName).map fun presets =>
    "\n".intercalate (flatHead resolveFrom ++ presets.map LintPreset.flatLine ++ p.flatOptions
      ++ ["];", ""])

/-- The profile of a framework is one of those that are listed, or the usual one. -/
theorem ofFramework_mem (framework : String) :
    ofFramework framework ∈ default :: byFramework.map (·.2) := by
  unfold ofFramework
  cases hfound : lookup? framework byFramework with
  | none => exact List.mem_cons_self
  | some p => exact List.mem_cons_of_mem _ (List.mem_map_of_mem (mem_of_lookup? hfound))

/-- The presets of every framework are known, so its profile has a flat shape. -/
theorem exists_flatConfig (framework resolveFrom : String) :
    ∃ text, (ofFramework framework).flatConfig resolveFrom = .ok text := by
  have hknown : ∀ p ∈ default :: byFramework.map (·.2),
      (p.presets.mapM LintPreset.ofName).toOption.isSome = true := by
    decide
  have hpresets := hknown _ (ofFramework_mem framework)
  unfold flatConfig
  cases hmade : (ofFramework framework).presets.mapM LintPreset.ofName with
  | error failure =>
    rw [hmade] at hpresets
    cases hpresets
  | ok presets => exact ⟨_, rfl⟩

end LintProfile

end ScriptAudit
