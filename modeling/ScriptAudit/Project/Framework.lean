import ScriptAudit.Project.Search

/-!
# Frameworks

Which framework a project is built on, and in which directory its sources are, by the names found
in a few directories.

* `Signature` : a framework, and the names that give it away.
* `frameworkOf?` : the first framework that some names give away.
* `Recognizer`, `Recognizer.profile` : where to look, and what is found there.
-/

namespace ScriptAudit

/-- A framework, and the names that give it away. -/
structure Signature where
  framework : String
  names : List String
  deriving DecidableEq, Repr

/-- A framework, and the directory with the sources. -/
structure Profile where
  framework : String
  root : Path
  deriving DecidableEq, Repr

/-- The framework of a project that nothing gives away. -/
def genericFramework : String := "node"

/-- The usual signatures, the most specific ones first. -/
def usualSignatures : List Signature :=
  [⟨"next", ["next.config.js", "next.config.mjs", "next.config.ts", "pages"]⟩,
    ⟨"nuxt", ["nuxt.config.js", "nuxt.config.ts"]⟩,
    ⟨"angular", ["angular.json"]⟩,
    ⟨"svelte", ["App.svelte", "svelte.config.js"]⟩,
    ⟨"vue", ["App.vue"]⟩,
    ⟨"nest", ["nest-cli.json", "main.ts"]⟩,
    ⟨"reactnative", ["react-native.config.js"]⟩,
    ⟨"expo", ["app.json"]⟩,
    ⟨"express", ["server.js", "app.js"]⟩,
    ⟨"react", ["App.js", "App.jsx", "App.tsx", "package.json"]⟩,
    ⟨"fullstack", ["frontend", "backend", "client", "server"]⟩]

/-- The directories in which sources usually are; the empty name is the project itself. -/
def usualCandidates : List String := ["src", "frontend", "backend", "server", ""]

/-- The extensions that usually make a directory count as one with sources. -/
def usualSourceExtensions : List String := [".ts", ".js", ".tsx", ".jsx", ".vue", ".svelte"]

/-- The first framework that some names give away. -/
def frameworkOf? (signatures : List Signature) (names : List String) : Option String :=
  (signatures.find? fun signature => signature.names.any names.contains).map (·.framework)

/-- What gives frameworks away, where to look, and which extensions sources have. -/
structure Recognizer where
  signatures : List Signature
  candidates : List String
  extensions : List String

namespace Recognizer

/-- The usual recogniser. -/
def usual : Recognizer := ⟨usualSignatures, usualCandidates, usualSourceExtensions⟩

/-- The directory that a candidate stands for. -/
def directory (root : Path) (candidate : String) : Path :=
  if candidate = "" then root else root.under candidate

/-- The profile of a directory with sources and a framework. -/
def profileAt? (r : Recognizer) (fs : FileSystem) (directory : Path) : Option Profile :=
  match fs.names directory with
  | .error _ => none
  | .ok names =>
    if names.any (isSourceName r.extensions) then
      (frameworkOf? r.signatures names).map (⟨·, directory⟩)
    else none

/-- The profile of the first directory that has one. A directory that the system cannot be asked
about is a failure, unless the profile is found before. -/
def profileAmong (r : Recognizer) (fs : FileSystem) (other : Profile) :
    List Path → Except Failure Profile
  | [] => .ok other
  | directory :: directories =>
    if directory.isBroken then .error .brokenPath
    else
      match r.profileAt? fs directory with
      | some profile => .ok profile
      | none => profileAmong r fs other directories

/-- The profile of the first candidate that has one, or else the generic one of the root. -/
def profile (r : Recognizer) (fs : FileSystem) (root : Path) : Except Failure Profile :=
  r.profileAmong fs ⟨genericFramework, root⟩ (r.candidates.map (directory root))

end Recognizer

end ScriptAudit
