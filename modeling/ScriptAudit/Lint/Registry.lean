import ScriptAudit.Lint.External
import ScriptAudit.Setting.Settings

/-!
# The linters of a run

One linter serves all files of a framework. It is made when it is first asked for, and closed with
all others.

* `Registry` : everything that was ever made, what is open, and what was closed.
* `Registry.get`, `Registry.close` : asking for the linter of a framework, and closing all.
* `Registry.getChecked` : asking for a linter that may fail to be made.
* `RunLinter`, `RunLinter.make` : what is made for a framework under some settings.
* `Settings.absentLinter` : the linter where none is installed.
-/

namespace ScriptAudit

/-- Things made one after the other and known by their numbers: those that are open, by name, and
the numbers of those that were closed, in order. -/
structure Registry (α : Type) where
  made : List α
  opened : List (String × Nat)
  closed : List Nat
  deriving DecidableEq, Repr

namespace Registry

variable {α : Type}

/-- Nothing made yet. -/
def empty : Registry α := ⟨[], [], []⟩

/-- Opens a thing that was just made under a name. -/
def opening (name : String) (thing : α) (r : Registry α) : Nat × Registry α :=
  let number := r.made.length
  (number, { r with made := r.made ++ [thing], opened := insertEntry name number r.opened })

/-- The number of the thing that is open under a name. It is made if there is none. -/
def get (make : (name : String) → (number : Nat) → α) (name : String) (r : Registry α) :
    Nat × Registry α :=
  match lookup? name r.opened with
  | some number => (number, r)
  | none => r.opening name (make name r.made.length)

/-- The same for things that may fail to be made; nothing is opened then. -/
def getChecked (make : (name : String) → (number : Nat) → Except Failure α) (name : String)
    (r : Registry α) : Except Failure (Nat × Registry α) :=
  match lookup? name r.opened with
  | some number => .ok (number, r)
  | none => (make name r.made.length).map fun thing => r.opening name thing

/-- Closes everything that is open. -/
def close (r : Registry α) : Registry α :=
  { r with opened := [], closed := r.closed ++ r.opened.map (·.2) }

/-- Whether the thing with a number was closed. -/
def isClosed (r : Registry α) (number : Nat) : Bool :=
  r.closed.contains number

/-- What was open is closed afterwards, and what was closed stays so. -/
theorem isClosed_close (r : Registry α) (number : Nat) :
    r.close.isClosed number = true ↔
      r.isClosed number = true ∨ ∃ name, (name, number) ∈ r.opened := by
  simp [isClosed, close]

end Registry

/-- What serves a framework: an external linter, or one that never reports anything. -/
inductive RunLinter where
  | silent
  | external (linter : ExternalLinter)

namespace RunLinter

/-- The linter for a framework. It is silent if linting is disabled or the command is not found. -/
def make (settings : Settings) (host : CommandHost) (directory : Nat → String)
    (framework : String) (number : Nat) : Except Failure RunLinter :=
  let command := settings.lintCommand.display
  if settings.lintEnabled && (host.find command).isSome then
    (ExternalLinter.start host (.ofFramework framework) command settings.lintTimeout none
      (directory number)).map external
  else .ok silent

/-- The external linter, if it is one. -/
def external? : RunLinter → Option ExternalLinter
  | silent => none
  | external l => some l

/-- A linter that is made runs a command exactly if linting is enabled and the command is found. -/
theorem external?_of_make {settings : Settings} {host : CommandHost} {directory : Nat → String}
    {framework : String} {number : Nat} {linter : RunLinter}
    (h : make settings host directory framework number = .ok linter) :
    linter.external?.isSome
      = (settings.lintEnabled && (host.find settings.lintCommand.display).isSome) := by
  unfold make at h
  dsimp only at h
  split at h
  case isTrue hruns =>
    rw [hruns]
    cases hstart : ExternalLinter.start host (.ofFramework framework) settings.lintCommand.display
        settings.lintTimeout none (directory number) with
    | error failure =>
      rw [hstart] at h
      cases h
    | ok external =>
      rw [hstart] at h
      cases h
      rfl
  case isFalse hsilent =>
    cases h
    exact (Bool.eq_false_iff.2 hsilent).symm

/-- What serves a framework as a linter. -/
def linter (host : CommandHost) : RunLinter → Linter
  | silent => .silent
  | external l => l.linter host

end RunLinter

/-- The linter of every framework where no command can be found. The settings have to name a
command all the same. -/
def Settings.absentLinter (s : Settings) (_framework : String) : Except Failure Linter :=
  s.checkLinting.map fun _ => .silent

end ScriptAudit
