import ScriptAudit.Value.Basic

/-!
# Tables of TOML

Tables are built statement by statement, and what is declared once is protected against being
declared again.

* `Entries.nest?` : opens the table at a path and changes it.
* `Marks` : what is protected. A frozen path can no longer be added to, and neither can anything
  below it; a declared path can no longer be opened by a header.
-/

namespace ScriptAudit.Toml

/-- The entries of a table, in the order in which they were made. -/
abbrev Entries := List (String × Value)

/-- Changes the entries of the table at a path; tables on the way are made if they are missing. A
list on the way stands for its last item, if `lists` allows it. -/
def Entries.nest? (lists : Bool) (change : Entries → Option Entries) :
    List String → Entries → Option Entries
  | [], entries => change entries
  | key :: keys, entries =>
    match lookup? key entries with
    | none =>
      (nest? lists change keys []).map fun inner => insertEntry key (.table inner) entries
    | some (.table inner) =>
      (nest? lists change keys inner).map fun inner => insertEntry key (.table inner) entries
    | some (.list items) =>
      match lists, items.getLast? with
      | true, some (.table inner) =>
        (nest? lists change keys inner).map fun inner =>
          insertEntry key (.list (items.dropLast ++ [.table inner])) entries
      | _, _ => none
    | some _ => none

/-- Adds an entry under a new key. -/
def Entries.add? (key : String) (value : Value) (entries : Entries) : Option Entries :=
  if (lookup? key entries).isSome then none else some (entries ++ [(key, value)])

/-- Adds an empty table to the list under a key. -/
def Entries.append? (key : String) (entries : Entries) : Option Entries :=
  match lookup? key entries with
  | none => some (entries ++ [(key, .list [.table []])])
  | some (.list items) => some (insertEntry key (.list (items ++ [.table []])) entries)
  | some _ => none

/-- The kinds of protection. -/
inductive Protection where
  | frozen
  | declared
  deriving DecidableEq, Repr

/-- A protected path; a deep mark protects everything below as well. -/
structure Mark where
  path : List String
  kind : Protection
  deep : Bool
  deriving DecidableEq, Repr

/-- The protected paths. -/
abbrev Marks := List Mark

/-- Whether a path is protected. -/
def Marks.holds (marks : Marks) (kind : Protection) (path : List String) : Bool :=
  !path.isEmpty && marks.any fun mark =>
    mark.kind == kind && (mark.path == path || (mark.deep && mark.path.isPrefixOf path))

/-- Lifts the protection of a path and of everything below it. -/
def Marks.release (marks : Marks) (path : List String) : Marks :=
  marks.filter fun mark => !path.isPrefixOf mark.path

/-- Freezes a path if a collection was put there. -/
def Marks.freeze (marks : Marks) (path : List String) : Value → Marks
  | .list _ | .table _ => ⟨path, .frozen, true⟩ :: marks
  | _ => marks

end ScriptAudit.Toml
