import ScriptAudit.Proofs.DistinctKeys
import ScriptAudit.Rule.Syntactic

/-!
# An index of names

The question whether a name is used is put to an index of all identifiers by spelling. It takes a walk
over the whole document to make, so it is made when the first question comes, and kept. Who asks first,
and how often, is not to be seen in the answers.

- `Syntactic.Index`: the places of identifiers by spelling; `Syntactic.places_indexOf`: **the places under
  a name are those of the identifiers with that name.**
- `Syntactic.ask`: a question, and `Syntactic.unusedVariableAsking`: the rule about unused variables with
  its questions.
- `Syntactic.IsKept`: the index is not made yet, or it is that of the document.
- `Syntactic.run_asking`: **nodes looked at in any order get the findings that each of them gets alone.**
-/

namespace ScriptAudit

namespace Syntactic

/-! ## The index -/

/-- The bytes covered by the identifiers with each spelling. -/
abbrev Index := List (String × List (Nat × Nat))

/-- The bytes covered by the identifiers with a spelling. -/
def Index.places (index : Index) (name : String) : List (Nat × Nat) :=
  (lookup? name index).getD []

/-- Puts an identifier under its spelling, behind those that are there. -/
def Index.add (index : Index) (r : Reference) : Index :=
  insertEntry r.name (index.places r.name ++ [(r.start, r.stop)]) index

/-- The index of a document. -/
def indexOf (d : Document) : Index :=
  (references d).foldl Index.add []

theorem Index.places_add (index : Index) (r : Reference) (name : String) :
    (index.add r).places name
      = index.places name ++ if r.name = name then [(r.start, r.stop)] else [] := by
  rw [places, add, lookup?_insertEntry]
  by_cases hname : r.name = name
  · rw [if_pos hname, if_pos hname, hname]
    rfl
  · rw [if_neg hname, if_neg hname, List.append_nil]
    rfl

theorem Index.places_foldl (index : Index) (known : List Reference) (name : String) :
    (known.foldl add index).places name
      = index.places name ++ (known.filter (·.name == name)).map fun r => (r.start, r.stop) := by
  induction known generalizing index with
  | nil => exact (List.append_nil _).symm
  | cons r known ih =>
    rw [List.foldl_cons, ih, places_add, List.append_assoc]
    by_cases hname : r.name = name
    · rw [if_pos hname, List.filter_cons, if_pos (beq_iff_eq.2 hname)]
      rfl
    · rw [if_neg hname, List.filter_cons, if_neg (mt beq_iff_eq.1 hname)]
      rfl

/-- **Under a name there are the identifiers with that name**, in document order. -/
theorem places_indexOf (d : Document) (name : String) :
    (indexOf d).places name
      = ((references d).filter (·.name == name)).map fun r => (r.start, r.stop) :=
  Index.places_foldl [] (references d) name

/-! ## Questions -/

/-- Asks for the places under a name. The index is made if there is none yet. -/
def ask (d : Document) (name : String) : StateM (Option Index) (List (Nat × Nat)) := do
  let index := (← get).getD (indexOf d)
  set (some index)
  return index.places name

/-- Whether one of some places is another one than that of a binding, and in a scope. -/
def isUsedAt (places : List (Nat × Nat)) (binding scope : Node) : Bool :=
  places.any fun (start, stop) =>
    !(start == binding.label.start && stop == binding.label.stop)
      && (scope.label.start ≤ start && stop ≤ scope.label.stop)

/-- A variable that nothing within its scope uses, by what is asked of the index. -/
def unusedVariableAsking (d : Document) (n : Node) : StateM (Option Index) (List Finding) :=
  if n.kind = "variable_declarator" then
    match n.child? "name", n.parent? with
    | some binding, some declaration =>
      if binding.isIdentifier && !isExternal declaration then do
        let places ← ask d (d.text binding)
        if isUsedAt places binding (bindingScope d declaration) then return []
        else
          return [.plain n .warning "UNUSED_VARIABLE" ("Unused variable: " ++ d.text binding)]
      else return []
    | _, _ => return []
  else return []

/-- Whether what is kept is nothing, or the index of a document. -/
def IsKept (d : Document) (memory : Option Index) : Prop :=
  memory.getD (indexOf d) = indexOf d

variable {d : Document} {memory : Option Index}

theorem isKept_none : IsKept d none := rfl

theorem isKept_indexOf : IsKept d (some (indexOf d)) := rfl

/-- What follows a computation goes on with its result and its state. -/
theorem run_bind_eq {σ α β : Type} {first : StateM σ α} {next : α → StateM σ β} {a : α} {s t : σ}
    (h : first.run s = (a, t)) : (first >>= next).run s = (next a).run t := by
  rw [StateT.run_bind, h]
  rfl

theorem run_ask (h : IsKept d memory) (name : String) :
    (ask d name).run memory = ((indexOf d).places name, some (indexOf d)) := by
  show ((memory.getD (indexOf d)).places name, some (memory.getD (indexOf d))) = _
  rw [h]

/-- Looking up the places under the name of a binding is as good as looking through all identifiers. -/
theorem isUsedAt_places (d : Document) (binding scope : Node) :
    isUsedAt ((indexOf d).places (d.text binding)) binding scope
      = isUsed d (references d) binding scope := by
  rw [places_indexOf, isUsedAt, isUsed, List.any_map, List.any_filter]
  simp only [Function.comp_apply, Reference.isWithin, Bool.and_assoc]

/-- A question changes nothing but whether the index is there. -/
theorem run_unusedVariableAsking (h : IsKept d memory) (n : Node) :
    ∃ memory', IsKept d memory' ∧
      (unusedVariableAsking d n).run memory = (unusedVariable d (references d) n, memory') := by
  rw [unusedVariableAsking, unusedVariable]
  by_cases hkind : n.kind = "variable_declarator"
  · -- The index is asked for only by a declarator that has a name and a declaration of its own.
    rw [if_pos hkind, if_pos hkind]
    cases hname : n.child? "name" with
    | none => exact ⟨memory, h, rfl⟩
    | some binding =>
      cases hparent : n.parent? with
      | none => exact ⟨memory, h, rfl⟩
      | some declaration =>
        simp only
        by_cases hown : (binding.isIdentifier && !isExternal declaration) = true
        · -- The index is made or was there already: its places are those of the references.
          refine ⟨some (indexOf d), isKept_indexOf, ?_⟩
          rw [if_pos hown, hown, Bool.true_and, run_bind_eq (run_ask h _), ← isUsedAt_places]
          cases isUsedAt ((indexOf d).places (d.text binding)) binding
              (bindingScope d declaration) with
          | true => rfl
          | false => rfl
        · refine ⟨memory, h, ?_⟩
          rw [if_neg hown, eq_false_of_ne_true hown]
          rfl
  · rw [if_neg hkind, if_neg hkind]
    exact ⟨memory, h, rfl⟩

/-- **Nodes looked at in any order get the findings that each of them gets alone.** -/
theorem run_asking (h : IsKept d memory) (order : List Node) :
    ∃ memory', IsKept d memory' ∧
      (order.mapM (unusedVariableAsking d)).run memory
        = (order.map (unusedVariable d (references d)), memory') := by
  induction order generalizing memory with
  | nil => exact ⟨memory, h, rfl⟩
  | cons n order ih =>
    obtain ⟨after, hafter, hn⟩ := run_unusedVariableAsking h n
    obtain ⟨last, hlast, horder⟩ := ih hafter
    refine ⟨last, hlast, ?_⟩
    rw [List.mapM_cons, run_bind_eq hn, run_bind_eq horder]
    rfl

end Syntactic

end ScriptAudit
