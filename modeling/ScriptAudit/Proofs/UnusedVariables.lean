import Mathlib.Data.List.Flatten
import ScriptAudit.Proofs.NameIndex
import ScriptAudit.Proofs.NodesBelow
import ScriptAudit.Proofs.RuleFindings

/-!
# Variables that nothing uses

What is reported is said in terms of the tree alone: which node bounds a binding, and which nodes use it.
The search upwards, the table of identifiers and the comparison of byte ranges are brought to these.

- `Syntactic.Bounds`: a node bounds the bindings of a declaration. There is exactly one such node, the one
  that the search upwards finds (`Syntactic.bounds_iff`).
- `Syntactic.Uses`: a node uses a binding within a node; `Syntactic.isUsed_iff`.
- `Syntactic.IsUnused`: nothing uses a binding within the node that bounds it.
- `Syntactic.unusedVariables_iff`: **a declarator is reported if its binding is unused, and once; in
  whatever order declarators ask the index, each has the same answer.**
-/

namespace ScriptAudit

namespace Syntactic

open Node

variable {d : Document} {n binding declaration scope : Node}

/-! ## Bounds -/

/-- Whether a node bounds the bindings of a declaration. It is the nearest one above of a kind that
bounds them. Where there is none, it is the root. -/
inductive Bounds (d : Document) (declaration : Node) : Node → Prop
  | above {nearer farther : List Node} {scope : Node}
      (hancestors : declaration.ancestors = nearer ++ scope :: farther)
      (hkind : scope.kind ∈ scopeKinds declaration)
      (hnearer : ∀ m ∈ nearer, m.kind ∉ scopeKinds declaration) :
    Bounds d declaration scope
  | root (hnone : ∀ m ∈ declaration.ancestors, m.kind ∉ scopeKinds declaration) :
    Bounds d declaration d.root

theorem bounds_bindingScope (d : Document) (declaration : Node) :
    Bounds d declaration (bindingScope d declaration) := by
  rw [bindingScope]
  cases hfind : declaration.ancestors.find? fun m => (scopeKinds declaration).contains m.kind with
  | none =>
    refine .root fun m hm => ?_
    simpa using List.find?_eq_none.1 hfind m hm
  | some scope =>
    obtain ⟨hkind, nearer, farther, hancestors, hnearer⟩ := List.find?_eq_some_iff_append.1 hfind
    refine .above hancestors (by simpa using hkind) fun m hm => ?_
    simpa using hnearer m hm

/-- The search upwards finds what bounds the bindings, and nothing else bounds them. -/
theorem bounds_iff : Bounds d declaration scope ↔ bindingScope d declaration = scope := by
  constructor
  · rintro (⟨hancestors, hkind, hnearer⟩ | hnone)
    · -- The nearest scope is the first one upwards; without one the whole document bounds the
      -- binding.
      have hfind : (declaration.ancestors.find? fun m => (scopeKinds declaration).contains m.kind)
          = some scope := by
        refine List.find?_eq_some_iff_append.2 ⟨by simpa using hkind, _, _, hancestors, ?_⟩
        exact fun m hm => by simpa using hnearer m hm
      rw [bindingScope, hfind]
      rfl
    · have hfind : (declaration.ancestors.find? fun m => (scopeKinds declaration).contains m.kind)
          = none :=
        List.find?_eq_none.2 fun m hm => by simpa using hnone m hm
      rw [bindingScope, hfind]
      rfl
  · rintro rfl
    exact bounds_bindingScope d declaration

/-! ## Uses -/

/-- Whether a node uses a binding within a node: an identifier below the root with the same spelling,
but other bytes, all of them within those of the scope. Two nodes that cover the same bytes count as one. -/
structure Uses (d : Document) (binding scope user : Node) : Prop where
  below : d.root.IsAbove user
  kind : user.kind ∈ referenceKinds
  spelling : d.text user = d.text binding
  elsewhere : ¬ (user.label.start = binding.label.start ∧ user.label.stop = binding.label.stop)
  start_le : scope.label.start ≤ user.label.start
  stop_le : user.label.stop ≤ scope.label.stop

theorem isUsed_iff : isUsed d (references d) binding scope = true ↔ ∃ user, Uses d binding scope user := by
  rw [isUsed, references, List.any_map, List.any_eq_true]
  refine exists_congr fun user => ?_
  rw [mem_innerOfKind]
  simp only [Function.comp_apply, Reference.isWithin, Bool.and_eq_true, Bool.not_eq_true',
    Bool.and_eq_false_imp, beq_iff_eq, beq_eq_false_iff_ne, decide_eq_true_eq]
  constructor
  · rintro ⟨⟨hbelow, hkind⟩, ⟨hspelling, helsewhere⟩, hstart, hstop⟩
    exact ⟨hbelow, hkind, hspelling, fun h => helsewhere h.1 h.2, hstart, hstop⟩
  · rintro ⟨hbelow, hkind, hspelling, helsewhere, hstart, hstop⟩
    exact ⟨⟨hbelow, hkind⟩, ⟨hspelling, fun h h' => helsewhere ⟨h, h'⟩⟩, hstart, hstop⟩

/-! ## Unused bindings -/

/-- Whether a node declares a single name, in a declaration that is not visible outside the file, and
nothing uses the name within what bounds it. -/
structure IsUnused (d : Document) (n binding declaration scope : Node) : Prop where
  kind : n.kind = "variable_declarator"
  name : n.child? "name" = some binding
  identifier : binding.kind = "identifier"
  parent : n.parent? = some declaration
  internal : ∀ above, declaration.parent? = some above → above.kind ∉ externalKinds
  bounds : Bounds d declaration scope
  noUse : ∀ user, ¬ Uses d binding scope user

theorem not_isExternal_iff : isExternal declaration = false ↔
    ∀ above, declaration.parent? = some above → above.kind ∉ externalKinds := by
  rw [isExternal]
  cases declaration.parent? <;> simp

/-- The finding about a variable that nothing uses. -/
def unusedFinding (d : Document) (n binding : Node) : Finding :=
  .plain n .warning "UNUSED_VARIABLE" ("Unused variable: " ++ d.text binding)

/-- The condition of the rule says that the binding is unused. -/
theorem unused_condition_iff (hkind : n.kind = "variable_declarator")
    (hname : n.child? "name" = some binding) (hparent : n.parent? = some declaration) :
    (binding.isIdentifier && !isExternal declaration
        && !isUsed d (references d) binding (bindingScope d declaration)) = true ↔
      IsUnused d n binding declaration (bindingScope d declaration) := by
  simp only [Bool.and_eq_true, Bool.not_eq_true', not_isExternal_iff, isIdentifier, beq_iff_eq]
  rw [← Bool.not_eq_true, isUsed_iff, not_exists]
  constructor
  · rintro ⟨⟨hidentifier, hinternal⟩, hnoUse⟩
    exact ⟨hkind, hname, hidentifier, hparent, hinternal, bounds_bindingScope d declaration, hnoUse⟩
  · intro h
    exact ⟨⟨h.identifier, h.internal⟩, h.noUse⟩

/-- What the rule finds at a node. -/
theorem mem_unusedVariable_iff {f : Finding} :
    f ∈ unusedVariable d (references d) n ↔
      ∃ binding declaration scope, IsUnused d n binding declaration scope ∧
        f = unusedFinding d n binding := by
  constructor
  · -- A finding is made only behind all the tests of the rule.
    intro hf
    unfold unusedVariable at hf
    split at hf
    · rename_i hkind
      split at hf
      · rename_i binding declaration hname hparent
        split at hf
        · rename_i hunused
          exact ⟨binding, declaration, _, (unused_condition_iff hkind hname hparent).1 hunused,
            List.mem_singleton.1 hf⟩
        · cases hf
      · cases hf
    · cases hf
  · rintro ⟨binding, declaration, scope, h, rfl⟩
    obtain rfl := bounds_iff.1 h.bounds
    rw [unusedVariable, if_pos h.kind, h.name, h.parent]
    simp only
    rw [if_pos ((unused_condition_iff h.kind h.name h.parent).2 h)]
    exact List.mem_singleton_self _

/-! ## What is reported -/

theorem findingsUnder_unused_eq (d : Document) :
    Family.syntactic.findingsUnder "UNUSED_VARIABLE" d
      = d.root.reached.flatMap (unusedVariable d (references d)) :=
  Family.findingsUnder_eq fun _ => filter_rules_unused

theorem mem_findingsUnder_unused_iff {f : Finding} :
    f ∈ Family.syntactic.findingsUnder "UNUSED_VARIABLE" d ↔
      ∃ n binding declaration scope, d.root.Reaches n ∧ IsUnused d n binding declaration scope ∧
        f = unusedFinding d n binding := by
  rw [findingsUnder_unused_eq, List.mem_flatMap]
  constructor
  · rintro ⟨n, hn, hf⟩
    obtain ⟨binding, declaration, scope, hunused, rfl⟩ := mem_unusedVariable_iff.1 hf
    exact ⟨n, binding, declaration, scope, mem_reached.1 hn, hunused, rfl⟩
  · rintro ⟨n, binding, declaration, scope, hn, hunused, rfl⟩
    exact ⟨n, mem_reached.2 hn, mem_unusedVariable_iff.2 ⟨binding, declaration, scope, hunused, rfl⟩⟩

/-- At one node there is at most one finding, and it is about the node. -/
theorem map_unusedVariable_sublist (known : List Reference) (n : Node) :
    ((unusedVariable d known n).map (·.node.path)).Sublist [n.path] := by
  unfold unusedVariable
  split
  · split
    · split
      · exact List.Sublist.refl _
      · exact List.nil_sublist _
    · exact List.nil_sublist _
  · exact List.nil_sublist _

theorem nodup_findingsUnder_unused (d : Document) :
    ((Family.syntactic.findingsUnder "UNUSED_VARIABLE" d).map (·.node.path)).Nodup := by
  rw [findingsUnder_unused_eq, List.map_flatMap]
  have hsub : (d.root.reached.flatMap fun n =>
      (unusedVariable d (references d) n).map (·.node.path)).Sublist (d.root.reached.map path) := by
    rw [List.map_eq_flatMap]
    exact List.Sublist.flatMap_right _ fun n _ => map_unusedVariable_sublist _ n
  exact d.root.nodup_reached.sublist hsub

/-- What declarators get that ask an index not yet made, one after the other. -/
theorem asking_eq (d : Document) (order : List Node) :
    ((order.mapM (unusedVariableAsking d)).run none).1 = order.map (unusedVariable d (references d)) := by
  obtain ⟨memory, -, hrun⟩ := run_asking (isKept_none (d := d)) order
  rw [hrun]

/-- **A variable is reported if nothing uses it, and once.** A node is reported as an unused variable
exactly if it is reached and declares a name that is unused. The finding is about the node, and tells
the name. No two are about one node. What is reported is what the declarators get that ask the index in
the order of the walk; and in any order, each of them gets what it gets if it asks first. -/
theorem unusedVariables_iff (d : Document) :
    (∀ n : Node,
      (∃ f ∈ Family.syntactic.findings d, f.code = "UNUSED_VARIABLE" ∧ f.node = n) ↔
        d.root.Reaches n ∧ ∃ binding declaration scope, IsUnused d n binding declaration scope) ∧
    (∀ f ∈ Family.syntactic.findings d, f.code = "UNUSED_VARIABLE" →
      ∃ binding, f.node.child? "name" = some binding ∧ f = unusedFinding d f.node binding) ∧
    (((Family.syntactic.findings d).filter (·.code == "UNUSED_VARIABLE")).map (·.node.path)).Nodup ∧
    (Family.syntactic.findings d).filter (·.code == "UNUSED_VARIABLE")
      = ((d.root.reached.mapM (unusedVariableAsking d)).run none).1.flatten ∧
    ∀ order : List Node,
      ((order.mapM (unusedVariableAsking d)).run none).1
        = order.map fun n => ((unusedVariableAsking d n).run none).1 := by
  refine ⟨fun n => ⟨?_, ?_⟩, ?_, nodup_findingsUnder_unused d, ?_, fun order => ?_⟩
  · -- The findings of the rule under this code are those of the declarators that are reached.
    rintro ⟨f, hf, hcode, rfl⟩
    obtain ⟨n, binding, declaration, scope, hn, hunused, rfl⟩ :=
      mem_findingsUnder_unused_iff.1 (Family.mem_findingsUnder.2 ⟨hf, hcode⟩)
    exact ⟨hn, binding, declaration, scope, hunused⟩
  · rintro ⟨hn, binding, declaration, scope, hunused⟩
    obtain ⟨hmem, hcode⟩ := Family.mem_findingsUnder.1 (mem_findingsUnder_unused_iff.2
      ⟨n, binding, declaration, scope, hn, hunused, rfl⟩)
    exact ⟨unusedFinding d n binding, hmem, hcode, rfl⟩
  · intro f hf hcode
    obtain ⟨n, binding, declaration, scope, -, hunused, rfl⟩ :=
      mem_findingsUnder_unused_iff.1 (Family.mem_findingsUnder.2 ⟨hf, hcode⟩)
    exact ⟨binding, hunused.name, rfl⟩
  · rw [asking_eq, ← List.flatMap_def]
    exact findingsUnder_unused_eq d
  · -- An index that is there already answers as one that has to be made.
    rw [asking_eq]
    refine List.map_congr_left fun n _ => ?_
    obtain ⟨memory, -, hrun⟩ := run_unusedVariableAsking (isKept_none (d := d)) n
    rw [hrun]

end Syntactic

end ScriptAudit
