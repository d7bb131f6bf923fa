import ScriptAudit.Proofs.TreeWalk
import ScriptAudit.Rule.Builtin

/-!
# What rules find

A rule looks at one node. It finds nothing there, or one thing, under a code of its own. All rules but
the one about dead statements point at the node they look at. So what a family finds under a code is
what one of its rules finds, node by node.

- `Finding.HaveCode`, `Finding.PointAt`: what the findings of a rule have in common.
- `Family.findingsUnder`: what a family finds under a code; `Family.findingsUnder_eq` takes it apart by
  nodes.
- `Family.Reports`, `Family.HasRule`: what a family reports, and that a code belongs to one rule. Then
  `Family.HasRule.reports_iff`: **a node is reported if it is reached and the rule finds something there.**
- `Family.HasRule.reports_iff_applies`, `Family.HasRule.eq_finding`: the same for a rule that finds one thing
  wherever it applies.
- `Syntactic.filter_rules_unused`, `Syntactic.filter_rules_unreachable`, `Logic.hasRule_unhandledPromise`,
  `Logic.hasRule_missingReturn`, `Logic.hasRule_infiniteLoop`, `Performance.hasRule_nestedLoops`,
  `Performance.hasRule_multipleIterations`, `Security.hasRule_sqlInjection`,
  `Security.hasRule_commandInjection`: each of these codes belongs to one rule.
- `Logic.pointAt_rules`, `Performance.pointAt_rules`, `Security.pointAt_rules`,
  `Syntactic.pointAt_rules`: **all rules but one point at the node they look at.**
-/

namespace ScriptAudit

namespace Finding

/-- Whether findings have a code. -/
def HaveCode (code : String) (findings : List Finding) : Prop :=
  ∀ f ∈ findings, f.code = code

/-- Whether findings are about a node. -/
def PointAt (n : Node) (findings : List Finding) : Prop :=
  ∀ f ∈ findings, f.node = n

/-- What holds of the only finding that there may be holds of all. -/
theorem forall_mem_ite {P : Finding → Prop} {c : Prop} [Decidable c] {f : Finding} (h : P f) :
    ∀ g ∈ if c then [f] else [], P g := by
  intro g hg
  split at hg
  · rw [List.mem_singleton.1 hg]
    exact h
  · cases hg

/-- Findings with one code are all kept or all left out. -/
theorem HaveCode.filter_eq {code : String} {findings : List Finding} (h : HaveCode code findings)
    (wanted : String) :
    findings.filter (·.code == wanted) = if code = wanted then findings else [] := by
  by_cases hcode : code = wanted
  · rw [if_pos hcode]
    exact List.filter_eq_self.2 fun f hf => beq_iff_eq.2 ((h f hf).trans hcode)
  · rw [if_neg hcode]
    refine List.filter_eq_nil_iff.2 fun f hf heq => hcode ?_
    rw [← h f hf]
    exact beq_iff_eq.1 heq

end Finding

/-! ## Families -/

namespace Family

/-- What a family finds under a code. -/
def findingsUnder (family : Family) (code : String) (d : Document) : List Finding :=
  (family.findings d).filter (·.code == code)

variable {family : Family} {code : String} {d : Document} {n : Node}

/-- If one rule has a code for itself, what is found under the code is what the rule finds. -/
theorem findingsUnder_eq {rule : Node → List Finding}
    (h : ∀ n, (family.rules d (family.survey d) n).filter (·.code == code) = rule n) :
    family.findingsUnder code d = d.root.reached.flatMap rule := by
  rw [findingsUnder, findings, List.filter_flatMap]
  exact congrArg d.root.reached.flatMap (funext h)

theorem mem_findingsUnder {f : Finding} :
    f ∈ family.findingsUnder code d ↔ f ∈ family.findings d ∧ f.code = code := by
  rw [findingsUnder, List.mem_filter, beq_iff_eq]

/-- Whether a family reports a node under a code. -/
def Reports (family : Family) (code : String) (d : Document) (n : Node) : Prop :=
  ∃ f ∈ family.findings d, f.code = code ∧ f.node = n

/-- Whether one rule of a family has a code for itself, and points at the nodes it looks at. -/
structure HasRule (family : Family) (code : String) (d : Document) (rule : Node → List Finding) :
    Prop where
  filter_rules : ∀ n, (family.rules d (family.survey d) n).filter (·.code == code) = rule n
  pointAt : ∀ n, Finding.PointAt n (rule n)

/-- What is found under the code is what the rule finds at a node that is reached. -/
theorem HasRule.mem_iff {rule : Node → List Finding} (h : family.HasRule code d rule) {f : Finding} :
    f ∈ family.findings d ∧ f.code = code ↔ d.root.Reaches f.node ∧ f ∈ rule f.node := by
  rw [← mem_findingsUnder, findingsUnder_eq h.filter_rules, List.mem_flatMap]
  constructor
  · rintro ⟨n, hn, hf⟩
    obtain rfl := h.pointAt n f hf
    exact ⟨Node.mem_reached.1 hn, hf⟩
  · rintro ⟨hreaches, hf⟩
    exact ⟨f.node, Node.mem_reached.2 hreaches, hf⟩

/-- A node is reported if it is reached and the rule finds something there. -/
theorem HasRule.reports_iff {rule : Node → List Finding} (h : family.HasRule code d rule) :
    family.Reports code d n ↔ d.root.Reaches n ∧ ∃ f, f ∈ rule n := by
  constructor
  · rintro ⟨f, hf, hcode, rfl⟩
    obtain ⟨hreaches, hmem⟩ := h.mem_iff.1 ⟨hf, hcode⟩
    exact ⟨hreaches, f, hmem⟩
  · rintro ⟨hreaches, f, hf⟩
    obtain rfl := h.pointAt n f hf
    obtain ⟨hmem, hcode⟩ := h.mem_iff.2 ⟨hreaches, hf⟩
    exact ⟨f, hmem, hcode, rfl⟩

section OneFinding

variable {rule : Node → List Finding} {applies : Node → Prop} {finding : Node → Finding}

/-- If the rule finds one thing wherever it applies, that is where a node is reported. -/
theorem HasRule.reports_iff_applies (h : family.HasRule code d rule)
    (hrule : ∀ m f, f ∈ rule m ↔ applies m ∧ f = finding m) :
    family.Reports code d n ↔ d.root.Reaches n ∧ applies n := by
  rw [h.reports_iff]
  refine and_congr_right fun _ => ⟨?_, fun hn => ⟨finding n, (hrule n _).2 ⟨hn, rfl⟩⟩⟩
  rintro ⟨f, hf⟩
  exact ((hrule n f).1 hf).1

/-- And all that is found under the code is what the rule says there. -/
theorem HasRule.eq_finding (h : family.HasRule code d rule)
    (hrule : ∀ m f, f ∈ rule m ↔ applies m ∧ f = finding m) :
    ∀ f ∈ family.findings d, f.code = code → f = finding f.node :=
  fun f hf hcode => ((hrule f.node f).1 (h.mem_iff.1 ⟨hf, hcode⟩).2).2

end OneFinding

end Family

open Finding

variable {d : Document} {n : Node}

/-! ## Rules of syntax -/

namespace Syntactic

variable {known : List Reference}

/-- An unused variable is the only thing that its rule may find. -/
theorem forall_mem_unusedVariable {P : Finding → Prop}
    (h : ∀ binding, n.child? "name" = some binding →
      P (.plain n .warning "UNUSED_VARIABLE" ("Unused variable: " ++ d.text binding))) :
    ∀ f ∈ unusedVariable d known n, P f := by
  intro f hf
  unfold unusedVariable at hf
  split at hf
  · split at hf
    · rename_i binding declaration hname _
      exact forall_mem_ite (h binding hname) f hf
    · cases hf
  · cases hf

theorem haveCode_unusedVariable : HaveCode "UNUSED_VARIABLE" (unusedVariable d known n) :=
  forall_mem_unusedVariable fun _ _ => rfl

theorem haveCode_unreachableCode : HaveCode "UNREACHABLE_CODE" (unreachableCode n) := by
  intro f hf
  unfold unreachableCode at hf
  split at hf
  · split at hf
    · rw [List.mem_singleton.1 hf]
      rfl
    · cases hf
  · cases hf

theorem haveCode_consoleStatement : HaveCode "CONSOLE_STATEMENT" (consoleStatement d n) :=
  forall_mem_ite rfl

theorem haveCode_debuggerStatement : HaveCode "DEBUGGER_STATEMENT" (debuggerStatement n) :=
  forall_mem_ite rfl

theorem haveCode_emptyBlock : HaveCode "EMPTY_BLOCK" (emptyBlock n) :=
  forall_mem_ite rfl

theorem filter_rules_unused :
    (Family.syntactic.rules d known n).filter (·.code == "UNUSED_VARIABLE")
      = unusedVariable d known n := by
  simp [Family.syntactic, haveCode_unusedVariable.filter_eq, haveCode_unreachableCode.filter_eq,
    haveCode_consoleStatement.filter_eq, haveCode_debuggerStatement.filter_eq,
    haveCode_emptyBlock.filter_eq]

theorem filter_rules_unreachable :
    (Family.syntactic.rules d known n).filter (·.code == "UNREACHABLE_CODE")
      = unreachableCode n := by
  simp [Family.syntactic, haveCode_unusedVariable.filter_eq, haveCode_unreachableCode.filter_eq,
    haveCode_consoleStatement.filter_eq, haveCode_debuggerStatement.filter_eq,
    haveCode_emptyBlock.filter_eq]

/-- Of what the rules of syntax find, only dead statements are elsewhere. -/
theorem pointAt_rules :
    PointAt n ((Family.syntactic.rules d known n).filter (·.code != "UNREACHABLE_CODE")) := by
  intro f hf
  obtain ⟨hmem, hcode⟩ := List.mem_filter.1 hf
  simp only [Family.syntactic, List.mem_append] at hmem
  rcases hmem with (((hmem | hmem) | hmem) | hmem) | hmem
  · exact forall_mem_unusedVariable (P := (·.node = n)) (fun _ _ => rfl) f hmem
  · rw [haveCode_unreachableCode f hmem] at hcode
    cases hcode
  all_goals exact forall_mem_ite (P := (·.node = n)) rfl f hmem

end Syntactic

/-! ## Rules of logic -/

namespace Logic

theorem haveCode_unhandledPromise : HaveCode "UNHANDLED_PROMISE" (unhandledPromise d n) :=
  forall_mem_ite rfl

theorem haveCode_asyncWithoutTry : HaveCode "ASYNC_NO_TRY_CATCH" (asyncWithoutTry n) :=
  forall_mem_ite rfl

theorem haveCode_missingReturn : HaveCode "MISSING_RETURN" (missingReturn d n) :=
  forall_mem_ite rfl

theorem haveCode_infiniteLoop : HaveCode "INFINITE_LOOP" (infiniteLoop n) :=
  forall_mem_ite rfl

theorem haveCode_apiCallInLoop : HaveCode "API_CALL_IN_LOOP" (apiCallInLoop d n) :=
  forall_mem_ite rfl

/-- A comparison is the only thing that its rule may find. -/
theorem forall_mem_nanComparison {P : Finding → Prop}
    (h : ∀ suggestion, P ⟨n, .error, "NAN_COMPARISON",
      "Use Number.isNaN() instead of comparing with NaN", suggestion⟩) :
    ∀ f ∈ nanComparison d n, P f := by
  intro f hf
  unfold nanComparison at hf
  split at hf
  · split at hf
    · rw [List.mem_singleton.1 hf]
      exact h _
    · cases hf
  · cases hf

theorem haveCode_nanComparison : HaveCode "NAN_COMPARISON" (nanComparison d n) :=
  forall_mem_nanComparison fun _ => rfl

/-- Under a code, the rules of logic find what the rule with this code finds. -/
theorem filter_rules (known : Family.logic.Knowledge) (code : String) :
    (Family.logic.rules d known n).filter (·.code == code)
      = (if "UNHANDLED_PROMISE" = code then unhandledPromise d n else [])
        ++ (if "ASYNC_NO_TRY_CATCH" = code then asyncWithoutTry n else [])
        ++ (if "MISSING_RETURN" = code then missingReturn d n else [])
        ++ (if "INFINITE_LOOP" = code then infiniteLoop n else [])
        ++ (if "API_CALL_IN_LOOP" = code then apiCallInLoop d n else [])
        ++ (if "NAN_COMPARISON" = code then nanComparison d n else []) := by
  simp only [Family.logic, List.filter_append, haveCode_unhandledPromise.filter_eq,
    haveCode_asyncWithoutTry.filter_eq, haveCode_missingReturn.filter_eq,
    haveCode_infiniteLoop.filter_eq, haveCode_apiCallInLoop.filter_eq, haveCode_nanComparison.filter_eq]

theorem hasRule_unhandledPromise (d : Document) :
    Family.logic.HasRule "UNHANDLED_PROMISE" d (unhandledPromise d) where
  filter_rules n := by simp [filter_rules]
  pointAt _ := forall_mem_ite rfl

theorem hasRule_missingReturn (d : Document) :
    Family.logic.HasRule "MISSING_RETURN" d (missingReturn d) where
  filter_rules n := by simp [filter_rules]
  pointAt _ := forall_mem_ite rfl

theorem hasRule_infiniteLoop (d : Document) :
    Family.logic.HasRule "INFINITE_LOOP" d infiniteLoop where
  filter_rules n := by simp [filter_rules]
  pointAt _ := forall_mem_ite rfl

end Logic

theorem Logic.pointAt_rules (known : Family.logic.Knowledge) :
    PointAt n (Family.logic.rules d known n) := by
  intro f hf
  simp only [Family.logic, List.mem_append] at hf
  rcases hf with ((((hf | hf) | hf) | hf) | hf) | hf
  case inr => exact Logic.forall_mem_nanComparison (P := (·.node = n)) (fun _ => rfl) f hf
  all_goals exact forall_mem_ite (P := (·.node = n)) rfl f hf

/-! ## Rules of performance -/

namespace Performance

theorem haveCode_nestedLoops : HaveCode "NESTED_LOOPS" (nestedLoops n) :=
  forall_mem_ite rfl

theorem haveCode_concatenationInLoop : HaveCode "STRING_CONCAT_LOOP" (concatenationInLoop n) :=
  forall_mem_ite rfl

theorem haveCode_pushInForEach : HaveCode "INEFFICIENT_ARRAY_METHOD" (pushInForEach d n) :=
  forall_mem_ite rfl

theorem haveCode_multipleIterations : HaveCode "MULTIPLE_ITERATIONS" (multipleIterations d n) :=
  forall_mem_ite rfl

theorem haveCode_blockingInAsync : HaveCode "SYNC_IN_ASYNC" (blockingInAsync d n) :=
  forall_mem_ite rfl

theorem haveCode_largeFunction (longest : Number) :
    HaveCode "LARGE_FUNCTION" (largeFunction longest d n) :=
  forall_mem_ite rfl

/-- Under a code, the rules of performance find what the rule with this code finds. -/
theorem filter_rules (longest : Number) (known : (Family.performance longest).Knowledge)
    (code : String) :
    ((Family.performance longest).rules d known n).filter (·.code == code)
      = (if "NESTED_LOOPS" = code then nestedLoops n else [])
        ++ (if "STRING_CONCAT_LOOP" = code then concatenationInLoop n else [])
        ++ (if "INEFFICIENT_ARRAY_METHOD" = code then pushInForEach d n else [])
        ++ (if "MULTIPLE_ITERATIONS" = code then multipleIterations d n else [])
        ++ (if "SYNC_IN_ASYNC" = code then blockingInAsync d n else [])
        ++ (if "LARGE_FUNCTION" = code then largeFunction longest d n else []) := by
  simp only [Family.performance, List.filter_append, haveCode_nestedLoops.filter_eq,
    haveCode_concatenationInLoop.filter_eq, haveCode_pushInForEach.filter_eq,
    haveCode_multipleIterations.filter_eq, haveCode_blockingInAsync.filter_eq,
    (haveCode_largeFunction longest).filter_eq]

theorem hasRule_nestedLoops (longest : Number) (d : Document) :
    (Family.performance longest).HasRule "NESTED_LOOPS" d nestedLoops where
  filter_rules n := by simp [filter_rules]
  pointAt _ := forall_mem_ite rfl

theorem hasRule_multipleIterations (longest : Number) (d : Document) :
    (Family.performance longest).HasRule "MULTIPLE_ITERATIONS" d (multipleIterations d) where
  filter_rules n := by simp [filter_rules]
  pointAt _ := forall_mem_ite rfl

end Performance

theorem Performance.pointAt_rules (longest : Number) (known : (Family.performance longest).Knowledge) :
    PointAt n ((Family.performance longest).rules d known n) := by
  intro f hf
  simp only [Family.performance, List.mem_append] at hf
  rcases hf with ((((hf | hf) | hf) | hf) | hf) | hf
  all_goals exact forall_mem_ite (P := (·.node = n)) rfl f hf

/-! ## Rules of security -/

namespace Security

/-- A secret is the only thing that its rule may find. -/
theorem forall_mem_hardcodedSecret {P : Finding → Prop}
    (h : P (.plain n .error "HARDCODED_SECRET"
      "Hardcoded secret detected - use environment variables")) :
    ∀ f ∈ hardcodedSecret d n, P f := by
  intro f hf
  unfold hardcodedSecret at hf
  split at hf
  · split at hf
    · exact forall_mem_ite h f hf
    · cases hf
  · cases hf

theorem haveCode_dangerousEval : HaveCode "DANGEROUS_EVAL" (dangerousEval d n) :=
  forall_mem_ite rfl

theorem haveCode_sqlInjection : HaveCode "SQL_INJECTION" (sqlInjection d n) :=
  forall_mem_ite rfl

theorem haveCode_commandInjection : HaveCode "COMMAND_INJECTION" (commandInjection d n) :=
  forall_mem_ite rfl

theorem haveCode_hardcodedSecret : HaveCode "HARDCODED_SECRET" (hardcodedSecret d n) :=
  forall_mem_hardcodedSecret rfl

theorem haveCode_redosVulnerability : HaveCode "REDOS_VULNERABILITY" (redosVulnerability d n) :=
  forall_mem_ite rfl

theorem haveCode_xssRisk : HaveCode "XSS_RISK" (xssRisk d n) :=
  forall_mem_ite rfl

/-- Under a code, the rules of security find what the rule with this code finds. -/
theorem filter_rules (known : Family.security.Knowledge) (code : String) :
    (Family.security.rules d known n).filter (·.code == code)
      = (if "DANGEROUS_EVAL" = code then dangerousEval d n else [])
        ++ (if "SQL_INJECTION" = code then sqlInjection d n else [])
        ++ (if "COMMAND_INJECTION" = code then commandInjection d n else [])
        ++ (if "HARDCODED_SECRET" = code then hardcodedSecret d n else [])
        ++ (if "REDOS_VULNERABILITY" = code then redosVulnerability d n else [])
        ++ (if "XSS_RISK" = code then xssRisk d n else []) := by
  simp only [Family.security, List.filter_append, haveCode_dangerousEval.filter_eq,
    haveCode_sqlInjection.filter_eq, haveCode_commandInjection.filter_eq,
    haveCode_hardcodedSecret.filter_eq, haveCode_redosVulnerability.filter_eq,
    haveCode_xssRisk.filter_eq]

theorem hasRule_sqlInjection (d : Document) :
    Family.security.HasRule "SQL_INJECTION" d (sqlInjection d) where
  filter_rules n := by simp [filter_rules]
  pointAt _ := forall_mem_ite rfl

theorem hasRule_commandInjection (d : Document) :
    Family.security.HasRule "COMMAND_INJECTION" d (commandInjection d) where
  filter_rules n := by simp [filter_rules]
  pointAt _ := forall_mem_ite rfl

end Security

theorem Security.pointAt_rules (known : Family.security.Knowledge) :
    PointAt n (Family.security.rules d known n) := by
  intro f hf
  simp only [Family.security, List.mem_append] at hf
  rcases hf with ((((hf | hf) | hf) | hf) | hf) | hf
  case inl.inl.inr => exact Security.forall_mem_hardcodedSecret (P := (·.node = n)) rfl f hf
  all_goals exact forall_mem_ite (P := (·.node = n)) rfl f hf

end ScriptAudit
