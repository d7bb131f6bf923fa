import ScriptAudit.Proofs.Diagnosis
import ScriptAudit.Proofs.FileShape
import ScriptAudit.Proofs.LookUp
import ScriptAudit.Proofs.ScriptPlaces
import ScriptAudit.Rule.Builtin

/-!
# Where issues point

The text that is parsed has the line ends of the file, also when the file is a component and most of
it was blanked out. So a row counted among the bytes of the one is a line of the other.

- `count_prepared`, `Document.IsOf`: a document of a file has as many lines as the file.
- `Detector.Locates`: a detector whose issues point at nodes. The built-in ones are such
  (`Detector.builtin_locates`).
- `place_of_parse`: a diagnosis points at a node, or nowhere.
- `FileAuditor.report_places`: **every issue but those of the linter points into its file**, unless
  it is the diagnosis of a file without a tree and points nowhere.
-/

namespace ScriptAudit

/-! ## Documents -/

/-- Preparing a text for the parser keeps its line ends. -/
theorem count_prepared (path : String) (source : List Char) :
    (Source.prepared path source).1.count '\n' = source.count '\n' := by
  unfold Source.prepared
  split
  · exact Script.count_scriptText source
  · rfl

namespace Document

/-- Whether a document was made of the text that is parsed for a file. -/
def IsOf (d : Document) (path : String) (source : List Char) : Prop :=
  d.bytes = Utf8.encode (Source.prepared path source).1

variable {d : Document} {path : String} {source : List Char}

/-- A node starts on a line of the file, even if its offset lies behind the text. -/
theorem IsOf.line_le (h : d.IsOf path source) (n : Node) : d.line n ≤ Text.lineCount source := by
  have hrow : d.row n ≤ source.count '\n' := by
    rw [← count_prepared path source, ← Utf8.count_encode, ← h]
    exact rowOf_le_count d.bytes n.label.start
  rw [line, Text.lineCount_eq]
  omega

end Document

/-! ## Outcomes -/

section Outcomes

variable {parser : Parser} {path message : String} {source : List Char} {grammar : Grammar}
  {d : Document} {line column : Nat}

theorem isOf_of_document? (h : parser.document? path source = some d) : d.IsOf path source := by
  unfold Parser.document? at h
  obtain ⟨tree, _, heq⟩ := Option.map_eq_some_iff.1 h
  rw [Document.IsOf, ← heq]

/-- A file is refused without a place, or there is a verdict on a document of it. -/
theorem parse_cases (parser : Parser) (path : String) (source : List Char) :
    (∃ message, parse parser path source = .refused message 0 0) ∨
      ∃ d, Document.IsOf d path source ∧
        parse parser path source = judge (chosenGrammar path source) d := by
  by_cases hgrammar : chosenGrammar path source ∈ parser.grammars
  · cases hdocument : parser.document? path source with
    | none => exact .inl (exists_parse_of_lacking (.inr hdocument))
    | some d => exact .inr ⟨d, isOf_of_document? hdocument, parse_of_document hgrammar hdocument⟩
  · exact .inl (exists_parse_of_lacking (.inl hgrammar))

/-- A verdict that refuses a document points at a node of it, or nowhere. -/
theorem place_of_judge (h : judge grammar d = .refused message line column) :
    line = 0 ∧ column = 0 ∨ ∃ n, line = d.line n ∧ column = d.column n := by
  rw [judge] at h
  split at h
  · obtain ⟨-, rfl, rfl⟩ := Outcome.refused.inj h
    cases d.root.firstDamage? with
    | none => exact .inl ⟨rfl, rfl⟩
    | some n => exact .inr ⟨n, rfl, rfl⟩
  · cases h

/-- A verdict that keeps a document keeps it as it is. -/
theorem eq_of_judge {kept : Document} {other : Grammar} (h : judge grammar d = .parsed other kept) :
    kept = d := by
  rw [judge] at h
  split at h
  · cases h
  · exact (Outcome.parsed.inj h).2.symm

/-- What is parsed is a document of the file. -/
theorem isOf_of_parse (h : parse parser path source = .parsed grammar d) : d.IsOf path source := by
  rcases parse_cases parser path source with ⟨message, hrefused⟩ | ⟨made, hof, hjudge⟩
  · rw [hrefused] at h
    cases h
  · rw [hjudge] at h
    rw [eq_of_judge h]
    exact hof

/-- A diagnosis points at a node of a document of the file, or nowhere. -/
theorem place_of_parse (h : parse parser path source = .refused message line column) :
    line = 0 ∧ column = 0 ∨
      ∃ d n, Document.IsOf d path source ∧ line = d.line n ∧ column = d.column n := by
  rcases parse_cases parser path source with ⟨message', hrefused⟩ | ⟨d, hof, hjudge⟩
  · rw [hrefused] at h
    obtain ⟨-, rfl, rfl⟩ := Outcome.refused.inj h
    exact .inl ⟨rfl, rfl⟩
  · rw [hjudge] at h
    rcases place_of_judge h with hnowhere | ⟨n, hline, hcolumn⟩
    · exact .inl hnowhere
    · exact .inr ⟨d, n, hof, hline, hcolumn⟩

end Outcomes

/-! ## Issues -/

/-- Whether an issue points into a file of some lines. -/
def Issue.PointsInto (issue : Issue) (lines : Nat) : Prop :=
  ∃ line column : Nat, issue.line = .int line ∧ issue.column = .int column ∧
    1 ≤ line ∧ line ≤ lines ∧ 1 ≤ column

/-- Whether an issue has no position. -/
def Issue.PointsNowhere (issue : Issue) : Prop :=
  issue.line = .int 0 ∧ issue.column = .int 0

/-- What points at a node of a document of a file points into the file. -/
theorem Issue.pointsInto_of_node {issue : Issue} {d : Document} {path : String}
    {source : List Char} {n : Node} (hof : d.IsOf path source)
    (hline : issue.line = .int (d.line n)) (hcolumn : issue.column = .int (d.column n)) :
    issue.PointsInto (Text.lineCount source) :=
  ⟨d.line n, d.column n, hline, hcolumn, Nat.le_add_left 1 _, hof.line_le n, Nat.le_add_left 1 _⟩

/-- Whether every issue of a detector points at a node of the document. -/
def Detector.Locates (detector : Detector) : Prop :=
  ∀ d path, ∀ issue ∈ (detector.detect d path).issues,
    ∃ n : Node, issue.line = .int (d.line n) ∧ issue.column = .int (d.column n)

theorem Family.locates (family : Family) : family.detector.Locates := by
  intro d path issue hmem
  obtain ⟨finding, -, rfl⟩ := List.mem_map.1 hmem
  exact ⟨finding.node, rfl, rfl⟩

theorem Detector.builtin_locates (longest : Number) :
    ∀ detector ∈ Detector.builtin longest, detector.Locates := by
  intro detector hmem
  obtain ⟨family, -, rfl⟩ := List.mem_map.1 hmem
  exact family.locates

/-- An issue of a linter is marked as such. -/
theorem Linter.category_of_mem_issues {linter : Linter} {source : List Char} {path : String}
    {issue : Issue} (h : issue ∈ linter.issues source path) : issue.category = .lint := by
  unfold Linter.issues at h
  split at h
  · obtain ⟨message, -, rfl⟩ := List.mem_map.1 h
    rfl
  · cases h

/-! ## Files -/

/-- **Every issue points into its file.** The only exceptions are those of the linter, those about
reading, and the single issue of a file without a tree, which may point nowhere. -/
theorem FileAuditor.report_places {a : FileAuditor} {longest : Number}
    (hdetectors : a.detectors = Detector.builtin longest) (fs : FileSystem) (root file : Path) :
    ∃ lines : Nat, (a.report fs root file).metrics.lines = .whole lines ∧
      ∀ issue ∈ (a.report fs root file).issues, issue.category ≠ .lint → issue.category ≠ .io →
        issue.PointsInto lines ∨
          issue.PointsNowhere ∧ (a.report fs root file).issues = [issue] ∧
            (a.report fs root file).HasShape .unparsed := by
  -- A file that cannot be read has a single issue, of the kind that is left out.
  cases hread : fs.read file with
  | error e =>
    rw [report_of_error hread]
    refine ⟨0, rfl, fun issue hmem _ hio => ?_⟩
    rw [List.mem_singleton.1 hmem] at hio
    exact absurd rfl hio
  | ok bytes =>
    rw [report_of_ok hread]
    cases hparse : parse (a.parser file) (file.relativeTo root) (Utf8.decode bytes) with
    | refused message line column =>
      rw [reportText_of_refused hparse]
      refine ⟨Text.lineCount (Utf8.decode bytes), rfl, fun issue hmem _ _ => ?_⟩
      -- The issue of a refused file points to the node of the diagnosis, if there is a tree to
      -- diagnose.
      obtain rfl := List.mem_singleton.1 hmem
      rcases place_of_parse hparse with ⟨rfl, rfl⟩ | ⟨d, n, hof, rfl, rfl⟩
      · exact .inr ⟨⟨rfl, rfl⟩, rfl, rfl, _, Text.lineCount_pos _, rfl⟩
      · exact .inl (Issue.pointsInto_of_node hof rfl rfl)
    | parsed grammar d =>
      rw [reportText_of_parsed hparse]
      refine ⟨Text.lineCount (Utf8.decode bytes), rfl, fun issue hmem hlint _ => .inl ?_⟩
      -- What the detectors report is found at a node of the tree.
      rcases List.mem_append.1 hmem with hlinted | hdetected
      · exact absurd (Linter.category_of_mem_issues hlinted) hlint
      · obtain ⟨detector, hdetector, hissue⟩ := List.mem_flatMap.1 hdetected
        rw [hdetectors] at hdetector
        obtain ⟨n, hline, hcolumn⟩ :=
          Detector.builtin_locates longest detector hdetector d _ issue hissue
        exact Issue.pointsInto_of_node (isOf_of_parse hparse) hline hcolumn

/-- A component file with a breakpoint in its second line. -/
def componentText : List Char :=
  "<script>\ndebugger;</script>".toList

/-- The component file and nothing else. -/
def component : FileSystem where
  entries := [("a.vue", .file (Utf8.encode componentText))]
  room := 8

/-- What a grammar makes of the component file. -/
def breakpoint : Document where
  bytes := Utf8.encode "        \ndebugger;         ".toList
  tree := .node ⟨"program", true, false, false, false, 9, 28, none⟩
    [.node ⟨"debugger_statement", true, false, false, false, 9, 18, none⟩ []]

/-- The built-in rules, and a parser that finds the breakpoint. -/
def breaking : FileAuditor where
  parser _ := ⟨[.tsx], fun _ _ => some breakpoint.tree⟩
  detectors := Detector.builtin (.whole 50)
  linter := .silent
  complexity := usualComplexity

theorem read_component :
    component.read ⟨true, ["a.vue"]⟩ = .ok (Utf8.encode componentText) := rfl

theorem parse_component :
    parse (breaking.parser ⟨true, ["a.vue"]⟩) "a.vue" componentText = .parsed .tsx breakpoint := by
  have htemplate : isTemplate "a.vue" = true := by decide
  have hprepared : Source.prepared "a.vue" componentText
      = ("        \ndebugger;         ".toList, .tsx) := by
    rw [Source.prepared, htemplate]
    cbv
  unfold parse
  rw [hprepared]
  rfl

theorem findings_breakpoint :
    (Family.syntactic.findings breakpoint).map (fun f => (f.code, breakpoint.line f.node))
      = [("DEBUGGER_STATEMENT", 2)] := by
  have hinner : breakpoint.root.inner = [.child breakpoint.root 0
      (.node ⟨"debugger_statement", true, false, false, false, 9, 18, none⟩ [])] := by
    simp [Node.inner, Node.descendants, Node.descendantsFrom, Node.namedChildren, Node.children,
      Node.place, Node.label, Node.tree, Tree.label, Tree.children, Document.root, breakpoint]
  rw [Family.findings, Node.reached, hinner]
  simp [Family.syntactic, Node.kind, Node.label, Node.tree, Tree.label, Document.root, breakpoint,
    Syntactic.debuggerStatement, Syntactic.unusedVariable, Syntactic.unreachableCode,
    Syntactic.consoleStatement, Syntactic.emptyBlock]
  decide

/-- The breakpoint is reported in the second line of the component file, which has two. -/
theorem report_places_component :
    breaking.detectors = Detector.builtin (.whole 50) ∧
      (breaking.report component ⟨true, []⟩ ⟨true, ["a.vue"]⟩).metrics.lines = .whole 2 ∧
      ∃ issue ∈ (breaking.report component ⟨true, []⟩ ⟨true, ["a.vue"]⟩).issues,
        issue.category = .syntactic ∧ issue.line = .int 2 ∧ issue.PointsInto 2 := by
  have htext : Utf8.decode (Utf8.encode componentText) = componentText := rfl
  have hreport : breaking.report component ⟨true, []⟩ ⟨true, ["a.vue"]⟩
      = breaking.parsed "a.vue" componentText breakpoint := by
    rw [FileAuditor.report_of_ok read_component, htext]
    exact FileAuditor.reportText_of_parsed parse_component
  have hlines : (breaking.parsed "a.vue" componentText breakpoint).metrics.lines = .whole 2 := by
    have hcount : Text.lineCount componentText = 2 := by cbv
    rw [FileAuditor.parsed, hcount]
    rfl
  have hmem : ∃ issue ∈ (breaking.parsed "a.vue" componentText breakpoint).issues,
      issue.category = .syntactic ∧ issue.line = .int 2 := by
    -- Only the finding's code and line are computed; where its node stands need not be known.
    have hfound : ("DEBUGGER_STATEMENT", 2) ∈ (Family.syntactic.findings breakpoint).map
        (fun f => (f.code, breakpoint.line f.node)) := by
      rw [findings_breakpoint]
      exact List.mem_singleton_self _
    obtain ⟨finding, hfinding, hplace⟩ := List.mem_map.1 hfound
    have hdetector : Family.syntactic.detector ∈ breaking.detectors := List.mem_cons_self
    refine ⟨finding.toIssue breakpoint .syntactic "a.vue", ?_, rfl, ?_⟩
    · exact List.mem_append_right _
        (List.mem_flatMap.2 ⟨_, hdetector, List.mem_map.2 ⟨finding, hfinding, rfl⟩⟩)
    · show Value.int (breakpoint.line finding.node) = .int 2
      rw [(Prod.mk.inj hplace).2]
      rfl
  obtain ⟨lines, hall, hplaces⟩ :=
    FileAuditor.report_places (a := breaking) rfl component ⟨true, []⟩ ⟨true, ["a.vue"]⟩
  rw [hreport] at hall hplaces ⊢
  rw [hlines] at hall
  cases hall
  obtain ⟨issue, hissue, hcategory, hline⟩ := hmem
  refine ⟨rfl, hlines, issue, hissue, hcategory, hline, ?_⟩
  rcases hplaces issue hissue (by simp [hcategory]) (by simp [hcategory]) with hinto | ⟨hnowhere, -⟩
  · exact hinto
  · rw [hnowhere.1] at hline
    cases hline

end ScriptAudit
