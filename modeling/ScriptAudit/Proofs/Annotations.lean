import Mathlib.Data.List.Forall2
import ScriptAudit.Proofs.CommandReading
import ScriptAudit.Proofs.NumberTexts

/-!
# Annotations read back

Every issue of a report is written as a command on a line of its own. A message may hold anything,
since it is escaped; a path, a code and a position are written as they are.

- `Workflow.lines`: the lines of a text, each with its end.
- `Workflow.Command.ofIssue`: the command that an issue stands for.
- `Workflow.CanStand`: whether the path, the code and the position of an issue are free of commas,
  line ends and pairs of colons. `Workflow.canStand_iff_of_isPlain` says that numbers always are.
- `Workflow.ReadsAs`: whether a text has one line for each issue, read as the command of that issue.
- `Workflow.render_readBack_iff`: **the annotations of a report can be read back exactly if every
  issue can stand in a command.**
-/

namespace ScriptAudit.Workflow

/-! ## Lines -/

/-- Whether a character ends a line. -/
def isLineEnd (c : Char) : Bool :=
  c == '\n' || c == '\r'

/-- The lines of a text, without what stands behind the last line end. -/
def lines (text : List Char) : List (List Char) :=
  (text.splitOnP isLineEnd).dropLast

/-- A text has as many lines as line ends. -/
theorem length_lines (text : List Char) : (lines text).length = text.countP isLineEnd := by
  have hpieces : (text.splitOnP isLineEnd).length = text.countP isLineEnd + 1 := by
    induction text with
    | nil => simp
    | cons c text ih =>
      rw [List.splitOnP_cons_eq_if_modifyHead]
      split_ifs with hc
      · rw [List.length_cons, ih, List.countP_cons_of_pos hc]
      · rw [List.length_modifyHead, ih, List.countP_cons_of_neg hc]
  rw [lines, List.length_dropLast, hpieces, Nat.add_sub_cancel]

/-- Some texts, a line end behind each of them. -/
def joined (texts : List (List Char)) : List Char :=
  texts.flatMap (· ++ ['\n'])

theorem countP_joined (texts : List (List Char)) :
    (joined texts).countP isLineEnd = texts.flatten.countP isLineEnd + texts.length := by
  induction texts with
  | nil => rfl
  | cons text texts ih =>
    have hcons : joined (text :: texts) = text ++ '\n' :: joined texts := by simp [joined]
    rw [hcons, List.countP_append, List.countP_cons_of_pos rfl, ih, List.flatten_cons,
      List.countP_append, List.length_cons]
    omega

/-- Texts without line ends are the lines of what they are joined to. -/
theorem lines_joined {texts : List (List Char)} (h : ∀ text ∈ texts, text.any isLineEnd = false) :
    lines (joined texts) = texts := by
  have hpieces : (joined texts).splitOnP isLineEnd = texts ++ [[]] := by
    induction texts with
    | nil => rfl
    | cons text texts ih =>
      obtain ⟨htext, htexts⟩ := List.forall_mem_cons.1 h
      have hcons : joined (text :: texts) = text ++ '\n' :: joined texts := by simp [joined]
      rw [List.any_eq_false] at htext
      rw [hcons, List.splitOnP_append_cons_of_forall_mem (by simpa using htext) '\n' rfl, ih htexts,
        List.cons_append]
  rw [lines, hpieces, List.dropLast_concat]

/-- Texts are as many as the lines of what they are joined to exactly if none of them holds a line
end. -/
theorem length_lines_joined {texts : List (List Char)} :
    (lines (joined texts)).length = texts.length ↔ ∀ text ∈ texts, text.any isLineEnd = false := by
  rw [length_lines, countP_joined, Nat.add_eq_right, List.countP_eq_zero]
  simp only [List.mem_flatten, List.any_eq_false]
  exact ⟨fun h text htext c hc => h c ⟨text, htext, hc⟩,
    fun h c ⟨text, htext, hc⟩ => h text htext c hc⟩

/-! ## Issues as commands -/

namespace Command

/-- A command in writing. -/
def written (c : Command) : List Char :=
  ':' :: ':' :: (c.head ++ ':' :: ':' :: escape c.message)

/-- A command in writing is read as that command exactly if it is sound. -/
theorem read?_written {c : Command} : read? c.written = some c ↔ c.IsSound := by
  rw [read?_eq_some_iff]
  exact ⟨fun h => h.1, fun h => ⟨h, escape c.message, rfl, unescape_escape c.message⟩⟩

/-- A position as a property, unless it is unknown. -/
def positionOf (name : String) (value : Value) : List (List Char × List Char) :=
  if value.isSet then [(name.toList, value.display.toList)] else []

/-- The command that an issue stands for: its level, its path, its position as far as it is known,
its code as a title, and its message. -/
def ofIssue (issue : Issue) : Command where
  name := (level issue.severity).toList
  properties := ("file".toList, issue.filePath.toList) :: positionOf "line" issue.line
    ++ positionOf "col" issue.column ++ [("title".toList, issue.code.display.toList)]
  message := issue.message.display.toList

end Command

/-- An issue whose message is text is written as the command that it stands for. -/
theorem annotation_eq {issue : Issue} {message : String} (h : issue.message = .text message) :
    annotation issue = .ok (String.ofList (Command.ofIssue issue).written) := by
  have hchars : (command issue message).toList = (Command.ofIssue issue).written := by
    unfold command Command.written Command.head Command.ofIssue Command.positionOf position
    split_ifs <;> simp [h, Value.display, Command.propertyChars, List.intercalate]
  unfold annotation
  rw [h]
  dsimp only
  rw [← hchars, String.ofList_toList]

/-! ## Inline texts -/

/-- What the value of a property must not hold: a comma, a line end, or a pair of colons. -/
structure IsInline (text : List Char) : Prop where
  comma : ',' ∉ text
  lineEnd : text.any isLineEnd = false
  colons : ¬[':', ':'] <:+: text

/-- No pair of colons begins with another character. -/
theorem colons_infix_cons {c : Char} {after : List Char} (h : c ≠ ':') :
    [':', ':'] <:+: c :: after ↔ [':', ':'] <:+: after := by
  simp [List.infix_cons_iff, h.symm]

/-- No pair of colons reaches across another character. -/
theorem colons_infix_append_cons {before after : List Char} {c : Char} (h : c ≠ ':') :
    [':', ':'] <:+: before ++ c :: after ↔ [':', ':'] <:+: before ∨ [':', ':'] <:+: after := by
  have hne : ':' ≠ c := h.symm
  induction before with
  | nil => simp [List.infix_cons_iff, hne]
  | cons d before ih =>
    simp only [List.cons_append, List.infix_cons_iff, ih, or_assoc]
    cases before <;> simp [hne]

/-- Whether the path, the code and the position of an issue can stand in a command. The code is
followed by a colon, with which it must not make a pair. -/
structure CanStand (issue : Issue) : Prop where
  path : IsInline issue.filePath.toList
  line : issue.line.isSet = true → IsInline issue.line.display.toList
  column : issue.column.isSet = true → IsInline issue.column.display.toList
  code : IsInline (issue.code.display.toList ++ [':'])

/-- There is no line end in an escaped message. -/
theorem any_isLineEnd_escape (message : List Char) : (escape message).any isLineEnd = false := by
  have hchar (c : Char) : (escapeChar c).any isLineEnd = false := by
    unfold escapeChar
    split_ifs with hpercent hreturn hline
    · rfl
    · rfl
    · rfl
    · simp [isLineEnd, hreturn, hline]
  rw [escape, List.any_flatMap]
  simp [hchar]

namespace Command

variable {issue : Issue}

theorem colons_infix_head_ofIssue :
    [':', ':'] <:+: (ofIssue issue).head ++ [':'] ↔
      [':', ':'] <:+: issue.filePath.toList ∨
        (issue.line.isSet = true ∧ [':', ':'] <:+: issue.line.display.toList) ∨
          (issue.column.isSet = true ∧ [':', ':'] <:+: issue.column.display.toList) ∨
            [':', ':'] <:+: issue.code.display.toList ++ [':'] := by
  have hlevel : ¬[':', ':'] <:+: (level issue.severity).toList := by
    cases issue.severity <;> simp [level, List.infix_cons_iff]
  unfold head ofIssue positionOf
  split_ifs with hline hcolumn hcolumn <;>
    simp [propertyChars, List.intercalate, colons_infix_cons, colons_infix_append_cons, *]

theorem commas_ofIssue :
    (∀ p ∈ (ofIssue issue).properties, ',' ∉ propertyChars p) ↔
      ',' ∉ issue.filePath.toList ∧ (issue.line.isSet = true → ',' ∉ issue.line.display.toList) ∧
        (issue.column.isSet = true → ',' ∉ issue.column.display.toList) ∧
          ',' ∉ issue.code.display.toList := by
  unfold ofIssue positionOf
  split_ifs with hline hcolumn hcolumn <;> simp [propertyChars, *]

theorem lineEnds_written_ofIssue :
    (ofIssue issue).written.any isLineEnd = false ↔
      issue.filePath.toList.any isLineEnd = false ∧
        (issue.line.isSet = true → issue.line.display.toList.any isLineEnd = false) ∧
        (issue.column.isSet = true → issue.column.display.toList.any isLineEnd = false) ∧
          issue.code.display.toList.any isLineEnd = false := by
  have hlevel : (level issue.severity).toList.any isLineEnd = false := by
    cases issue.severity <;> rfl
  have hmessage := any_isLineEnd_escape issue.message.display.toList
  have hletters (c : Char) (hne : c ≠ '\n') (hre : c ≠ '\r') : isLineEnd c = false := by
    simp [isLineEnd, hne, hre]
  unfold written head ofIssue positionOf
  split_ifs with hline hcolumn hcolumn <;>
    simp [propertyChars, List.intercalate, List.any_append, hlevel, hmessage, hletters, hline,
      hcolumn]

/-- The command of an issue can be read back from a line exactly if the issue can stand in one. -/
theorem isSound_ofIssue_iff :
    (ofIssue issue).IsSound ∧ (ofIssue issue).written.any isLineEnd = false ↔ CanStand issue := by
  have hname : ' ' ∉ (ofIssue issue).name := by
    change ' ' ∉ (level issue.severity).toList
    cases issue.severity <;> decide
  have hnames : ∀ p ∈ (ofIssue issue).properties, '=' ∉ p.1 := by
    unfold ofIssue positionOf
    split_ifs <;> simp
  -- What is left is about the four texts that an issue puts into its command.
  rw [lineEnds_written_ofIssue]
  constructor
  · rintro ⟨⟨hcolons, -, -, -, hcommas⟩, hends, hlineEnds, hcolumnEnds, hcodeEnds⟩
    simp only [colons_infix_head_ofIssue, not_or, not_and] at hcolons
    obtain ⟨hcolons, hlineColons, hcolumnColons, hcodeColons⟩ := hcolons
    obtain ⟨hcomma, hlineComma, hcolumnComma, hcodeComma⟩ := commas_ofIssue.1 hcommas
    exact ⟨⟨hcomma, hends, hcolons⟩, fun h => ⟨hlineComma h, hlineEnds h, hlineColons h⟩,
      fun h => ⟨hcolumnComma h, hcolumnEnds h, hcolumnColons h⟩,
      ⟨by simpa using hcodeComma, by simpa [isLineEnd] using hcodeEnds, hcodeColons⟩⟩
  · rintro ⟨hpath, hline, hcolumn, hcode⟩
    have hcodeComma : ',' ∉ issue.code.display.toList := by simpa using hcode.comma
    have hcodeEnds : issue.code.display.toList.any isLineEnd = false :=
      (Bool.or_eq_false_iff.1 ((List.any_append ..).symm.trans hcode.lineEnd)).1
    refine ⟨⟨?_, hname, by simp [ofIssue], hnames, commas_ofIssue.2 ⟨hpath.comma,
        fun h => (hline h).comma, fun h => (hcolumn h).comma, hcodeComma⟩⟩,
      hpath.lineEnd, fun h => (hline h).lineEnd, fun h => (hcolumn h).lineEnd, hcodeEnds⟩
    simp only [colons_infix_head_ofIssue, not_or, not_and]
    exact ⟨hpath.colons, fun h => (hline h).colons, fun h => (hcolumn h).colons, hcode.colons⟩

end Command

/-- Numbers can stand in a command, so of a plain issue only the path and the code matter. -/
theorem canStand_iff_of_isPlain {issue : Issue} (h : issue.IsPlain) :
    CanStand issue ↔
      IsInline issue.filePath.toList ∧ IsInline (issue.code.display.toList ++ [':']) := by
  have hnumber (n : Int) : IsInline (intText n).toList := by
    have htoken := (isToken_intText n).2
    -- A comma, a line end or a colon would have to be a character of a number.
    refine ⟨fun hc => absurd (htoken ',' hc) (by decide), ?_, fun hcolons =>
      absurd (htoken ':' (hcolons.subset List.mem_cons_self)) (by decide)⟩
    refine List.any_eq_false.2 fun c hc hend => ?_
    rcases Bool.or_eq_true_iff.1 hend with heq | heq
    · exact absurd (htoken c hc) (by rw [beq_iff_eq.1 heq]; decide)
    · exact absurd (htoken c hc) (by rw [beq_iff_eq.1 heq]; decide)
  cases h
  exact ⟨fun ⟨hpath, _, _, hcode⟩ => ⟨hpath, hcode⟩,
    fun ⟨hpath, hcode⟩ => ⟨hpath, fun _ => hnumber _, fun _ => hnumber _, hcode⟩⟩

/-! ## Reports -/

/-- The annotations of some issues, a line for each. -/
def annotationLines (issues : List Issue) : String :=
  String.ofList (joined (issues.map fun issue => (Command.ofIssue issue).written))

theorem mapM_annotation_eq {issues : List Issue}
    (h : ∀ issue ∈ issues, ∃ message, issue.message = .text message) :
    issues.mapM annotation
      = .ok (issues.map fun issue => String.ofList (Command.ofIssue issue).written) := by
  induction issues with
  | nil => rfl
  | cons issue issues ih =>
    obtain ⟨⟨message, hmessage⟩, hrest⟩ := List.forall_mem_cons.1 h
    rw [List.mapM_cons, annotation_eq hmessage, ih hrest]
    rfl

theorem intercalate_append_cons (texts : List String) (first : String) (rest : List String) :
    "\n".intercalate (texts ++ first :: rest)
      = String.ofList (joined (texts.map String.toList)) ++ "\n".intercalate (first :: rest) := by
  induction texts with
  | nil => simp [joined]
  | cons text texts ih =>
    obtain ⟨second, others, htexts⟩ : ∃ second others, texts ++ first :: rest = second :: others :=
      List.exists_cons_of_ne_nil (by simp)
    rw [List.cons_append, htexts, String.intercalate_cons_cons, ← htexts, ih]
    simp [joined, String.append_assoc]

/-- A report whose messages are text is written as its annotations and its summary. -/
theorem render_eq {r : ProjectReport}
    (h : ∀ issue ∈ r.issues, ∃ message, issue.message = .text message) :
    render r = .ok (annotationLines r.issues ++ "\n".intercalate (summary r)) := by
  rw [render, mapM_annotation_eq h]
  refine congrArg Except.ok ((intercalate_append_cons _ _ _).trans ?_)
  rw [annotationLines, List.map_map]
  simp [Function.comp_def, summary]

/-- Whether a text has one line for each issue, in order, and the line is read as the command that
the issue stands for. -/
def ReadsAs (text : String) (issues : List Issue) : Prop :=
  List.Forall₂ (fun line issue => Command.read? line = some (.ofIssue issue)) (lines text.toList)
    issues

/-- **The annotations of a report can be read back exactly if every issue can stand in a command.**
In front of the summary each issue then has one line, in order, and that line is read as the level,
the path, the position, the code and the message of the issue and nothing else. No message stands in
the way of that, whatever it holds; a comma, a line end or a pair of colons in a path or a code
does. -/
theorem render_readBack_iff {r : ProjectReport}
    (h : ∀ issue ∈ r.issues, ∃ message, issue.message = .text message) :
    ∃ before, render r = .ok (before ++ "\n".intercalate (summary r)) ∧
      (ReadsAs before r.issues ↔ ∀ issue ∈ r.issues, CanStand issue) := by
  refine ⟨annotationLines r.issues, render_eq h, ?_⟩
  rw [ReadsAs, annotationLines, String.toList_ofList]
  constructor
  · intro hread issue hmem
    -- As many lines as issues leave no room for a line end inside an annotation.
    have hends := length_lines_joined.1 (hread.length_eq.trans (List.length_map _).symm)
    rw [lines_joined hends, List.forall₂_map_left_iff, List.forall₂_same] at hread
    exact Command.isSound_ofIssue_iff.1 ⟨Command.read?_written.1 (hread issue hmem),
      hends _ (List.mem_map_of_mem hmem)⟩
  · intro hstand
    have hends : ∀ text ∈ r.issues.map fun issue => (Command.ofIssue issue).written,
        text.any isLineEnd = false :=
      List.forall_mem_map.2 fun issue hmem => (Command.isSound_ofIssue_iff.2 (hstand issue hmem)).2
    rw [lines_joined hends, List.forall₂_map_left_iff, List.forall₂_same]
    exact fun issue hmem =>
      Command.read?_written.2 (Command.isSound_ofIssue_iff.2 (hstand issue hmem)).1

/-- A report on one file with one issue, whose message holds a comma, a pair of colons, a line end
and what a line end is escaped to. -/
def annotated (path : String) : ProjectReport :=
  let issue : Issue := ⟨.lint, .info, .text "a,b::c\n%0A", .text "a:b", path, .int 1, .int 0, none⟩
  { projectPath := "/p"
    framework := "node"
    totalFiles := 1
    analyzedFiles := 1
    issues := [issue]
    metrics := .ofReports []
    files := [⟨path, [issue], .ofLines 1⟩]
    duration := 0
    timestamp := ⟨⟨2024, 1, 2⟩, ⟨3, 4, 5, 0⟩, some 0⟩
    warnings := [] }

/-- The issue of a file with a plain path is read back, and that of a file with a line end in its
path is not. -/
theorem render_readBack_annotated :
    (∃ before, render (annotated "a.js")
        = .ok (before ++ "\n".intercalate (summary (annotated "a.js"))) ∧
      ReadsAs before (annotated "a.js").issues) ∧
    ∃ before, render (annotated "a\nb.js")
        = .ok (before ++ "\n".intercalate (summary (annotated "a\nb.js"))) ∧
      ¬ReadsAs before (annotated "a\nb.js").issues := by
  have hmessages (path : String) :
      ∀ issue ∈ (annotated path).issues, ∃ message, issue.message = .text message :=
    List.forall_mem_singleton.2 ⟨_, rfl⟩
  have hstand (path : String) (hpath : IsInline path.toList) :
      ∀ issue ∈ (annotated path).issues, CanStand issue := by
    refine List.forall_mem_singleton.2 ((canStand_iff_of_isPlain (.intro ..)).2 ⟨hpath, ?_⟩)
    exact ⟨by simp [Value.display], by simp [Value.display, isLineEnd],
      by simp [Value.display, List.infix_cons_iff]⟩
  -- The two issues differ in their paths only, and a line end cannot stand in a path.
  constructor
  · obtain ⟨before, hrender, hread⟩ := render_readBack_iff (hmessages "a.js")
    refine ⟨before, hrender, hread.2 (hstand _ ⟨by decide, rfl, ?_⟩)⟩
    simp [List.infix_cons_iff]
  · obtain ⟨before, hrender, hread⟩ := render_readBack_iff (hmessages "a\nb.js")
    refine ⟨before, hrender, fun h => ?_⟩
    have hpath := (hread.1 h _ (List.mem_singleton.2 rfl)).path.lineEnd
    cases hpath

end ScriptAudit.Workflow
