import ScriptAudit.Format.Basic
import ScriptAudit.Format.Plain
import ScriptAudit.Proofs.JoinedPairs
import ScriptAudit.Value.Field

/-!
# Nothing of a report is lost

The JSON text of a report tells everything about its issues and its files, except whether a character
in a message or a code stands there in two halves. What is optional is kept under a key of its own, so
that it can be told whether it is there.

- `Json.Outline.get?_congr`: values with the same text agree under every key.
- `Issue.joined_eq_of_outline`, `FileMetrics.eq_of_outline`, `FileReport.joined_eq_of_outline`: what can
  be told of an issue, of measurements and of a file.
- `ProjectReport.IsTyped`: reports whose fields are texts and whole numbers.
- `ProjectReport.render_json_eq_iff`: **such reports have the same text exactly if they agree in all
  they say, with the pairs in their texts joined**; of the metrics of the project and of the time only
  the texts count.
- `not_render_json_eq_iff`: **without joining they may not agree.**
-/

namespace ScriptAudit

/-! ## Outlines of simple values -/

namespace Json.Outline

@[simp] theorem of_text_eq_iff {s t : String} : of (.text s) = of (.text t) ↔ s = t := by
  constructor
  · intro h
    have hbody := congrArg Subtype.val (quoted.inj h)
    exact String.toList_inj.1 (escapeText_injective hbody)
  · rintro rfl
    rfl

theorem of_of_runes? {value : Value} {runes : List Rune} (h : value.runes? = some runes) :
    of value = .quoted ⟨runes.flatMap escapeRune, isBody_escapeRunes runes⟩ := by
  cases value with
  | text s =>
    obtain rfl := Option.some.inj h
    have hbody : (Rune.ofText s).flatMap escapeRune = s.toList.flatMap escapeChar := by
      rw [Rune.ofText, List.flatMap_map]
      rfl
    exact congrArg Outline.quoted (Subtype.ext hbody.symm)
  | torn t =>
    obtain rfl := Option.some.inj h
    rw [of]
  | null | bool | int | float | list | table | moment => cases h

/-- Texts have the same outline exactly if they are the same with their pairs joined. -/
theorem of_eq_iff_joined {value other : Value} {runes others : List Rune}
    (hvalue : value.runes? = some runes) (hother : other.runes? = some others) :
    of value = of other ↔ value.joined = other.joined := by
  rw [Value.joined_eq_iff hvalue hother, of_of_runes? hvalue, of_of_runes? hother,
    ← escapeRunes_eq_iff, quoted.injEq, Subtype.mk.injEq]

@[simp] theorem of_joined (value : Value) : of value.joined = of value := by
  cases hrunes : value.runes? with
  | none => rw [Value.joined, hrunes]
  | some runes =>
    have hjoined := Value.joined_of_runes? hrunes
    rw [hjoined, of_of_runes? (Value.runes?_ofRunes _), of_of_runes? hrunes]
    exact congrArg Outline.quoted (Subtype.ext (escapeRunes_join runes))

@[simp] theorem of_int_eq_iff {m n : Int} : of (.int m) = of (.int n) ↔ m = n := by
  constructor
  · intro h
    have htoken : (intText m).toList = (intText n).toList := congrArg Subtype.val (word.inj h)
    exact intText_injective (String.toList_inj.1 htoken)
  · rintro rfl
    rfl

@[simp] theorem of_list_eq_iff {items others : List Value} :
    of (.list items) = of (.list others) ↔ items.map of = others.map of := by
  rw [of, of, list.injEq, ofItems_eq_map, ofItems_eq_map]

theorem lookup_ofEntries (key : String) (entries : List (String × Value)) :
    (ofEntries entries).lookup key.toList = (lookup? key entries).map of := by
  induction entries with
  | nil => rfl
  | cons entry entries ih =>
    obtain ⟨other, value⟩ := entry
    by_cases hkey : other = key
    · subst hkey
      simp [ofEntries, lookup?]
    · have hchars : key.toList ≠ other.toList := fun h => hkey (String.toList_inj.1 h).symm
      rw [ofEntries, List.lookup_cons, beq_false_of_ne hchars, lookup?, if_neg hkey]
      exact ih

/-- What stands under a key of a table. -/
def part? (key : String) : Outline → Option Outline
  | .table entries => entries.lookup key.toList
  | _ => none

theorem part?_of (key : String) (v : Value) : (of v).part? key = (v.get? key).map of := by
  cases v with
  | table entries => rw [of, part?, lookup_ofEntries, Value.get?]
  | _ => rw [of]; rfl

/-- Values with the same outline have parts with the same outline under every key. -/
theorem get?_congr {v w : Value} (h : of v = of w) (key : String) :
    (v.get? key).map of = (w.get? key).map of := by
  rw [← part?_of, ← part?_of, h]

/-- The same for a part that both have. -/
theorem part_congr {v w part other : Value} (h : of v = of w) (key : String)
    (hv : v.get? key = some part) (hw : w.get? key = some other) : of part = of other := by
  have hparts := get?_congr h key
  rw [hv, hw] at hparts
  exact Option.some.inj hparts

theorem text_eq_of_part {v w : Value} {s t : String} (h : of v = of w) (key : String)
    (hv : v.get? key = some (.text s)) (hw : w.get? key = some (.text t)) : s = t :=
  of_text_eq_iff.1 (part_congr h key hv hw)

theorem int_eq_of_part {v w : Value} {m n : Int} (h : of v = of w) (key : String)
    (hv : v.get? key = some (.int m)) (hw : w.get? key = some (.int n)) : m = n :=
  of_int_eq_iff.1 (part_congr h key hv hw)

end Json.Outline

open Json (Outline)

/-- What is told of its members is told of a list. -/
theorem map_eq_of_map_outline {α β : Type} {p : α → Prop} {toValue : α → Value} {f : α → β}
    (hinj : ∀ a b, p a → p b → Outline.of (toValue a) = Outline.of (toValue b) → f a = f b)
    {items others : List α} (hitems : ∀ a ∈ items, p a) (hothers : ∀ a ∈ others, p a)
    (h : (items.map toValue).map Outline.of = (others.map toValue).map Outline.of) :
    items.map f = others.map f := by
  induction items generalizing others with
  | nil =>
    cases others with
    | nil => rfl
    | cons other others => simp at h
  | cons item items ih =>
    cases others with
    | nil => simp at h
    | cons other others =>
      obtain ⟨hitem, hitems⟩ := List.forall_mem_cons.1 hitems
      obtain ⟨hother, hothers⟩ := List.forall_mem_cons.1 hothers
      simp only [List.map_cons, List.cons.injEq] at h
      rw [List.map_cons, List.map_cons, hinj item other hitem hother h.1, ih hitems hothers h.2]

/-- What its members have in common with others, a list has. -/
theorem ofItems_eq_of_map_eq {α β : Type} {toValue : α → Value} {f : α → β}
    (hf : ∀ {a b}, f a = f b → Outline.of (toValue a) = Outline.of (toValue b)) {items others : List α}
    (h : items.map f = others.map f) :
    Outline.ofItems (items.map toValue) = Outline.ofItems (others.map toValue) := by
  induction items generalizing others with
  | nil =>
    cases others with
    | nil => rfl
    | cons other others => cases h
  | cons item items ih =>
    cases others with
    | nil => cases h
    | cons other others =>
      rw [List.map_cons, List.map_cons, List.cons.injEq] at h
      rw [List.map_cons, List.map_cons, Outline.ofItems, Outline.ofItems, hf h.1, ih h.2]

/-! ## Issues -/

theorem Category.name_injective : Function.Injective Category.name := by
  have hname (c : Category) : Category.ofName? c.name = some c := by
    cases c <;> rfl
  intro a b h
  exact Option.some.inj (by rw [← hname a, ← hname b, h])

theorem Severity.name_injective : Function.Injective Severity.name := by
  have hname (s : Severity) : Severity.ofName? s.name = some s := by
    cases s <;> rfl
  intro a b h
  exact Option.some.inj (by rw [← hname a, ← hname b, h])

theorem Fix.eq_of_outline {a b : Fix} (h : Outline.of a.toValue = Outline.of b.toValue) :
    a = b := by
  obtain ⟨description, code⟩ := a
  obtain ⟨otherDescription, otherCode⟩ := b
  obtain rfl : description = otherDescription :=
    Outline.text_eq_of_part h "description" rfl rfl
  obtain rfl : code = otherCode := Outline.text_eq_of_part h "code" rfl rfl
  rfl

/-- A fix is found under its key exactly if there is one. -/
theorem Issue.get?_fix (issue : Issue) :
    issue.toValue.get? "fix" = issue.fix.map Fix.toValue := by
  cases hfix : issue.fix <;> simp [Issue.toValue, Value.get?, lookup?, hfix]

theorem Issue.fix_eq_of_outline {a b : Issue} (h : Outline.of a.toValue = Outline.of b.toValue) :
    a.fix = b.fix := by
  have hfix := Outline.get?_congr h "fix"
  rw [Issue.get?_fix, Issue.get?_fix, Option.map_map, Option.map_map] at hfix
  exact Option.map_injective (fun _ _ => Fix.eq_of_outline) hfix

/-- Issues with the same joined form read alike. -/
theorem Issue.outline_eq_of_joined {a b : Issue} (h : a.joined = b.joined) :
    Outline.of a.toValue = Outline.of b.toValue := by
  have hjoined (issue : Issue) : Outline.of issue.joined.toValue = Outline.of issue.toValue := by
    simp only [toValue, joined, Outline.of, List.cons_append, Outline.ofEntries, Outline.of_joined]
  rw [← hjoined a, h, hjoined]

/-- Issues are known by their text, but for the pairs in it. -/
theorem Issue.joined_eq_of_outline {a b : Issue} (ha : a.IsTyped) (hb : b.IsTyped)
    (h : Outline.of a.toValue = Outline.of b.toValue) : a.joined = b.joined := by
  -- A fix may be absent, so it is not looked up like the fields that are always there.
  have hfix := Issue.fix_eq_of_outline h
  obtain ⟨category, severity, hmessage, hcode, path, line, column, fix⟩ := ha
  obtain ⟨category', severity', hmessage', hcode', path', line', column', fix'⟩ := hb
  have hcategory := Outline.text_eq_of_part h "type" rfl rfl
  have hseverity := Outline.text_eq_of_part h "severity" rfl rfl
  have hmessages := (Outline.of_eq_iff_joined hmessage hmessage').1
    (Outline.part_congr h "message" rfl rfl)
  have hcodes := (Outline.of_eq_iff_joined hcode hcode').1 (Outline.part_congr h "code" rfl rfl)
  obtain rfl := Category.name_injective hcategory
  obtain rfl := Severity.name_injective hseverity
  obtain rfl := Outline.text_eq_of_part h "filePath" rfl rfl
  obtain rfl := Outline.int_eq_of_part h "line" rfl rfl
  obtain rfl := Outline.int_eq_of_part h "column" rfl rfl
  obtain rfl : fix = fix' := hfix
  simp only [joined, hmessages, hcodes]

/-! ## Files -/

/-- Measurements that are whole numbers, or unknown. -/
inductive FileMetrics.IsWhole : FileMetrics → Prop
  | intro (lines : Int) (complexity functions classes imports : Option Int) :
    IsWhole ⟨.whole lines, complexity.map .whole, functions.map .whole, classes.map .whole,
      imports.map .whole⟩

/-- Measurements are found under their keys, an optional one exactly if it is known. -/
theorem FileMetrics.get?_toValue (m : FileMetrics) :
    m.toValue.get? "linesOfCode" = some m.lines.toValue ∧
      m.toValue.get? "complexity" = m.complexity.map Number.toValue ∧
      m.toValue.get? "functions" = m.functions.map Number.toValue ∧
      m.toValue.get? "classes" = m.classes.map Number.toValue ∧
      m.toValue.get? "imports" = m.imports.map Number.toValue := by
  obtain ⟨lines, complexity, functions, classes, imports⟩ := m
  cases complexity <;> cases functions <;> cases classes <;> cases imports <;>
    simp [toValue, Value.get?, lookup?]

/-- Whole numbers that may be unknown are known by their text. -/
theorem eq_of_map_whole {m n : Option Int}
    (h : ((m.map Number.whole).map Number.toValue).map Outline.of
      = ((n.map Number.whole).map Number.toValue).map Outline.of) : m = n := by
  rw [Option.map_map, Option.map_map, Option.map_map, Option.map_map] at h
  exact Option.map_injective (fun _ _ => Outline.of_int_eq_iff.1) h

/-- Whole measurements are known by their text, an unknown one from zero. -/
theorem FileMetrics.eq_of_outline {a b : FileMetrics} (ha : a.IsWhole) (hb : b.IsWhole)
    (h : Outline.of a.toValue = Outline.of b.toValue) : a = b := by
  have hlines := Outline.get?_congr h "linesOfCode"
  have hcomplexity := Outline.get?_congr h "complexity"
  have hfunctions := Outline.get?_congr h "functions"
  have hclasses := Outline.get?_congr h "classes"
  have himports := Outline.get?_congr h "imports"
  simp only [get?_toValue] at hlines hcomplexity hfunctions hclasses himports
  cases ha
  cases hb
  have hwhole := Outline.of_int_eq_iff.1 (Option.some.inj hlines)
  rw [hwhole, eq_of_map_whole hcomplexity, eq_of_map_whole hfunctions, eq_of_map_whole hclasses,
    eq_of_map_whole himports]

/-- Reports on files whose issues have fields of the right kinds and whose measurements are whole
numbers. -/
structure FileReport.IsTyped (r : FileReport) : Prop where
  issues : ∀ issue ∈ r.issues, issue.IsTyped
  metrics : r.metrics.IsWhole

theorem map_joined_eq_of_outline {issues others : List Issue}
    (hissues : ∀ issue ∈ issues, issue.IsTyped) (hothers : ∀ issue ∈ others, issue.IsTyped)
    (h : Outline.of (.list (issues.map Issue.toValue))
      = Outline.of (.list (others.map Issue.toValue))) :
    issues.map Issue.joined = others.map Issue.joined :=
  map_eq_of_map_outline (fun _ _ => Issue.joined_eq_of_outline) hissues hothers
    (Outline.of_list_eq_iff.1 h)

/-- Files are known by their text, but for the pairs in it. -/
theorem FileReport.joined_eq_of_outline {a b : FileReport} (ha : a.IsTyped) (hb : b.IsTyped)
    (h : Outline.of a.toValue = Outline.of b.toValue) : a.joined = b.joined := by
  obtain ⟨path, issues, metrics⟩ := a
  obtain ⟨otherPath, otherIssues, otherMetrics⟩ := b
  have hissues := map_joined_eq_of_outline ha.issues hb.issues (Outline.part_congr h "issues" rfl rfl)
  obtain rfl := Outline.text_eq_of_part h "filePath" rfl rfl
  obtain rfl : metrics = otherMetrics :=
    FileMetrics.eq_of_outline ha.metrics hb.metrics (Outline.part_congr h "metrics" rfl rfl)
  simp only [joined, hissues]

theorem FileReport.outline_eq_of_joined {a b : FileReport} (h : a.joined = b.joined) :
    Outline.of a.toValue = Outline.of b.toValue := by
  rw [joined, joined, FileReport.mk.injEq] at h
  obtain ⟨hpath, hissues, hmetrics⟩ := h
  have hitems := ofItems_eq_of_map_eq Issue.outline_eq_of_joined hissues
  simp only [toValue, Outline.of, Outline.ofEntries, hpath, hitems, hmetrics]

/-! ## Projects -/

/-- Reports whose issues have fields of the right kinds and whose files were measured in whole
numbers. -/
structure ProjectReport.IsTyped (r : ProjectReport) : Prop where
  issues : ∀ issue ∈ r.issues, issue.IsTyped
  files : ∀ file ∈ r.files, file.IsTyped

/-- Reports whose issues are plain, in the files as well. -/
structure ProjectReport.IsPlain (r : ProjectReport) : Prop where
  issues : ∀ issue ∈ r.issues, issue.IsPlain
  files : ∀ file ∈ r.files, ∀ issue ∈ file.issues, issue.IsPlain

theorem Format.eq_of_render_json {p : Printer} {r : ProjectReport} {rendering : Rendering}
    (h : Format.json.render p r = .ok rendering) : rendering = .lines (Json.indented r.toValue) := by
  rw [render] at h
  split at h
  case h_1 => cases h
  case h_2 => exact (Except.ok.inj h).symm

/-- Where two reports are rendered, they have the same text exactly if their data has the same
outline. -/
theorem Format.render_json_eq_iff_outline {p q : Printer} {r s : ProjectReport}
    {rendering other : Rendering} (hr : Format.json.render p r = .ok rendering)
    (hs : Format.json.render q s = .ok other) :
    rendering = other ↔ Outline.of r.toValue = Outline.of s.toValue := by
  rw [Format.eq_of_render_json hr, Format.eq_of_render_json hs, ← Json.indented_eq_iff]
  constructor
  · intro h
    exact (Rendering.text.inj h).1
  · intro h
    rw [h]

/-- Two reports have the same outline exactly if they agree in all parts, with the pairs in their texts
joined. -/
theorem ProjectReport.outline_eq_iff {r s : ProjectReport} (hr : r.IsTyped) (hs : s.IsTyped) :
    Outline.of r.toValue = Outline.of s.toValue ↔
      r.projectPath = s.projectPath ∧ r.framework = s.framework ∧ r.totalFiles = s.totalFiles ∧
        r.analyzedFiles = s.analyzedFiles ∧ r.duration = s.duration ∧ r.warnings = s.warnings ∧
        r.issues.map Issue.joined = s.issues.map Issue.joined ∧
        r.files.map FileReport.joined = s.files.map FileReport.joined ∧
        Json.indented r.metrics.toValue = Json.indented s.metrics.toValue ∧
        r.timestamp.text = s.timestamp.text := by
  constructor
  · intro h
    -- Every part of the report is one entry of the table, and is read off by its key.
    refine ⟨Outline.text_eq_of_part h "projectPath" rfl rfl,
      Outline.text_eq_of_part h "framework" rfl rfl,
      Outline.int_eq_of_part h "totalFiles" rfl rfl,
      Outline.int_eq_of_part h "analyzedFiles" rfl rfl,
      Outline.int_eq_of_part h "duration" rfl rfl, ?warnings,
      map_joined_eq_of_outline hr.issues hs.issues (Outline.part_congr h "issues" rfl rfl), ?files,
      Json.indented_eq_iff.2 (Outline.part_congr h "metrics" rfl rfl),
      Outline.text_eq_of_part h "timestamp" rfl rfl⟩
    case warnings =>
      have hsame := map_eq_of_map_outline (p := fun _ => True) (f := id)
        (fun _ _ _ _ => Outline.of_text_eq_iff.1) (fun _ _ => trivial) (fun _ _ => trivial)
        (Outline.of_list_eq_iff.1 (Outline.part_congr h "warnings" rfl rfl))
      rwa [List.map_id, List.map_id] at hsame
    case files =>
      exact map_eq_of_map_outline (fun _ _ => FileReport.joined_eq_of_outline) hr.files hs.files
        (Outline.of_list_eq_iff.1 (Outline.part_congr h "fileAnalyses" rfl rfl))
  · rintro ⟨hpath, hframework, htotal, hanalyzed, hduration, hwarnings, hissues, hfiles, hmetrics,
      htime⟩
    -- What agrees in all parts has the same table.
    have houtline := Json.indented_eq_iff.1 hmetrics
    have hissueItems := ofItems_eq_of_map_eq Issue.outline_eq_of_joined hissues
    have hfileItems := ofItems_eq_of_map_eq FileReport.outline_eq_of_joined hfiles
    simp only [toValue, Outline.of, Outline.ofEntries, hpath, hframework, htotal, hanalyzed,
      hduration, hwarnings, hissueItems, hfileItems, houtline, htime]

/-- **The text of a report tells all of it.** Two reports that are written have the same text exactly if
they agree in the directory that was searched, the framework, the numbers of files, the duration, the
warnings, every issue and every file, where two halves of a pair count as their character, and the
metrics of the project and the time read alike. If no text is torn, the issues and the files are the
same. -/
theorem ProjectReport.render_json_eq_iff {p q : Printer} {r s : ProjectReport} (hr : r.IsTyped)
    (hs : s.IsTyped) {rendering other : Rendering}
    (hrender : Format.json.render p r = .ok rendering)
    (hother : Format.json.render q s = .ok other) :
    (rendering = other ↔
      r.projectPath = s.projectPath ∧ r.framework = s.framework ∧ r.totalFiles = s.totalFiles ∧
        r.analyzedFiles = s.analyzedFiles ∧ r.duration = s.duration ∧ r.warnings = s.warnings ∧
        r.issues.map Issue.joined = s.issues.map Issue.joined ∧
        r.files.map FileReport.joined = s.files.map FileReport.joined ∧
        Json.indented r.metrics.toValue = Json.indented s.metrics.toValue ∧
        r.timestamp.text = s.timestamp.text) ∧
      (r.IsPlain → s.IsPlain → rendering = other → r.issues = s.issues ∧ r.files = s.files) := by
  have hiff := (Format.render_json_eq_iff_outline hrender hother).trans (outline_eq_iff hr hs)
  refine ⟨hiff, fun hrPlain hsPlain heq => ?_⟩
  obtain ⟨-, -, -, -, -, -, hissues, hfiles, -⟩ := hiff.1 heq
  rw [Issue.map_joined hrPlain.issues, Issue.map_joined hsPlain.issues] at hissues
  rw [FileReport.map_joined hrPlain.files, FileReport.map_joined hsPlain.files] at hfiles
  exact ⟨hissues, hfiles⟩

/-- A report on one file with one issue. Its complexity may be known to be zero, and it may have a fix. -/
def graded (message : Value) (isKnown : Bool) (fix : Option Fix) : ProjectReport :=
  let issue : Issue := ⟨.lint, .info, message, .text "C", "a.js", .int 1, .int 0, fix⟩
  { projectPath := "/p"
    framework := "node"
    totalFiles := 1
    analyzedFiles := 1
    issues := [issue]
    metrics := .ofReports []
    files := [⟨"a.js", [issue],
      ⟨.whole 2, (if isKnown then some 0 else none).map .whole, (some 0).map .whole, none.map .whole, none.map .whole⟩⟩]
    duration := 0
    timestamp := ⟨⟨2024, 1, 2⟩, ⟨3, 4, 5, 0⟩, some 0⟩
    warnings := [] }

theorem graded_isTyped {message : Value} {runes : List Rune} (h : message.runes? = some runes)
    (isKnown : Bool) (fix : Option Fix) : (graded message isKnown fix).IsTyped := by
  refine ⟨fun issue hmem => ?_, fun file hmem => ?_⟩
  · rw [List.mem_singleton.1 hmem]
    exact .intro _ _ h rfl _ _ _ _
  · rw [List.mem_singleton.1 hmem]
    refine ⟨fun issue hissue => ?_, .intro ..⟩
    rw [List.mem_singleton.1 hissue]
    exact .intro _ _ h rfl _ _ _ _

/-- A printer with room for what is nested in such a report. -/
def roomy : Printer :=
  ⟨.usual .plain, 9, 9⟩

/-- Text can always be written. -/
theorem Json.unwritable?_of_isText {value : Value} (depth : Nat) (h : value.isText = true) :
    Json.unwritable? depth value = none := by
  cases value with
  | text _ => simp [Json.unwritable?]
  | torn _ => simp [Json.unwritable?]
  | _ => cases h

/-- Such a report is written, if its message can be. -/
theorem render_graded {message : Value} (hmessage : ∀ depth, Json.unwritable? depth message = none)
    (isKnown : Bool) (fix : Option Fix) :
    Format.json.render roomy (graded message isKnown fix)
      = .ok (.lines (Json.indented (graded message isKnown fix).toValue)) := by
  -- The numbers written are far shorter than the longest that can be.
  have hzero : Value.isShort 0 = true := Value.isShort_of_lt (by decide)
  have hone : Value.isShort 1 = true := Value.isShort_of_lt (by decide)
  have htwo : Value.isShort 2 = true := Value.isShort_of_lt (by decide)
  have hmetrics : (ProjectMetrics.ofReports []).lines = .whole 0
      ∧ (ProjectMetrics.ofReports []).functions = .whole 0
      ∧ (ProjectMetrics.ofReports []).classes = .whole 0
      ∧ (ProjectMetrics.ofReports []).breakdown.toValue
        = .table [("error", .int 0), ("warning", .int 0), ("info", .int 0)] :=
    ⟨rfl, rfl, rfl, rfl⟩
  -- Every part can be written at the depth it stands at: the metrics are those of no files.
  have hwritable : Json.unwritable? 9 (graded message isKnown fix).toValue = none := by
    cases isKnown <;> cases fix <;>
      simp [graded, ProjectReport.toValue, FileReport.toValue, Issue.toValue, FileMetrics.toValue,
        ProjectMetrics.toValue, Number.toValue, Fix.toValue, Json.unwritable?, Json.itemsUnwritable?,
        Json.entriesUnwritable?, hmetrics, hmessage, hzero, hone, htwo]
  have hdepth : roomy.dataDepth = 9 := rfl
  rw [Format.render, hdepth, hwritable]

theorem graded_isPlain (message : String) (isKnown : Bool) (fix : Option Fix) :
    (graded (.text message) isKnown fix).IsPlain := by
  refine ⟨fun issue hmem => ?_, fun file hmem issue hissue => ?_⟩
  · rw [List.mem_singleton.1 hmem]
    exact .intro ..
  · rw [List.mem_singleton.1 hmem] at hissue
    rw [List.mem_singleton.1 hissue]
    exact .intro ..

/-- A message with a half that stands alone, quotes, escapes and a character beyond the first plane. -/
def tornMessage : Value := .torn ⟨.half ⟨0x600, by decide⟩ :: Rune.ofText "\"\\n\n😀\"", rfl⟩

/-- A complexity of zero is not an unknown one, and an empty fix is not an absent one. -/
theorem render_json_graded :
    (graded tornMessage true none).IsTyped ∧ (graded tornMessage false none).IsTyped ∧
      (graded (.text "😀") false (some ⟨"", ""⟩)).IsPlain ∧ (graded (.text "😀") false none).IsPlain ∧
      ∃ zero unknown empty absent,
        Format.json.render roomy (graded tornMessage true none) = .ok zero ∧
        Format.json.render roomy (graded tornMessage false none) = .ok unknown ∧
        Format.json.render roomy (graded (.text "😀") false (some ⟨"", ""⟩)) = .ok empty ∧
        Format.json.render roomy (graded (.text "😀") false none) = .ok absent ∧
        zero ≠ unknown ∧ empty ≠ absent := by
  have htorn : ∀ depth, Json.unwritable? depth tornMessage = none := fun depth =>
    Json.unwritable?_of_isText depth rfl
  have hplain : ∀ depth, Json.unwritable? depth (.text "😀") = none := fun depth =>
    Json.unwritable?_of_isText depth rfl
  have hzero := render_graded htorn true none
  have hunknown := render_graded htorn false none
  have hempty := render_graded hplain false (some ⟨"", ""⟩)
  have habsent := render_graded hplain false none
  refine ⟨graded_isTyped rfl _ _, graded_isTyped rfl _ _, graded_isPlain _ _ _, graded_isPlain _ _ _,
    _, _, _, _, hzero, hunknown, hempty, habsent, fun h => ?_, fun h => ?_⟩
  · -- The two differ in the complexity of the file.
    obtain ⟨-, -, -, -, -, -, -, hfiles, -⟩ :=
      (ProjectReport.render_json_eq_iff (graded_isTyped rfl _ _) (graded_isTyped rfl _ _) hzero
        hunknown).1.1 h
    simp [graded, FileReport.joined] at hfiles
  · -- The two differ in the fix of the issue, and nothing in them is torn.
    obtain ⟨hissues, -⟩ :=
      (ProjectReport.render_json_eq_iff (graded_isTyped rfl _ _) (graded_isTyped rfl _ _) hempty
        habsent).2 (graded_isPlain _ _ _) (graded_isPlain _ _ _) h
    simp [graded] at hissues

/-- A character beyond the first plane in two halves. -/
def halves : Value := .torn ⟨[.half ⟨0x3D, by decide⟩, .half ⟨0x600, by decide⟩], rfl⟩

/-- A torn text may read like one that is not: two halves are written like the character that they make
up, and what stood in the message is lost. -/
theorem not_render_json_eq_iff :
    ∃ rendering, Format.json.render roomy (graded (.text "😀") false none) = .ok rendering ∧
      Format.json.render roomy (graded halves false none) = .ok rendering ∧
      (graded halves false none).IsTyped ∧ (graded (.text "😀") false none).IsTyped ∧
      (graded halves false none).issues ≠ (graded (.text "😀") false none).issues := by
  have hcharacter := @render_graded (.text "😀") (fun depth => Json.unwritable?_of_isText depth rfl)
    false none
  have hhalves := @render_graded halves (fun depth => Json.unwritable?_of_isText depth rfl) false none
  -- Both messages are written as the same escapes.
  have hmessage : Outline.of halves = Outline.of (.text "😀") := by
    rw [halves, Outline.of, Outline.of]
    exact congrArg Outline.quoted (Subtype.ext (by decide))
  have htexts : Json.indented (graded halves false none).toValue
      = Json.indented (graded (.text "😀") false none).toValue := by
    refine Json.indented_eq_iff.2 ?_
    simp only [graded, ProjectReport.toValue, FileReport.toValue, Issue.toValue, Outline.of,
      Outline.ofEntries, Outline.ofItems, List.map_cons, List.map_nil, Option.map_none,
      Option.toList_none, List.append_nil, hmessage]
  refine ⟨_, hcharacter, ?_, graded_isTyped rfl _ _, graded_isTyped rfl _ _, fun h => ?_⟩
  · rw [hhalves, htexts]
  · -- The message of one is a text and that of the other is torn.
    have hissue := (List.cons.inj h).1
    rw [Issue.mk.injEq] at hissue
    cases hissue.2.2.1

end ScriptAudit
