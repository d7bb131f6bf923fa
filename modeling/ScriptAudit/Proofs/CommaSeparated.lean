import ScriptAudit.Format.Csv
import ScriptAudit.Proofs.FallibleSteps

/-!
# Records read back

Whatever stands in a field, a reader of comma-separated values finds it again: the quotes around a
field tell a comma or a line end inside it from one that separates.

- `Csv.State.IsBehind`: the states in which a reader has a whole field and awaits what ends it.
- `Csv.exists_isBehind`: **reading a written field leads to such a state**, with or without quotes.
- `Csv.records?_flatMap_record`: what is read from written records is these records.
- `Csv.Says`, `Csv.records?_render`: **a report gives its header and one record for each issue**, if its
  numbers can be written.
-/

namespace ScriptAudit.Csv

/-! ## Fields -/

theorem isSpecial_eq_false_iff {rune : Rune} :
    isSpecial rune = false ↔
      ((rune ≠ .whole ',' ∧ rune ≠ .whole '"') ∧ rune ≠ .whole '\r') ∧ rune ≠ .whole '\n' := by
  simp only [isSpecial, Bool.or_eq_false_iff, beq_eq_false_iff_ne]

/-- The states in which a field has been read and only a separator may follow. At the start of a
field the empty one counts as read. -/
inductive State.IsBehind : State → List Rune → Prop
  | start : IsBehind .start []
  | bare (text : List Rune) : IsBehind .bare text
  | closing (text : List Rune) : IsBehind .closing text

variable {text read rest : List Rune} {before : List (List Rune)}

/-- Inside quotes a text is read as it was before its quotes were doubled. -/
theorem recordsFrom?_quoted (text read rest : List Rune) :
    recordsFrom? .quoted read before (text.flatMap quoteRune ++ .whole '"' :: rest)
      = recordsFrom? .closing (text.reverse ++ read) before rest := by
  induction text generalizing read with
  | nil => simp [recordsFrom?]
  | cons rune text ih =>
    by_cases hc : rune = .whole '"'
    · -- The first of the two quotes may close the field, and the second one says that it does not.
      subst hc
      simp [quoteRune, recordsFrom?, ih]
    · simp [quoteRune, recordsFrom?, hc, ih]

theorem recordsFrom?_bare (h : text.any isSpecial = false) (read rest : List Rune) :
    recordsFrom? .bare read before (text ++ rest)
      = recordsFrom? .bare (text.reverse ++ read) before rest := by
  induction text generalizing read with
  | nil => rfl
  | cons rune text ih =>
    rw [List.any_cons, Bool.or_eq_false_iff, isSpecial_eq_false_iff] at h
    obtain ⟨hc, htext⟩ := h
    simp [recordsFrom?, hc, ih htext]

/-- Reading a written field leads to a state behind it, whatever follows. -/
theorem exists_isBehind (text : List Rune) :
    ∃ state : State, state.IsBehind text ∧ ∀ before rest,
      recordsFrom? .start [] before (field text ++ rest)
        = recordsFrom? state text.reverse before rest := by
  cases hspecial : text.any isSpecial with
  | true =>
    refine ⟨.closing, .closing text, fun before rest => ?_⟩
    simp [field, hspecial, recordsFrom?, recordsFrom?_quoted]
  | false =>
    cases text with
    | nil =>
      -- An empty field without quotes leaves the reader where it is.
      exact ⟨.start, .start, fun before rest => by simp [field]⟩
    | cons rune text =>
      refine ⟨.bare, .bare _, fun before rest => ?_⟩
      have hplain := hspecial
      rw [List.any_cons, Bool.or_eq_false_iff, isSpecial_eq_false_iff] at hplain
      obtain ⟨hc, htext⟩ := hplain
      simp [field, hspecial, recordsFrom?, hc, recordsFrom?_bare htext]

/-- A comma behind a field adds it to the record. -/
theorem recordsFrom?_comma {state : State} (h : state.IsBehind text) (rest : List Rune) :
    recordsFrom? state text.reverse before (.whole ',' :: rest)
      = recordsFrom? .start [] (text :: before) rest := by
  cases h <;> simp [recordsFrom?]

/-- A line end behind a field adds it to the record and completes that. -/
theorem recordsFrom?_lineEnd {state : State} (h : state.IsBehind text) (rest : List Rune) :
    recordsFrom? state text.reverse before (.whole '\r' :: .whole '\n' :: rest)
      = (records? rest).map ((text :: before).reverse :: ·) := by
  have hreturn (rest : List Rune) : recordsFrom? state text.reverse before (.whole '\r' :: rest)
      = recordsFrom? .ending text.reverse before rest := by
    cases h <;> simp [recordsFrom?]
  rw [hreturn, recordsFrom?_ending, List.reverse_reverse, records?]

/-! ## Records -/

/-- The fields of a record are read one after the other and added to those before. -/
theorem recordsFrom?_fields (before : List (List Rune)) {texts : List (List Rune)}
    (h : texts ≠ []) (rest : List Rune) :
    recordsFrom? .start [] before (fields texts ++ .whole '\r' :: .whole '\n' :: rest)
      = (records? rest).map ((before.reverse ++ texts) :: ·) := by
  induction texts generalizing before with
  | nil => exact absurd rfl h
  | cons text texts ih =>
    obtain ⟨state, hbehind, hread⟩ := exists_isBehind text
    cases texts with
    | nil => rw [fields, hread, recordsFrom?_lineEnd hbehind, List.reverse_cons]
    | cons next texts =>
      have hne : next :: texts ≠ [] := by simp
      rw [fields, List.append_assoc, hread, List.cons_append, recordsFrom?_comma hbehind,
        ih (text :: before) hne, List.reverse_cons, List.append_assoc, List.singleton_append]
      simp

/-- **Records come back.** A record without fields could not be told from one empty field. -/
theorem records?_flatMap_record {table : List (List (List Rune))}
    (h : ∀ texts ∈ table, texts ≠ []) :
    records? (table.flatMap record) = some table := by
  induction table with
  | nil => rfl
  | cons texts table ih =>
    have hrest := ih fun other hmem => h other (List.mem_cons_of_mem texts hmem)
    have hshape : (texts :: table).flatMap record
        = fields texts ++ .whole '\r' :: .whole '\n' :: table.flatMap record := by
      simp [record]
    rw [hshape, records?, recordsFrom?_fields [] (h texts List.mem_cons_self), hrest]
    rfl

/-! ## Reports -/

/-- What a record says about an issue with fields of the right kinds: the file, the position in
decimal, how bad the issue is, where it comes from, its code and its message. -/
inductive Says : Issue → List (List Rune) → Prop
  | intro (category : Category) (severity : Severity) {message code : Value}
    {messageRunes codeRunes : List Rune} (hmessage : message.runes? = some messageRunes)
    (hcode : code.runes? = some codeRunes) (filePath : String) (line column : Int)
    (fix : Option Fix) :
    Says ⟨category, severity, message, code, filePath, .int line, .int column, fix⟩
      [Rune.ofText filePath, Rune.ofText (intText line), Rune.ofText (intText column),
        Rune.ofText severity.name, Rune.ofText category.name, codeRunes, messageRunes]

/-- Whether the numbers in the position of an issue have few enough digits to be written. -/
def IsBrief (issue : Issue) : Prop :=
  ∀ n : Int, issue.line = .int n ∨ issue.column = .int n → n.natAbs < Nat.pow 10 longestNumber

variable {depth : Nat} {issue : Issue}

theorem fieldRunes_int (depth : Nat) (n : Int) :
    fieldRunes depth (.int n)
      = if n.natAbs < Nat.pow 10 longestNumber then .ok (Rune.ofText (intText n))
        else .error (.ofUnwritable .tooLong) := by
  have htold : fieldRunes depth (.int n) = ((Value.int n).told depth).map Rune.ofText := rfl
  rw [htold, Value.told, Value.unwritable?]
  by_cases hshort : n.natAbs < Nat.pow 10 longestNumber
  · rw [if_pos hshort, if_pos (Value.isShort_iff.2 hshort)]
    rfl
  · rw [if_neg hshort, if_neg (mt Value.isShort_iff.1 hshort)]
    rfl

/-- A text stands in its field as it is. -/
theorem fieldRunes_of_runes? {value : Value} {runes : List Rune} (h : value.runes? = some runes) :
    fieldRunes depth value = .ok runes := by
  cases value with
  | text s =>
    obtain rfl := Option.some.inj h
    rfl
  | torn t =>
    obtain rfl := Option.some.inj h
    rfl
  | null | bool | int | float | list | table | moment => cases h

theorem isBrief_iff {category : Category} {severity : Severity} {message code : Value} {path : String}
    {line column : Int} {fix : Option Fix} :
    IsBrief ⟨category, severity, message, code, path, .int line, .int column, fix⟩ ↔
      line.natAbs < Nat.pow 10 longestNumber ∧ column.natAbs < Nat.pow 10 longestNumber := by
  constructor
  · exact fun h => ⟨h line (.inl rfl), h column (.inr rfl)⟩
  · rintro ⟨hline, hcolumn⟩ n (heq | heq)
    · rwa [← Value.int.inj heq]
    · rwa [← Value.int.inj heq]

/-- An issue of the right kinds with short numbers has a record, and it says what the issue says. -/
theorem exists_issueFields (depth : Nat) (h : issue.IsTyped) (hbrief : IsBrief issue) :
    ∃ texts, issueFields depth issue = .ok texts ∧ Says issue texts := by
  obtain ⟨category, severity, hmessage, hcode, path, line, column, fix⟩ := h
  obtain ⟨hline, hcolumn⟩ := isBrief_iff.1 hbrief
  refine ⟨_, ?_, .intro category severity hmessage hcode path line column fix⟩
  rw [issueFields, fieldRunes_int, fieldRunes_int, if_pos hline, if_pos hcolumn,
    fieldRunes_of_runes? hcode, fieldRunes_of_runes? hmessage]
  rfl

/-- Such an issue with another number has none. -/
theorem issueFields_eq_error (h : issue.IsTyped) (hbrief : ¬IsBrief issue) :
    issueFields depth issue = .error (.ofUnwritable .tooLong) := by
  obtain ⟨category, severity, hmessage, hcode, path, line, column, fix⟩ := h
  rw [isBrief_iff, not_and_or] at hbrief
  rw [issueFields, fieldRunes_int, fieldRunes_int]
  by_cases hline : line.natAbs < Nat.pow 10 longestNumber
  · rw [if_pos hline, if_neg (hbrief.resolve_left (not_not_intro hline))]
    rfl
  · rw [if_neg hline]
    rfl

theorem says_of_issueFields (h : issue.IsTyped) {texts : List (List Rune)}
    (hfields : issueFields depth issue = .ok texts) : Says issue texts := by
  by_cases hbrief : IsBrief issue
  · obtain ⟨others, hothers, hsays⟩ := exists_issueFields depth h hbrief
    rw [hothers] at hfields
    rwa [← Except.ok.inj hfields]
  · rw [issueFields_eq_error h hbrief] at hfields
    cases hfields

theorem says_of_rows {issues : List Issue} {rows : List (List (List Rune))}
    (h : ∀ issue ∈ issues, issue.IsTyped)
    (hrows : List.Forall₂ (fun issue texts => issueFields depth issue = .ok texts) issues rows) :
    List.Forall₂ Says issues rows := by
  induction hrows with
  | nil => exact .nil
  | cons hrow _ ih =>
    obtain ⟨hissue, hissues⟩ := List.forall_mem_cons.1 h
    exact .cons (says_of_issueFields hissue hrow) (ih hissues)

/-- A text for a report is its header and the records of its issues. -/
theorem records?_of_render {r : ProjectReport} {text : List Rune} (h : render depth r = .ok text) :
    ∃ rows, r.issues.mapM (issueFields depth) = .ok rows ∧
      records? text = some (header.map Rune.ofText :: rows) := by
  obtain ⟨rows, hrows, rfl⟩ := map_eq_ok_iff.1 h
  refine ⟨rows, hrows, records?_flatMap_record ?_⟩
  refine List.forall_mem_cons.2 ⟨by decide, fun texts hmem => ?_⟩
  obtain ⟨issue, -, hfields⟩ := exists_of_mem_mapM hrows hmem
  -- Whatever is told in them, a record has seven fields.
  obtain ⟨line, -, hfields⟩ := bind_eq_ok_iff.1 hfields
  obtain ⟨column, -, hfields⟩ := bind_eq_ok_iff.1 hfields
  obtain ⟨code, -, hfields⟩ := bind_eq_ok_iff.1 hfields
  obtain ⟨message, -, hfields⟩ := bind_eq_ok_iff.1 hfields
  obtain rfl := Except.ok.inj hfields
  exact List.cons_ne_nil _ _

/-- **Nothing in an issue breaks its record.** A report whose issues have fields of the right kinds has
a text exactly if the numbers in their positions have few enough digits to be written, and this is the
only reason why it may have none. From the text a reader gets the header and then one record for each
issue, in order, and that record says what the issue says. -/
theorem records?_render {r : ProjectReport} (h : ∀ issue ∈ r.issues, issue.IsTyped) (depth : Nat) :
    ((∃ text, render depth r = .ok text) ↔ ∀ issue ∈ r.issues, IsBrief issue) ∧
      (∀ failure, render depth r = .error failure → failure = .ofUnwritable .tooLong) ∧
      ∀ text, render depth r = .ok text → ∃ records, records? text
          = some (["file", "line", "column", "severity", "type", "code", "message"].map Rune.ofText
            :: records) ∧
        List.Forall₂ Says r.issues records := by
  refine ⟨⟨?_, fun hbrief => ?_⟩, fun failure hfailure => ?_, fun text htext => ?_⟩
  · rintro ⟨text, htext⟩ issue hmem
    obtain ⟨rows, hrows, -⟩ := map_eq_ok_iff.1 htext
    obtain ⟨fields, hfields, -⟩ := exists_mapM_iff.1 ⟨rows, hrows, fun _ _ => trivial⟩ issue hmem
    -- A text would hold a record for each issue, and for one with a long number there is none.
    by_contra hlong
    rw [issueFields_eq_error (h issue hmem) hlong] at hfields
    cases hfields
  · have hrows : ∀ issue ∈ r.issues, ∃ fields, issueFields depth issue = .ok fields ∧ True :=
      fun issue hmem => (exists_issueFields depth (h issue hmem) (hbrief issue hmem)).imp
        fun _ hfields => ⟨hfields.1, trivial⟩
    obtain ⟨rows, hrows, -⟩ := exists_mapM_iff.2 hrows
    exact ⟨_, map_eq_ok_iff.2 ⟨rows, hrows, rfl⟩⟩
  · -- The failure is that of the first issue without a record, and a brief one has a record.
    obtain ⟨before, issue, after, hissues, -, hissue⟩ :=
      mapM_eq_error_iff.1 (map_eq_error_iff.1 hfailure)
    have htyped : issue.IsTyped := h issue (by simp [hissues])
    by_cases hbrief : IsBrief issue
    · obtain ⟨fields, hfields, -⟩ := exists_issueFields depth htyped hbrief
      rw [hfields] at hissue
      cases hissue
    · rw [issueFields_eq_error htyped hbrief] at hissue
      exact (Except.error.inj hissue).symm
  · obtain ⟨rows, hrows, hrecords⟩ := records?_of_render htext
    exact ⟨_, hrecords, says_of_rows h (mapM_eq_ok_iff.1 hrows)⟩

/-- Half of a pair that stands alone. -/
def loneHalf : Rune := .half ⟨0x1, by decide⟩

/-- A report on one issue, with a torn message and a position. -/
def punctuated (line : Value) : ProjectReport where
  projectPath := "/p"
  framework := "node"
  totalFiles := 1
  analyzedFiles := 1
  issues :=
    [⟨.logic, .warning, .torn ⟨loneHalf :: Rune.ofText " \"b\",\r\nc", rfl⟩, .text "", "d,\n.js", line,
      .int (-1), none⟩]
  metrics := .ofReports []
  files := []
  duration := 0
  timestamp := ⟨⟨2024, 1, 2⟩, ⟨3, 4, 5, 0⟩, some 0⟩
  warnings := []

theorem punctuated_isTyped (line : Int) : ∀ issue ∈ (punctuated (.int line)).issues, issue.IsTyped := by
  refine List.forall_mem_singleton.2 ?_
  exact .intro _ _ rfl rfl _ _ _ _

theorem records?_render_punctuated :
    (∀ issue ∈ (punctuated (.int 3)).issues, issue.IsTyped) ∧
      ∃ text, render 9 (punctuated (.int 3)) = .ok text ∧ records? text = some
        [["file", "line", "column", "severity", "type", "code", "message"].map Rune.ofText,
          ["d,\n.js", "3", "-1", "warning", "logic", ""].map Rune.ofText
            ++ [loneHalf :: Rune.ofText " \"b\",\r\nc"]] := by
  have hbrief : ∀ issue ∈ (punctuated (.int 3)).issues, IsBrief issue := by
    refine List.forall_mem_singleton.2 (isBrief_iff.2 ?_)
    exact ⟨Value.isShort_iff.1 (Value.isShort_of_lt (by decide)),
      Value.isShort_iff.1 (Value.isShort_of_lt (by decide))⟩
  -- The three parts of the theorem, one after the other: there is a text, it has records, and they
  -- say what the issue says.
  obtain ⟨hwritten, -, hread⟩ := records?_render (punctuated_isTyped 3) 9
  obtain ⟨text, htext⟩ := hwritten.2 hbrief
  obtain ⟨records, hrecords, hsays⟩ := hread text htext
  refine ⟨punctuated_isTyped 3, text, htext, ?_⟩
  rw [hrecords]
  cases hsays with
  | cons hissue hnone =>
    obtain ⟨_, _, hmessage, hcode⟩ := hissue
    cases hmessage
    cases hcode
    cases hnone
    rfl

/-- Not every whole number comes back: one with too many digits is not written at all, and a truth value,
which counts as zero or one, is not written in decimal. -/
theorem not_records?_render :
    (∃ n : Int, (∀ issue ∈ (punctuated (.int n)).issues, issue.IsTyped) ∧
      ¬∃ text, render 9 (punctuated (.int n)) = .ok text) ∧
    ((render 9 (punctuated (.bool true))).toOption.bind fun text => (records? text).bind (·[1]?))
      = some (["d,\n.js", "True", "-1", "warning", "logic", ""].map Rune.ofText
        ++ [loneHalf :: Rune.ofText " \"b\",\r\nc"]) ∧
    (Value.bool true).int? = some 1 ∧ intText 1 = "1" := by
  constructor
  · obtain ⟨n, hn⟩ : ∃ n : Int, ¬n.natAbs < Nat.pow 10 longestNumber := by
      -- The limit is far too large to be computed, and which number it is does not matter.
      generalize Nat.pow 10 longestNumber = limit
      exact ⟨limit, Nat.lt_irrefl limit⟩
    refine ⟨n, punctuated_isTyped n, ?_⟩
    rintro ⟨text, htext⟩
    obtain ⟨rows, hrows, -⟩ := map_eq_ok_iff.1 htext
    obtain ⟨fields, hfields, -⟩ :=
      exists_mapM_iff.1 ⟨rows, hrows, fun _ _ => trivial⟩ _ List.mem_cons_self
    rw [issueFields_eq_error (punctuated_isTyped n _ List.mem_cons_self) fun hbrief =>
      hn (isBrief_iff.1 hbrief).1] at hfields
    cases hfields
  · refine ⟨?_, rfl, by decide⟩
    decide +kernel

end ScriptAudit.Csv
