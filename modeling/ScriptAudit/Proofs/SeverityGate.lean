import ScriptAudit.CommandLine.Execution
import ScriptAudit.Proofs.Diagnosis
import ScriptAudit.Proofs.JobProgress

/-!
# What a gate looks at

A gate adds up some numbers of a table and never sees an issue. It is about the issues all the same.

- `FailLevel.hits_eq`: the sum is the number of issues that count.
- `FailLevel.isReached_iff`: a level is reached exactly if some issue has one of its severities.
- `FileReport.Trips`: a file that could not be read or parsed, or in which an error was found.
- `Auditor.run_gate`: **the gate fails exactly if the report on a project has an issue that
  counts**, and every such file makes it fail.
-/

namespace ScriptAudit

namespace FailLevel

/-- What has one of two properties is counted once if nothing has both. -/
theorem countP_or {p q : Issue → Bool} (hapart : ∀ issue, p issue = true → q issue = false)
    (issues : List Issue) :
    issues.countP (fun issue => p issue || q issue) = issues.countP p + issues.countP q := by
  induction issues with
  | nil => rfl
  | cons issue issues ih =>
    rw [List.countP_cons, List.countP_cons, List.countP_cons, ih]
    cases hp : p issue with
    | true =>
      rw [hapart issue hp, Bool.true_or, if_pos rfl, if_neg Bool.false_ne_true]
      omega
    | false =>
      rw [Bool.false_or, if_neg Bool.false_ne_true]
      omega

/-- Counts of different severities add up to the count of issues that have any of them. -/
theorem foldr_countP_eq {severities : List Severity} (hnodup : severities.Nodup)
    (issues : List Issue) :
    severities.foldr (fun severity hits => issues.countP (·.severity == severity) + hits) 0
      = issues.countP fun issue => severities.contains issue.severity := by
  induction severities with
  | nil => simp
  | cons severity severities ih =>
    obtain ⟨hnotMem, hnodup⟩ := List.nodup_cons.1 hnodup
    simp only [List.foldr_cons, ih hnodup, List.contains_cons]
    refine (countP_or (fun issue hseverity => ?_) issues).symm
    rw [beq_iff_eq.1 hseverity]
    simpa using hnotMem

theorem nodup_severities (level : FailLevel) : level.severities.Nodup := by
  cases level <;> decide

/-- The sum over the table is the number of issues that count. -/
theorem hits_eq (level : FailLevel) (reports : List FileReport) :
    level.hits (.ofReports reports) = (reports.flatMap (·.issues)).countP
      fun issue => level.severities.contains issue.severity := by
  rw [← foldr_countP_eq level.nodup_severities]
  simp only [hits, Breakdown.count_ofReports]

theorem isReached_iff (level : FailLevel) (reports : List FileReport) :
    level.isReached (.ofReports reports) = true ↔
      ∃ issue ∈ reports.flatMap (·.issues), issue.severity ∈ level.severities := by
  rw [isReached, bne_iff_ne, hits_eq, ← Nat.pos_iff_ne_zero, List.countP_pos_iff]
  simp only [List.contains_iff_mem]

/-- What counts at a level counts at every level with more severities. -/
theorem isReached_mono {level other : FailLevel} (hsubset : level.severities ⊆ other.severities)
    {reports : List FileReport} (h : level.isReached (.ofReports reports) = true) :
    other.isReached (.ofReports reports) = true := by
  obtain ⟨issue, hissue, hcounts⟩ := (level.isReached_iff reports).1 h
  exact (other.isReached_iff reports).2 ⟨issue, hissue, hsubset hcounts⟩

end FailLevel

/-- Whether a file trips the gate: it could not be read or parsed, or there is an error in it. -/
def FileReport.Trips (r : FileReport) : Prop :=
  r.HasShape .unreadable ∨ r.HasShape .unparsed ∨ ∃ issue ∈ r.issues, issue.severity = .error

/-- Such a file has an issue that says so, and that is an error. -/
theorem FileAuditor.exists_error {a : FileAuditor} {fs : FileSystem} {root file : Path}
    (h : (a.report fs root file).Trips) :
    ∃ issue ∈ (a.report fs root file).issues, issue.severity = .error := by
  obtain ⟨shape, hcame⟩ := a.exists_came fs root file
  have hshape := hcame.hasShape.shape_eq
  generalize a.report fs root file = r at h hcame hshape
  rcases h with hunreadable | hunparsed | herror
  · obtain rfl := hshape.symm.trans hunreadable.shape_eq
    cases hcame
    exact ⟨_, List.mem_singleton_self _, rfl⟩
  · obtain rfl := hshape.symm.trans hunparsed.shape_eq
    cases hcame
    exact ⟨_, List.mem_singleton_self _, rfl⟩
  · exact herror

/-- A command that has delivered its report ends with code one if its gate is reached, and as it
would have ended otherwise. -/
theorem Surroundings.code_judged (t : Terminal) (result : CommandResult) (level : FailLevel)
    (r : ProjectReport) :
    (judged t result level r).code
      = if level.isReached r.metrics.breakdown then 1 else result.code := by
  by_cases hhits : level.hits r.metrics.breakdown = 0
  · simp [judged, FailLevel.isReached, hhits]
  · simp only [judged, FailLevel.isReached, hhits, bne_iff_ne, ne_eq, not_false_eq_true, if_true,
      if_false]
    unfold closing
    split <;> rfl

variable {σ : Type}

/-- **The gate fails exactly if an issue counts.** In the report that a run gives, the levels error
and warning are reached exactly if some issue has a severity that counts there, so that the first is
not reached without the second, and the level none never is. A command with such a report ends with
code one exactly in these cases. Every file that could not be read or parsed, and every error in a
file, whoever found it, reaches both levels. -/
theorem Auditor.run_gate {a : Auditor} {fs : FileSystem} {root : Path}
    {listener : Option (Listener Int σ)} {timing : Timing} {state : σ} {r : ProjectReport}
    (h : (a.run fs root listener timing state).1 = .ok r) :
    (FailLevel.error.isReached r.metrics.breakdown = true ↔
      ∃ issue ∈ r.issues, issue.severity = .error) ∧
    (FailLevel.warning.isReached r.metrics.breakdown = true ↔
      ∃ issue ∈ r.issues, issue.severity = .error ∨ issue.severity = .warning) ∧
    FailLevel.none.isReached r.metrics.breakdown = false ∧
    (FailLevel.error.isReached r.metrics.breakdown = true →
      FailLevel.warning.isReached r.metrics.breakdown = true) ∧
    (∀ (t : Terminal) (level : FailLevel) (result : CommandResult),
      (Surroundings.judged t result level r).code
        = if level.isReached r.metrics.breakdown then 1 else result.code) ∧
    ∀ f ∈ r.files, f.Trips →
      FailLevel.error.isReached r.metrics.breakdown = true ∧
        FailLevel.warning.isReached r.metrics.breakdown = true := by
  obtain ⟨checked, profile, linter, last, reports, -, -, -, hsublist, rfl⟩ := exists_of_run h
  -- The count of a severity is positive if some issue has it.
  have herror : FailLevel.error.isReached (.ofReports reports) = true ↔
      ∃ issue ∈ reports.flatMap (·.issues), issue.severity = .error := by
    simp [FailLevel.isReached_iff, FailLevel.severities]
  have hmono : FailLevel.error.isReached (.ofReports reports) = true →
      FailLevel.warning.isReached (.ofReports reports) = true :=
    FailLevel.isReached_mono (by decide)
  refine ⟨herror, ?_, rfl, hmono, fun t level result => Surroundings.code_judged t result level _, ?_⟩
  · show FailLevel.warning.isReached (.ofReports reports) = true ↔
      ∃ issue ∈ reports.flatMap (·.issues), issue.severity = .error ∨ issue.severity = .warning
    simp [FailLevel.isReached_iff, FailLevel.severities]
  · intro f hf htrips
    -- The report is that of a file that was found, and it has an error whatever else it has.
    obtain ⟨file, -, rfl⟩ := List.mem_map.1 (hsublist.subset hf)
    obtain ⟨issue, hissue, hseverity⟩ := FileAuditor.exists_error htrips
    have hreached := herror.2 ⟨issue, List.mem_flatMap.2 ⟨_, hf, hissue⟩, hseverity⟩
    exact ⟨hreached, hmono hreached⟩

/-- Two files for which there is no tree reach the levels error and warning. -/
theorem run_gate_pair :
    ∃ r, (paired.run pair ⟨true, []⟩ none ended ()).1 = .ok r ∧
      FailLevel.error.isReached r.metrics.breakdown = true ∧
      FailLevel.warning.isReached r.metrics.breakdown = true ∧
      FailLevel.none.isReached r.metrics.breakdown = false := by
  have hrun : paired.run pair ⟨true, []⟩ (none : Option (Listener Int Unit)) ended () = _ :=
    Auditor.run_of_prepare prepare_pair fun _ count => List.reverse_perm _
  -- The first file has no tree, so its report has the error of the parser.
  have hunparsed : ((paired.fileAuditor .silent).report pair ⟨true, []⟩ ⟨true, ["a.js"]⟩).HasShape
      .unparsed := by
    obtain ⟨message, hparse⟩ : ∃ message,
        parse ((paired.fileAuditor .silent).parser ⟨true, ["a.js"]⟩)
          (Path.relativeTo ⟨true, ["a.js"]⟩ ⟨true, []⟩) (Utf8.decode [59]) = .refused message 0 0 :=
      exists_parse_of_lacking (.inr rfl)
    rw [FileAuditor.report_of_ok read_pair, FileAuditor.reportText_of_refused hparse]
    exact (FileAuditor.Came.unparsed (a := paired.fileAuditor .silent) read_pair hparse).hasShape
  refine ⟨_, congrArg Prod.fst hrun, ?_⟩
  obtain ⟨-, -, hnone, -, -, htrips⟩ := Auditor.run_gate (congrArg Prod.fst hrun)
  obtain ⟨herror, hwarning⟩ := htrips _ List.mem_cons_self (.inr (.inl hunparsed))
  exact ⟨herror, hwarning, hnone⟩

end ScriptAudit
