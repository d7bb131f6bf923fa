import Mathlib.Algebra.BigOperators.Group.List.Basic
import Mathlib.Algebra.Ring.Nat
import ScriptAudit.Proofs.FallibleSteps
import ScriptAudit.Proofs.ProjectReport

/-!
# Sums over files

The metrics of a project are computed from sums over its files. Whole numbers can be added in any
order and in any groups, so that only the files matter, and not how they are listed.

- `Number.total_append`, `Number.total_perm`: sums of whole numbers over joined and over permuted
  lists, and `Breakdown.countIn_append`, `Breakdown.countIn_perm` the same for counts of issues.
- `ProjectMetrics.checked_eq_ok_iff`: which steps metrics take.
- `ProjectMetrics.exists_checked_iff`: **there are metrics of files that can be measured**, which is
  to say that the average, the average in hundredths and the number of lines are within the floats.
- `ProjectMetrics.checked_perm`: **files in another order have the same metrics**, or the same
  failure.
- `ProjectMetrics.not_checked_additive`: two lists of files whose lines can be told need not be a
  list whose lines can.
- `ProjectMetrics.checked_sums`: **the metrics of joined lists are sums**, wherever there are any,
  and the average is that over all files, those without a complexity included.
-/

namespace ScriptAudit

variable {reports before after other : List FileReport}

/-! ## Whole numbers -/

/-- Whether all numbers of a list are whole. -/
def Number.AllWhole (numbers : List Number) : Prop :=
  ∀ n ∈ numbers, ∃ k, n = .whole k

theorem Number.total_append {numbers others : List Number} (h : AllWhole numbers)
    (hothers : AllWhole others) :
    total (numbers ++ others) = (total numbers).add (total others) := by
  have hall : AllWhole (numbers ++ others) := List.forall_mem_append.2 ⟨h, hothers⟩
  rw [total_eq h, total_eq hothers, total_eq hall, List.map_append, List.sum_append]
  rfl

theorem Number.total_perm {numbers others : List Number} (h : AllWhole others)
    (hperm : numbers.Perm others) : total numbers = total others := by
  have hnumbers : AllWhole numbers := fun n hmem => h n (hperm.mem_iff.1 hmem)
  rw [total_eq h, total_eq hnumbers, (hperm.map _).sum_eq]

namespace ProjectMetrics

/-- What every file adds to a sum is a whole number. -/
theorem allWhole_shares {measure : FileMetrics → Option Number}
    (h : ∀ r ∈ reports, measure r.metrics = none ∨ ∃ k, measure r.metrics = some (.whole k)) :
    Number.AllWhole (reports.map fun r => share (measure r.metrics)) := by
  intro n hmem
  obtain ⟨r, hr, rfl⟩ := List.mem_map.1 hmem
  exact ⟨_, share_eq (h r hr)⟩

theorem allWhole_lines (h : ∀ r ∈ reports, r.IsCounted) :
    Number.AllWhole (reports.map (·.metrics.lines)) := by
  intro n hmem
  obtain ⟨r, hr, rfl⟩ := List.mem_map.1 hmem
  exact (h r hr).1

theorem totalLines_append (h : ∀ r ∈ before ++ after, r.IsCounted) :
    totalLines (before ++ after) = (totalLines before).add (totalLines after) := by
  obtain ⟨hbefore, hafter⟩ := List.forall_mem_append.1 h
  rw [totalLines, List.map_append]
  exact Number.total_append (allWhole_lines hbefore) (allWhole_lines hafter)

theorem total_append {measure : FileMetrics → Option Number}
    (h : ∀ r ∈ before ++ after,
      measure r.metrics = none ∨ ∃ k, measure r.metrics = some (.whole k)) :
    total (before ++ after) measure = (total before measure).add (total after measure) := by
  obtain ⟨hbefore, hafter⟩ := List.forall_mem_append.1 h
  rw [total, List.map_append]
  exact Number.total_append (allWhole_shares hbefore) (allWhole_shares hafter)

theorem totalLines_perm (h : ∀ r ∈ reports, r.IsCounted) (hperm : other.Perm reports) :
    totalLines other = totalLines reports :=
  Number.total_perm (allWhole_lines h) (hperm.map _)

theorem total_perm (measure : FileMetrics → Option Number)
    (h : ∀ r ∈ reports, measure r.metrics = none ∨ ∃ k, measure r.metrics = some (.whole k))
    (hperm : other.Perm reports) : total other measure = total reports measure :=
  Number.total_perm (allWhole_shares h) (hperm.map _)

end ProjectMetrics

/-! ## Issues -/

namespace Breakdown

theorem countIn_eq (reports : List FileReport) (severity : Severity) :
    countIn reports severity = (reports.map (·.count severity)).sum := by
  induction reports with
  | nil => rfl
  | cons r reports ih =>
    rw [List.map_cons, List.sum_cons, ← ih]
    rfl

theorem count_ofReports_eq (reports : List FileReport) (severity : Severity) :
    (ofReports reports).count severity = countIn reports severity := by
  cases severity <;> rfl

theorem countIn_append (before after : List FileReport) (severity : Severity) :
    countIn (before ++ after) severity = countIn before severity + countIn after severity := by
  rw [countIn_eq, countIn_eq, countIn_eq, List.map_append, List.sum_append]

theorem countIn_perm (hperm : other.Perm reports) (severity : Severity) :
    countIn other severity = countIn reports severity := by
  rw [countIn_eq, countIn_eq, (hperm.map _).sum_eq]

end Breakdown

/-! ## Steps that can fail -/

/-- The quotient of whole numbers can be formed if it is within the floats. -/
theorem Number.exists_divided_iff (m : Int) {n : Int} (hne : n ≠ 0) :
    (∃ quotient, (Number.whole m).divided (.whole n) = .ok quotient) ↔
      ((Number.whole m).ratio (.whole n)).isInf = false := by
  simp only [divided, whole?, if_neg hne]
  cases hinf : ((Number.whole m).ratio (.whole n)).isInf with
  | true => simp [bind, Except.bind, throw, throwThe, MonadExceptOf.throw]
  | false => simp [pure, Except.pure]

/-- Whether the number of some lines is within the floats, and their volume has a logarithm. -/
def HasSize (lines : Int) : Prop :=
  (nearestFloat lines).isInf = false ∧
    (Arithmetic.floating.size? (nearestFloat lines) (nearestFloat (lines + 1))).isSome = true

/-- There is an index of lines that have a size, and always one of no lines. -/
theorem exists_maintainabilityOf_iff (complexity : Float) (lines : Int) :
    (∃ index, maintainabilityOf (.float complexity) (.int lines) = .ok index) ↔
      (0 < lines → HasSize lines) := by
  unfold HasSize
  have hnumber : (Number.whole lines).toFloat = floatOf lines := rfl
  have hcomplexity : (Number.real complexity).toFloat = .ok complexity := rfl
  have hnext : ((Number.whole lines).add (.whole 1)).nearest = nearestFloat (lines + 1) := rfl
  -- The index is asked for only if there are lines; then they and their successor need a logarithm.
  by_cases hpos : 0 < lines
  · have hlines : (Number.whole lines).isAtMost 0 = false := by
      simp [Number.isAtMost, Number.compareBy, hpos]
    simp only [maintainabilityOf, Value.asNumber, Value.number?, bind, Except.bind, hlines, hnumber,
      hcomplexity, hnext, hpos, floatOf]
    cases hinf : (nearestFloat lines).isInf with
    | true => simp
    | false =>
      cases hsize : Arithmetic.floating.size? (nearestFloat lines) (nearestFloat (lines + 1)) with
      | none => simp [hsize, throw, throwThe, MonadExceptOf.throw]
      | some size => simp [hsize, pure, Except.pure]
  · have hlines : (Number.whole lines).isAtMost 0 = true := by
      simp [Number.isAtMost, Number.compareBy]
      omega
    simp [maintainabilityOf, Value.asNumber, Value.number?, bind, Except.bind, pure, Except.pure,
      hlines, hpos]

/-! ## Metrics -/

namespace ProjectMetrics

/-- A step whose result is not used only has to succeed. -/
theorem andThen_eq_ok_iff {α β : Type} {x : Except Failure α} {y : Except Failure β} {b : β} :
    (x >>= fun _ => y) = .ok b ↔ (∃ a, x = .ok a) ∧ y = .ok b := by
  rw [bind_eq_ok_iff, exists_and_right]

/-- The metrics are those of the reports, if the average, the average in hundredths and the index
can be computed. -/
theorem checked_eq_ok_iff {m : ProjectMetrics} :
    checked reports = .ok m ↔
      (reports ≠ [] →
        ∃ quotient, (total reports (·.complexity)).divided (.whole reports.length)
          = .ok quotient) ∧
      (∃ rounded, roundHalfUp (.real (average reports)) (.whole 2) = .ok rounded) ∧
      (∃ index, maintainabilityOf (.float (average reports)) (totalLines reports).toValue
        = .ok index) ∧
      m = ofReports reports := by
  unfold checked
  generalize (total reports (·.complexity)).divided (.whole reports.length) = quotient
  generalize roundHalfUp (.real (average reports)) (.whole 2) = rounded
  generalize maintainabilityOf (.float (average reports)) (totalLines reports).toValue = index
  generalize ofReports reports = metrics
  have hrest : (do let _ ← rounded; let _ ← index; return metrics : Except Failure _) = .ok m ↔
      (∃ a, rounded = .ok a) ∧ (∃ b, index = .ok b) ∧ m = metrics := by
    rw [andThen_eq_ok_iff, andThen_eq_ok_iff]
    show _ ∧ _ ∧ Except.ok metrics = Except.ok m ↔ _
    rw [Except.ok.injEq, eq_comm]
  -- Without files no average is computed.
  by_cases hempty : reports = []
  · rw [if_neg (by simp [hempty])]
    exact hrest.trans ⟨fun h => ⟨fun hne => absurd hempty hne, h⟩, And.right⟩
  · rw [if_pos (by simp [hempty])]
    refine andThen_eq_ok_iff.trans (and_congr ?_ hrest)
    exact ⟨fun h _ => h, fun h => h hempty⟩

theorem eq_ofReports {m : ProjectMetrics} (h : checked reports = .ok m) : m = ofReports reports :=
  (checked_eq_ok_iff.1 h).2.2.2

theorem average_perm (h : ∀ r ∈ reports, r.IsCounted) (hperm : other.Perm reports) :
    average other = average reports := by
  have hcomplexity := total_perm (·.complexity) (fun r hr => (h r hr).2 _ (by simp)) hperm
  unfold average
  rw [hcomplexity, hperm.length_eq, hperm.isEmpty_eq]

theorem ofReports_perm (h : ∀ r ∈ reports, r.IsCounted) (hperm : other.Perm reports) :
    ofReports other = ofReports reports := by
  have hfunctions := total_perm (·.functions) (fun r hr => (h r hr).2 _ (by simp)) hperm
  have hclasses := total_perm (·.classes) (fun r hr => (h r hr).2 _ (by simp)) hperm
  unfold ofReports Breakdown.ofReports
  rw [average_perm h hperm, totalLines_perm h hperm, hfunctions, hclasses,
    Breakdown.countIn_perm hperm, Breakdown.countIn_perm hperm, Breakdown.countIn_perm hperm]

/-- **Files in another order have the same metrics**, or the same failure. -/
theorem checked_perm (h : ∀ r ∈ reports, r.IsCounted) (hperm : other.Perm reports) :
    checked other = checked reports := by
  have hcomplexity := total_perm (·.complexity) (fun r hr => (h r hr).2 _ (by simp)) hperm
  unfold checked
  rw [hcomplexity, hperm.length_eq, hperm.isEmpty_eq, average_perm h hperm,
    totalLines_perm h hperm, ofReports_perm h hperm]

/-- The average is that over all files; a file without a complexity adds nothing to the sum. -/
theorem average_eq (h : ∀ r ∈ reports, r.IsCounted) (hne : reports ≠ []) :
    average reports
      = (Number.whole (reports.map fun r => countOf r.metrics.complexity).sum).ratio
          (.whole reports.length) := by
  rw [average, total_eq fun r hr => (h r hr).2 _ (by simp), if_neg (by simpa using hne)]

/-! ## Files that can be measured -/

/-- Whether files can be measured: their average complexity and its hundredths are within the
floats, and their lines, if there are any, have a size. -/
structure IsMeasurable (reports : List FileReport) : Prop where
  average : (average reports).isInf = false
  hundredths : ∃ rounded, roundHalfUp (.real (ProjectMetrics.average reports)) (.whole 2)
    = .ok rounded
  lines : ∀ lines, totalLines reports = .whole lines → 0 < lines → HasSize lines

/-- **There are metrics of those files that can be measured**, and of no others. -/
theorem exists_checked_iff (h : ∀ r ∈ reports, r.IsCounted) :
    (∃ m, checked reports = .ok m) ↔ IsMeasurable reports := by
  have hcomplexity : total reports (·.complexity) = _ := total_eq fun r hr => (h r hr).2 _ (by simp)
  have hquotient : (reports ≠ [] →
      -- The average fails only where it leaves the range, and no files have one.
      ∃ quotient, (total reports (·.complexity)).divided (.whole reports.length) = .ok quotient) ↔
        (average reports).isInf = false := by
    by_cases hempty : reports = []
    · subst hempty
      simp only [ne_eq, not_true_eq_false, false_implies, true_iff]
      decide
    · have hlength : (reports.length : Int) ≠ 0 := by simpa using hempty
      rw [average, hcomplexity, if_neg (by simpa using hempty),
        ← Number.exists_divided_iff _ hlength]
      exact ⟨fun hq => hq hempty, fun hq _ => hq⟩
  have hindex : (∃ index, maintainabilityOf (.float (average reports)) (totalLines reports).toValue
      = .ok index) ↔ ∀ lines, totalLines reports = .whole lines → 0 < lines → HasSize lines := by
    rw [totalLines_eq h, Number.toValue, exists_maintainabilityOf_iff]
    simp
  constructor
  · rintro ⟨m, hm⟩
    obtain ⟨hq, hr, hi, -⟩ := checked_eq_ok_iff.1 hm
    exact ⟨hquotient.1 hq, hr, hindex.1 hi⟩
  · rintro ⟨haverage, hhundredths, hlines⟩
    exact ⟨_, checked_eq_ok_iff.2 ⟨hquotient.2 haverage, hhundredths, hindex.2 hlines, rfl⟩⟩

/-! ## Joined lists -/

/-- A file whose number of lines is within the floats, while twice that number is beyond them. -/
def vast : FileReport :=
  ⟨"a.js", [], .ofLines (10 ^ 308)⟩

/-- **Two lists whose lines can be told need not make up such a list**: there are no metrics of two
vast files. -/
theorem not_checked_additive :
    ¬ ∀ before after : List FileReport, (∀ r ∈ before ++ after, r.IsCounted) →
      ∃ first second both, checked before = .ok first ∧ checked after = .ok second ∧
        checked (before ++ after) = .ok both ∧ both.lines = first.lines.add second.lines := by
  intro h
  have hcounted : ∀ r ∈ [vast] ++ [vast], r.IsCounted := by
    intro r hr
    obtain rfl : r = vast := by simpa using hr
    refine ⟨⟨_, rfl⟩, ?_⟩
    show ∀ count ∈ [none, none, none, none], count = none ∨ _
    simp
  -- Each file has metrics, but their lines together leave the range of the reals.
  obtain ⟨first, second, both, -, -, hboth, -⟩ := h [vast] [vast] hcounted
  have hlines : totalLines ([vast] ++ [vast]) = .whole (2 * 10 ^ 308) := by decide +kernel
  have hbeyond : (nearestFloat (2 * 10 ^ 308)).isInf = true := by decide +kernel
  have hmeasurable := (exists_checked_iff hcounted).1 ⟨both, hboth⟩
  obtain ⟨hwithin, -⟩ := hmeasurable.lines _ hlines (by decide +kernel)
  rw [hbeyond] at hwithin
  cases hwithin

/-- **The metrics of joined lists are sums.** Files have metrics exactly if they can be measured.
Where two lists of files and the list of both have metrics, the lines, the functions, the classes
and the issues of each severity of both are the sums of those of the two. A list of files has the
metrics of any other list of the same files, and none if that has none. The average complexity is
that over all files, one without a complexity adding nothing, and the index is that of the average
before it is rounded. -/
theorem checked_sums (h : ∀ r ∈ before ++ after, r.IsCounted) :
    ((∃ both, checked (before ++ after) = .ok both) ↔ IsMeasurable (before ++ after)) ∧
    (∀ first second both, checked before = .ok first → checked after = .ok second →
      checked (before ++ after) = .ok both →
        both.lines = first.lines.add second.lines ∧
        both.functions = first.functions.add second.functions ∧
        both.classes = first.classes.add second.classes ∧
        ∀ severity, both.breakdown.count severity
          = first.breakdown.count severity + second.breakdown.count severity) ∧
    (∀ other, other.Perm (before ++ after) → checked other = checked (before ++ after)) ∧
    (∀ both, checked (before ++ after) = .ok both → before ++ after ≠ [] →
      ∃ mean : Float,
        mean = (Number.whole
            ((before ++ after).map fun r => countOf r.metrics.complexity).sum).ratio
          (.whole (before ++ after).length) ∧
        both.averageComplexity = hundredths mean ∧
        both.maintainability = ScriptAudit.maintainability mean both.lines) := by
  refine ⟨exists_checked_iff h, ?_, ?_, ?_⟩
  · -- Each sum is taken over both lists, and lines, functions and classes are all counted.
    intro first second both hfirst hsecond hboth
    obtain rfl := eq_ofReports hfirst
    obtain rfl := eq_ofReports hsecond
    obtain rfl := eq_ofReports hboth
    refine ⟨totalLines_append h, total_append fun r hr => (h r hr).2 _ (by simp),
      total_append fun r hr => (h r hr).2 _ (by simp), ?_⟩
    intro severity
    show (Breakdown.ofReports _).count severity
      = (Breakdown.ofReports _).count severity + (Breakdown.ofReports _).count severity
    rw [Breakdown.count_ofReports_eq, Breakdown.count_ofReports_eq, Breakdown.count_ofReports_eq,
      Breakdown.countIn_append]
  · intro other hperm
    exact checked_perm h hperm
  · intro both hboth hne
    obtain rfl := eq_ofReports hboth
    refine ⟨average (before ++ after), average_eq h hne, ?_, ?_⟩
    · rw [ofReports]
    · rw [ofReports]

/-- A file without a line that has some structure nevertheless. -/
def structured : FileReport :=
  ⟨"a.js", [], .measured 0 4 ⟨2, 1, 0⟩⟩

/-- The file that was measured and one that could not be read: their metrics are sums, and the
average of four and nothing is two. -/
theorem checked_sums_unreadable :
    (∀ r ∈ [structured] ++ [FileAuditor.unreadable "b.js"], r.IsCounted) ∧
      IsMeasurable ([structured] ++ [FileAuditor.unreadable "b.js"]) ∧
      ∃ first second both, checked [structured] = .ok first ∧
        checked [FileAuditor.unreadable "b.js"] = .ok second ∧
        checked ([structured] ++ [FileAuditor.unreadable "b.js"]) = .ok both ∧
        both.functions = first.functions.add second.functions ∧
        both.breakdown.count .error
          = first.breakdown.count .error + second.breakdown.count .error ∧
        checked ([FileAuditor.unreadable "b.js"] ++ [structured]) = .ok both ∧
        both.averageComplexity = 2.0 := by
  have hcounted : ∀ r ∈ [structured] ++ [FileAuditor.unreadable "b.js"], r.IsCounted := by
    simp [FileReport.IsCounted, structured, FileAuditor.unreadable, FileMetrics.ofLines,
      FileMetrics.measured]
  obtain ⟨first, hfirst⟩ : ∃ first, checked [structured] = .ok first :=
    isOk_iff_exists.1 (by decide +kernel)
  obtain ⟨second, hsecond⟩ : ∃ second, checked [FileAuditor.unreadable "b.js"] = .ok second :=
    isOk_iff_exists.1 (by decide +kernel)
  obtain ⟨both, hboth⟩ :
      ∃ both, checked ([structured] ++ [FileAuditor.unreadable "b.js"]) = .ok both :=
    isOk_iff_exists.1 (by decide +kernel)
  obtain ⟨hmeasurable, hsums, hperm, haverage⟩ := checked_sums hcounted
  obtain ⟨-, hfunctions, -, hissues⟩ := hsums first second both hfirst hsecond hboth
  obtain ⟨mean, hmean, hrounded, -⟩ := haverage both hboth (by simp)
  refine ⟨hcounted, hmeasurable.1 ⟨both, hboth⟩, first, second, both, hfirst, hsecond, hboth,
    hfunctions, hissues .error, ?_, ?_⟩
  · exact (hperm _ (List.Perm.swap _ _ _)).trans hboth
  · rw [hrounded, hmean]
    decide +kernel

end ProjectMetrics

end ScriptAudit
