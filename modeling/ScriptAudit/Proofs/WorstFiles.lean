import Mathlib.Data.List.Perm.Basic
import ScriptAudit.Format.Plain
import ScriptAudit.Proofs.FallibleSteps

/-!
# The table of the worst files

The table shows the files with issues from the heaviest on, and files of one weight by their paths. Paths
tell files apart, so there is one such order only, however the files are listed.

- `weight_eq`, `sum_count_eq`: what a file weighs, and how many issues it has, by its counts.
- `ConsoleView.Outranks`: the order of the table. `ConsoleView.IsRanking`: the files with issues in it.
- `ConsoleView.isRanking_ranked`, `ConsoleView.IsRanking.unique`: **there is one ranking, and it is the one
  that is shown.**
- `ConsoleItem.rows`: the rows of all tables that are shown.
- `ConsoleView.fileTable_ranking`: **the table has the first rows of the ranking.**
-/

namespace ScriptAudit

variable {view : ConsoleView} {reports others : List FileReport} {a b c : FileReport}

/-! ## Counts -/

/-- Every issue is counted under one severity. -/
theorem FileReport.sum_count_eq (r : FileReport) :
    r.count .error + r.count .warning + r.count .info = r.issues.length := by
  simp only [count]
  induction r.issues with
  | nil => rfl
  | cons issue issues ih =>
    simp only [List.countP_cons, List.length_cons, ← ih]
    cases issue.severity <;> simp <;> omega

namespace ConsoleView

/-- A file weighs what its issues weigh. -/
theorem weight_eq (r : FileReport) :
    weight r = 100 * r.count .error + 10 * r.count .warning + r.count .info := by
  simp only [weight, FileReport.count]
  induction r.issues with
  | nil => rfl
  | cons issue issues ih =>
    simp only [List.foldr_cons, List.countP_cons, ih]
    cases issue.severity <;> simp [severityWeight] <;> omega

/-! ## The ranking -/

/-- Whether a file comes before another: it weighs more, or it weighs the same and has the lesser path. -/
def Outranks (a b : FileReport) : Prop :=
  weight b < weight a ∨ weight a = weight b ∧ a.path < b.path

instance : DecidableRel Outranks := fun a b =>
  inferInstanceAs (Decidable (weight b < weight a ∨ weight a = weight b ∧ a.path < b.path))

/-- The files with issues among some files. -/
def faulty (reports : List FileReport) : List FileReport :=
  reports.filter fun r => !r.issues.isEmpty

/-- Whether some files are all those with issues, each before those that it outranks. -/
structure IsRanking (reports order : List FileReport) : Prop where
  perm : order.Perm (faulty reports)
  pairwise : order.Pairwise Outranks

theorem Outranks.weight_le (h : Outranks a b) : weight b ≤ weight a := by
  rcases h with hlt | ⟨heq, -⟩ <;> omega

theorem Outranks.asymm (h : Outranks a b) : ¬Outranks b a := by
  rintro (hlt | ⟨heq, hlt⟩)
  · exact Nat.not_lt.2 h.weight_le hlt
  · rcases h with hlt' | ⟨-, hlt'⟩
    · omega
    · exact String.lt_irrefl _ (String.lt_trans hlt hlt')

theorem isBefore_iff :
    isBefore a b = true ↔ weight b < weight a ∨ weight a = weight b ∧ a.path ≤ b.path := by
  simp [isBefore]

theorem isBefore_trans (h : isBefore a b = true) (hother : isBefore b c = true) :
    isBefore a c = true := by
  rw [isBefore_iff] at h hother ⊢
  rcases h with h | ⟨h, hpath⟩
  · exact .inl (by omega)
  · rcases hother with hother | ⟨hother, hpath'⟩
    · exact .inl (by omega)
    · exact .inr ⟨h.trans hother, String.le_trans hpath hpath'⟩

theorem isBefore_total (a b : FileReport) : (isBefore a b || isBefore b a) = true := by
  rw [Bool.or_eq_true, isBefore_iff, isBefore_iff]
  rcases Nat.lt_trichotomy (weight a) (weight b) with hlt | heq | hlt
  · exact .inr (.inl hlt)
  · exact (String.le_total a.path b.path).imp (fun h => .inr ⟨heq, h⟩) fun h => .inr ⟨heq.symm, h⟩
  · exact .inl (.inl hlt)

theorem ranked_perm (reports : List FileReport) : (ranked reports).Perm (faulty reports) :=
  List.mergeSort_perm _ _

/-- The files that are shown are ranked, since no two of them have one path. -/
theorem isRanking_ranked (hpaths : (reports.map (·.path)).Nodup) :
    IsRanking reports (ranked reports) := by
  have hfaulty : ((faulty reports).map (·.path)).Nodup :=
    hpaths.sublist (List.filter_sublist.map _)
  have hdistinct : (ranked reports).Pairwise fun a b => a.path ≠ b.path :=
    List.pairwise_map.1 (((ranked_perm reports).map _).nodup_iff.2 hfaulty)
  have hsorted : (ranked reports).Pairwise fun a b => isBefore a b = true :=
    @List.pairwise_mergeSort _ isBefore (fun _ _ _ => isBefore_trans) isBefore_total _
  refine ⟨ranked_perm reports, (hsorted.and hdistinct).imp ?_⟩
  rintro a b ⟨hbefore, hne⟩
  refine (isBefore_iff.1 hbefore).imp_right fun ⟨heq, hle⟩ => ⟨heq, ?_⟩
  exact String.not_le.1 fun hge => hne (String.le_antisymm hle hge)

/-- There is one ranking only. -/
theorem IsRanking.unique {order other : List FileReport} (h : IsRanking reports order)
    (hother : IsRanking reports other) : other = order :=
  (hother.perm.trans h.perm.symm).eq_of_pairwise
    (fun _ _ _ _ hab hba => absurd hba hab.asymm) hother.pairwise h.pairwise

theorem IsRanking.of_perm {order : List FileReport} (h : IsRanking reports order)
    (hperm : others.Perm reports) : IsRanking others order :=
  ⟨h.perm.trans (hperm.filter _).symm, h.pairwise⟩

theorem ranked_eq_of_perm (hpaths : (reports.map (·.path)).Nodup) (hperm : others.Perm reports) :
    ranked others = ranked reports :=
  ((isRanking_ranked hpaths).of_perm hperm).unique
    (isRanking_ranked ((hperm.map _).nodup_iff.2 hpaths))

/-- Where a ranking is cut, nothing behind the cut outweighs what is before it. A file without issues
weighs nothing. -/
theorem IsRanking.weight_le {order : List FileReport} (h : IsRanking reports order) {cut : Nat}
    (hshown : a ∈ order.take cut) (hmem : b ∈ reports) (hleft : b ∉ order.take cut) :
    weight b ≤ weight a := by
  by_cases hfaulty : b ∈ faulty reports
  · have hbehind : b ∈ order.drop cut := by
      have hsplit := h.perm.mem_iff.2 hfaulty
      rw [← List.take_append_drop cut order, List.mem_append] at hsplit
      exact hsplit.resolve_left hleft
    have hpairwise := h.pairwise
    rw [← List.take_append_drop cut order, List.pairwise_append] at hpairwise
    exact (hpairwise.2.2 a hshown b hbehind).weight_le
  · have hnone : b.issues = [] := by
      simpa [faulty, hmem] using hfaulty
    simp [weight, hnone]

end ConsoleView

/-! ## The rows -/

/-- The rows of a table; nothing else has any. -/
def ConsoleItem.rows : ConsoleItem → List (List String)
  | .table _ _ rows => rows
  | _ => []

namespace ConsoleView

theorem rowsFrom_eq (view : ConsoleView) (rank : Nat) (reports : List FileReport) :
    view.rowsFrom rank reports = reports.mapIdx fun i file => view.row (rank + i) file := by
  induction reports generalizing rank with
  | nil => rfl
  | cons file reports ih =>
    rw [rowsFrom, List.mapIdx_cons, ih]
    simp only [Nat.add_zero, Nat.add_assoc, Nat.add_comm 1]

/-- There is a table if there are files with issues, and without such files there are no rows. -/
theorem rows_fileTable (view : ConsoleView) (reports : List FileReport) :
    (view.fileTable reports).flatMap ConsoleItem.rows = view.rows reports := by
  unfold fileTable
  split
  case isTrue hnone =>
    rw [List.isEmpty_iff] at hnone
    simp [rows, limited, hnone, rowsFrom, ConsoleItem.rows]
  case isFalse => simp [ConsoleItem.rows]

theorem rows_fileTable_eq (hlimit : 0 ≤ view.files) :
    (view.fileTable reports).flatMap ConsoleItem.rows
      = ((ranked reports).take view.files.toNat).mapIdx fun i file => view.row (i + 1) file := by
  rw [rows_fileTable, rows, rowsFrom_eq, limited, if_neg (Int.not_lt.2 hlimit)]
  simp only [Nat.add_comm 1]

/-- The issues are shown line by line, without a table. -/
theorem rows_fileIssues {depth : Nat} {file : FileReport} {items : List ConsoleItem}
    (h : view.fileIssues depth file = .ok items) : items.flatMap ConsoleItem.rows = [] := by
  -- An issue is shown as a line, which is no part of a table.
  have hline {issue : Issue} {item : ConsoleItem} (h : view.issueLine depth issue = .ok item) :
      item.rows = [] := by
    obtain ⟨line, -, h⟩ := bind_eq_ok_iff.1 h
    obtain ⟨column, -, h⟩ := bind_eq_ok_iff.1 h
    obtain ⟨message, -, h⟩ := bind_eq_ok_iff.1 h
    obtain ⟨code, -, h⟩ := bind_eq_ok_iff.1 h
    cases h
    rfl
  unfold fileIssues at h
  split at h
  · cases h
    rfl
  · obtain ⟨lines, hlines, h⟩ := bind_eq_ok_iff.1 h
    cases h
    have hnone : lines.flatMap ConsoleItem.rows = [] := by
      refine List.flatMap_eq_nil_iff.2 fun item hitem => ?_
      obtain ⟨issue, -, hissue⟩ := exists_of_mem_mapM hlines hitem
      exact hline hissue
    simp only [List.cons_append, List.flatMap_cons, List.flatMap_append, hnone]
    split <;> rfl

/-- In everything that is shown for a report there is one table, that of its files. -/
theorem rows_render {depth : Nat} {r : ProjectReport} {items : List ConsoleItem}
    (h : view.render depth r = .ok items) :
    items.flatMap ConsoleItem.rows = (view.fileTable r.files).flatMap ConsoleItem.rows := by
  obtain ⟨issues, hissues, rfl⟩ := map_eq_ok_iff.1 h
  have hsummary : (view.summary r).flatMap ConsoleItem.rows = [] := by
    simp only [summary, List.flatMap_append, List.flatMap_map]
    split <;> simp [ConsoleItem.rows]
  have hlisted : issues.flatten.flatMap ConsoleItem.rows = [] := by
    refine List.flatMap_eq_nil_iff.2 fun item hitem => ?_
    obtain ⟨items, hmem, hitem⟩ := List.mem_flatten.1 hitem
    obtain ⟨file, -, hfile⟩ := exists_of_mem_mapM hissues hmem
    exact List.flatMap_eq_nil_iff.1 (rows_fileIssues hfile) item hitem
  rw [List.flatMap_append, List.flatMap_append, hsummary, hlisted, List.nil_append, List.append_nil]

/-- **The table has the first rows of the ranking**: as many as it may have, or one for each file with
issues if these are fewer. There is one ranking, by descending weight and then by path, and so the table
does not depend on the order in which the files are listed. No file that is left out weighs more than
one that is shown. The three counts in a row are those that the file weighs by, and together they are
all its issues. What is shown for a report has no other rows. -/
theorem fileTable_ranking (hlimit : 0 ≤ view.files) (hpaths : (reports.map (·.path)).Nodup) :
    ∃ order, IsRanking reports order ∧ (∀ other, IsRanking reports other → other = order) ∧
      (view.fileTable reports).flatMap ConsoleItem.rows
        = (order.take view.files.toNat).mapIdx (fun i file => view.row (i + 1) file) ∧
      (((view.fileTable reports).flatMap ConsoleItem.rows).length : Int)
        = min view.files (faulty reports).length ∧
      (∀ others, others.Perm reports → view.fileTable others = view.fileTable reports) ∧
      (∀ shown ∈ order.take view.files.toNat, ∀ left ∈ reports,
        left ∉ order.take view.files.toNat → weight left ≤ weight shown) ∧
      (∀ rank file, ∃ errors warnings infos, ((view.row rank file).drop 2).take 3
          = [tagged "red" (natText errors), tagged "yellow" (natText warnings),
            tagged "blue" (natText infos)] ∧
        errors + warnings + infos = file.issues.length ∧
        weight file = 100 * errors + 10 * warnings + infos) ∧
      ∀ depth r items, r.files = reports → view.render depth r = .ok items →
        items.flatMap ConsoleItem.rows = (view.fileTable reports).flatMap ConsoleItem.rows := by
  have hranking := isRanking_ranked hpaths
  refine ⟨ranked reports, hranking, fun other hother => hranking.unique hother,
    rows_fileTable_eq hlimit, ?_, fun others hperm => ?_,
    fun shown hshown left hmem hleft => hranking.weight_le hshown hmem hleft,
    fun rank file => ⟨file.count .error, file.count .warning, file.count .info, rfl,
      file.sum_count_eq, weight_eq file⟩, ?_⟩
  · rw [rows_fileTable_eq hlimit, List.length_mapIdx, List.length_take, (ranked_perm reports).length_eq]
    omega
  · simp only [fileTable, rows, ranked_eq_of_perm hpaths hperm]
  · rintro depth r items rfl h
    exact rows_render h

/-- A file with an issue of each of some severities. -/
def judged (path : String) (severities : List Severity) : FileReport where
  path := path
  issues := severities.map fun severity => .found .logic severity "C" "m" path 1 1 none
  metrics := .ofLines 9

/-- Two files of one weight, a heavier one, and one without issues. -/
def crowded : List FileReport :=
  [judged "b.js" [.warning, .info], judged "d.js" [], judged "c.js" [.info, .error],
    judged "a.js" [.info, .warning]]

/-- A view with a table for two files. -/
def brief : ConsoleView :=
  ⟨.plain, 2, 0⟩

/-- A table for two files leaves out the second of the lighter ones. -/
theorem fileTable_ranking_crowded :
    0 ≤ brief.files ∧ (crowded.map (·.path)).Nodup ∧
      (brief.fileTable crowded).flatMap ConsoleItem.rows
        = [["1", "c.js", "[red]1[/red]", "[yellow]0[/yellow]", "[blue]1[/blue]", "-", "9"],
          ["2", "a.js", "[red]0[/red]", "[yellow]1[/yellow]", "[blue]1[/blue]", "-", "9"]] := by
  refine ⟨by decide, by decide, ?_⟩
  obtain ⟨order, -, hunique, hrows, -⟩ :=
    @fileTable_ranking brief crowded (by decide) (by decide)
  have hranking : IsRanking crowded
      [judged "c.js" [.info, .error], judged "a.js" [.info, .warning],
        judged "b.js" [.warning, .info]] :=
    ⟨@List.perm_append_comm _ [_, _] [_], by decide⟩
  rw [hrows, ← hunique _ hranking]
  rfl

end ConsoleView

end ScriptAudit
