import ScriptAudit.Proofs.FallibleSteps
import ScriptAudit.Setting.Loading

/-!
# What is demanded of settings

The values of settings may be of any shape, and something is demanded of one setting after another.
A demand that is not met is a problem, and a value of the wrong type becomes one. What is left are
the values about which no problem can be told.

- `Setting.Allows`: the values that a setting may have.
- `Setting.Stalls`: the values about which no problem can be told, with the fault there is instead.
- `Complaint.Faults`: an attempt ends with a complaint that does not become a problem.
- `Draft.demand_eq_ok_iff`, `Draft.faults_demand_iff`: the demand on one setting, for any value.
- `Draft.check_eq_ok_iff`, `Draft.faults_check_iff`: **all demands are met if each value is allowed,
  and a fault is that of a setting that stalls after settings with allowed values.**
- `Draft.accepted_eq_ok_iff`, `Draft.accepted_eq_fault_iff`: the same for entries.
- `Origin.load_eq_ok_iff`: settings that are loaded.
-/

namespace ScriptAudit

/-! ## Values -/

namespace Value

/-- A number that passes a test. -/
def IsNumber (value : Value) (test : Number → Bool) : Prop :=
  ∃ n, value.number? = some n ∧ test n = true

/-- A text that starts with a dot. -/
def IsExtension (value : Value) : Prop :=
  ∃ text, value = .text text ∧ Text.startsWith "." text = true

/-- A value that cannot be told with a problem, and the fault of that. -/
def CannotBeTold (depth : Nat) (value : Value) (fault : Fault) : Prop :=
  ∃ reason, value.unwritable? depth = some reason ∧ fault = .unwritable reason

end Value

namespace Setting

/-- The settings of which something is demanded, in the order of the demands. -/
def demanded : List Setting :=
  [workers, maxFileSize, maxFiles, lintTimeout, longestFunction, sourceExtensions, verbosity]

/-- The values that a setting may have. -/
def Allows : Setting → Value → Prop
  | workers, value => value = .null ∨ value.IsNumber (!·.isBelow 1)
  | maxFileSize, value => value.IsNumber (!·.isAtMost 0)
  | maxFiles, value | lintTimeout, value | longestFunction, value => value.IsNumber (!·.isBelow 1)
  | sourceExtensions, value => ∃ items, value.items? = some items ∧ ∀ item ∈ items, item.IsExtension
  | verbosity, value => ∃ level ∈ verbosities, value = .text level
  | excludeDirs, _ | followLinks, _ | lintEnabled, _ | lintCommand, _ => True

/-- The fault of an extension that is no text. -/
def shapeless (value : Value) : Fault :=
  ⟨.wrongShape, "'" ++ value.typeName ++ "' object has no attribute 'startswith'"⟩

/-- The values of a setting about which no problem can be told: a value is refused that cannot be
written, or the first item that is no extension is no text either. -/
def Stalls (depth : Nat) : Setting → Value → Fault → Prop
  | workers, value, fault | maxFiles, value, fault | lintTimeout, value, fault
  | longestFunction, value, fault =>
    value.IsNumber (·.isBelow 1) ∧ value.CannotBeTold depth fault
  | maxFileSize, value, fault =>
    value.IsNumber (·.isAtMost 0) ∧ value.CannotBeTold depth fault
  | sourceExtensions, value, fault => ∃ before item after,
    value.items? = some (before ++ item :: after) ∧ (∀ earlier ∈ before, earlier.IsExtension) ∧
      (∀ text, item ≠ .text text) ∧ fault = shapeless item
  | verbosity, value, fault => value.CannotBeTold depth fault
  | excludeDirs, _, _ | followLinks, _, _ | lintEnabled, _, _ | lintCommand, _, _ => False

/-- Nothing stalls that can be written and, where extensions are asked for, has texts for items. -/
theorem not_stalls {depth : Nat} {setting : Setting} {value : Value} {fault : Fault}
    (hwritable : value.unwritable? depth = none)
    (htexts : setting = sourceExtensions → ∀ items, value.items? = some items →
      ∀ item ∈ items, item.text?.isSome) :
    ¬setting.Stalls depth value fault := by
  intro h
  cases setting with
  -- A list is gone through item by item, and the first one without a text would stall it.
  | sourceExtensions =>
    obtain ⟨before, item, after, hitems, -, hitem, -⟩ := h
    have htext := htexts rfl _ hitems item (by simp)
    cases item with
    | text text => exact hitem text rfl
    | _ => cases htext
  | verbosity =>
    obtain ⟨reason, hreason, -⟩ := h
    rw [hwritable] at hreason
    cases hreason
  | workers | maxFileSize | maxFiles | lintTimeout | longestFunction =>
    obtain ⟨-, reason, hreason, -⟩ := h
    rw [hwritable] at hreason
    cases hreason
  | excludeDirs | followLinks | lintEnabled | lintCommand => exact h

end Setting

/-! ## Faults that stay faults -/

namespace Complaint

variable {α : Type} {depth : Nat} {fault : Fault} {complaint : Complaint}

/-- An attempt ends with a complaint that becomes a fault and no problem. -/
def Faults (depth : Nat) (attempt : Except Complaint α) (fault : Fault) : Prop :=
  ∃ complaint, attempt = .error complaint ∧
    Loading.asProblem (complaint.told depth) = .fault fault

theorem faults_error_iff :
    Faults depth (.error complaint : Except Complaint α) fault ↔
      Loading.asProblem (complaint.told depth) = .fault fault := by
  constructor
  · rintro ⟨_, h, hfault⟩
    cases h
    exact hfault
  · exact fun hfault => ⟨complaint, rfl, hfault⟩

theorem not_faults_ok (a : α) : ¬Faults depth (.ok a) fault := by
  rintro ⟨_, h, -⟩
  cases h

theorem not_faults_wrongType (message : String) :
    ¬Faults depth (.error (.wrongType message) : Except Complaint α) fault := by
  intro h
  cases faults_error_iff.1 h

theorem faults_wrongShape_iff (message : String) :
    Faults depth (.error (.wrongShape message) : Except Complaint α) fault ↔
      fault = ⟨.wrongShape, message⟩ := by
  rw [faults_error_iff]
  constructor
  · intro h
    cases h
    rfl
  · rintro rfl
    rfl

/-- The only fault about a value that is refused is that it cannot be written. -/
theorem faults_refused_iff {setting : Setting} {value : Value} {reason : String} :
    Faults depth (.error (.refused setting value reason) : Except Complaint α) fault ↔
      value.CannotBeTold depth fault := by
  rw [faults_error_iff, told, Value.CannotBeTold]
  cases value.unwritable? depth with
  | none => simp [Loading.asProblem]
  | some why =>
    constructor
    · intro h
      cases why <;> cases h <;> exact ⟨_, rfl, rfl⟩
    · rintro ⟨_, hwhy, rfl⟩
      cases hwhy
      cases why <;> rfl

/-- The fault of the first demand that is not met. -/
theorem faults_forM_iff {demand : α → Except Complaint Unit} {items : List α} :
    Faults depth (items.forM demand) fault ↔ ∃ before item after, items = before ++ item :: after ∧
      (∀ earlier ∈ before, demand earlier = .ok ()) ∧ Faults depth (demand item) fault := by
  simp only [Faults, forM_eq_error_iff]
  constructor
  · rintro ⟨e, ⟨before, item, after, hitems, hbefore, hitem⟩, he⟩
    exact ⟨before, item, after, hitems, hbefore, e, hitem, he⟩
  · rintro ⟨before, item, after, hitems, hbefore, e, hitem, he⟩
    exact ⟨e, ⟨before, item, after, hitems, hbefore, hitem⟩, he⟩

end Complaint

namespace Draft

open Complaint

variable {depth : Nat} {d : Draft} {setting : Setting} {value : Value} {fault : Fault}
  {sign reason : String} {holds : Number → Bool}

/-! ## One demand -/

theorem refuse_eq_ok_iff :
    d.refuse setting sign holds reason = .ok () ↔ (d setting).IsNumber (!holds ·) := by
  unfold refuse Value.IsNumber
  cases (d setting).number? <;> simp

theorem faults_refuse_iff :
    Faults depth (d.refuse setting sign holds reason) fault ↔
      (d setting).IsNumber holds ∧ (d setting).CannotBeTold depth fault := by
  unfold refuse Value.IsNumber
  cases (d setting).number? with
  | none => simp [not_faults_wrongType]
  | some n => cases hn : holds n <;> simp [hn, not_faults_ok, faults_refused_iff]

theorem checkExtension_eq_ok_iff : checkExtension value = .ok () ↔ value.IsExtension := by
  unfold Value.IsExtension
  cases value <;> simp [checkExtension]

theorem faults_checkExtension_iff :
    Faults depth (checkExtension value) fault ↔
      (∀ text, value ≠ .text text) ∧ fault = Setting.shapeless value := by
  cases value with
  | text s =>
    cases hdot : Text.startsWith "." s <;>
      simp [checkExtension, hdot, not_faults_ok, faults_refused_iff, Value.CannotBeTold,
        Value.unwritable?]
  | _ => simp [checkExtension, faults_wrongShape_iff, Setting.shapeless]

/-- What is demanded of a setting. -/
def demand (d : Draft) : Setting → Except Complaint Unit
  | .workers => d.checkWorkers
  | .maxFileSize => d.refuse .maxFileSize "<=" (·.isAtMost 0) "must be positive"
  | .maxFiles => d.atLeastOne .maxFiles
  | .lintTimeout => d.atLeastOne .lintTimeout
  | .longestFunction => d.atLeastOne .longestFunction
  | .sourceExtensions => d.checkExtensions
  | .verbosity => d.checkVerbosity
  | .excludeDirs | .followLinks | .lintEnabled | .lintCommand => .ok ()

/-- A demand is met exactly by the values that the setting may have. -/
theorem demand_eq_ok_iff : d.demand setting = .ok () ↔ setting.Allows (d setting) := by
  cases setting with
  -- Three settings have tests of their own, four have one number to be compared, the others none.
  | workers =>
    rw [demand, checkWorkers, Setting.Allows]
    split
    · rename_i hnull
      simp [hnull]
    · rename_i hgiven
      rw [atLeastOne, refuse_eq_ok_iff, or_iff_right hgiven]
  | sourceExtensions =>
    rw [demand, checkExtensions, Setting.Allows]
    split
    · rename_i items hitems
      rw [forM_eq_ok_iff, hitems]
      simp [checkExtension_eq_ok_iff]
    · rename_i hnone
      simp [hnone]
  | verbosity =>
    rw [demand, checkVerbosity, Setting.Allows]
    split
    · simp_all
    · simp_all
  | maxFileSize | maxFiles | lintTimeout | longestFunction => exact refuse_eq_ok_iff
  | excludeDirs | followLinks | lintEnabled | lintCommand => exact iff_of_true rfl trivial

/-- A demand that is not met is a problem, unless the value stalls. -/
theorem faults_demand_iff :
    Faults depth (d.demand setting) fault ↔ setting.Stalls depth (d setting) fault := by
  cases setting with
  -- A value that is met with no demand faults nothing.
  | workers =>
    rw [demand, checkWorkers, Setting.Stalls]
    split
    · rename_i hnull
      simp [hnull, not_faults_ok, Value.CannotBeTold, Value.unwritable?]
    · exact faults_refuse_iff
  | sourceExtensions =>
    rw [demand, checkExtensions, Setting.Stalls]
    split
    · rename_i items hitems
      rw [faults_forM_iff, hitems]
      simp [checkExtension_eq_ok_iff, faults_checkExtension_iff]
    · rename_i hnone
      simp [hnone, not_faults_wrongType]
  | verbosity =>
    rw [demand, checkVerbosity, Setting.Stalls]
    split
    · rename_i text htext
      rw [htext]
      split
      · simp [not_faults_ok, Value.CannotBeTold, Value.unwritable?]
      · exact faults_refused_iff
    · exact faults_refused_iff
  | maxFileSize | maxFiles | lintTimeout | longestFunction => exact faults_refuse_iff
  | excludeDirs | followLinks | lintEnabled | lintCommand =>
    exact iff_of_false (not_faults_ok ()) id

/-! ## All demands -/

theorem check_eq : d.check = Setting.demanded.forM d.demand := by
  have hlast : (d.checkVerbosity >>= fun _ => [].forM d.demand) = d.checkVerbosity := by
    cases d.checkVerbosity <;> rfl
  simp only [check, Setting.demanded, forM_cons_eq, demand, hlast]

/-- All demands are met exactly if every setting has a value that it may have. -/
theorem check_eq_ok_iff : d.check = .ok () ↔ ∀ setting : Setting, setting.Allows (d setting) := by
  rw [check_eq, forM_eq_ok_iff]
  constructor
  · intro hmet setting
    by_cases hdemanded : setting ∈ Setting.demanded
    · exact demand_eq_ok_iff.1 (hmet setting hdemanded)
    · -- Nothing is demanded of the others, so that they may have any value.
      cases setting with
      | excludeDirs | followLinks | lintEnabled | lintCommand => trivial
      | _ => exact absurd (by decide) hdemanded
  · exact fun hall setting _ => demand_eq_ok_iff.2 (hall setting)

/-- A fault is that of the first setting whose value is not allowed. -/
theorem faults_check_iff : Faults depth d.check fault ↔ ∃ before setting after,
    Setting.demanded = before ++ setting :: after ∧
      (∀ earlier ∈ before, earlier.Allows (d earlier)) ∧
        setting.Stalls depth (d setting) fault := by
  simp only [check_eq, faults_forM_iff, demand_eq_ok_iff, faults_demand_iff]

/-! ## Entries -/

variable {entries : List (String × Value)}

theorem accepted_eq_ok_iff : accepted depth entries = .ok d ↔
    ofEntries entries = .ok d ∧ ∀ setting : Setting, setting.Allows (d setting) := by
  rw [accepted, bind_eq_ok_iff]
  constructor
  · rintro ⟨d', hdraft, h⟩
    obtain ⟨_, hcheck, h⟩ := bind_eq_ok_iff.1 h
    cases h
    exact ⟨hdraft, check_eq_ok_iff.1 (mapError_eq_ok_iff.1 hcheck)⟩
  · rintro ⟨hdraft, hall⟩
    have hcheck : d.check.mapError (·.told depth) = .ok () :=
      mapError_eq_ok_iff.2 (check_eq_ok_iff.2 hall)
    exact ⟨d, hdraft, bind_eq_ok_iff.2 ⟨(), hcheck, rfl⟩⟩

/-- A name that belongs to no setting is always a problem. -/
theorem ofEntries_ne_fault :
    (ofEntries entries).mapError Loading.asProblem ≠ .error (.fault fault) := by
  intro h
  unfold ofEntries at h
  split at h
  case h_1 => cases h
  case h_2 => cases h

/-- A fault is left if the names belong to settings and a demand ends with it. -/
theorem accepted_eq_fault_iff :
    (accepted depth entries).mapError Loading.asProblem = .error (.fault fault) ↔
      ∃ d, ofEntries entries = .ok d ∧ Faults depth d.check fault := by
  have hnames := @ofEntries_ne_fault fault entries
  unfold accepted Faults
  cases hdraft : ofEntries entries with
  | error e =>
    rw [hdraft] at hnames
    refine ⟨fun h => absurd h hnames, ?_⟩
    rintro ⟨_, h, -⟩
    cases h
  | ok d =>
    cases hcheck : d.check with
    | error complaint => simp [bind, Except.bind, Except.mapError, hcheck]
    | ok _ => simp [bind, Except.bind, Except.mapError, pure, Except.pure, hcheck]

example : (accepted 9
      [("max_file_size_mb", .int 1), ("source_extensions", .list [.text ".js", .int 1])]).mapError
    Loading.asProblem
      = .error (.fault ⟨.wrongShape, "'int' object has no attribute 'startswith'"⟩) := by
  rfl

end Draft

/-- Settings are loaded exactly if the entries of all sources together are accepted. -/
theorem Origin.load_eq_ok_iff {o : Origin} {file : Option Path}
    {overrides : List (String × Value)} {d : Draft} :
    o.load file overrides = .ok d ↔ (lookup? Loading.fileName overrides).isSome = false ∧
      ∃ entries, o.entries file overrides = .ok entries ∧ Draft.ofEntries entries = .ok d ∧
        ∀ setting : Setting, setting.Allows (d setting) := by
  simp only [← @Draft.accepted_eq_ok_iff o.toldDepth]
  unfold load
  cases (lookup? Loading.fileName overrides).isSome with
  | true => exact iff_of_false nofun fun h => nomatch h.1
  | false =>
    rw [if_neg Bool.false_ne_true]
    constructor
    · intro h
      obtain ⟨entries, hentries, h⟩ := bind_eq_ok_iff.1 h
      exact ⟨rfl, entries, hentries, mapError_eq_ok_iff.1 h⟩
    · rintro ⟨-, entries, hentries, haccepted⟩
      exact bind_eq_ok_iff.2 ⟨entries, hentries, mapError_eq_ok_iff.2 haccepted⟩

end ScriptAudit
