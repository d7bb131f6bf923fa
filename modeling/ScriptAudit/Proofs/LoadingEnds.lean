import ScriptAudit.Proofs.SettingDemands

/-!
# How loading settings can end

Settings are loaded, or a problem tells what is wrong with a source or with a value. What else can
end it is listed here in full.

- `Origin.IsHomeless`: the home directory is unknown.
- `Loading.optionalEntries_eq_fault_iff` and its like: reading a file ends with a fault only where
  the system cannot say whether it is there.
- `Origin.Escapes`: the faults that nothing turns into a problem, by cause. `Origin.not_escapes`
  says what rules them all out.
- `Origin.load_ends`: **settings are loaded or a problem tells why not, unless a fault escapes, and
  whatever escapes is what loading ends with.**
-/

namespace ScriptAudit

/-! ## Sources -/

namespace Loading

variable {depth : Nat} {fs : FileSystem} {what : String} {place path base : Path} {fault : Fault}

/-- The fault of a path of which the system cannot say whether something is there. -/
def unknowable (path : Path) (e : AccessError) : Fault :=
  ⟨.inaccessible, e.report (Text.quoteString path.text)⟩

/-- Whatever is in a file or wrong with it, there is a problem at most. -/
theorem fileEntries_ne_fault : fileEntries depth fs what place path ≠ .error (.fault fault) := by
  unfold fileEntries
  dsimp only
  split
  · exact nofun
  · split <;> exact nofun

theorem optionalEntries_eq_fault_iff {place? : Option Path} :
    optionalEntries depth fs what place? path = .error (.fault fault) ↔
      ∃ place e, place? = some place ∧ fs.isThere place = .error e ∧ fault = unknowable path e := by
  unfold optionalEntries
  cases place? with
  | none => simp
  | some place =>
    cases hthere : fs.isThere place with
    | error e => simp [FileSystem.inaccessible, Failure.ofFault, unknowable, eq_comm, hthere]
    | ok there => cases there <;> simp [fileEntries_ne_fault, hthere]

theorem namedEntries_eq_fault_iff {file : Option Path} :
    namedEntries depth fs base file = .error (.fault fault) ↔
      ∃ path e, file = some path ∧ path.isBroken = false ∧
        fs.isThere (base.join path) = .error e ∧ fault = unknowable path e := by
  cases file with
  | none => simp [namedEntries]
  | some path =>
    rw [namedEntries]
    cases hbroken : path.isBroken with
    | true => simp [hbroken, Failure.general]
    | false =>
      -- A whole path is asked for, and what keeps the system from answering is what leaves the call.
      cases hthere : fs.isThere (base.join path) with
      | error e =>
        constructor
        · intro h
          cases h
          exact ⟨path, e, rfl, hbroken, hthere, rfl⟩
        · rintro ⟨_, _, hpath, -, he, rfl⟩
          cases hpath
          rw [hthere] at he
          cases he
          rfl
      | ok there => cases there <;> simp [hbroken, hthere, fileEntries_ne_fault, Failure.general]

/-- A variable that cannot be read is a problem. -/
theorem environmentEntries_ne_fault {environment : String → Option String} :
    environmentEntries environment ≠ .error (.fault fault) := by
  intro h
  obtain ⟨setting, -, hsetting⟩ := exists_of_mapM_eq_error (map_eq_error_iff.1 h)
  have hvalue := map_eq_error_iff.1 hsetting
  unfold variableValue at hvalue
  split at hvalue
  · split at hvalue <;> cases hvalue
  · cases hvalue

end Loading

/-! ## All sources -/

namespace Origin

/-- The fault of an override that has the name under which the file is given. -/
def misnamed : Fault :=
  ⟨.wrongType, "load_config() got multiple values for argument '" ++ Loading.fileName ++ "'"⟩

/-- The home directory is unknown: neither the environment nor the system knows of one, or the one
there is starts with a tilde. -/
def IsHomeless (o : Origin) : Prop :=
  ∀ text, (o.environment "HOME").or o.account = some text → Text.startsWith "~" text = true

theorem home_eq_fault_iff {o : Origin} {fault : Fault} :
    o.home = .error (.fault fault) ↔ o.IsHomeless ∧ fault = homeless := by
  have hflip : (Except.error (Failure.fault homeless) : Except Failure Path)
      = .error (.fault fault) ↔ fault = homeless := by
    rw [Except.error.injEq, Failure.fault.injEq, eq_comm]
  unfold home IsHomeless
  cases (o.environment "HOME").or o.account with
  | none => simpa using hflip
  | some text => cases htilde : Text.startsWith "~" text <;> simp [htilde, hflip]

theorem current_eq_fault_iff {o : Origin} {fault : Fault} :
    o.current = .error (.fault fault) ↔ o.working = none ∧ fault = astray := by
  unfold current
  cases o.working with
  | none => simp only [Except.error.injEq, Failure.fault.injEq, true_and, eq_comm]
  | some working => simp

/-- The faults that end the reading of the sources: the home directory is unknown, the working
directory is gone, or the system cannot say whether a file is there, all files before it being absent
or well-formed. -/
inductive Obscures (o : Origin) (file : Option Path) : Fault → Prop
  | homeless (hunknown : o.IsHomeless) : Obscures o file homeless
  | homeFile {home place : Path} {e : AccessError} (hhome : o.home = .ok home)
    (hplace : o.place? (home.under homeName) = some place)
    (hasked : o.files.isThere place = .error e) :
    Obscures o file (Loading.unknowable (home.under homeName) e)
  | astray {home : Path} {inHome : List (String × Value)} (hhome : o.home = .ok home)
    (hinHome : o.homeEntries home = .ok inHome) (hgone : o.working = none) :
    Obscures o file astray
  | projectFile {home working : Path} {inHome : List (String × Value)} {e : AccessError}
    (hhome : o.home = .ok home) (hinHome : o.homeEntries home = .ok inHome)
    (hworking : o.working = some working)
    (hasked : o.files.isThere (working.under projectName) = .error e) :
    Obscures o file (Loading.unknowable (working.under projectName) e)
  | namedFile {home working path : Path} {inHome inProject : List (String × Value)}
    {e : AccessError} (hhome : o.home = .ok home) (hinHome : o.homeEntries home = .ok inHome)
    (hworking : o.working = some working) (hinProject : o.projectEntries working = .ok inProject)
    (hfile : file = some path) (hwhole : path.isBroken = false)
    (hasked : o.files.isThere (working.join path) = .error e) :
    Obscures o file (Loading.unknowable path e)

/-- The faults that nothing turns into a problem: an override has the name of the file, a source cannot
be asked for, or the value of a setting stalls, all values that are looked at before it being
allowed. -/
inductive Escapes (o : Origin) (file : Option Path) (overrides : List (String × Value)) :
    Fault → Prop
  | misnamed (hnamed : (lookup? Loading.fileName overrides).isSome = true) :
    Escapes o file overrides misnamed
  | obscured {fault : Fault} (hunnamed : (lookup? Loading.fileName overrides).isSome = false)
    (hobscures : o.Obscures file fault) : Escapes o file overrides fault
  | stalled {entries : List (String × Value)} {d : Draft} {before after : List Setting}
    {setting : Setting} {fault : Fault}
    (hunnamed : (lookup? Loading.fileName overrides).isSome = false)
    (hentries : o.entries file overrides = .ok entries) (hdraft : Draft.ofEntries entries = .ok d)
    (hdemanded : Setting.demanded = before ++ setting :: after)
    (hbefore : ∀ earlier ∈ before, earlier.Allows (d earlier))
    (hstalls : setting.Stalls o.toldDepth (d setting) fault) : Escapes o file overrides fault

variable {o : Origin} {file : Option Path} {overrides : List (String × Value)} {fault : Fault}

theorem entries_eq_fault_iff :
    o.entries file overrides = .error (.fault fault) ↔ o.Obscures file fault := by
  simp only [entries, bind_eq_error_iff, home_eq_fault_iff, current_eq_fault_iff, homeEntries,
    projectEntries, Loading.optionalEntries_eq_fault_iff, Loading.namedEntries_eq_fault_iff,
    Loading.environmentEntries_ne_fault, current_eq_ok_iff]
  constructor
  · -- One case for each thing that is asked for, in the order in which it is.
    rintro (⟨hunknown, rfl⟩ | ⟨home, hhome, ⟨place, e, hplace, hasked, rfl⟩ | ⟨inHome, hinHome,
      ⟨hgone, rfl⟩ | ⟨working, hworking, ⟨place, e, hplace, hasked, rfl⟩ | ⟨inProject, hinProject,
        ⟨path, e, hfile, hwhole, hasked, rfl⟩ | ⟨inFile, -, h | ⟨inEnvironment, -, h⟩⟩⟩⟩⟩⟩)
    · exact .homeless hunknown
    · exact .homeFile hhome hplace hasked
    · exact .astray hhome hinHome hgone
    · cases hplace
      exact .projectFile hhome hinHome hworking hasked
    · exact .namedFile hhome hinHome hworking hinProject hfile hwhole hasked
    · exact h.elim
    · cases h
  · intro h
    cases h with
    | homeless hunknown => exact .inl ⟨hunknown, rfl⟩
    | homeFile hhome hplace hasked => exact .inr ⟨_, hhome, .inl ⟨_, _, hplace, hasked, rfl⟩⟩
    | astray hhome hinHome hgone =>
      exact .inr ⟨_, hhome, .inr ⟨_, hinHome, .inl ⟨hgone, rfl⟩⟩⟩
    | projectFile hhome hinHome hworking hasked =>
      exact .inr ⟨_, hhome, .inr ⟨_, hinHome, .inr ⟨_, hworking, .inl ⟨_, _, rfl, hasked, rfl⟩⟩⟩⟩
    | namedFile hhome hinHome hworking hinProject hfile hwhole hasked =>
      exact .inr ⟨_, hhome, .inr ⟨_, hinHome, .inr ⟨_, hworking, .inr ⟨_, hinProject,
        .inl ⟨_, _, hfile, hwhole, hasked, rfl⟩⟩⟩⟩⟩

/-- What escapes is what loading ends with, and it ends with no other fault. -/
theorem load_eq_fault_iff :
    o.load file overrides = .error (.fault fault) ↔ o.Escapes file overrides fault := by
  unfold load
  cases hnamed : (lookup? Loading.fileName overrides).isSome with
  | true =>
    constructor
    · intro h
      cases h
      exact .misnamed hnamed
    · intro h
      cases h with
      | misnamed => rfl
      | obscured hunnamed => simp [hnamed] at hunnamed
      | stalled hunnamed => simp [hnamed] at hunnamed
  -- With a name given for the file, the call itself fails; from here on there is none.
  | false =>
    rw [if_neg Bool.false_ne_true]
    constructor
    · intro h
      rcases bind_eq_error_iff.1 h with hentries | ⟨entries, hentries, h⟩
      · exact .obscured hnamed (entries_eq_fault_iff.1 hentries)
      · obtain ⟨d, hdraft, hcheck⟩ := Draft.accepted_eq_fault_iff.1 h
        obtain ⟨before, setting, after, hdemanded, hbefore, hstalls⟩ :=
          Draft.faults_check_iff.1 hcheck
        exact .stalled hnamed hentries hdraft hdemanded hbefore hstalls
    · intro h
      cases h with
      | misnamed hnamed' => simp [hnamed] at hnamed'
      | obscured _ hobscures => exact bind_eq_error_iff.2 (.inl (entries_eq_fault_iff.2 hobscures))
      | stalled _ hentries hdraft hdemanded hbefore hstalls =>
        have hcheck := Draft.faults_check_iff.2 ⟨_, _, _, hdemanded, hbefore, hstalls⟩
        exact bind_eq_error_iff.2
          (.inr ⟨_, hentries, Draft.accepted_eq_fault_iff.2 ⟨_, hdraft, hcheck⟩⟩)

/-- Nothing escapes if the file is not named by an override, both directories are known, the system can
say whether each file is there, and, whatever the entries of all sources make together, every value
can be written and every extension is a text. -/
theorem not_escapes (hunnamed : (lookup? Loading.fileName overrides).isSome = false)
    (hhome : ¬o.IsHomeless) (hworking : o.working ≠ none)
    (hthere : ∀ place e, o.files.isThere place ≠ .error e)
    (hvalues : ∀ entries d, o.entries file overrides = .ok entries →
      Draft.ofEntries entries = .ok d →
        (∀ setting, (d setting).unwritable? o.toldDepth = none) ∧
          ∀ items, (d .sourceExtensions).items? = some items → ∀ item ∈ items, item.text?.isSome) :
    ¬o.Escapes file overrides fault := by
  intro h
  cases h with
  | misnamed hnamed => simp [hunnamed] at hnamed
  | obscured _ hobscures =>
    cases hobscures with
    | homeless hunknown => exact hhome hunknown
    | astray _ _ hgone => exact hworking hgone
    | homeFile _ _ hasked => exact hthere _ _ hasked
    | projectFile _ _ _ hasked => exact hthere _ _ hasked
    | namedFile _ _ _ _ _ _ hasked => exact hthere _ _ hasked
  | stalled _ hentries hdraft _ _ hstalls =>
    obtain ⟨hwritable, htexts⟩ := hvalues _ _ hentries hdraft
    exact Setting.not_stalls (hwritable _) (fun h => h ▸ htexts) hstalls

/-- **Settings are loaded or a problem tells why not, unless a fault escapes.** What is loaded are
values that the settings may have, and whatever escapes is what loading ends with. -/
theorem load_ends (o : Origin) (file : Option Path) (overrides : List (String × Value)) :
    (∀ fault, o.load file overrides = .error (.fault fault) ↔ o.Escapes file overrides fault) ∧
    ((∀ fault, ¬o.Escapes file overrides fault) →
      (∃ d, o.load file overrides = .ok d ∧ ∀ setting : Setting, setting.Allows (d setting)) ∨
        ∃ p, o.load file overrides = .error (.problem p)) := by
  refine ⟨fun fault => load_eq_fault_iff, fun hnone => ?_⟩
  cases hload : o.load file overrides with
  | ok d =>
    obtain ⟨-, entries, -, -, hall⟩ := load_eq_ok_iff.1 hload
    exact .inl ⟨d, rfl, hall⟩
  | error e =>
    cases e with
    | problem p => exact .inr ⟨p, rfl⟩
    | fault fault => exact absurd (load_eq_fault_iff.1 hload) (hnone fault)

end Origin

end ScriptAudit
