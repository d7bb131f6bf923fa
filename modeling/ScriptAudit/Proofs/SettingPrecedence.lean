import Mathlib
import ScriptAudit.Proofs.DistinctKeys
import ScriptAudit.Proofs.SettingDemands

/-!
# Which source a setting comes from

Settings are loaded by putting the entries of one source over those of another. What comes of it can
be said for each setting by itself, from what each source says.

- `Loading.IsSetIn`, `Setting.IsSpelled`: what a file sets, and what the text of a variable sets.
- `Source`, `Origin.Sets`: the sources in the order of their priority, and what each of them sets.
- `Origin.Decides`: the value of the first source that sets one, or else the default.
- `Loading.lookup?_overlay`: entries put over others hide those with the same key and no others.
- `Loading.holds_of_fileEntries` and its like: the entries that are loaded are those that are set.
- `Loading.lookup?_overrides`: what is left of the overrides, with the two shorthands for the
  verbosity.
- `Origin.load_precedence`: **every setting has the value of the first source that sets it**, and
  its default if none does.
-/

namespace ScriptAudit

/-! ## What sources set -/

/-- What a file sets: its bytes are a TOML text, and the entry stands in the table for settings or,
where there is no such table, at the top. -/
inductive Loading.IsSetIn (depth : Nat) (fs : FileSystem) (place : Path) (name : String)
    (value : Value) : Prop
  | inTable {bytes : List UInt8} {text : List Char} {top inner : List (String × Value)}
    (hread : fs.read place = .ok bytes) (htext : Utf8.decode? bytes = some text)
    (htop : Toml.read depth text = .ok top) (htable : ("sourcescope", .table inner) ∈ top)
    (hentry : (name, value) ∈ inner)
  | atTop {bytes : List UInt8} {text : List Char} {top : List (String × Value)}
    (hread : fs.read place = .ok bytes) (htext : Utf8.decode? bytes = some text)
    (htop : Toml.read depth text = .ok top) (hnone : ∀ inner, ("sourcescope", .table inner) ∉ top)
    (hentry : (name, value) ∈ top)

/-- The value that the text of a variable stands for: a whole number, a number, a switch or a word,
as the setting asks for it. A list cannot be spelled. -/
inductive Setting.IsSpelled (text : String) : Setting → Value → Prop
  | whole {setting : Setting} {n : Int}
    (hsetting : setting ∈ [workers, maxFiles, lintTimeout, longestFunction])
    (hnumber : readInt text.toList = .ok n) : IsSpelled text setting (.int n)
  | decimal {x : Float} (hnumber : readFloat? text.toList = some x) :
    IsSpelled text maxFileSize (.float x)
  | on {setting : Setting} (hsetting : setting ∈ [followLinks, lintEnabled])
    (hword : Text.lowerString text ∈ ["true", "1", "yes", "on"]) :
    IsSpelled text setting (.bool true)
  | off {setting : Setting} (hsetting : setting ∈ [followLinks, lintEnabled])
    (hword : Text.lowerString text ∈ ["false", "0", "no", "off"]) :
    IsSpelled text setting (.bool false)
  | word {setting : Setting} (hsetting : setting ∈ [lintCommand, verbosity]) :
    IsSpelled text setting (.text text)

/-- A setting without a form in the environment is not spelled by any text. -/
theorem Setting.not_isSpelled_list {text : String} {setting : Setting} {value : Value}
    (hlist : setting ∈ [excludeDirs, sourceExtensions]) : ¬setting.IsSpelled text value := by
  have hboth : setting = excludeDirs ∨ setting = sourceExtensions := by simpa using hlist
  intro hspelled
  rcases hboth with rfl | rfl
  · cases hspelled with
    | whole hsetting | on hsetting | off hsetting | word hsetting => simp at hsetting
  · cases hspelled with
    | whole hsetting | on hsetting | off hsetting | word hsetting => simp at hsetting

/-- A source of settings. -/
inductive Source where
  | overrides
  | environment
  | namedFile
  | projectFile
  | homeFile
  deriving DecidableEq, Repr

/-- All sources, those that come first being of higher priority. -/
def Source.all : List Source :=
  [overrides, environment, namedFile, projectFile, homeFile]

namespace Origin

/-- What a source sets: an override that is given at all, a variable that is spelled as the setting
asks for, or an entry of a file. -/
inductive Sets (o : Origin) (file : Option Path) (overrides : List (String × Value))
    (setting : Setting) : Source → Value → Prop
  | override {value : Value} (hentry : (setting.name, value) ∈ overrides)
    (hgiven : value ≠ .null) : Sets o file overrides setting .overrides value
  | inVariable {text : String} {value : Value}
    (htext : o.environment (Loading.variableName setting) = some text)
    (hspelled : setting.IsSpelled text value) : Sets o file overrides setting .environment value
  | namedFile {working path : Path} {value : Value} (hworking : o.working = some working)
    (hfile : file = some path)
    (hset : Loading.IsSetIn o.readDepth o.files (working.join path) setting.name value) :
    Sets o file overrides setting .namedFile value
  | projectFile {working : Path} {value : Value} (hworking : o.working = some working)
    (hset : Loading.IsSetIn o.readDepth o.files (working.under "sourcescope.toml") setting.name
      value) :
    Sets o file overrides setting .projectFile value
  | homeFile {home place : Path} {value : Value} (hhome : o.home = .ok home)
    (hplace : o.place? (home.under ".sourcescope.toml") = some place)
    (hset : Loading.IsSetIn o.readDepth o.files place setting.name value) :
    Sets o file overrides setting .homeFile value

/-- The value that a setting gets: that of the first source that sets one, or its default. -/
inductive Decides (o : Origin) (file : Option Path) (overrides : List (String × Value))
    (setting : Setting) : Value → Prop
  | source {before after : List Source} {source : Source} {value : Value}
    (hall : Source.all = before ++ source :: after)
    (hset : o.Sets file overrides setting source value)
    (hbefore : ∀ earlier ∈ before, ∀ other, ¬o.Sets file overrides setting earlier other) :
    Decides o file overrides setting value
  | default (hnone : ∀ source value, ¬o.Sets file overrides setting source value) :
    Decides o file overrides setting setting.default

end Origin

/-- A shorthand among the overrides is on: it is given, and it counts as set. -/
def Loading.IsOn (key : String) (overrides : List (String × Value)) : Prop :=
  ∃ value, (key, value) ∈ overrides ∧ value.isSet = true

/-! ## Names -/

namespace Setting

theorem ofName?_name (setting : Setting) : ofName? setting.name = some setting := by
  cases setting <;> decide

theorem name_injective {setting other : Setting} (h : setting.name = other.name) :
    setting = other := by
  have hfound := setting.ofName?_name
  rw [h, other.ofName?_name] at hfound
  exact (Option.some.inj hfound).symm

theorem mem_all (setting : Setting) : setting ∈ all := by
  cases setting <;> decide

end Setting

/-- Where no key stands twice, an entry is found by its key. -/
theorem lookup?_eq_some_iff {α : Type} {entries : List (String × α)}
    (hnodup : (entries.map (·.1)).Nodup) {key : String} {value : α} :
    lookup? key entries = some value ↔ (key, value) ∈ entries := by
  refine ⟨mem_of_lookup?, fun hmem => ?_⟩
  induction entries with
  | nil => cases hmem
  | cons entry entries ih =>
    obtain ⟨k, v⟩ := entry
    obtain ⟨hnotMem, hnodup⟩ := List.nodup_cons.1 hnodup
    rw [lookup?]
    rcases List.mem_cons.1 hmem with hsame | hmem
    · cases hsame
      rw [if_pos rfl]
    · have hk : k ≠ key := fun hk => hnotMem (hk ▸ List.mem_map.2 ⟨_, hmem, rfl⟩)
      rw [if_neg hk]
      exact ih hnodup hmem

/-- Nothing is read where nothing is. -/
theorem FileSystem.read_of_absent {fs : FileSystem} {place : Path}
    (h : fs.isThere place = .ok false) (bytes : List UInt8) : fs.read place ≠ .ok bytes := by
  unfold isThere entry at h
  unfold read opened
  cases hlocate : fs.locate true place with
  | error e => simp
  | ok here =>
    cases hat : fs.at? here with
    | some e => simp [hlocate, hat] at h
    | none => cases hmay : fs.mayRead here <;> simp [hat, hmay]

namespace Loading

variable {depth : Nat} {fs : FileSystem} {entries : List (String × Value)}

/-- What is put over other entries hides those with the same key. -/
theorem lookup?_overlay {later : List (String × Value)} (hnodup : (later.map (·.1)).Nodup)
    (key : String) (earlier : List (String × Value)) :
    lookup? key (overlay later earlier) = (lookup? key later).or (lookup? key earlier) := by
  unfold overlay
  induction later generalizing earlier with
  | nil => rfl
  | cons entry later ih =>
    obtain ⟨k, v⟩ := entry
    obtain ⟨hnotMem, hnodup⟩ := List.nodup_cons.1 hnodup
    rw [List.foldl_cons, ih hnodup, lookup?_insertEntry, lookup?]
    by_cases hk : k = key
    · subst hk
      rw [if_pos rfl, if_pos rfl, lookup?_eq_none_iff.2 hnotMem]
      rfl
    · rw [if_neg hk, if_neg hk]

/-! ## Files -/

/-- Entries in which no key stands twice, and which are those that something sets. -/
structure Holds (entries : List (String × Value)) (set : String → Value → Prop) : Prop where
  nodup : (entries.map (·.1)).Nodup
  lookup_iff : ∀ name value, lookup? name entries = some value ↔ set name value

theorem Holds.none {set : String → Value → Prop} (h : ∀ name value, ¬set name value) :
    Holds [] set :=
  ⟨List.nodup_nil, fun name value => iff_of_false nofun (h name value)⟩

theorem Holds.congr {set other : String → Value → Prop} (h : Holds entries set)
    (hsame : ∀ name value, set name value ↔ other name value) : Holds entries other :=
  ⟨h.nodup, fun name value => (h.lookup_iff name value).trans (hsame name value)⟩

/-- The table with the settings is preferred to the top of a file. -/
theorem holds_sectionOf {top : List (String × Value)} (hdistinct : (Value.table top).DistinctKeys) :
    Holds (sectionOf top) fun name value =>
      (∃ inner, ("sourcescope", .table inner) ∈ top ∧ (name, value) ∈ inner) ∨
        (∀ inner, ("sourcescope", .table inner) ∉ top) ∧ (name, value) ∈ top := by
  -- The reader looks the table up, and the specification says that it is in the file.
  have htable (inner : List (String × Value)) :
      lookup? section_ top = some (.table inner) ↔ ("sourcescope", .table inner) ∈ top :=
    lookup?_eq_some_iff hdistinct.nodup
  unfold sectionOf
  split
  case h_1 inner hinner =>
    have hnodup := (hdistinct.lookup hinner).nodup
    refine ⟨hnodup, fun name value => (lookup?_eq_some_iff hnodup).trans ⟨fun hentry => ?_, ?_⟩⟩
    · exact .inl ⟨inner, (htable inner).1 hinner, hentry⟩
    · rintro (⟨other, hother, hentry⟩ | ⟨hnone, -⟩)
      · -- There is one table of that name at most.
        have hsame := hinner.symm.trans ((htable other).2 hother)
        cases hsame
        exact hentry
      · exact absurd ((htable inner).1 hinner) (hnone inner)
  case h_2 hother =>
    have hnone (inner : List (String × Value)) : ("sourcescope", .table inner) ∉ top :=
      fun hmem => hother inner ((htable inner).2 hmem)
    refine ⟨hdistinct.nodup, fun name value =>
      (lookup?_eq_some_iff hdistinct.nodup).trans ⟨fun hentry => .inr ⟨hnone, hentry⟩, ?_⟩⟩
    rintro (⟨inner, hinner, -⟩ | ⟨-, hentry⟩)
    · exact absurd hinner (hnone inner)
    · exact hentry

theorem holds_of_fileEntries {what : String} {place path : Path}
    (h : fileEntries depth fs what place path = .ok entries) :
    Holds entries (IsSetIn depth fs place) := by
  unfold fileEntries at h
  cases hread : fs.read place with
  | error e => simp [hread] at h
  | ok bytes =>
    cases hentries : entriesOf depth bytes with
    | error refusal => simp [hread, hentries] at h
    | ok top =>
      -- What was read is the section of what the text says.
      obtain rfl : sectionOf top = entries := by simpa [hread, hentries] using h
      obtain ⟨text, htext, htop⟩ := bind_eq_ok_iff.1 hentries
      have htext := Toml.needed_eq_ok_iff.1 htext
      refine (holds_sectionOf (Toml.read_distinctKeys htop)).congr fun name value => ⟨?_, ?_⟩
      · rintro (⟨inner, htable, hentry⟩ | ⟨hnone, hentry⟩)
        · exact .inTable hread htext htop htable hentry
        · exact .atTop hread htext htop hnone hentry
      · -- The file is read in one way only, so that its bytes, its text and its entries are these.
        intro hset
        cases hset with
        | inTable hread' htext' htop' htable hentry =>
          cases hread.symm.trans hread'
          cases htext.symm.trans htext'
          cases htop.symm.trans htop'
          exact .inl ⟨_, htable, hentry⟩
        | atTop hread' htext' htop' hnone hentry =>
          cases hread.symm.trans hread'
          cases htext.symm.trans htext'
          cases htop.symm.trans htop'
          exact .inr ⟨hnone, hentry⟩

theorem IsSetIn.exists_read {place : Path} {name : String} {value : Value}
    (h : IsSetIn depth fs place name value) : ∃ bytes, fs.read place = .ok bytes := by
  cases h with
  | inTable hread => exact ⟨_, hread⟩
  | atTop hread => exact ⟨_, hread⟩

theorem holds_of_optionalEntries {what : String} {place? : Option Path} {path : Path}
    (h : optionalEntries depth fs what place? path = .ok entries) :
    Holds entries fun name value => ∃ place, place? = some place ∧
      IsSetIn depth fs place name value := by
  cases place? with
  | none =>
    cases h
    exact .none fun _ _ => nofun
  -- A place that is not there sets nothing.
  | some place =>
    have hsame (name : String) (value : Value) : IsSetIn depth fs place name value ↔
        ∃ other, some place = some other ∧ IsSetIn depth fs other name value := by
      simp
    refine Holds.congr ?_ hsame
    unfold optionalEntries at h
    dsimp only at h
    split at h
    case h_1 => exact holds_of_fileEntries h
    case h_2 habsent =>
      cases h
      refine .none fun name value hset => ?_
      obtain ⟨bytes, hread⟩ := hset.exists_read
      exact FileSystem.read_of_absent habsent bytes hread
    case h_3 => cases h

theorem holds_of_namedEntries {base : Path} {file : Option Path}
    (h : namedEntries depth fs base file = .ok entries) :
    Holds entries fun name value => ∃ path, file = some path ∧
      IsSetIn depth fs (base.join path) name value := by
  cases file with
  | none =>
    cases h
    exact .none fun _ _ => nofun
  | some path =>
    have hsame (name : String) (value : Value) : IsSetIn depth fs (base.join path) name value ↔
        ∃ other, some path = some other ∧ IsSetIn depth fs (base.join other) name value := by
      simp
    refine Holds.congr ?_ hsame
    -- A file that is named has to be there.
    rw [namedEntries] at h
    split at h
    · cases h
    · split at h
      · exact holds_of_fileEntries h
      · cases h
      · cases h

/-! ## The environment -/

/-- What the environment holds for a setting that has a form there. -/
def environmentValue? (environment : String → Option String) (setting : Setting) : Option Value :=
  (form? setting).bind fun form =>
    (environment (variableName setting)).bind fun text => (readForm text form).toOption

theorem eq_environmentValue? {environment : String → Option String} {setting : Setting}
    {value : Option Value} (h : variableValue environment setting = .ok value) :
    value = environmentValue? environment setting := by
  unfold variableValue at h
  -- Without a form, or without the variable, nothing is read.
  unfold environmentValue?
  cases hform : form? setting with
  | none =>
    rw [hform] at h
    cases h
    rfl
  | some form =>
    cases htext : environment (variableName setting) with
    | none =>
      rw [hform, htext] at h
      cases h
      rfl
    | some text =>
      rw [hform, htext] at h
      dsimp only at h
      cases hread : readForm text form with
      | error reason =>
        rw [hread] at h
        cases h
      | ok found =>
        rw [hread] at h
        cases h
        simp [hread, Except.toOption]

theorem form?_eq_whole_iff {setting : Setting} : form? setting = some .whole ↔
    setting ∈ [.workers, .maxFiles, .lintTimeout, .longestFunction] := by
  cases setting <;> decide

theorem form?_eq_decimal_iff {setting : Setting} :
    form? setting = some .decimal ↔ setting = .maxFileSize := by
  cases setting <;> decide

theorem form?_eq_switch_iff {setting : Setting} :
    form? setting = some .switch ↔ setting ∈ [.followLinks, .lintEnabled] := by
  cases setting <;> decide

theorem form?_eq_word_iff {setting : Setting} :
    form? setting = some .word ↔ setting ∈ [.lintCommand, .verbosity] := by
  cases setting <;> decide

theorem readForm_whole_eq_ok_iff {text : String} {value : Value} :
    readForm text .whole = .ok value ↔ ∃ n, readInt text.toList = .ok n ∧ value = .int n := by
  rw [readForm]
  split
  case h_1 n hnumber =>
    rw [hnumber]
    simp [eq_comm]
  case h_2 digits hnumber => simp [hnumber]
  case h_3 refusal _ hnumber => simp [hnumber]

theorem readForm_decimal_eq_ok_iff {text : String} {value : Value} :
    readForm text .decimal = .ok value ↔
      ∃ x, readFloat? text.toList = some x ∧ value = .float x := by
  rw [readForm]
  split
  case h_1 x hnumber =>
    rw [hnumber]
    simp [eq_comm]
  case h_2 hnumber => simp [hnumber]

/-- No word turns something both on and off. -/
theorem notMem_onWords {word : String} (h : word ∈ offWords) : word ∉ onWords := by
  have hapart : ∀ word ∈ offWords, word ∉ onWords := by decide
  exact hapart word h

theorem readForm_switch_eq_ok_iff {text : String} {value : Value} :
    readForm text .switch = .ok value ↔
      Text.lowerString text ∈ onWords ∧ value = .bool true ∨
        Text.lowerString text ∈ offWords ∧ value = .bool false := by
  simp only [readForm, List.contains_iff_mem]
  by_cases hon : Text.lowerString text ∈ onWords
  · have hnotOff : Text.lowerString text ∉ offWords := fun hoff => notMem_onWords hoff hon
    simp [hon, hnotOff, eq_comm]
  · by_cases hoff : Text.lowerString text ∈ offWords
    · simp [hon, hoff, eq_comm]
    · simp [hon, hoff]

/-- What is read in the form of a setting is what the text spells for it. -/
theorem exists_form_iff {text : String} {setting : Setting} {value : Value} :
    (∃ form, form? setting = some form ∧ readForm text form = .ok value) ↔
      setting.IsSpelled text value := by
  constructor
  · rintro ⟨form, hform, hread⟩
    cases form with
    | whole =>
      obtain ⟨n, hnumber, rfl⟩ := readForm_whole_eq_ok_iff.1 hread
      exact .whole (form?_eq_whole_iff.1 hform) hnumber
    | decimal =>
      obtain ⟨x, hnumber, rfl⟩ := readForm_decimal_eq_ok_iff.1 hread
      obtain rfl := form?_eq_decimal_iff.1 hform
      exact .decimal hnumber
    | switch =>
      have hsetting := form?_eq_switch_iff.1 hform
      rcases readForm_switch_eq_ok_iff.1 hread with ⟨hword, rfl⟩ | ⟨hword, rfl⟩
      · exact .on hsetting hword
      · exact .off hsetting hword
    | word =>
      cases hread
      exact .word (form?_eq_word_iff.1 hform)
  · intro hspelled
    cases hspelled with
    | whole hsetting hnumber =>
      exact ⟨.whole, form?_eq_whole_iff.2 hsetting, readForm_whole_eq_ok_iff.2 ⟨_, hnumber, rfl⟩⟩
    | decimal hnumber =>
      exact ⟨.decimal, rfl, readForm_decimal_eq_ok_iff.2 ⟨_, hnumber, rfl⟩⟩
    | on hsetting hword =>
      exact ⟨.switch, form?_eq_switch_iff.2 hsetting,
        readForm_switch_eq_ok_iff.2 (.inl ⟨hword, rfl⟩)⟩
    | off hsetting hword =>
      exact ⟨.switch, form?_eq_switch_iff.2 hsetting,
        readForm_switch_eq_ok_iff.2 (.inr ⟨hword, rfl⟩)⟩
    | word hsetting => exact ⟨.word, form?_eq_word_iff.2 hsetting, rfl⟩

/-- The environment holds what is spelled by the variable of a setting. -/
theorem environmentValue?_eq_some_iff {environment : String → Option String} {setting : Setting}
    {value : Value} : environmentValue? environment setting = some value ↔
      ∃ text, environment (variableName setting) = some text ∧ setting.IsSpelled text value := by
  unfold environmentValue?
  simp only [← exists_form_iff]
  cases form? setting <;> cases environment (variableName setting) <;> simp [Except.toOption]
  split <;> simp_all

/-- Entries for some settings, under their names. -/
def namedValues (value? : Setting → Option Value) (settings : List Setting) :
    List (String × Value) :=
  settings.flatMap fun setting => ((value? setting).map (setting.name, ·)).toList

theorem eq_namedValues_of_environmentEntries {environment : String → Option String}
    (h : environmentEntries environment = .ok entries) :
    entries = namedValues (environmentValue? environment) Setting.all := by
  obtain ⟨lists, hlists, rfl⟩ := map_eq_ok_iff.1 h
  clear h
  rw [namedValues, List.flatMap]
  refine congrArg List.flatten ?_
  -- The settings are gone through in their order, and each gives what its variable spells.
  generalize Setting.all = settings at hlists ⊢
  induction settings generalizing lists with
  | nil =>
    cases hlists
    rfl
  | cons setting settings ih =>
    rw [List.mapM_cons] at hlists
    obtain ⟨list, hlist, hlists⟩ := bind_eq_ok_iff.1 hlists
    obtain ⟨others, hothers, hlists⟩ := bind_eq_ok_iff.1 hlists
    obtain ⟨value, hvalue, rfl⟩ := map_eq_ok_iff.1 hlist
    cases hlists
    rw [List.map_cons, ← ih others hothers, eq_environmentValue? hvalue]

theorem lookup?_namedValues (value? : Setting → Option Value) (settings : List Setting)
    (setting : Setting) :
    lookup? setting.name (namedValues value? settings)
      = if setting ∈ settings then value? setting else none := by
  induction settings with
  | nil => rfl
  | cons other settings ih =>
    rw [namedValues, List.flatMap_cons, ← namedValues]
    -- A setting is in the list once, so the entry of another is passed over.
    by_cases hother : setting = other
    · subst hother
      rw [if_pos List.mem_cons_self]
      cases hvalue : value? setting with
      | none =>
        rw [hvalue] at ih
        simpa using ih
      | some value => simp [lookup?]
    · have hname : other.name ≠ setting.name := fun hname =>
        hother (Setting.name_injective hname).symm
      simp only [List.mem_cons, hother, false_or, ← ih]
      cases value? other with
      | none => rfl
      | some value => simp [lookup?, hname]

theorem nodup_namedValues (value? : Setting → Option Value) {settings : List Setting}
    (hnodup : settings.Nodup) : ((namedValues value? settings).map (·.1)).Nodup := by
  induction settings with
  | nil => exact List.nodup_nil
  | cons setting settings ih =>
    obtain ⟨hnotMem, hnodup⟩ := List.nodup_cons.1 hnodup
    rw [namedValues, List.flatMap_cons, ← namedValues]
    cases value? setting with
    | none => exact ih hnodup
    | some value =>
      have hnone : lookup? setting.name (namedValues value? settings) = none := by
        rw [lookup?_namedValues, if_neg hnotMem]
      exact List.nodup_cons.2 ⟨lookup?_eq_none_iff.1 hnone, ih hnodup⟩

/-! ## Overrides -/

/-- Whether a shorthand is given and counts as set. -/
def isOn (key : String) (overrides : List (String × Value)) : Bool :=
  (lookup? key overrides).any Value.isSet

theorem lookup?_filter_ne {key other : String} (hne : other ≠ key)
    (entries : List (String × Value)) :
    lookup? other (entries.filter (·.1 != key)) = lookup? other entries := by
  induction entries with
  | nil => rfl
  | cons entry entries ih =>
    obtain ⟨k, v⟩ := entry
    rw [List.filter_cons, lookup?, ← ih]
    by_cases hk : k = key
    · subst hk
      simp [hne.symm]
    · simp [hk, lookup?]

theorem lookup?_filter_isGiven (hnodup : (entries.map (·.1)).Nodup) (key : String) :
    lookup? key (entries.filter (isGiven ·.2)) = (lookup? key entries).filter isGiven := by
  induction entries with
  | nil => rfl
  | cons entry entries ih =>
    obtain ⟨k, v⟩ := entry
    obtain ⟨hnotMem, hnodup⟩ := List.nodup_cons.1 hnodup
    rw [List.filter_cons, lookup?]
    -- A key stands once, so what is filtered away is not found again further on.
    by_cases hk : k = key
    · subst hk
      have hnone : lookup? k entries = none := lookup?_eq_none_iff.2 hnotMem
      rw [if_pos rfl, Option.filter_some]
      split
      · rw [lookup?, if_pos rfl]
      · rw [ih hnodup, hnone, Option.filter_none]
    · rw [if_neg hk, ← ih hnodup]
      split
      · rw [lookup?, if_neg hk]
      · rfl

/-- A shorthand that is set gives the verbosity, and nothing else is changed. -/
theorem lookup?_shorthand {key other : String} (hne : other ≠ key) (verbosity : String)
    (entries : List (String × Value)) :
    lookup? other (shorthand key verbosity entries)
      = if other = "verbosity" ∧ isOn key entries = true then some (.text verbosity)
        else lookup? other entries := by
  unfold shorthand isOn
  dsimp only
  cases hfound : lookup? key entries with
  | none => simp
  | some value =>
    cases hset : value.isSet with
    | true =>
      simp only [hset, if_true, lookup?_filter_ne hne, lookup?_insertEntry, Option.any_some,
        and_true, eq_comm]
    | false => simp [hset, lookup?_filter_ne hne]

theorem nodup_shorthand (key verbosity : String) (hnodup : (entries.map (·.1)).Nodup) :
    ((shorthand key verbosity entries).map (·.1)).Nodup := by
  unfold shorthand
  dsimp only
  split
  · exact hnodup
  · split
    · exact (nodup_insertEntry hnodup).sublist (List.filter_sublist.map _)
    · exact hnodup.sublist (List.filter_sublist.map _)

theorem nodup_overrides (hnodup : (entries.map (·.1)).Nodup) :
    ((overrides entries).map (·.1)).Nodup :=
  (nodup_shorthand _ _ (nodup_shorthand _ _ hnodup)).sublist (List.filter_sublist.map _)

/-- What the overrides give for a setting. The shorthands count for the verbosity alone, the one for
less of it before the one for more. -/
theorem lookup?_overrides (hnodup : (entries.map (·.1)).Nodup) (setting : Setting) :
    lookup? setting.name (overrides entries)
      = if setting = .verbosity ∧ isOn "quiet" entries = true then some (.text "quiet")
        else if setting = .verbosity ∧ isOn "verbose" entries = true then some (.text "verbose")
        else (lookup? setting.name entries).filter isGiven := by
  have hquiet : setting.name ≠ "quiet" := by cases setting <;> decide
  have hverbose : setting.name ≠ "verbose" := by cases setting <;> decide
  have hverbosity : setting.name = "verbosity" ↔ setting = .verbosity :=
    ⟨fun hname => Setting.name_injective (hname.trans rfl), fun h => h ▸ rfl⟩
  have hon : isOn "quiet" (shorthand "verbose" "verbose" entries) = isOn "quiet" entries := by
    rw [isOn, lookup?_shorthand (by decide), if_neg fun h => absurd h.1 (by decide), isOn]
  rw [overrides, lookup?_filter_isGiven (nodup_shorthand _ _ (nodup_shorthand _ _ hnodup)),
    lookup?_shorthand hquiet, lookup?_shorthand hverbose]
  simp only [hverbosity, hon]
  split
  · rfl
  · split <;> rfl

theorem isOn_iff (hnodup : (entries.map (·.1)).Nodup) {key : String} :
    isOn key entries = true ↔ IsOn key entries := by
  rw [isOn, Option.any_eq_true, IsOn]
  simp only [lookup?_eq_some_iff hnodup]

theorem isGiven_iff {value : Value} : isGiven value = true ↔ value ≠ .null := by
  cases value <;> simp [isGiven]

end Loading

/-! ## All sources -/

theorem Source.findSome?_all (value? : Source → Option Value) :
    all.findSome? value? = (value? .overrides).or ((value? .environment).or
      ((value? .namedFile).or ((value? .projectFile).or (value? .homeFile)))) := by
  simp only [all, List.findSome?_cons, List.findSome?_nil]
  cases value? .overrides <;> cases value? .environment <;> cases value? .namedFile <;>
    cases value? .projectFile <;> cases value? .homeFile <;> rfl

/-- The entries of the three files, once they are loaded. -/
structure Layers where
  named : List (String × Value)
  project : List (String × Value)
  home : List (String × Value)

/-- What is loaded from a source for a setting. -/
def Layers.value? (l : Layers) (o : Origin) (overrides : List (String × Value)) (setting : Setting) :
    Source → Option Value
  | .overrides => (lookup? setting.name overrides).filter Loading.isGiven
  | .environment => Loading.environmentValue? o.environment setting
  | .namedFile => lookup? setting.name l.named
  | .projectFile => lookup? setting.name l.project
  | .homeFile => lookup? setting.name l.home

/-- The texts of a list are its items, in their order. -/
theorem Value.texts_list (names : List String) : (Value.list (names.map .text)).texts = names := by
  induction names with
  | nil => rfl
  | cons name names ih => exact congrArg (name :: ·) ih

namespace Origin

variable {o : Origin} {file : Option Path} {overrides entries : List (String × Value)} {d : Draft}

/-- The directories are known, and the files in them and the one that is named are loaded. -/
structure Loads (o : Origin) (file : Option Path) (home working : Path) (l : Layers) : Prop where
  homeKnown : o.home = .ok home
  inHome : o.homeEntries home = .ok l.home
  current : o.current = .ok working
  inProject : o.projectEntries working = .ok l.project
  inFile : Loading.namedEntries o.readDepth o.files working file = .ok l.named

/-- What is loaded from a source is what it sets. -/
theorem Loads.value?_eq_some_iff {home working : Path} {l : Layers}
    (hloads : o.Loads file home working l) (hnodup : (overrides.map (·.1)).Nodup)
    (setting : Setting) (source : Source) (value : Value) :
    l.value? o overrides setting source = some value
      ↔ o.Sets file overrides setting source value := by
  -- The layers are those of one home and one working directory, so the sources speak of the same
  -- files.
  have hworking := current_eq_ok_iff.1 hloads.current
  cases source with
  | overrides =>
    rw [Layers.value?, Option.filter_eq_some_iff, lookup?_eq_some_iff hnodup, Loading.isGiven_iff]
    constructor
    · rintro ⟨hentry, hgiven⟩
      exact .override hentry hgiven
    · intro hset
      cases hset with
      | override hentry hgiven => exact ⟨hentry, hgiven⟩
  | environment =>
    rw [Layers.value?, Loading.environmentValue?_eq_some_iff]
    constructor
    · rintro ⟨text, htext, hspelled⟩
      exact .inVariable htext hspelled
    · intro hset
      cases hset with
      | inVariable htext hspelled => exact ⟨_, htext, hspelled⟩
  | namedFile =>
    rw [Layers.value?, (Loading.holds_of_namedEntries hloads.inFile).lookup_iff]
    constructor
    · rintro ⟨path, hfile, hset⟩
      exact .namedFile hworking hfile hset
    · intro hset
      cases hset with
      | namedFile hworking' hfile hset =>
        cases hworking.symm.trans hworking'
        exact ⟨_, hfile, hset⟩
  | projectFile =>
    rw [Layers.value?, (Loading.holds_of_optionalEntries hloads.inProject).lookup_iff]
    constructor
    · rintro ⟨place, hplace, hset⟩
      cases hplace
      exact .projectFile hworking hset
    · intro hset
      cases hset with
      | projectFile hworking' hset =>
        cases hworking.symm.trans hworking'
        exact ⟨_, rfl, hset⟩
  | homeFile =>
    rw [Layers.value?, (Loading.holds_of_optionalEntries hloads.inHome).lookup_iff]
    constructor
    · rintro ⟨place, hplace, hset⟩
      exact .homeFile hloads.homeKnown hplace hset
    · intro hset
      cases hset with
      | homeFile hhome' hplace hset =>
        cases hloads.homeKnown.symm.trans hhome'
        exact ⟨_, hplace, hset⟩

/-- The entries of all sources, put over each other. -/
theorem Loads.entries_eq {home working : Path} {l : Layers} {inEnvironment : List (String × Value)}
    (hloads : o.Loads file home working l)
    (henvironment : Loading.environmentEntries o.environment = .ok inEnvironment) :
    o.entries file overrides = .ok (Loading.overlay (Loading.overrides overrides)
      (Loading.overlay inEnvironment (Loading.overlay l.named
        (Loading.overlay l.project l.home)))) := by
  refine bind_eq_ok_iff.2 ⟨home, hloads.homeKnown, ?_⟩
  refine bind_eq_ok_iff.2 ⟨l.home, hloads.inHome, ?_⟩
  refine bind_eq_ok_iff.2 ⟨working, hloads.current, ?_⟩
  refine bind_eq_ok_iff.2 ⟨l.project, hloads.inProject, ?_⟩
  refine bind_eq_ok_iff.2 ⟨l.named, hloads.inFile, ?_⟩
  exact bind_eq_ok_iff.2 ⟨inEnvironment, henvironment, rfl⟩

/-- All sources together hold what is loaded from the first of them that has something. -/
theorem exists_loads (hnodup : (overrides.map (·.1)).Nodup)
    (h : o.entries file overrides = .ok entries) :
    ∃ home working l, o.Loads file home working l ∧ ∀ setting,
      lookup? setting.name entries
        = if setting = .verbosity ∧ Loading.isOn "quiet" overrides = true then some (.text "quiet")
          else if setting = .verbosity ∧ Loading.isOn "verbose" overrides = true then
            some (.text "verbose")
          else Source.all.findSome? (l.value? o overrides setting) := by
  obtain ⟨home, hhome, h⟩ := bind_eq_ok_iff.1 h
  obtain ⟨inHome, hinHome, h⟩ := bind_eq_ok_iff.1 h
  obtain ⟨working, hcurrent, h⟩ := bind_eq_ok_iff.1 h
  obtain ⟨inProject, hinProject, h⟩ := bind_eq_ok_iff.1 h
  obtain ⟨inFile, hinFile, h⟩ := bind_eq_ok_iff.1 h
  obtain ⟨inEnvironment, henvironment, h⟩ := bind_eq_ok_iff.1 h
  cases h
  obtain rfl := Loading.eq_namedValues_of_environmentEntries henvironment
  -- What is laid over what: the overrides last, the file in the home directory first.
  refine ⟨home, working, ⟨inFile, inProject, inHome⟩,
    ⟨hhome, hinHome, hcurrent, hinProject, hinFile⟩, fun setting => ?_⟩
  rw [Loading.lookup?_overlay (Loading.nodup_overrides hnodup),
    Loading.lookup?_overlay (Loading.nodup_namedValues _ (by decide)),
    Loading.lookup?_overlay (Loading.holds_of_namedEntries hinFile).nodup,
    Loading.lookup?_overlay (Loading.holds_of_optionalEntries hinProject).nodup,
    Loading.lookup?_overrides hnodup, Loading.lookup?_namedValues, if_pos setting.mem_all]
  split
  · rfl
  · split
    · rfl
    · rw [Source.findSome?_all]
      rfl

theorem eq_of_ofEntries (h : Draft.ofEntries entries = .ok d) (setting : Setting) :
    d setting = (lookup? setting.name entries).getD setting.default := by
  unfold Draft.ofEntries at h
  split at h
  · cases h
  · cases h
    rfl

/-- The value that is decided on is the first one that is loaded. -/
theorem decides_iff {setting : Setting} {value? : Source → Option Value}
    (hvalue : ∀ source value, value? source = some value ↔
      o.Sets file overrides setting source value) (value : Value) :
    o.Decides file overrides setting value ↔
      value = (Source.all.findSome? value?).getD setting.default := by
  constructor
  · -- The first source that sets a value is the one that the sources are gone through for.
    intro h
    cases h with
    | source hall hset hbefore =>
      have hfirst : Source.all.findSome? value? = some value := by
        refine List.findSome?_eq_some_iff.2 ⟨_, _, _, hall, (hvalue _ _).2 hset, ?_⟩
        intro earlier hmem
        refine Option.eq_none_iff_forall_ne_some.2 fun other hother => ?_
        exact hbefore earlier hmem other ((hvalue _ _).1 hother)
      rw [hfirst]
      rfl
    | default hnone =>
      have hnever : Source.all.findSome? value? = none := by
        refine List.findSome?_eq_none_iff.2 fun source _ => ?_
        exact Option.eq_none_iff_forall_ne_some.2 fun other hother =>
          hnone source other ((hvalue _ _).1 hother)
      rw [hnever]
      rfl
  · rintro rfl
    cases hfirst : Source.all.findSome? value? with
    | some value =>
      obtain ⟨before, source, after, hall, hfound, hbefore⟩ := List.findSome?_eq_some_iff.1 hfirst
      refine .source hall ((hvalue _ _).1 hfound) fun earlier hmem other hother => ?_
      rw [← hvalue, hbefore earlier hmem] at hother
      cases hother
    | none =>
      refine .default fun source value hset => ?_
      have hnone := List.findSome?_eq_none_iff.1 hfirst source (by cases source <;> decide)
      rw [← hvalue, hnone] at hset
      cases hset

/-- **Settings that are loaded have, each by itself, the value of the first source that sets them.**
The shorthands for the verbosity come before all sources, the environment sets no lists, and lists
keep their items in their order. -/
theorem load_precedence (hdistinct : (overrides.map (·.1)).Nodup)
    (h : o.load file overrides = .ok d) :
    (Loading.IsOn "quiet" overrides → d .verbosity = .text "quiet") ∧
    (¬Loading.IsOn "quiet" overrides → Loading.IsOn "verbose" overrides →
      d .verbosity = .text "verbose") ∧
    (∀ setting value, (setting = .verbosity →
        ¬Loading.IsOn "quiet" overrides ∧ ¬Loading.IsOn "verbose" overrides) →
      (d setting = value ↔ o.Decides file overrides setting value)) ∧
    (∀ value, ¬o.Sets file overrides .excludeDirs .environment value ∧
      ¬o.Sets file overrides .sourceExtensions .environment value) ∧
    (∀ names : List String,
      (d .excludeDirs = .list (names.map .text) → d.settings.excludeDirs = names) ∧
      (d .sourceExtensions = .list (names.map .text) → d.settings.sourceExtensions = names)) := by
  -- The draft is looked up in the entries of all sources.
  obtain ⟨-, entries, hentries, hdraft, -⟩ := load_eq_ok_iff.1 h
  obtain ⟨home, working, l, hloads, hlookup⟩ := exists_loads hdistinct hentries
  simp only [← Loading.isOn_iff hdistinct]
  refine ⟨fun hquiet => ?_, fun hquiet hverbose => ?_, fun setting value hplain => ?_,
    fun value => ⟨?_, ?_⟩, fun names => ⟨fun hnames => ?_, fun hnames => ?_⟩⟩
  · rw [eq_of_ofEntries hdraft, hlookup, if_pos ⟨rfl, hquiet⟩]
    rfl
  · rw [eq_of_ofEntries hdraft, hlookup, if_neg fun h => hquiet h.2,
      if_pos ⟨rfl, hverbose⟩]
    rfl
  · rw [decides_iff (hloads.value?_eq_some_iff hdistinct setting), eq_of_ofEntries hdraft, hlookup,
      if_neg fun h => (hplain h.1).1 h.2, if_neg fun h => (hplain h.1).2 h.2, eq_comm]
  · intro hset
    cases hset with
    | inVariable _ hspelled => exact Setting.not_isSpelled_list (by decide) hspelled
  · intro hset
    cases hset with
    | inVariable _ hspelled => exact Setting.not_isSpelled_list (by decide) hspelled
  · rw [Draft.settings, hnames, Value.texts_list]
  · rw [Draft.settings, hnames, Value.texts_list]

end Origin

/-- A file in the home directory with settings at its top, one in the working directory with a table of
settings, one that is named, and a variable for the number of workers. -/
def layered : Origin where
  files := {
    entries := [
      (".sourcescope.toml",
        .file (Utf8.encodeString "exclude_dirs=[]\neslint_command='es'\nverbosity='normal'")),
      ("sourcescope.toml",
        .file (Utf8.encodeString "exclude_dirs=['top']\n[sourcescope]\nexclude_dirs=['gen']")),
      ("own.toml", .file (Utf8.encodeString "eslint_command='lint'"))]
    room := 8 }
  account := some "/"
  working := some ⟨true, []⟩
  environment name := if name = "SOURCESCOPE_WORKERS" then some "8" else none
  readDepth := 9
  toldDepth := 9

/-- The path of the file that is named. -/
def ownFile : Path := ⟨false, ["own.toml"]⟩

/-- Overrides of which one is not given and one is a shorthand. -/
def layeredOverrides : List (String × Value) :=
  [("workers", .null), ("max_file_size_mb", .int 1), ("verbose", .bool true)]

/-- What is in the three files. -/
def layeredLayers : Layers where
  named := [("eslint_command", .text "lint")]
  project := [("exclude_dirs", .list [.text "gen"])]
  home := [("exclude_dirs", .list []), ("eslint_command", .text "es"), ("verbosity", .text "normal")]

theorem layered_ownFile : Loading.fileEntries layered.readDepth layered.files "config file"
    ⟨true, ["own.toml"]⟩ ownFile = .ok layeredLayers.named := by
  cbv

theorem layered_loads : layered.Loads (some ownFile) ⟨true, []⟩ ⟨true, []⟩ layeredLayers where
  homeKnown := rfl
  inHome := by cbv
  current := rfl
  inProject := by cbv
  inFile := by
    have hthere : layered.files.isThere ⟨true, ["own.toml"]⟩ = .ok true := by cbv
    have hbroken : ownFile.isBroken = false := by decide
    have hjoin : Path.join ⟨true, []⟩ ownFile = ⟨true, ["own.toml"]⟩ := rfl
    rw [Loading.namedEntries, hjoin, hthere, layered_ownFile, hbroken]
    rfl

theorem layered_environment :
    Loading.environmentEntries layered.environment = .ok [("workers", .int 8)] := by
  rfl

/-- The table in the working directory comes before the top of its file and before the home directory,
and the named file before both; an override that is not given leaves the variable in force, and a
shorthand comes before the verbosity of a file. -/
theorem Origin.load_precedence_layered : ∃ d, layered.load (some ownFile) layeredOverrides = .ok d ∧
    d.settings.excludeDirs = ["gen"] ∧ d .lintCommand = .text "lint" ∧ d .workers = .int 8 ∧
    d .maxFileSize = .int 1 ∧ d .verbosity = .text "verbose" ∧ d .lintTimeout = .int 30 := by
  have hentries : layered.entries (some ownFile) layeredOverrides
      = .ok [("exclude_dirs", .list [.text "gen"]), ("eslint_command", .text "lint"),
        ("verbosity", .text "verbose"), ("workers", .int 8), ("max_file_size_mb", .int 1)] := by
    rw [layered_loads.entries_eq layered_environment]
    rfl
  obtain ⟨d, hd⟩ : ∃ d, layered.load (some ownFile) layeredOverrides = .ok d := by
    rw [load, hentries]
    exact ⟨_, rfl⟩
  have hdistinct : (layeredOverrides.map (·.1)).Nodup := by decide
  obtain ⟨-, hverbose, hvalue, -, hnames⟩ := load_precedence hdistinct hd
  -- What the sources set is known, since all files are.
  have hdecides (setting : Setting) (hother : setting ≠ .verbosity) :
      d setting = (Source.all.findSome?
        (layeredLayers.value? layered layeredOverrides setting)).getD setting.default :=
    (hvalue setting _ fun h => absurd h hother).2
      ((decides_iff (layered_loads.value?_eq_some_iff hdistinct setting) _).2 rfl)
  refine ⟨d, hd, (hnames ["gen"]).1 ?_, ?_, ?_, ?_, ?_, ?_⟩
  · exact hdecides .excludeDirs (by decide)
  · exact hdecides .lintCommand (by decide)
  · exact hdecides .workers (by decide)
  · exact hdecides .maxFileSize (by decide)
  · refine hverbose ?_ ⟨.bool true, by simp [layeredOverrides], rfl⟩
    rintro ⟨value, hmem, -⟩
    simp [layeredOverrides] at hmem
  · exact hdecides .lintTimeout (by decide)

end ScriptAudit
