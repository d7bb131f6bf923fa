import Mathlib
import ScriptAudit.Proofs.NamedExtensions
import ScriptAudit.Proofs.ReportedPath
import ScriptAudit.Proofs.SearchFailure
import ScriptAudit.Source.Outcome

/-!
# Files parsed by their extension

A search takes a file in for the extension of its name. How the file is parsed is made out again,
from the suffix of the path under which it is reported. The two notions differ on names with dots in
front or at the end, but no name that accepted settings let through is parsed differently for it.

- `suffix_of_extension_ne`: a name with an extension has it for its suffix, unless the extension is
  a single dot.
- `components_joined`, `name_parse_relativeTo`: the last name walked to a file is read back from the
  path under which it is reported.
- `isSourceName_of_explore`, `extension_ne_empty`: every file found has an extension.
- `Source.preparedAs`: how a file is to be parsed, judged by its extension alone.
- `prepared_of_mem_files`: **every file found is parsed as its extension in lower case demands.**
-/

namespace ScriptAudit

open Search

variable {fs : FileSystem} {settings : Settings} {root : Path} {name : String}
  {names : List String}

/-! ## Two notions of an extension -/

/-- A text without dots is not cut. -/
theorem lastDot?_eq_none {text : List Char} (h : '.' ∉ text) : lastDot? text = none := by
  have hall : text.reverse.takeWhile (· != '.') = text.reverse :=
    List.takeWhile_eq_self_iff.2 fun c hc => bne_iff_ne.2 fun heq =>
      h (List.mem_reverse.1 (heq ▸ hc))
  rw [lastDot?, hall, List.length_reverse, if_pos rfl]

/-- **A name with an extension has it for its suffix as well**, unless the extension is a single dot,
which is no suffix. -/
theorem suffix_of_extension_ne (hname : '/' ∉ name.toList) (hne : extension name ≠ "") :
    suffix name = if extension name = "." then "" else extension name := by
  have hlast : (Text.split '/' name.toList).getLast?.getD [] = name.toList := by
    rw [Text.split_of_notMem hname]
    rfl
  by_cases hdot : '.' ∈ name.toList
  · obtain ⟨before, tail, hchars, htail⟩ := exists_lastDot hdot
    have hcut : lastDot? name.toList = some (before, '.' :: tail) := by
      rw [hchars, lastDot?_append htail]
    by_cases hdots : before.all (· == '.') = true
    · have hnone : extension name = "" := by simp only [extension, hlast, hcut, if_pos hdots]
      exact absurd hnone hne
    · have hextension : extension name = String.ofList ('.' :: tail) := by
        simp only [extension, hlast, hcut, if_neg hdots]
      -- Something other than a dot stands in front, so the last dot is not the first character.
      have hbefore : before.isEmpty = false := by
        cases before with
        | nil => exact absurd rfl hdots
        | cons c before => rfl
      rw [hextension]
      cases tail with
      | nil => simp [suffix, hcut]
      | cons c tail => simp [suffix, hcut, hbefore, ← String.toList_inj]
  · have hnone : extension name = "" := by simp only [extension, hlast, lastDot?_eq_none hdot]
    exact absurd hnone hne

/-- Without an extension there may be a suffix. -/
example : extension "..ts" = "" ∧ suffix "..ts" = ".ts" := by decide

/-- The two notions agree on what is neither empty nor a single dot, in lower case too. -/
theorem lower_suffix_mem_iff {listed : List String} (hempty : "" ∉ listed) (hdot : "." ∉ listed)
    (hname : '/' ∉ name.toList) (hne : extension name ≠ "") :
    Text.lowerString (suffix name) ∈ listed ↔ lowerExtension name ∈ listed := by
  rw [suffix_of_extension_ne hname hne, lowerExtension]
  split_ifs with hsingle
  · have hlowerEmpty : Text.lowerString "" = "" := rfl
    have hlowerDot : Text.lowerString "." = "." := rfl
    rw [hsingle, hlowerEmpty, hlowerDot]
    exact iff_of_false hempty hdot
  · rfl

/-! ## Names read back from a path -/

theorem Text.split_eq_splitOn (separator : Char) (text : List Char) :
    Text.split separator text = text.splitOn separator := by
  induction text with
  | nil => rfl
  | cons c text ih =>
    obtain ⟨piece, pieces, hpieces⟩ :=
      List.exists_cons_of_ne_nil (List.splitOn_ne_nil separator text)
    rw [Text.split, ih, hpieces]
    rw [List.splitOn_eq_splitOnP] at hpieces ⊢
    rw [List.splitOnP_cons_eq_if_modifyHead, hpieces]
    simp

/-- The components of joined names are these names, but for those that do not count. -/
theorem components_joined (hnames : ∀ name ∈ names, '/' ∉ name.toList) :
    Path.components (Path.joined names)
      = names.filter fun name => name != "" && name != "." := by
  cases names with
  | nil => rfl
  | cons name names =>
    rw [Path.components, Text.splitString, Text.split_eq_splitOn,
      splitOn_joined (List.cons_ne_nil name names) hnames, List.map_map]
    simp [Function.comp_def]

/-- The last name on the way to a file is that of the path under which it is reported. -/
theorem name_parse_relativeTo (hname : name ≠ "")
    (hnames : ∀ other ∈ names ++ [name], FileSystem.IsName other ∧ '/' ∉ other.toList) :
    (Path.parse ((root.along (names ++ [name])).relativeTo root)).name = name := by
  have hlast : name ≠ "." := (hnames name (by simp)).1.1
  have hparts : (Path.parse (Path.joined (names ++ [name]))).parts
      = names.filter (fun other => other != "" && other != ".") ++ [name] := by
    show Path.components _ = _
    rw [components_joined fun other hother => (hnames other hother).2, List.filter_append,
      List.filter_cons_of_pos (by simp [hname, hlast]), List.filter_nil]
  rw [relativeTo_along (by simp) fun other hother => (hnames other hother).1.2.1, Path.name, hparts]
  simp

/-! ## Files found -/

/-- Every file found has the name of a script file. -/
theorem isSourceName_of_explore {last : Stage} (h : explore fs settings root = .ok last) :
    ∀ file ∈ last.found.files, isSourceName settings.sourceExtensions file.name = true := by
  refine (explore_preserves (P := fun s => ∀ file ∈ s.found.files,
    isSourceName settings.sourceExtensions file.name = true) ?_ ?_ h).1
  · -- Only the judgement of an entry adds a file, and only one that is named like a source.
    intro item s next hs _ hmoves
    cases hmoves with
    | judges hname hleads hsource hjudges =>
      cases hjudges with
      | taken hsize hlimit hsmall hroom =>
        intro file hmem
        rcases List.mem_append.1 hmem with hold | hnew
        · exact hs file hold
        · rw [List.mem_singleton.1 hnew]
          exact hsource
      | _ => exact hs
    | _ => exact hs
  · simp [Stage.start, Search.nothing]

/-- The name of a script file has an extension, since every extension of accepted settings starts
with a dot. -/
theorem extension_ne_empty {d : Draft} (hcheck : d.check = .ok ())
    (hsource : isSourceName d.settings.sourceExtensions name = true) : extension name ≠ "" := by
  intro hempty
  rw [isSourceName, List.contains_iff_mem, lowerExtension, hempty, loweredExtensions,
    List.mem_map] at hsource
  obtain ⟨listed, hlisted, hlower⟩ := hsource
  obtain ⟨tail, htail⟩ := List.isPrefixOf_iff_prefix.1 (d.startsWith_of_mem hcheck hlisted)
  rw [Text.lowerString, Text.lowerString, String.ofList_inj, ← htail] at hlower
  cases hlower

/-! ## How files are parsed -/

/-- How a file is to be parsed, judged by its extension in lower case: what text is parsed, and with
which grammar. The scripts of a component file ask for theirs. -/
def Source.preparedAs (extension : String) (source : List Char) : List Char × Grammar :=
  if extension ∈ [".vue", ".svelte"] then
    (Script.scriptText source, Script.scriptGrammar source)
  else if extension ∈ [".ts", ".mts", ".cts"] then (source, .typescript)
  else (source, .tsx)

/-- A path whose name has an extension is parsed as the extension demands. -/
theorem prepared_of_name_parse {path : String} (hpath : (Path.parse path).name = name)
    (hname : '/' ∉ name.toList) (hne : extension name ≠ "") :
    (isTemplate path = true ↔ lowerExtension name ∈ [".vue", ".svelte"]) ∧
      ∀ source, Source.prepared path source = Source.preparedAs (lowerExtension name) source := by
  -- Both questions, for a component file and for TypeScript, ask for the extension in lower case.
  have htemplate : isTemplate path = true ↔ lowerExtension name ∈ [".vue", ".svelte"] := by
    rw [isTemplate, hpath, List.contains_iff_mem]
    exact lower_suffix_mem_iff (by decide) (by decide) hname hne
  have htypescript : Grammar.typescriptSuffixes.contains (Text.lowerString (suffix name)) = true ↔
      lowerExtension name ∈ [".ts", ".mts", ".cts"] := by
    rw [List.contains_iff_mem]
    exact lower_suffix_mem_iff (by decide) (by decide) hname hne
  have hgrammar : Grammar.ofPath path
      = if lowerExtension name ∈ [".ts", ".mts", ".cts"] then .typescript else .tsx := by
    rw [Grammar.ofPath, hpath]
    exact if_congr htypescript rfl rfl
  refine ⟨htemplate, fun source => ?_⟩
  rw [Source.prepared, Source.preparedAs, hgrammar, if_congr htemplate rfl rfl]
  split_ifs <;> rfl

/-- **Every file found is parsed as its extension in lower case demands**, however many dots stand in
its name and wherever they stand. What is looked at is the path under which the file is reported: it
names a component file exactly if the extension by which the search took the file in is that of one,
and otherwise the grammar is the one that belongs to that extension. -/
theorem prepared_of_mem_files (hsound : fs.IsSound) {d : Draft} (hcheck : d.check = .ok ())
    {found : Search} (hfound : search fs d.settings root = .ok found) {file : Path}
    (hmem : file ∈ found.files) :
    (isTemplate (file.relativeTo root) = true ↔
        lowerExtension file.name ∈ [".vue", ".svelte"]) ∧
      ∀ source, Source.prepared (file.relativeTo root) source
        = Source.preparedAs (lowerExtension file.name) source := by
  obtain ⟨last, hexplore, rfl⟩ := search_eq_ok_iff.1 hfound
  have hne := extension_ne_empty hcheck (isSourceName_of_explore hexplore file hmem)
  obtain ⟨names, hnonempty, rfl, hwalk⟩ := exists_walk_of_explore hexplore hmem
  obtain ⟨before, name, rfl⟩ : ∃ before name, names = before ++ [name] :=
    ⟨_, _, (List.dropLast_append_getLast hnonempty).symm⟩
  have hnames := hwalk.isName hsound
  rw [← Path.below_along, name_below, Path.below_along] at *
  have hname : name ≠ "" := by
    rintro rfl
    exact hne rfl
  exact prepared_of_name_parse (name_parse_relativeTo hname hnames) (hnames name (by simp)).2 hne

/-! ## Names with many dots -/

/-- Settings by which a name that ends in a dot is that of a script file too. -/
def dotted : Settings :=
  { following with sourceExtensions := [".TS", ".vue", "."] }

/-- Files whose names have dots in front, in a row and at the end, one of them in a directory with the
name of a component file. -/
def manyDots : FileSystem where
  entries := [("..a..Ts", .file []), (".b.Vue", .file []), ("c.vue", .directory [("d.", .file [])])]
  room := 8

theorem isSound_manyDots : manyDots.IsSound := by
  decide

theorem search_manyDots : search manyDots dotted.draft.settings ⟨true, []⟩
    = .ok ⟨[⟨true, ["..a..Ts"]⟩, ⟨true, [".b.Vue"]⟩, ⟨true, ["c.vue", "d."]⟩], 3, []⟩ := by
  have hsettings : dotted.draft.settings = dotted := rfl
  refine search_eq_ok_iff.2 ⟨⟨[[], ["c.vue"]], _, []⟩, ?_, rfl⟩
  rw [explore, if_neg (by decide), hsettings]
  exact Stage.resume_of_advance (n := 6) (by cbv) rfl

/-- Plain TypeScript, a component file, and a file with neither extension. -/
theorem prepared_of_mem_files_manyDots :
    manyDots.IsSound ∧ dotted.draft.check = .ok () ∧
      ∃ found, search manyDots dotted.draft.settings ⟨true, []⟩ = .ok found ∧
        ⟨true, ["..a..Ts"]⟩ ∈ found.files ∧ ⟨true, [".b.Vue"]⟩ ∈ found.files ∧
        ⟨true, ["c.vue", "d."]⟩ ∈ found.files ∧
        (∀ source, Source.prepared (Path.relativeTo ⟨true, ["..a..Ts"]⟩ ⟨true, []⟩) source
          = (source, .typescript)) ∧
        isTemplate (Path.relativeTo ⟨true, [".b.Vue"]⟩ ⟨true, []⟩) = true ∧
        ∀ source, Source.prepared (Path.relativeTo ⟨true, ["c.vue", "d."]⟩ ⟨true, []⟩) source
          = (source, .tsx) := by
  have hcheck : dotted.draft.check = .ok () := rfl
  have hprepared (file : Path) (hmem : file ∈ [⟨true, ["..a..Ts"]⟩, ⟨true, [".b.Vue"]⟩,
      ⟨true, ["c.vue", "d."]⟩]) := prepared_of_mem_files isSound_manyDots hcheck search_manyDots hmem
  have hplain : lowerExtension (Path.mk true ["..a..Ts"]).name = ".ts" := by decide
  have hcomponent : lowerExtension (Path.mk true [".b.Vue"]).name = ".vue" := by decide
  have hother : lowerExtension (Path.mk true ["c.vue", "d."]).name = "." := by decide
  refine ⟨isSound_manyDots, hcheck, _, search_manyDots, by simp, by simp, by simp, ?_, ?_, ?_⟩
  · intro source
    rw [(hprepared _ (by simp)).2, hplain]
    rfl
  · rw [(hprepared _ (by simp)).1, hcomponent]
    decide
  · intro source
    rw [(hprepared _ (by simp)).2, hother]
    rfl

end ScriptAudit
