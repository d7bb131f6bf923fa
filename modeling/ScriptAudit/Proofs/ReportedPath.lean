import ScriptAudit.Proofs.SearchOrder
import ScriptAudit.Proofs.Trails

/-!
# The paths under which files are reported

A file is reported under the way from the directory that was searched, which is made out from the
text of both paths alone. The names walked on the way come out of it unchanged, since none of them
is a double dot.

- `Walk`: names that lead from one directory to the next, none of them excluded.
- `relativeTo_along`: the way from a directory to what lies below it.
- `joined_injective`, `text_along_injective`: names without a slash can be told from the text that
  joins them, and from that of a path below some root.
- `exists_walk_of_explore`, `nodup_relativeTo`: **every file found is reported under the names
  walked to it**, and no two files under the same ones.
-/

namespace ScriptAudit

open Search

variable {fs : FileSystem} {settings : Settings} {excluded : List String} {root path : Path}
  {names others : List String}

/-- The path that some names below another one make up. -/
def Path.along (root : Path) (names : List String) : Path :=
  { root with parts := root.parts ++ names }

@[simp] theorem Path.along_nil (root : Path) : root.along [] = root := by
  simp [Path.along]

theorem Path.below_along (root : Path) (names : List String) (name : String) :
    below (root.along names) name = root.along (names ++ [name]) := by
  simp [below, Path.along]

/-- Names that lead from a directory to an entry: each of them is listed in the directory to which
those before it lead. -/
inductive Walk (fs : FileSystem) (excluded : List String) (root : Path) : List String → Prop
  | start : Walk fs excluded root []
  | enter {names : List String} {name : String} {here : Location}
    (h : Walk fs excluded root names) (hlocate : fs.locate true (root.along names) = .ok here)
    (hlists : fs.Lists here name) (hname : name ∉ excluded) :
    Walk fs excluded root (names ++ [name])

/-- The path at the end of a trail was walked. -/
theorem Trail.exists_walk {through : List Location} (h : Trail fs settings root path through) :
    ∃ names, path = root.along names ∧ Walk fs settings.excludeDirs root names := by
  induction h with
  | root hlocate hdirectory => exact ⟨[], by simp, .start⟩
  | enter htrail hlists hname hleads hlocate hdirectory hfresh ih =>
    obtain ⟨names, rfl, hwalk⟩ := ih
    exact ⟨_, Path.below_along .., .enter hwalk htrail.locate_eq hlists hname⟩

/-- A file found was walked to from the directory that was searched. -/
theorem exists_walk_of_explore {last : Stage} (h : explore fs settings root = .ok last)
    {file : Path} (hmem : file ∈ last.found.files) :
    ∃ names, names ≠ [] ∧ file = root.along names ∧ Walk fs settings.excludeDirs root names := by
  obtain ⟨⟨parent, name, here, through, rfl, htrail, hlists, -⟩, hname⟩ :=
    (explore_sound h).files file hmem
  rw [name_below] at hname
  obtain ⟨names, rfl, hwalk⟩ := htrail.exists_walk
  exact ⟨names ++ [name], by simp, Path.below_along .., .enter hwalk htrail.locate_eq hlists hname⟩

/-- Names that are walked are such as entries can have. -/
theorem Walk.isName (hsound : fs.IsSound) (h : Walk fs excluded root names) :
    ∀ name ∈ names, FileSystem.IsName name ∧ '/' ∉ name.toList := by
  induction h with
  | start => simp
  | enter h hlocate hlists hname ih =>
    obtain ⟨entries, hat, hlisted⟩ := hlists
    intro name hmem
    rcases List.mem_append.1 hmem with hmem | hmem
    · exact ih name hmem
    · rw [List.mem_singleton.1 hmem]
      exact (hsound _ entries hat).2 _ hlisted

/-! ## The way between two paths -/

/-- Names other than a double dot are added to those before them. -/
theorem foldl_normalStep (hnames : ∀ name ∈ names, name ≠ "..") (above : List String) :
    names.foldl Path.normalStep above = names.reverse ++ above := by
  induction names generalizing above with
  | nil => rfl
  | cons name names ih =>
    rw [List.forall_mem_cons] at hnames
    rw [List.foldl_cons, ih hnames.2, Path.normalStep, if_neg hnames.1, List.reverse_cons,
      List.append_assoc, List.singleton_append]

theorem normal_along (hnames : ∀ name ∈ names, name ≠ "..") :
    (root.along names).normal = root.normal ++ names := by
  show ((root.parts ++ names).foldl Path.normalStep []).reverse = _
  rw [List.foldl_append, foldl_normalStep hnames, List.reverse_append, List.reverse_reverse]
  rfl

theorem dropShared_append (shared names : List String) :
    Path.dropShared shared (shared ++ names) = ([], names) := by
  induction shared with
  | nil => cases names <;> rfl
  | cons part shared ih =>
    rw [List.cons_append, Path.dropShared, if_pos rfl, ih]

/-- The way from a directory to what lies below it are the names below it. -/
theorem relativeTo_along (hne : names ≠ []) (hnames : ∀ name ∈ names, name ≠ "..") :
    (root.along names).relativeTo root = Path.joined names := by
  simp [Path.relativeTo, normal_along hnames, dropShared_append, hne]

/-- Names without a slash are the pieces of the text that joins them. -/
theorem splitOn_joined (hne : names ≠ []) (hnames : ∀ name ∈ names, '/' ∉ name.toList) :
    (Path.joined names).toList.splitOn '/' = names.map String.toList := by
  rw [Path.joined, String.toList_intercalate]
  refine List.splitOn_intercalate '/' ?_ (by simpa using hne)
  intro piece hpiece
  obtain ⟨name, hname, rfl⟩ := List.mem_map.1 hpiece
  exact hnames name hname

/-- Names without a slash can be told from the text that joins them. -/
theorem joined_injective (hne : names ≠ []) (hne' : others ≠ [])
    (hnames : ∀ name ∈ names, '/' ∉ name.toList) (hothers : ∀ name ∈ others, '/' ∉ name.toList)
    (h : Path.joined names = Path.joined others) : names = others := by
  have hmap : names.map String.toList = others.map String.toList := by
    rw [← splitOn_joined hne hnames, ← splitOn_joined hne' hothers, h]
  exact (List.map_inj_right fun _ _ => String.toList_inj.1).1 hmap

/-- What stands in front of two lists of names makes no difference to the texts that join them. -/
theorem joined_append_injective {stem : List String} (hne : names ≠ []) (hne' : others ≠ [])
    (h : Path.joined (stem ++ names) = Path.joined (stem ++ others)) :
    Path.joined names = Path.joined others := by
  induction stem with
  | nil => exact h
  | cons part stem ih =>
    have hcons : ∀ {rest : List String}, rest ≠ [] →
        Path.joined (part :: rest) = part ++ "/" ++ Path.joined rest := by
      intro rest hrest
      obtain ⟨first, more, rfl⟩ := List.exists_cons_of_ne_nil hrest
      exact String.intercalate_cons_cons
    rw [List.cons_append, List.cons_append, hcons (by simp [hne]), hcons (by simp [hne'])] at h
    refine ih (String.toList_inj.1 ?_)
    have hchars := congrArg String.toList h
    simp only [String.toList_append] at hchars
    exact List.append_cancel_left hchars

/-- The texts of paths below the same root tell the names apart. -/
theorem text_along_injective (hne : names ≠ []) (hne' : others ≠ [])
    (hnames : ∀ name ∈ names, '/' ∉ name.toList) (hothers : ∀ name ∈ others, '/' ∉ name.toList)
    (h : (root.along names).text = (root.along others).text) : names = others := by
  have htext : ∀ {list : List String}, list ≠ [] →
      (root.along list).text
        = (if root.absolute then "/" else "") ++ Path.joined (root.parts ++ list) := by
    intro list hlist
    cases habsolute : root.absolute <;> simp [Path.text, Path.along, habsolute, hlist]
  rw [htext hne, htext hne'] at h
  have hchars := congrArg String.toList h
  rw [String.toList_append, String.toList_append] at hchars
  have hjoined : Path.joined (root.parts ++ names) = Path.joined (root.parts ++ others) :=
    String.toList_inj.1 (List.append_cancel_left hchars)
  exact joined_injective hne hne' hnames hothers (joined_append_injective hne hne' hjoined)

/-! ## Whole searches -/

/-- No two files are reported under the same path. -/
theorem nodup_relativeTo (hsound : fs.IsSound) {last : Stage}
    (h : explore fs settings root = .ok last) :
    (last.found.files.map (·.relativeTo root)).Nodup := by
  have hordered := explore_ordered hsound h
  rw [List.pairwise_map] at hordered
  rw [List.Nodup, List.pairwise_map]
  refine hordered.imp_of_mem fun {file other} hfile hother hprecedes heq => ?_
  obtain ⟨names, hne, rfl, hwalk⟩ := exists_walk_of_explore h hfile
  obtain ⟨others, hne', rfl, hwalk'⟩ := exists_walk_of_explore h hother
  have hnames := hwalk.isName hsound
  have hothers := hwalk'.isName hsound
  rw [relativeTo_along hne fun name hmem => (hnames name hmem).1.2.1,
    relativeTo_along hne' fun name hmem => (hothers name hmem).1.2.1] at heq
  refine hprecedes.ne (congrArg (root.parts ++ ·) ?_)
  exact joined_injective hne hne' (fun name hmem => (hnames name hmem).2)
    (fun name hmem => (hothers name hmem).2) heq

end ScriptAudit
