import ScriptAudit.Proofs.RealPlaces
import ScriptAudit.Proofs.SearchFailure
import Mathlib.Data.List.Perm.Subperm

/-!
# Searches that return

A search enters one directory inside the other, and there is room for so many only. The directories
on a trail are pairwise different, so a trail is not longer than there are directories, whatever
links lead back. With no links followed it is not longer than real directories are nested.

- `Trail.length_parts`: a path is as long as its trail.
- `Trail.exists_place`: with no links followed, a trail leads where its names lead.
- `FileSystem.HasRoom`: the directories below a root are not nested too deep to be entered.
- `not_meetsTooDeep_of_directories`, `not_meetsTooDeep_of_hasRoom`: no directory lies too deep if
  there is room for all of them, or if no links are followed and there is room for the nesting.
- `search_returns`: **a search returns if there is room and the size limit can be computed.**
-/

namespace ScriptAudit

open Search

variable {fs : FileSystem} {settings : Settings} {root path : Path} {here : Location}
  {through : List Location} {name : String}

/-- What is on the agenda of a search are spots, at every stage. -/
theorem Stage.Reached.sound {s : Stage} (h : Stage.Reached fs settings root s) :
    Stage.Sound fs settings root s :=
  h.invariant (.start fs settings root) fun _ _ _ hs _ hmoves => hs.step hmoves

/-! ## The length of trails -/

theorem length_parts_below (path : Path) (name : String) :
    (below path name).parts.length = path.parts.length + 1 := by
  simp [below]

/-- A path is longer than the root by one name for each directory that was entered on its trail. -/
theorem Trail.length_parts (h : Trail fs settings root path through) :
    path.parts.length + 1 = root.parts.length + through.length := by
  induction h with
  | root hlocate hdirectory => simp
  | enter htrail hlists hname hleads hlocate hdirectory hfresh ih =>
    rw [length_parts_below, List.length_cons]
    omega

theorem Trail.hasDirectory (h : Trail fs settings root path through) :
    ∀ here ∈ through, fs.HasDirectory here := by
  induction h with
  | root hlocate hdirectory => simpa using hdirectory
  | enter htrail hlists hname hleads hlocate hdirectory hfresh ih =>
    exact List.forall_mem_cons.2 ⟨hdirectory, ih⟩

/-- A trail goes through each directory once at most. -/
theorem Trail.length_le (h : Trail fs settings root path through) :
    through.length ≤ fs.directories.length := by
  refine (List.subperm_of_subset h.nodup fun here hmem => ?_).length_le
  obtain ⟨entries, hat⟩ := h.hasDirectory here hmem
  exact FileSystem.mem_directories hat

/-! ## With no links followed -/

/-- What is a directory without any link being followed is one where it stands. -/
theorem hasDirectory_of_leadsTo (hlocate : fs.locate true path = .ok here)
    (hleads : leadsTo fs false Entry.isDirectory (below path name) = .ok true) :
    fs.HasDirectory (here ++ [name]) := by
  rw [leadsTo, listed_below hlocate] at hleads
  cases hat : fs.at? (here ++ [name]) with
  | none => simp [hat] at hleads
  | some e =>
    cases e with
    | directory entries => exact ⟨entries, hat⟩
    | _ => simp [hat, Entry.isDirectory] at hleads

/-- A real directory in a directory is looked up where it is. -/
theorem eq_of_locate_realDirectory (hsound : fs.IsSound) {there : Location}
    (hlocate : fs.locate true path = .ok here)
    (hleads : leadsTo fs false Entry.isDirectory (below path name) = .ok true)
    (hthere : fs.locate true (below path name) = .ok there) : there = here ++ [name] := by
  obtain ⟨entries, hat⟩ := hasDirectory_of_leadsTo hlocate hleads
  rcases FileSystem.locate_entry hsound hlocate hat with ⟨refusal, -, herror⟩ | ⟨-, -, hplace⟩
  · rw [herror true] at hthere
    cases hthere
  · rw [hplace true (.inr rfl)] at hthere
    cases hthere
    rfl

/-- With no links followed, a trail leads where the names on its path lead from the root. -/
theorem Trail.exists_place (hsound : fs.IsSound) (hfollow : settings.followLinks = false)
    (h : Trail fs settings root path through) :
    ∃ top names, fs.locate true root = .ok top ∧ path = root.along names ∧
      through.head? = some (top ++ names) := by
  induction h with
  | @root here hlocate hdirectory => exact ⟨here, [], hlocate, by simp, by simp⟩
  | @enter path name here there through htrail hlists hname hleads hlocate hdirectory hfresh ih =>
    obtain ⟨top, names, htop, rfl, hhere⟩ := ih
    cases hhere
    rw [hfollow] at hleads
    obtain rfl := eq_of_locate_realDirectory hsound htrail.locate_eq hleads hlocate
    exact ⟨top, names ++ [name], htop, Path.below_along .., by simp⟩

/-! ## Room -/

/-- Whether directories below a root are nested no deeper than they can be entered. -/
def FileSystem.HasRoom (fs : FileSystem) (root : Path) : Prop :=
  ∀ top names, fs.locate true root = .ok top → fs.HasDirectory (top ++ names) →
    names.length ≤ fs.room

/-- Where there is room for all directories inside each other, none lies too deep. -/
theorem not_meetsTooDeep_of_directories (hroom : fs.directories.length ≤ fs.room) :
    ¬MeetsTooDeep fs settings root := by
  rintro ⟨s, path, hreached, hdeep⟩
  rcases hreached.sound.directories path List.mem_cons_self with rfl | ⟨hspot, -⟩
  · omega
  · obtain ⟨parent, name, here, through, rfl, htrail, -, -⟩ := hspot
    have hlength := htrail.length_parts
    have hle := htrail.length_le
    rw [length_parts_below] at hdeep
    omega

/-- With no links followed it is enough that there is room for the nesting. -/
theorem not_meetsTooDeep_of_hasRoom (hsound : fs.IsSound) (hfollow : settings.followLinks = false)
    (hroom : fs.HasRoom root) : ¬MeetsTooDeep fs settings root := by
  rintro ⟨s, path, hreached, hdeep⟩
  rcases hreached.sound.directories path List.mem_cons_self with rfl | ⟨hspot, -, hleads⟩
  · omega
  · obtain ⟨parent, name, here, through, rfl, htrail, -, -⟩ := hspot
    obtain ⟨top, names, htop, rfl, hhere⟩ := htrail.exists_place hsound hfollow
    cases hhere
    rw [hfollow] at hleads
    have hdirectory := hasDirectory_of_leadsTo htrail.locate_eq hleads
    rw [List.append_assoc] at hdirectory
    have hle := hroom top _ htop hdirectory
    simp only [length_parts_below, Path.along, List.length_append, List.length_singleton]
      at hdeep hle
    omega

/-- **A search returns if there is room and the size limit can be computed.** Links that lead back to
where the search came from take no room of their own. -/
theorem search_returns (hwhole : root.isBroken = false) (hfinite : ¬settings.IsBoundless)
    (hroom : fs.directories.length ≤ fs.room ∨
      fs.IsSound ∧ settings.followLinks = false ∧ fs.HasRoom root) :
    ∃ found, search fs settings root = .ok found := by
  have hdeep : ¬MeetsTooDeep fs settings root := by
    rcases hroom with hroom | ⟨hsound, hfollow, hroom⟩
    · exact not_meetsTooDeep_of_directories hroom
    · exact not_meetsTooDeep_of_hasRoom hsound hfollow hroom
  cases hlimit : settings.sizeLimit with
  | error e => exact absurd (Settings.exists_sizeLimit_error_iff.1 ⟨e, hlimit⟩) hfinite
  | ok limit =>
    obtain ⟨last, hlast⟩ := exists_explore hwhole hlimit hdeep
    exact ⟨_, search_eq_ok_iff.2 ⟨last, hlast, rfl⟩⟩

end ScriptAudit
