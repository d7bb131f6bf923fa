import ScriptAudit.Proofs.LinkWays
import ScriptAudit.Proofs.RunEnds

/-!
# Canonical roots

A path is made canonical step by step, each link being worked off once and then remembered. As long
as no links run in a circle the outcome is where the way along the path leads, so a root that the
system can reach is returned under its only canonical path. Where they do run in a circle the rest of
the way is judged by its text, and then there may be links in what is returned. A link of which the
system does not tell stays in the path, but then the system cannot say what the path leads to.

- `FileSystem.Knows`: what is remembered of links is right, and each link is either new, remembered,
  or one of those that are just being worked off.
- `canonicalFrom_of_leads`: working off steps ends where they lead, and keeps this.
- `FileSystem.IsSettled`: a location without dots on the way to which the system tells of no links.
  `Leads.isSettled`, `IsSettled.leads`: ways lead to such locations, and these to themselves.
- `FileSystem.IsCanonical`: a location without dots on the way to which there are no links.
  `IsSettled.isCanonical`: a settled location that the system can find is canonical.
- `FileSystem.HasWholeNames`: no name has a NUL in it.
- `checkRootFor_canonical`: **reached directories are returned under their canonical path**, which is
  returned unchanged itself; all else is a problem with a path, unless there is a NUL in the path or
  the system leaves it open what its canonical form leads to.
-/

namespace ScriptAudit

namespace FileSystem

variable {fs : FileSystem} {here there : Location} {steps : List String} {links budget : Nat}

/-! ## Working off steps -/

section

variable {fresh : List Location} {settled : List (Location × Location)} {link : Location}
  {busy others : Location → Prop}

/-- What is known while steps are worked off: the settled links lead where they are said to lead, and
every link is fresh, settled or busy. -/
structure Knows (fs : FileSystem) (fresh : List Location) (settled : List (Location × Location))
    (busy : Location → Prop) : Prop where
  right : ∀ {link found}, settled.lookup link = some found → ∃ links, fs.LinkLeads links link found
  every : ∀ {link target}, fs.linkAt? link = some target →
    link ∈ fresh ∨ (∃ found, settled.lookup link = some found) ∨ busy link

/-- A link whose target leads nowhere or through at least so many links. -/
def TakesAtLeast (fs : FileSystem) (links : Nat) (link : Location) : Prop :=
  ∀ {more found}, fs.LinkLeads more link found → links ≤ more

theorem TakesAtLeast.mono {fewer : Nat} (h : fs.TakesAtLeast links link) (hle : fewer ≤ links) :
    fs.TakesAtLeast fewer link :=
  fun hleads => Nat.le_trans hle (h hleads)

namespace Knows

theorem mono (h : fs.Knows fresh settled busy) (hsub : ∀ {link}, busy link → others link) :
    fs.Knows fresh settled others where
  right := h.right
  every hlink := (h.every hlink).imp_right (Or.imp_right hsub)

/-- At the beginning every link is fresh. -/
theorem start (fs : FileSystem) (busy : Location → Prop) : fs.Knows fs.links [] busy where
  right h := by cases h
  every hlink := .inl (mem_links hlink)

/-- A link becomes busy when it is first met. -/
theorem erase (h : fs.Knows fresh settled busy) (link : Location) :
    fs.Knows (fresh.erase link) settled (fun other => busy other ∨ other = link) where
  right := h.right
  every {other target} hlink := by
    by_cases hsame : other = link
    · exact .inr (.inr (.inr hsame))
    · refine (h.every hlink).imp (List.mem_erase_of_ne hsame).2 (Or.imp_right .inl)

/-- A busy link becomes settled when its target has been worked off. -/
theorem settle (h : fs.Knows fresh settled fun other => busy other ∨ other = link)
    (hleads : fs.LinkLeads links link there) :
    fs.Knows fresh ((link, there) :: settled) busy where
  right {other found} hlookup := by
    rw [List.lookup_cons] at hlookup
    split at hlookup
    · rename_i hsame
      cases hlookup
      rw [beq_iff_eq] at hsame
      exact ⟨links, hsame ▸ hleads⟩
    · exact h.right hlookup
  every {other target} hlink := by
    -- The link that was settled comes first in a look-up, and every other one is found as before.
    by_cases hsame : other = link
    · exact .inr (.inl ⟨there, by simp [hsame]⟩)
    · have hlookup : ((link, there) :: settled).lookup other = settled.lookup other := by
        rw [List.lookup_cons, beq_eq_false_iff_ne.2 hsame]
      rw [hlookup]
      exact (h.every hlink).imp_right (Or.imp_right (Or.resolve_right · hsame))

end Knows

/-- Steps are worked off to where they lead. A link that is busy takes at least as many links as are
still to come, so none of these comes back to it. -/
theorem canonicalFrom_of_leads (h : fs.Leads links here steps there)
    (hknows : fs.Knows fresh settled (fs.TakesAtLeast links)) (tasks : List Task) :
    ∃ fresh' settled', fs.canonicalFrom fresh settled here (steps.map .step ++ tasks)
        = fs.canonicalFrom fresh' settled' there tasks ∧
      ∀ busy, fs.Knows fresh settled busy → fs.Knows fresh' settled' busy := by
  induction h generalizing fresh settled tasks with
  | done here => exact ⟨fresh, settled, rfl, fun _ hknows => hknows⟩
  | up h ih =>
    obtain ⟨fresh', settled', heq, hkeep⟩ := ih hknows tasks
    exact ⟨fresh', settled', (canonicalFrom_up ..).trans heq, hkeep⟩
  | name hname hother h ih =>
    obtain ⟨fresh', settled', heq, hkeep⟩ := ih hknows tasks
    exact ⟨fresh', settled', (canonicalFrom_entry hname hother _).trans heq, hkeep⟩
  | link hname hlink htarget h ihTarget ih =>
    rename_i within after here mid there name target rest
    have hleads : fs.LinkLeads within (here ++ [name]) mid :=
      ⟨target, hlink, by simpa using htarget⟩
    have hafter {link : Location} (hbusy : fs.TakesAtLeast (within + after + 1) link) :
        fs.TakesAtLeast after link := hbusy.mono (by omega)
    -- A fresh link is followed and settled behind its target. One that is not fresh has been
    -- settled before, since a busy one would take more links than are left.
    by_cases hfresh : here ++ [name] ∈ fresh
    · have hinside : fs.Knows (fresh.erase (here ++ [name])) settled (fs.TakesAtLeast within) := by
        refine (hknows.erase (here ++ [name])).mono fun hbusy => ?_
        rcases hbusy with hbusy | rfl
        · exact hbusy.mono (by omega)
        · exact fun hleads' => Nat.le_of_eq (hleads.unique hleads').1
      obtain ⟨fresh', settled', heq, hkeep⟩ :=
        ihTarget hinside (.settle (here ++ [name]) :: (rest.map .step ++ tasks))
      obtain ⟨fresh'', settled'', heq', hkeep'⟩ :=
        ih (((hkeep _ (hknows.erase _)).settle hleads).mono hafter) tasks
      refine ⟨fresh'', settled'', ?_, fun busy hknows =>
        hkeep' busy ((hkeep _ (hknows.erase _)).settle hleads)⟩
      rw [List.map_cons, List.cons_append, canonicalFrom_fresh hname hlink hfresh, Task.ofText, heq,
        canonicalFrom_settle, heq']
    · rcases hknows.every hlink with hmem | ⟨found, hsettled⟩ | hbusy
      · exact absurd hmem hfresh
      · obtain ⟨_, hfound⟩ := hknows.right hsettled
        obtain ⟨-, rfl⟩ := hleads.unique hfound
        obtain ⟨fresh', settled', heq, hkeep⟩ := ih (hknows.mono hafter) tasks
        exact ⟨fresh', settled', (canonicalFrom_settled hname hlink hfresh hsettled _).trans heq,
          hkeep⟩
      · have := hbusy hleads
        omega

end

/-- The canonical form of a path is where it leads. -/
theorem canonical_of_leads {path : Path} (h : fs.Leads links [] path.parts there) :
    fs.canonical path = .ofParts there := by
  obtain ⟨fresh, settled, heq, -⟩ := canonicalFrom_of_leads h (Knows.start fs _) []
  rw [List.append_nil] at heq
  rw [canonical, heq, canonicalFrom]

/-! ## Canonical locations -/

/-- Neither single nor double dots are among some names. -/
def IsUndotted (names : List String) : Prop :=
  ∀ name ∈ names, name ≠ "." ∧ name ≠ ".."

theorem isUndotted_snoc {names : List String} {name : String} (h : IsUndotted names)
    (hdot : name ≠ ".") (hup : name ≠ "..") : IsUndotted (names ++ [name]) :=
  List.forall_mem_append.2 ⟨h, by simpa using ⟨hdot, hup⟩⟩

/-- There are no dots in a location, and the system tells of no links on the way to it. -/
structure IsSettled (fs : FileSystem) (here : Location) : Prop where
  undotted : IsUndotted here
  linkless : ∀ above, above <+: here → fs.linkAt? above = none

namespace IsSettled

theorem top (fs : FileSystem) : fs.IsSettled [] where
  undotted := by simp [IsUndotted]
  linkless above h := by
    obtain rfl := List.prefix_nil.1 h
    rfl

theorem of_isPrefix {above : Location} (h : fs.IsSettled here) (habove : above <+: here) :
    fs.IsSettled above where
  undotted name hmem := h.undotted name (habove.subset hmem)
  linkless _ h' := h.linkless _ (h'.trans habove)

theorem snoc {name : String} (h : fs.IsSettled here) (hdot : name ≠ ".") (hup : name ≠ "..")
    (hother : fs.linkAt? (here ++ [name]) = none) : fs.IsSettled (here ++ [name]) where
  undotted := isUndotted_snoc h.undotted hdot hup
  linkless above habove := by
    rcases List.prefix_concat_iff.1 habove with rfl | habove
    · exact hother
    · exact h.linkless above habove

theorem targetStart (h : fs.IsSettled here) (target : String) :
    fs.IsSettled (targetStart here target) := by
  rw [FileSystem.targetStart]
  split
  · exact top fs
  · exact h

/-- From any place on the way to a settled location, the rest of its names leads to it. -/
theorem leads {names : Location} (h : fs.IsSettled (here ++ names)) :
    fs.Leads 0 here names (here ++ names) := by
  induction names generalizing here with
  | nil => simpa using Leads.done here
  | cons name names ih =>
    have hassoc : here ++ name :: names = here ++ [name] ++ names := by simp
    rw [hassoc] at h ⊢
    refine .name (h.undotted name (by simp)).2 ?_ (ih h)
    exact h.linkless _ (List.prefix_append _ _)

/-- A settled path is its own canonical form. -/
theorem canonical_eq (h : fs.IsSettled here) : fs.canonical (.ofParts here) = .ofParts here :=
  canonical_of_leads (@leads fs [] here h)

end IsSettled

theorem dot_notMem_components (text : String) : "." ∉ Path.components text := by
  simp [Path.components]

/-- Ways lead from settled locations to settled locations. -/
theorem Leads.isSettled (h : fs.Leads links here steps there) (hsteps : "." ∉ steps)
    (hhere : fs.IsSettled here) : fs.IsSettled there := by
  induction h with
  | done here => exact hhere
  | up h ih =>
    exact ih (fun hmem => hsteps (.tail _ hmem)) (hhere.of_isPrefix (List.dropLast_prefix _))
  | name hname hother h ih =>
    refine ih (fun hmem => hsteps (.tail _ hmem)) (hhere.snoc ?_ hname hother)
    rintro rfl
    exact hsteps (.head _)
  | link hname hlink htarget h ihTarget ih =>
    exact ih (fun hmem => hsteps (.tail _ hmem))
      (ihTarget (dot_notMem_components _) (hhere.targetStart _))

/-- There are no dots in a location, and no links on the way to it. -/
structure IsCanonical (fs : FileSystem) (here : Location) : Prop where
  undotted : IsUndotted here
  linkless : ∀ above, above <+: here → ∀ target, fs.at? above ≠ some (.link target)

/-- The path of what is above a location is not longer. -/
theorem utf8ByteSize_of_isPrefix {above : Location} (h : above <+: here) :
    (Path.ofParts above).text.utf8ByteSize ≤ (Path.ofParts here).text.utf8ByteSize := by
  -- Parts that are added at the end only make the joined text longer.
  have hjoined : ∀ {some more : List String}, some <+: more →
      (Path.joined some).utf8ByteSize ≤ (Path.joined more).utf8ByteSize := by
    intro some more hprefix
    induction some generalizing more with
    | nil => simp [Path.joined]
    | cons part some ih =>
      obtain ⟨more, rfl, hrest⟩ := List.cons_prefix_iff.1 hprefix
      have hrest := ih hrest
      rcases some with _ | ⟨first, some⟩ <;> rcases more with _ | ⟨second, more⟩
      · exact Nat.le_refl _
      · simp only [Path.joined, String.intercalate_cons_cons, String.intercalate_singleton,
          String.utf8ByteSize_append]
        omega
      · simp at hprefix
      · simp only [Path.joined, String.intercalate_cons_cons, String.utf8ByteSize_append] at hrest ⊢
        omega
  have hle := hjoined h
  simp only [Path.ofParts, Path.text, if_true, String.utf8ByteSize_append]
  omega

/-- Where the system finds something under the path of a settled location, there is no link on the
way to it: the system would have told of it. So it is found at that very location. -/
theorem Finds.linkless {names : Location} (h : fs.Finds here names there)
    (hsettled : fs.IsSettled (here ++ names)) (hhere : fs.IsPassed here)
    (hshort : (Path.ofParts (here ++ names)).text.utf8ByteSize ≤ longestPath)
    (habove : ∀ above, above <+: here → ∀ target, fs.at? above ≠ some (.link target)) :
    there = here ++ names ∧
      ∀ above, above <+: here ++ names → ∀ target, fs.at? above ≠ some (.link target) := by
  induction h with
  | done here =>
    rw [List.append_nil]
    exact ⟨rfl, habove⟩
  | dot h ih => exact absurd rfl (hsettled.undotted "." (by simp)).1
  | up h ih => exact absurd rfl (hsettled.undotted ".." (by simp)).2
  | entry hopen hname hentry hother h ih =>
    rename_i here there name rest e
    rw [List.append_cons] at hsettled hshort ⊢
    refine ih hsettled (hhere.snoc hopen hname) hshort fun above hprefix => ?_
    rcases List.prefix_concat_iff.1 hprefix with rfl | hprefix
    · intro target hlink
      exact hother target (Option.some.inj (hentry.symm.trans hlink))
    · exact habove above hprefix
  | link hopen hname hlink h ih =>
    rename_i here there name target rest
    rw [List.append_cons] at hsettled hshort
    -- The path of the link is short, so the system tells of it.
    have hpassed := hhere.snoc hopen hname
    have hprefix : here ++ [name] <+: here ++ [name] ++ rest := List.prefix_append _ _
    have htold := linkAt?_of_isOpen hlink hpassed.isOpen hpassed.names
      (Nat.le_trans (utf8ByteSize_of_isPrefix hprefix) hshort)
    rw [hsettled.linkless _ hprefix] at htold
    cases htold

/-- A settled location under whose path the system finds something is canonical, and is what it
finds. -/
theorem IsSettled.isCanonical (h : fs.IsSettled here)
    (hlocate : fs.locate true (.ofParts here) = .ok there) : there = here ∧ fs.IsCanonical here := by
  obtain ⟨hthere, hlinkless⟩ := @Finds.linkless fs [] there here (finds_of_locate hlocate) h (.top fs)
    (Nat.not_lt.1 (short_of_locate hlocate)) (by
      intro above hprefix target hlink
      obtain rfl := List.prefix_nil.1 hprefix
      cases hlink)
  exact ⟨hthere, h.undotted, hlinkless⟩

/-! ## Dots

Where links run in a circle, the double dots that are left are taken out of the text. So there are
never any dots in what is found. -/

section

variable {names : List String} {here : Location}

theorem isUndotted_normal {absolute : Bool} (hnames : "." ∉ names) :
    IsUndotted (Path.normal ⟨absolute, names⟩) := by
  -- Each step keeps dots out of the parts that were read so far.
  have hfold : ∀ above, IsUndotted above → IsUndotted (names.foldl Path.normalStep above) := by
    intro above habove
    induction names generalizing above with
    | nil => exact habove
    | cons name names ih =>
      refine ih (fun hmem => hnames (.tail _ hmem)) _ ?_
      rw [Path.normalStep]
      split
      · exact fun name hmem => habove name (List.drop_subset _ _ hmem)
      · rename_i hup
        refine List.forall_mem_cons.2 ⟨⟨?_, hup⟩, habove⟩
        rintro rfl
        exact hnames (.head _)
  intro name hmem
  exact hfold [] (by simp [IsUndotted]) name (List.mem_reverse.1 hmem)

theorem names_ofText (target : String) (tasks : List Task) :
    Task.names (Task.ofText target ++ tasks) = Path.components target ++ Task.names tasks := by
  rw [Task.names, Task.ofText, List.filterMap_append, List.filterMap_map]
  exact congrArg (· ++ _) List.filterMap_some

theorem canonicalFrom_isUndotted {fresh : List Location} {settled : List (Location × Location)}
    {tasks : List Task} (hhere : IsUndotted here)
    (hsettled : ∀ {link found}, settled.lookup link = some found → IsUndotted found)
    (htasks : "." ∉ Task.names tasks) :
    IsUndotted (fs.canonicalFrom fresh settled here tasks) := by
  -- Whichever task comes first, it leaves a location without dots to those behind it.
  induction fresh, settled, here, tasks using canonicalFrom.induct fs with
  | case1 fresh settled here => rwa [canonicalFrom]
  | case2 fresh settled here link tasks ih =>
    rw [canonicalFrom_settle]
    refine ih hhere (fun {other found} hlookup => ?_) htasks
    rw [List.lookup_cons] at hlookup
    split at hlookup
    · cases hlookup
      exact hhere
    · exact hsettled hlookup
  | case3 fresh settled here tasks ih =>
    rw [canonicalFrom_up]
    exact ih (fun name hmem => hhere name (List.dropLast_subset _ hmem)) hsettled
      fun hmem => htasks (.tail _ hmem)
  | case4 fresh settled here name tasks hup next target hlink hfresh ih =>
    rw [canonicalFrom_fresh hup hlink (by simpa using hfresh)]
    refine ih ?_ hsettled ?_
    · rw [targetStart]
      split
      · simp [IsUndotted]
      · exact hhere
    · rw [names_ofText, List.mem_append]
      exact fun hmem => hmem.elim (dot_notMem_components target) fun hmem => htasks (.tail _ hmem)
  | case5 fresh settled here name tasks hup next target hlink hmet found hfound ih =>
    rw [canonicalFrom_settled hup hlink (by simpa using hmet) hfound]
    exact ih (hsettled hfound) hsettled fun hmem => htasks (.tail _ hmem)
  | case6 fresh settled here name tasks hup next target hlink hmet hcircle =>
    -- On a circle the path is left as it stands, and only cleaned up.
    have hnotMem : here ++ [name] ∉ fresh := by simpa using hmet
    have hnormal : fs.canonicalFrom fresh settled here (.step name :: tasks)
        = Path.normal ⟨true, here ++ [name] ++ Task.names tasks⟩ := by
      simp [canonicalFrom, hup, next, hlink, hnotMem, hcircle]
    rw [hnormal]
    refine isUndotted_normal fun hmem => ?_
    rw [List.append_assoc, List.mem_append] at hmem
    exact hmem.elim (fun hmem => (hhere _ hmem).1 rfl) htasks
  | case7 fresh settled here name tasks hup next hother ih =>
    rw [canonicalFrom_entry hup hother]
    refine ih (isUndotted_snoc hhere ?_ hup) hsettled fun hmem => htasks (.tail _ hmem)
    rintro rfl
    exact htasks (.head _)

end

/-! ## Names without a NUL -/

/-- No name in a file system has a NUL in it. -/
def HasWholeNames (fs : FileSystem) : Prop :=
  ∀ here ∈ fs.root.locations (fun _ => true) [], (Path.ofParts here).isBroken = false

instance (fs : FileSystem) : Decidable fs.HasWholeNames :=
  inferInstanceAs (Decidable (∀ _ ∈ _, _))

theorem HasWholeNames.of_at? {e : Entry} (hnames : fs.HasWholeNames)
    (hat : fs.at? here = some e) : (Path.ofParts here).isBroken = false :=
  hnames here (Entry.mem_locations hat rfl [])

theorem HasWholeNames.of_at?_name {e : Entry} {name : String} (hnames : fs.HasWholeNames)
    (hat : fs.at? (here ++ [name]) = some e) : (Path.ofParts [name]).isBroken = false := by
  have hwhole := hnames.of_at? hat
  simp only [Path.ofParts, Path.isBroken, List.any_append, Bool.or_eq_false_iff] at hwhole
  exact hwhole.2

/-- A NUL stands in a path if it stands in its first step or in the others. -/
theorem isBroken_cons (step : String) (rest : List String) :
    (Path.ofParts (step :: rest)).isBroken
      = ((Path.ofParts [step]).isBroken || (Path.ofParts rest).isBroken) := by
  simp [Path.ofParts, Path.isBroken]

/-- Where something is found, the system could be asked about all steps. -/
theorem Finds.isBroken_eq_false (h : fs.Finds here steps there) (hnames : fs.HasWholeNames) :
    (Path.ofParts steps).isBroken = false := by
  induction h with
  | done here => rfl
  | dot h ih => rw [isBroken_cons, ih]; decide
  | up h ih => rw [isBroken_cons, ih]; decide
  | entry hopen hname hentry hother h ih => rw [isBroken_cons, ih, hnames.of_at?_name hentry]; rfl
  | link hopen hname hlink h ih =>
    rename_i here there name target rest
    rw [isBroken_cons, hnames.of_at?_name hlink]
    simp only [Path.ofParts, Path.isBroken, List.any_append, Bool.or_eq_false_iff] at ih
    exact ih.2

/-! ## Roots -/

section

variable {refusal : Path → Option String} {path found : Path}

theorem Unusable.exists_badPath {p : Problem} (h : fs.Unusable path p) :
    ∃ about reason, Failure.problem p = badPath about reason := by
  cases h <;> exact ⟨_, _, rfl⟩

/-- A root is returned under its canonical form if that leads to a directory that can be read. If it
is not, there is a problem with its path, unless the system cannot be asked or leaves it open. -/
theorem checkRootFor_cases (refusal : Path → Option String) (fs : FileSystem) (path : Path) :
    (fs.IsUsable path ∧ refusal (fs.canonical path) = none ∧
        fs.checkRootFor refusal path = .ok (fs.canonical path)) ∨
      (∃ about reason, fs.checkRootFor refusal path = .error (badPath about reason)) ∨
      (path.isBroken = true ∧ fs.checkRootFor refusal path = .error .brokenPath) ∨
      ∃ e, fs.LeavesOpen path e ∧
        fs.checkRootFor refusal path = .error (inaccessible (fs.canonical path) e) := by
  cases hbroken : path.isBroken with
  | true => exact .inr (.inr (.inl ⟨rfl, checkRootFor_of_broken refusal hbroken⟩))
  | false =>
    -- The system can refuse, leave it open, or lead to a directory; the refusal is asked for last.
    rcases @root_cases fs path hbroken with ⟨p, hunusable⟩ | ⟨e, hopen⟩ | husable
    · obtain ⟨about, reason, hproblem⟩ := hunusable.exists_badPath
      refine .inr (.inl ⟨about, reason, ?_⟩)
      rw [checkRootFor_of_unusable refusal hunusable, hproblem]
    · exact .inr (.inr (.inr ⟨e, hopen, checkRootFor_of_leavesOpen refusal hbroken hopen⟩))
    · have hcheck := checkRootFor_of_isUsable refusal husable
      cases hrefusal : refusal (fs.canonical path) with
      | none => exact .inl ⟨husable, rfl, by rw [hcheck, hrefusal]⟩
      | some reason => exact .inr (.inl ⟨_, _, by rw [hcheck, hrefusal]⟩)

theorem checkRootFor_eq_ok_iff :
    fs.checkRootFor refusal path = .ok found ↔
      fs.IsUsable path ∧ fs.canonical path = found ∧ refusal found = none := by
  constructor
  · intro h
    rcases checkRootFor_cases refusal fs path with
      ⟨husable, hrefusal, hcheck⟩ | ⟨_, _, hcheck⟩ | ⟨_, hcheck⟩ | ⟨_, _, hcheck⟩
    · cases hcheck.symm.trans h
      exact ⟨husable, rfl, hrefusal⟩
    all_goals cases hcheck.symm.trans h
  · rintro ⟨husable, rfl, hrefusal⟩
    rw [checkRootFor_of_isUsable refusal husable, hrefusal]

/-- Whether a directory may be read and searched. -/
def IsListable (fs : FileSystem) (here : Location) : Prop :=
  fs.mayRead here = true ∧ fs.maySearch here = true

theorem mayList_iff (hlocate : fs.locate true path = .ok here) :
    fs.mayList path = true ↔ fs.IsListable here := by
  rw [mayList, hlocate, Bool.and_eq_true]
  rfl

/-- A path is the canonical one of a directory that can be read, and it is returned unchanged when
it is checked itself. -/
structure IsCanonicalRoot (refusal : Path → Option String) (fs : FileSystem) (found : Path)
    (here : Location) : Prop where
  path : found = .ofParts here
  canonical : fs.IsCanonical here
  directory : fs.HasDirectory here
  listable : fs.IsListable here
  again : fs.checkRootFor refusal found = .ok found

/-- What is returned for a path that leads somewhere is the canonical path of that place. -/
theorem isCanonicalRoot_of_leads (hparsed : "." ∉ path.parts) (hnames : fs.HasWholeNames)
    (hleads : fs.Leads links [] path.parts here) (h : fs.checkRootFor refusal path = .ok found) :
    IsCanonicalRoot refusal fs found here := by
  obtain ⟨husable, hfound, hrefusal⟩ := checkRootFor_eq_ok_iff.1 h
  obtain rfl : .ofParts here = found := (canonical_of_leads hleads).symm.trans hfound
  obtain ⟨-, hisDirectory, hlist⟩ := husable
  rw [hfound] at hisDirectory hlist
  have hsettled : fs.IsSettled here := hleads.isSettled hparsed (.top fs)
  -- The system finds a directory under the canonical path, and so finds it at this location.
  obtain ⟨there, hlocate, hdirectory⟩ := exists_locate_of_isDirectory hisDirectory
  obtain ⟨rfl, hcanonical⟩ := hsettled.isCanonical hlocate
  obtain ⟨entries, hat⟩ := hdirectory
  have hagain : fs.IsUsable (.ofParts there) := by
    refine ⟨hnames.of_at? hat, ?_, ?_⟩ <;> rw [hsettled.canonical_eq]
    · exact hisDirectory
    · exact hlist
  exact {
    path := rfl
    canonical := hcanonical
    directory := ⟨entries, hat⟩
    listable := (mayList_iff hlocate).1 hlist
    again := checkRootFor_eq_ok_iff.2 ⟨hagain, hsettled.canonical_eq, hrefusal⟩ }

/-- A directory that the system reaches is returned under its canonical path, unless that is too
long, or the path of some link is. -/
theorem checkRootFor_of_locate (hlinks : fs.HasShortLinks) (hparsed : "." ∉ path.parts)
    (hnames : fs.HasWholeNames) (hlocate : fs.locate true path = .ok here)
    (hdirectory : fs.HasDirectory here)
    (hshort : (Path.ofParts here).text.utf8ByteSize ≤ longestPath) (hlistable : fs.IsListable here)
    (hrefusal : refusal (.ofParts here) = none) :
    fs.checkRootFor refusal path = .ok (.ofParts here) := by
  obtain ⟨links, hleads⟩ := leads_of_locate hlinks hparsed hlocate
  have hfinds := finds_of_locate hlocate
  have hpassed := hfinds.isPassed (.top fs)
  obtain ⟨entries, hat⟩ := hdirectory
  -- There are no links on a canonical path, so it leads to the same directory.
  have hagain : fs.locate true (.ofParts here) = .ok here := by
    rw [locate_eq_locateFrom (Nat.not_lt.2 hshort)]
    exact @locateFrom_names fs [] here _ true hat hpassed.isOpen hpassed.names (.inr rfl) _
  have hcanonical := canonical_of_leads hleads
  refine checkRootFor_eq_ok_iff.2 ⟨⟨hfinds.isBroken_eq_false hnames, ?_, ?_⟩, hcanonical, hrefusal⟩
  · rw [hcanonical]
    exact isDirectory_of_locate hagain ⟨entries, hat⟩
  · rw [hcanonical]
    exact (mayList_iff hagain).2 hlistable

/-- **Reached directories are returned under their canonical path**, if neither that nor the path of
a link is too long. Whatever is returned is an absolute path without dots of an existing directory
that can be read, and the canonical path of that directory, returned unchanged itself, unless the
path that was given circles. Everything else ends in a problem with a path, unless there is a NUL in
the path or the system leaves it open what its canonical form leads to. -/
theorem checkRootFor_canonical (refusal : Path → Option String) (hparsed : "." ∉ path.parts)
    (hnames : fs.HasWholeNames) :
    (∀ here, fs.HasShortLinks → fs.locate true path = .ok here → fs.HasDirectory here →
        (Path.ofParts here).text.utf8ByteSize ≤ longestPath → fs.IsListable here →
        refusal (.ofParts here) = none →
        ∃ found, fs.checkRootFor refusal path = .ok found ∧
          IsCanonicalRoot refusal fs found here) ∧
      (∀ found, fs.checkRootFor refusal path = .ok found →
        (found.absolute = true ∧ IsUndotted found.parts ∧ refusal found = none ∧
          ∃ here, fs.locate true found = .ok here ∧ fs.HasDirectory here ∧ fs.IsListable here) ∧
        (¬fs.Circles path → ∃ here, IsCanonicalRoot refusal fs found here)) ∧
      ∀ e, fs.checkRootFor refusal path = .error e →
        (∃ about reason, e = badPath about reason) ∨
          (path.isBroken = true ∧ e = .brokenPath) ∨
          ∃ reason, fs.LeavesOpen path reason ∧ e = inaccessible (fs.canonical path) reason := by
  refine ⟨fun here hlinks hlocate hdirectory hshort hlistable hrefusal => ?_,
    fun found h => ⟨?_, fun hnone => ?_⟩, fun e h => ?_⟩
  · have h :=
      checkRootFor_of_locate hlinks hparsed hnames hlocate hdirectory hshort hlistable hrefusal
    obtain ⟨links, hleads⟩ := leads_of_locate hlinks hparsed hlocate
    exact ⟨_, h, isCanonicalRoot_of_leads hparsed hnames hleads h⟩
  · obtain ⟨⟨-, hisDirectory, hlist⟩, rfl, hrefusal⟩ := checkRootFor_eq_ok_iff.1 h
    obtain ⟨here, hlocate, hdirectory⟩ := exists_locate_of_isDirectory hisDirectory
    refine ⟨rfl, ?_, hrefusal, here, hlocate, hdirectory, (mayList_iff hlocate).1 hlist⟩
    refine canonicalFrom_isUndotted (by simp [IsUndotted]) (by simp) ?_
    simpa [Task.names, List.filterMap_map, Function.comp_def] using hparsed
  · -- Without a circle the links lead somewhere, and that is where the canonical path is.
    obtain ⟨links, here, hleads⟩ := exists_leads_iff_not_circles.2 hnone
    exact ⟨here, isCanonicalRoot_of_leads hparsed hnames hleads h⟩
  · -- Each failure of the check comes from one of these ways to end.
    rcases checkRootFor_cases refusal fs path with
      ⟨_, _, hcheck⟩ | ⟨about, reason, hcheck⟩ | ⟨hbroken, hcheck⟩ | ⟨reason, hopen, hcheck⟩
    all_goals cases hcheck.symm.trans h
    · exact .inl ⟨about, reason, rfl⟩
    · exact .inr (.inl ⟨hbroken, rfl⟩)
    · exact .inr (.inr ⟨reason, hopen, rfl⟩)

end

/-- A link to a directory, with an absolute target, and a link in that directory to the one beside
it. -/
def interwoven : FileSystem where
  entries := [
    ("app", .directory [("lib", .directory []), ("web", .directory [("up", .link "../lib")])]),
    ("start", .link "/app/web")]
  room := 8

theorem locate_interwoven :
    interwoven.locate true ⟨true, ["start", "..", "web", "up"]⟩ = .ok ["app", "lib"] := by
  have hstart : targetSteps "/app/web" = ["app", "web"] := by decide
  have hup : targetSteps "../lib" = ["..", "lib"] := by decide
  rw [locate_eq_locateFrom (by decide), locateFrom_link rfl (by decide) rfl (by simp), hstart]
  show interwoven.locateFrom true 39 [] ["app", "web", "..", "web", "up"] = .ok ["app", "lib"]
  rw [locateFrom_entry rfl (by decide) rfl (by simp),
    locateFrom_entry rfl (by decide) rfl (by simp), locateFrom]
  show interwoven.locateFrom true 39 ["app"] ["web", "up"] = .ok ["app", "lib"]
  rw [locateFrom_entry rfl (by decide) rfl (by simp),
    locateFrom_link rfl (by decide) rfl (by simp), hup]
  show interwoven.locateFrom true 38 ["app", "web"] ["..", "lib"] = .ok ["app", "lib"]
  rw [locateFrom]
  exact locateFrom_name rfl (by decide) rfl (by simp) true

/-- The double dots behind the first link lead to what is above its target. -/
theorem checkRootFor_canonical_interwoven :
    "." ∉ ["start", "..", "web", "up"] ∧ interwoven.HasWholeNames ∧ interwoven.HasShortLinks ∧
      ¬interwoven.Circles ⟨true, ["start", "..", "web", "up"]⟩ ∧
      ∃ found, interwoven.checkRootFor (fun _ => none) ⟨true, ["start", "..", "web", "up"]⟩
          = .ok found ∧
        IsCanonicalRoot (fun _ => none) interwoven found ["app", "lib"] := by
  have hparsed : "." ∉ (⟨true, ["start", "..", "web", "up"]⟩ : Path).parts := by decide
  have hnames : interwoven.HasWholeNames := by decide
  have hlinks : interwoven.HasShortLinks := by decide
  obtain ⟨links, hleads⟩ := leads_of_locate hlinks hparsed locate_interwoven
  have hnone := exists_leads_iff_not_circles.1 ⟨links, _, hleads⟩
  obtain ⟨hreached, -, -⟩ := checkRootFor_canonical (fun _ => none) hparsed hnames
  exact ⟨hparsed, hnames, hlinks, hnone,
    hreached _ hlinks locate_interwoven ⟨[], rfl⟩ (by decide) ⟨rfl, rfl⟩ rfl⟩

/-- A link to itself, and another one. -/
def looped : FileSystem where
  entries := [("app", .directory []), ("current", .link "app"), ("loop", .link "loop")]
  room := 8

-- Once the circle is left again, the link behind it stays as it is; it would be followed otherwise.
example : looped.canonical ⟨true, ["loop", "..", "current"]⟩ = ⟨true, ["current"]⟩ := by cbv

example : looped.canonical ⟨true, ["current"]⟩ = ⟨true, ["app"]⟩ := by cbv

end FileSystem

end ScriptAudit
