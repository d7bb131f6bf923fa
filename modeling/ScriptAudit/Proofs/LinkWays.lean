import ScriptAudit.File.Canonical
import ScriptAudit.Proofs.LookUp

/-!
# Where the links on a way lead

A way is a list of steps from a location. A name that stands for a link is a way of its own: that of
the link's target, as far as the system tells of the link. So a way leads somewhere if the ways of all the links on it do, and it leads
nowhere only if one of these comes back to the link that it belongs to. Nothing is said here of how a
way is found, of how many links the system follows, or of what is at its end.

- `FileSystem.Leads`: where a way leads, and through how many links.
- `Leads.unique`: it leads to one place only, always through the same number of links.
- `FileSystem.Finds`, `leads_of_locate`: what the system does when it finds something, and that this
  is where the way leads.
- `FileSystem.Meets`, `FileSystem.IsCircular`, `FileSystem.Circles`: the links on a way, those on the
  way of their own target, and a path on which there is one of these.
- `exists_leads_iff_not_circles`: **a path leads somewhere exactly if it does not circle.**
-/

namespace ScriptAudit

namespace FileSystem

variable {fs : FileSystem} {here there : Location} {steps : List String} {links : Nat}

/-! ## Links that the system tells of -/

theorem linkAt?_eq_some {target : String} :
    fs.linkAt? here = some target ↔
      fs.at? here = some (.link target) ∧ ∃ there, fs.locate false (.ofParts here) = .ok there := by
  unfold linkAt?
  split
  · rename_i other there hat hlocate
    simp [hat, hlocate]
  · rename_i hnone
    constructor
    · intro h
      cases h
    · rintro ⟨hat, there, hlocate⟩
      exact absurd hlocate (hnone target there hat)

/-- What the system tells of as a link is one. -/
theorem at?_of_linkAt? {target : String} (h : fs.linkAt? here = some target) :
    fs.at? here = some (.link target) :=
  (linkAt?_eq_some.1 h).1

/-- The system tells of a link under short names and a path that is short, if everything above it may
be searched. -/
theorem linkAt?_of_isOpen {target : String} (hat : fs.at? here = some (.link target))
    (hopen : fs.IsOpenFrom [] here) (hnames : ∀ name ∈ here, IsName name)
    (hshort : (Path.ofParts here).text.utf8ByteSize ≤ longestPath) :
    fs.linkAt? here = some target := by
  refine linkAt?_eq_some.2 ⟨hat, here, ?_⟩
  rw [locate_eq_locateFrom (Nat.not_lt.2 hshort)]
  exact @locateFrom_names fs [] here _ false hat hopen hnames (.inl rfl) _

/-! ## Ways -/

/-- Some steps lead from one location to another, through a number of links, those on the ways of
targets among them. Names under which there is nothing are kept. -/
inductive Leads (fs : FileSystem) : Nat → Location → List String → Location → Prop
  | done (here : Location) : Leads fs 0 here [] here
  | up {links : Nat} {here there : Location} {rest : List String}
    (h : Leads fs links here.dropLast rest there) :
    Leads fs links here (".." :: rest) there
  | name {links : Nat} {here there : Location} {name : String} {rest : List String}
    (hname : name ≠ "..") (hother : fs.linkAt? (here ++ [name]) = none)
    (h : Leads fs links (here ++ [name]) rest there) :
    Leads fs links here (name :: rest) there
  | link {within after : Nat} {here mid there : Location} {name target : String}
    {rest : List String} (hname : name ≠ "..")
    (hlink : fs.linkAt? (here ++ [name]) = some target)
    (htarget : Leads fs within (targetStart here target) (Path.components target) mid)
    (h : Leads fs after mid rest there) :
    Leads fs (within + after + 1) here (name :: rest) there

/-- The target of a link leads somewhere. -/
def LinkLeads (fs : FileSystem) (links : Nat) (link there : Location) : Prop :=
  ∃ target, fs.linkAt? link = some target ∧
    fs.Leads links (targetStart link.dropLast target) (Path.components target) there

/-- Steps lead to one location only, and always through the same number of links. -/
theorem Leads.unique {others : Nat} {elsewhere : Location} (h : fs.Leads links here steps there)
    (h' : fs.Leads others here steps elsewhere) : links = others ∧ there = elsewhere := by
  -- A name is a link or it is not, so the second way takes the rule the first took.
  induction h generalizing others elsewhere with
  | done here =>
    cases h'
    exact ⟨rfl, rfl⟩
  | up h ih =>
    cases h' with
    | up h' => exact ih h'
    | name hname _ _ => exact absurd rfl hname
    | link hname _ _ _ => exact absurd rfl hname
  | name hname hother h ih =>
    cases h' with
    | up _ => exact absurd rfl hname
    | name _ _ h' => exact ih h'
    | link _ hlink _ _ => cases hother.symm.trans hlink
  | link hname hlink htarget h ihTarget ih =>
    cases h' with
    | up _ => exact absurd rfl hname
    | name _ hother _ => cases hother.symm.trans hlink
    | link _ hlink' htarget' h' =>
      cases hlink.symm.trans hlink'
      obtain ⟨rfl, rfl⟩ := ihTarget htarget'
      obtain ⟨rfl, rfl⟩ := ih h'
      exact ⟨rfl, rfl⟩

theorem LinkLeads.unique {others : Nat} {link elsewhere : Location}
    (h : fs.LinkLeads links link there) (h' : fs.LinkLeads others link elsewhere) :
    links = others ∧ there = elsewhere := by
  obtain ⟨target, hlink, h⟩ := h
  obtain ⟨target', hlink', h'⟩ := h'
  cases hlink.symm.trans hlink'
  exact h.unique h'

/-- Steps and then more steps lead where the more lead from where the first have led. -/
theorem Leads.split {more : List String} (h : fs.Leads links here (steps ++ more) there) :
    ∃ first second mid, fs.Leads first here steps mid ∧ fs.Leads second mid more there := by
  induction steps generalizing here links with
  | nil => exact ⟨0, links, here, .done here, h⟩
  | cons step steps ih =>
    cases h with
    | up h =>
      obtain ⟨first, second, mid, hfirst, hsecond⟩ := ih h
      exact ⟨first, second, mid, .up hfirst, hsecond⟩
    | name hname hother h =>
      obtain ⟨first, second, mid, hfirst, hsecond⟩ := ih h
      exact ⟨first, second, mid, .name hname hother hfirst, hsecond⟩
    | link hname hlink htarget h =>
      obtain ⟨first, second, mid, hfirst, hsecond⟩ := ih h
      exact ⟨_, second, mid, .link hname hlink htarget hfirst, hsecond⟩

/-! ## Looking up -/

/-- The single dots of a target, which only demand a directory, are no steps of its way. -/
theorem filter_targetSteps (target : String) :
    (targetSteps target).filter (· ≠ ".") = Path.components target := by
  have hsplit : ((Text.splitString '/' target).filter (· != "")).filter (· ≠ ".")
      = Path.components target := by
    rw [Path.components, List.filter_filter]
    refine List.filter_congr fun part _ => ?_
    by_cases hdot : part = "." <;> by_cases hempty : part = "" <;> simp [hdot, hempty]
  rw [targetSteps]
  split
  · rw [List.filter_append, hsplit]
    simp
  · exact hsplit

/-- A look-up that follows all links finds something: the steps that it takes. -/
inductive Finds (fs : FileSystem) : Location → List String → Location → Prop
  | done (here : Location) : Finds fs here [] here
  | dot {here there : Location} {rest : List String} (h : Finds fs here rest there) :
    Finds fs here ("." :: rest) there
  | up {here there : Location} {rest : List String} (h : Finds fs here.dropLast rest there) :
    Finds fs here (".." :: rest) there
  | entry {here there : Location} {name : String} {rest : List String} {e : Entry}
    (hopen : fs.maySearch here = true) (hname : IsName name)
    (hentry : fs.at? (here ++ [name]) = some e) (hother : ∀ target, e ≠ .link target)
    (h : Finds fs (here ++ [name]) rest there) :
    Finds fs here (name :: rest) there
  | link {here there : Location} {name target : String} {rest : List String}
    (hopen : fs.maySearch here = true) (hname : IsName name)
    (hlink : fs.at? (here ++ [name]) = some (.link target))
    (h : Finds fs (targetStart here target) (targetSteps target ++ rest) there) :
    Finds fs here (name :: rest) there

theorem finds_of_locateFrom {budget : Nat} (h : fs.locateFrom true budget here steps = .ok there) :
    fs.Finds here steps there := by
  induction budget, here, steps using locateFrom.induct fs true with
  | case1 budget here =>
    rw [locateFrom] at h
    -- The steps that find something: the induction goes on from the place they lead to.
    cases h
    exact .done there
  | case2 budget here rest entries hat ih =>
    rw [locateFrom, hat] at h
    exact .dot (ih h)
  | case3 budget here rest entries hat _ ih =>
    rw [locateFrom, hat] at h
    exact .up (ih h)
  -- The steps that fail contradict what was found.
  | case4 budget here step rest entries hat hdot hup hlong =>
    simp [locateFrom, hat, hdot, hup, hlong] at h
  | case5 budget here step rest entries hat hdot hup hshort hnone =>
    simp [locateFrom, hat, hdot, hup, hshort, hnone] at h
  | case6 budget here step rest entries hat hdot hup hshort target hlink hlast =>
    simp at hlast
  | case7 here step rest entries hat hdot hup hshort target hlink hlast =>
    rw [locateFrom_link hat ⟨hdot, hup, Nat.not_lt.1 hshort⟩ hlink (by simp)] at h
    cases h
  | case8 here step rest entries hat hdot hup hshort target hlink hlast budget ih =>
    have hname : IsName step := ⟨hdot, hup, Nat.not_lt.1 hshort⟩
    -- The chain of links is used up.
    rw [locateFrom_link hat hname hlink (by simp)] at h
    exact .link (entriesAt_eq_ok.1 hat).2 hname ((at?_of_entriesAt hat step).trans hlink) (ih h)
  | case9 budget here step rest entries hat hdot hup hshort e hother hentry ih =>
    have hname : IsName step := ⟨hdot, hup, Nat.not_lt.1 hshort⟩
    rw [locateFrom_entry hat hname hentry hother] at h
    exact .entry (entriesAt_eq_ok.1 hat).2 hname ((at?_of_entriesAt hat step).trans hentry) hother
      (ih h)
  | case10 budget here step rest e hat =>
    rw [locateFrom_error hat] at h
    cases h

/-- What a look-up has made sure of when it comes to a location: all names are short, and everything
above it may be searched. -/
structure IsPassed (fs : FileSystem) (here : Location) : Prop where
  names : ∀ name ∈ here, IsName name
  isOpen : fs.IsOpenFrom [] here

namespace IsPassed

theorem top (fs : FileSystem) : fs.IsPassed [] where
  names := by simp
  isOpen above _ habove hne := absurd (List.prefix_nil.1 habove) hne

theorem dropLast (h : fs.IsPassed here) : fs.IsPassed here.dropLast where
  names name hmem := h.names name (List.dropLast_subset _ hmem)
  isOpen above hbelow habove hne := by
    refine h.isOpen above hbelow (habove.trans (List.dropLast_prefix _)) ?_
    rintro rfl
    exact hne (habove.eq_of_length_le (List.dropLast_prefix _).length_le)

theorem snoc {name : String} (h : fs.IsPassed here) (hopen : fs.maySearch here = true)
    (hname : IsName name) : fs.IsPassed (here ++ [name]) where
  names := List.forall_mem_append.2 ⟨h.names, by simpa using hname⟩
  isOpen above hbelow habove hne := by
    -- Above the name there is the location itself, and what is above that.
    rcases List.prefix_concat_iff.1 habove with heq | habove
    · exact absurd heq hne
    · by_cases hsame : above = here
      · rw [hsame]
        exact hopen
      · exact h.isOpen above hbelow habove hsame

theorem targetStart (h : fs.IsPassed here) (target : String) :
    fs.IsPassed (targetStart here target) := by
  rw [FileSystem.targetStart]
  split
  · exact top fs
  · exact h

end IsPassed

/-- What is found from a place that was passed was passed as well. -/
theorem Finds.isPassed (h : fs.Finds here steps there) (hhere : fs.IsPassed here) :
    fs.IsPassed there := by
  induction h with
  | done here => exact hhere
  | dot h ih => exact ih hhere
  | up h ih => exact ih hhere.dropLast
  | entry hopen hname hentry hother h ih => exact ih (hhere.snoc hopen hname)
  | link hopen hname hlink h ih => exact ih (hhere.targetStart _)

/-- Whether every link is at a path that is not too long. -/
def HasShortLinks (fs : FileSystem) : Prop :=
  ∀ link ∈ fs.links, (Path.ofParts link).text.utf8ByteSize ≤ longestPath

instance (fs : FileSystem) : Decidable fs.HasShortLinks :=
  inferInstanceAs (Decidable (∀ _ ∈ _, _))

/-- Where something is found, the way leads there: the system tells of the links on it. -/
theorem Finds.leads (hlinks : fs.HasShortLinks) (h : fs.Finds here steps there)
    (hhere : fs.IsPassed here) : ∃ links, fs.Leads links here (steps.filter (· ≠ ".")) there := by
  induction h with
  -- Single dots are dropped: they move nowhere.
  | done here => exact ⟨0, .done here⟩
  | dot h ih => exact ih hhere
  | up h ih =>
    obtain ⟨links, hleads⟩ := ih hhere.dropLast
    exact ⟨links, .up hleads⟩
  | entry hopen hname hentry hother h ih =>
    -- The system tells of a link only at a place that can be reached, so that is carried along.
    obtain ⟨links, hleads⟩ := ih (hhere.snoc hopen hname)
    rw [List.filter_cons_of_pos (by simpa using hname.1)]
    refine ⟨links, .name hname.2.1 ?_ hleads⟩
    refine Option.eq_none_iff_forall_ne_some.2 fun target hlink => ?_
    exact hother target (Option.some.inj (hentry.symm.trans (at?_of_linkAt? hlink)))
  | link hopen hname hlink h ih =>
    -- The target's steps stand before the rest, and the way through both is cut at their border.
    obtain ⟨links, hleads⟩ := ih (hhere.targetStart _)
    rw [List.filter_append, filter_targetSteps] at hleads
    obtain ⟨within, after, mid, htarget, hrest⟩ := hleads.split
    have hpassed := hhere.snoc hopen hname
    have hshort := hlinks _ (Entry.mem_locations hlink rfl [])
    rw [List.filter_cons_of_pos (by simpa using hname.1)]
    exact ⟨_, .link hname.2.1 (linkAt?_of_isOpen hlink hpassed.isOpen hpassed.names hshort) htarget
      hrest⟩

/-- What the system finds at the end of a path. -/
theorem finds_of_locate {path : Path} (h : fs.locate true path = .ok there) :
    fs.Finds [] path.parts there := by
  rw [locate_eq_locateFrom (short_of_locate h)] at h
  exact finds_of_locateFrom h

/-- A path without single dots leads where the system finds something. -/
theorem leads_of_locate {path : Path} (hlinks : fs.HasShortLinks) (hparsed : "." ∉ path.parts)
    (h : fs.locate true path = .ok there) : ∃ links, fs.Leads links [] path.parts there := by
  have hsteps : path.parts.filter (· ≠ ".") = path.parts := by
    refine List.filter_eq_self.2 fun part hmem => ?_
    simpa using fun hdot : part = "." => hparsed (hdot ▸ hmem)
  have hleads := (finds_of_locate h).leads hlinks (.top fs)
  rwa [hsteps] at hleads

/-! ## Circles -/

/-- A link is met on a way: a step leads to it, or it is on the way of the target of a link that was
met before, or it comes after such a link. -/
inductive Meets (fs : FileSystem) : Location → List String → Location → Prop
  | up {here link : Location} {rest : List String} (h : Meets fs here.dropLast rest link) :
    Meets fs here (".." :: rest) link
  | name {here link : Location} {name : String} {rest : List String} (hname : name ≠ "..")
    (hother : fs.linkAt? (here ++ [name]) = none)
    (h : Meets fs (here ++ [name]) rest link) :
    Meets fs here (name :: rest) link
  | here {here : Location} {name target : String} {rest : List String} (hname : name ≠ "..")
    (hlink : fs.linkAt? (here ++ [name]) = some target) :
    Meets fs here (name :: rest) (here ++ [name])
  | inside {here link : Location} {name target : String} {rest : List String}
    (hname : name ≠ "..") (hlink : fs.linkAt? (here ++ [name]) = some target)
    (h : Meets fs (targetStart here target) (Path.components target) link) :
    Meets fs here (name :: rest) link
  | after {within : Nat} {here mid link : Location} {name target : String} {rest : List String}
    (hname : name ≠ "..") (hlink : fs.linkAt? (here ++ [name]) = some target)
    (htarget : fs.Leads within (targetStart here target) (Path.components target) mid)
    (h : Meets fs mid rest link) :
    Meets fs here (name :: rest) link

/-- A link that is met on the way of its own target. -/
def IsCircular (fs : FileSystem) (link : Location) : Prop :=
  ∃ target, fs.linkAt? link = some target ∧
    fs.Meets (targetStart link.dropLast target) (Path.components target) link

/-- A path on which such a link is met. -/
def Circles (fs : FileSystem) (path : Path) : Prop :=
  ∃ link, fs.Meets [] path.parts link ∧ fs.IsCircular link

theorem mem_links {link : Location} {target : String} (h : fs.linkAt? link = some target) :
    link ∈ fs.links :=
  Entry.mem_locations (at?_of_linkAt? h) rfl []

theorem Meets.mem_links {link : Location} (h : fs.Meets here steps link) : link ∈ fs.links := by
  induction h with
  | here hname hlink => exact FileSystem.mem_links hlink
  | up h ih => exact ih
  | name hname hother h ih => exact ih
  | inside hname hlink h ih => exact ih
  | after hname hlink htarget h ih => exact ih

/-- On a way that leads somewhere, the target of each link does too, through fewer links. -/
theorem Leads.linkLeads {link : Location} (h : fs.Leads links here steps there)
    (hmeets : fs.Meets here steps link) :
    ∃ fewer < links, ∃ found, fs.LinkLeads fewer link found := by
  induction h generalizing link with
  -- What is met is on the rest, is the link itself, or is inside its target: only there the number
  -- falls.
  | done here => cases hmeets
  | up h ih =>
    cases hmeets with
    | up hmeets => exact ih hmeets
    | name hname _ _ => exact absurd rfl hname
    | here hname _ => exact absurd rfl hname
    | inside hname _ _ => exact absurd rfl hname
    | after hname _ _ _ => exact absurd rfl hname
  | name hname hother h ih =>
    cases hmeets with
    | up _ => exact absurd rfl hname
    | name _ _ hmeets => exact ih hmeets
    | here _ hlink => cases hother.symm.trans hlink
    | inside _ hlink _ => cases hother.symm.trans hlink
    | after _ hlink _ _ => cases hother.symm.trans hlink
  | link hname hlink htarget h ihTarget ih =>
    rename_i within after here mid there name target rest
    cases hmeets with
    | up _ => exact absurd rfl hname
    | name _ hother _ => cases hother.symm.trans hlink
    | here _ _ => exact ⟨within, by omega, mid, target, hlink, by simpa using htarget⟩
    | inside _ hlink' hmeets =>
      cases hlink.symm.trans hlink'
      obtain ⟨fewer, hlt, found, hfound⟩ := ihTarget hmeets
      exact ⟨fewer, by omega, found, hfound⟩
    | after _ hlink' htarget' hmeets =>
      cases hlink.symm.trans hlink'
      obtain ⟨rfl, rfl⟩ := htarget.unique htarget'
      obtain ⟨fewer, hlt, found, hfound⟩ := ih hmeets
      exact ⟨fewer, by omega, found, hfound⟩

/-- A link whose target leads somewhere is not circular. -/
theorem LinkLeads.not_isCircular {link : Location} (h : fs.LinkLeads links link there) :
    ¬fs.IsCircular link := by
  rintro ⟨target, hlink, hmeets⟩
  obtain ⟨target', hlink', hleads⟩ := h
  cases hlink.symm.trans hlink'
  obtain ⟨fewer, hlt, found, hfound⟩ := hleads.linkLeads hmeets
  obtain ⟨rfl, -⟩ := hfound.unique ⟨target, hlink, hleads⟩
  exact absurd hlt (Nat.lt_irrefl _)

/-- A way leads somewhere if no link on it is circular. The links that can be met become fewer with
each one that is followed: it is not on the way of its own target. -/
theorem exists_leads_of_not_isCircular {fresh : List Location}
    (hfresh : ∀ link, fs.Meets here steps link → link ∈ fresh)
    (hnone : ∀ link, fs.Meets here steps link → ¬fs.IsCircular link) :
    ∃ links there, fs.Leads links here steps there := by
  induction hcount : fresh.length using Nat.strongRecOn generalizing fresh here steps with
  | ind count ihFresh =>
  -- Inside, on the steps, for the links that may still be met.
  induction steps generalizing here with
  | nil => exact ⟨0, here, .done here⟩
  | cons name rest ih =>
    by_cases hup : name = ".."
    · subst hup
      obtain ⟨links, there, h⟩ := ih (fun link h => hfresh link (.up h))
        (fun link h => hnone link (.up h))
      exact ⟨links, there, .up h⟩
    by_cases hlink : ∃ target, fs.linkAt? (here ++ [name]) = some target
    · obtain ⟨target, hlink⟩ := hlink
      -- The link is not met inside its target, so fewer are left there.
      have hmeets : fs.Meets here (name :: rest) (here ++ [name]) := .here hup hlink
      have hfewer : (fresh.filter (· ≠ here ++ [name])).length < count := by
        rw [← hcount]
        exact List.length_filter_lt_length_iff_exists.2 ⟨_, hfresh _ hmeets, by simp⟩
      obtain ⟨within, mid, htarget⟩ := ihFresh _ hfewer
        (fun link h => by
          have hother : link ≠ here ++ [name] := by
            rintro rfl
            exact hnone _ hmeets ⟨target, hlink, by simpa using h⟩
          simpa using ⟨hfresh link (.inside hup hlink h), hother⟩)
        (fun link h => hnone link (.inside hup hlink h)) rfl
      obtain ⟨after, there, h⟩ := ih (fun link h => hfresh link (.after hup hlink htarget h))
        (fun link h => hnone link (.after hup hlink htarget h))
      exact ⟨_, there, .link hup hlink htarget h⟩
    · have hother : fs.linkAt? (here ++ [name]) = none :=
        Option.eq_none_iff_forall_ne_some.2 fun target h => hlink ⟨target, h⟩
      obtain ⟨links, there, h⟩ := ih (fun link h => hfresh link (.name hup hother h))
        (fun link h => hnone link (.name hup hother h))
      exact ⟨links, there, .name hup hother h⟩

/-- **A path leads somewhere exactly if it does not circle.** -/
theorem exists_leads_iff_not_circles {path : Path} :
    (∃ links there, fs.Leads links [] path.parts there) ↔ ¬fs.Circles path := by
  constructor
  · rintro ⟨links, there, h⟩ ⟨link, hmeets, hcircular⟩
    obtain ⟨fewer, -, found, hfound⟩ := h.linkLeads hmeets
    exact hfound.not_isCircular hcircular
  · intro hnone
    exact exists_leads_of_not_isCircular (fun link h => h.mem_links)
      fun link hmeets hcircular => hnone ⟨link, hmeets, hcircular⟩

end FileSystem

end ScriptAudit
