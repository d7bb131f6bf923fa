import ScriptAudit.Project.Search

/-!
# Looking up one path and then another

A path is looked up step by step from the top, so what lies below a directory is found where the
directory was found. Only the links used up on the way make a difference: they are counted for the
whole path, and so are its bytes.

- `Entry.at?_append`: names and then more names. `at?_name`: a name in a directory.
- `locateFrom_append`: looking up steps and then more steps.
- `locateFrom_names`: names through directories are looked up as they are.
- `locateFrom_of_le`: fewer links to spare, and the same location, unless they run out.
- `FileSystem.Enters`: a name in a directory that leads to a directory.
- `FileSystem.Overstrains`: a path that asks for more than the system allows.
- `locate_below`: **a name below a directory leads where it leads from the directory**, whatever way
  leads there, unless the whole path overstrains the system.
- `listed_below`, `leadsTo_of_listed`, `leadsTo_of_link`: an entry is what the listing of its directory
  says, and only a link is looked up.
-/

namespace ScriptAudit

/-- Names and then more names lead where the more lead from what the first have led to. -/
theorem Entry.at?_append (names more : Location) (e : Entry) :
    e.at? (names ++ more) = (e.at? names).bind (Entry.at? more) := by
  induction names generalizing e with
  | nil => rfl
  | cons name names ih =>
    cases e with
    | directory entries =>
      simp only [List.cons_append, Entry.at?, Option.bind_assoc]
      congr 1
      funext below
      exact ih below
    | _ => rfl

namespace FileSystem

variable {fs : FileSystem} {budget : Nat} {here there : Location} {step : String}
  {rest : List String} {entries : List (String × Entry)}

theorem at?_append (fs : FileSystem) (here names : Location) :
    fs.at? (here ++ names) = (fs.at? here).bind (Entry.at? names) :=
  Entry.at?_append here names fs.root

/-- A name in a directory leads to its entry. -/
theorem at?_name (hat : fs.at? here = some (.directory entries)) (name : String) :
    fs.at? (here ++ [name]) = lookup? name entries := by
  rw [at?_append, hat]
  simp [Entry.at?]

/-- A name in a directory that is open to look-ups leads to its entry. -/
theorem at?_of_entriesAt (hat : fs.entriesAt here = .ok entries) (name : String) :
    fs.at? (here ++ [name]) = lookup? name entries :=
  at?_name (entriesAt_eq_ok.1 hat).1 name

/-- What a name leads to is an entry of the directory before it. -/
theorem exists_entries {name : String} {names : Location} {e : Entry}
    (hat : fs.at? (here ++ name :: names) = some e) :
    ∃ entries below, fs.at? here = some (.directory entries) ∧
      lookup? name entries = some below ∧ fs.at? (here ++ [name]) = some below ∧
      below.at? names = some e := by
  rw [at?_append] at hat
  obtain ⟨holder, hholder, hat⟩ := Option.bind_eq_some_iff.1 hat
  cases holder with
  | directory entries =>
    obtain ⟨below, hbelow, hat⟩ := Option.bind_eq_some_iff.1 hat
    exact ⟨entries, below, hholder, hbelow, (at?_name hholder name).trans hbelow, hat⟩
  | _ => cases hat

/-! ## One step -/

/-- Whether a step is a name that stands for an entry, and not too long for one. -/
def IsName (step : String) : Prop :=
  step ≠ "." ∧ step ≠ ".." ∧ step.utf8ByteSize ≤ longestName

instance : Decidable (IsName step) :=
  inferInstanceAs (Decidable (_ ∧ _ ∧ _))

/-- A link is followed if there is one more to spare. -/
theorem locateFrom_link {target : String} (hat : fs.entriesAt here = .ok entries)
    (hname : IsName step) (hlink : lookup? step entries = some (.link target)) {follow : Bool}
    (hlast : (rest.isEmpty && !follow) = false) :
    fs.locateFrom follow budget here (step :: rest)
      = match budget with
        | 0 => .error .tooManyLinks
        | budget + 1 =>
          fs.locateFrom follow budget (targetStart here target) (targetSteps target ++ rest) := by
  obtain ⟨hdot, hup, hshort⟩ := hname
  cases budget <;> simp [locateFrom, hat, hdot, hup, Nat.not_lt.2 hshort, hlink, hlast]

/-- Everything but a link is stepped into. -/
theorem locateFrom_entry {e : Entry} (hat : fs.entriesAt here = .ok entries)
    (hname : IsName step) (hentry : lookup? step entries = some e)
    (hother : ∀ target, e ≠ .link target) (follow : Bool) :
    fs.locateFrom follow budget here (step :: rest)
      = fs.locateFrom follow budget (here ++ [step]) rest := by
  obtain ⟨hdot, hup, hshort⟩ := hname
  cases e with
  | link target => exact absurd rfl (hother target)
  | _ => simp [locateFrom, hat, hdot, hup, Nat.not_lt.2 hshort, hentry]

/-- A name that is no link ends a look-up at its entry. -/
theorem locateFrom_name {e : Entry} (hat : fs.entriesAt here = .ok entries)
    (hname : IsName step) (hentry : lookup? step entries = some e)
    (hother : ∀ target, e ≠ .link target) (follow : Bool) :
    fs.locateFrom follow budget here [step] = .ok (here ++ [step]) := by
  rw [locateFrom_entry hat hname hentry hother, locateFrom]

/-- A name that leads anywhere and is no link leads to its entry. -/
theorem eq_of_locateFrom_name {e : Entry} (hat : fs.at? here = some (.directory entries))
    (hname : IsName step) (hentry : lookup? step entries = some e) (hother : e.isLink = false)
    {follow : Bool} (h : fs.locateFrom follow budget here [step] = .ok there) :
    there = here ++ [step] := by
  cases hentries : fs.entriesAt here with
  | error refusal =>
    -- What leads nowhere does not lead there.
    rw [locateFrom, hentries] at h
    cases h
  | ok others =>
    have hsame := (entriesAt_eq_ok.1 hentries).1
    rw [hat] at hsame
    cases hsame
    have hlink : ∀ target, e ≠ .link target := by
      rintro target rfl
      cases hother
    rw [locateFrom_name hentries hname hentry hlink] at h
    cases h
    rfl

/-- A link at the end of a path may be what the path leads to. -/
theorem locateFrom_lastLink {target : String} (hat : fs.entriesAt here = .ok entries)
    (hname : IsName step) (hlink : lookup? step entries = some (.link target)) :
    fs.locateFrom false budget here [step] = .ok (here ++ [step]) := by
  obtain ⟨hdot, hup, hshort⟩ := hname
  simp [locateFrom, hat, hdot, hup, Nat.not_lt.2 hshort, hlink]

/-- Nothing is found below a place in which no name can be looked up. -/
theorem locateFrom_error {e : AccessError} (hat : fs.entriesAt here = .error e) (follow : Bool) :
    fs.locateFrom follow budget here (step :: rest) = .error e := by
  rw [locateFrom, hat]

/-! ## Many steps -/

/-- Looking up steps and then more steps: the more are looked up where the first have led, with
those links to spare that the first have left. -/
theorem locateFrom_append {steps : List String}
    (h : fs.locateFrom true budget here steps = .ok there) (follow : Bool) {more : List String}
    (hmore : more ≠ []) :
    ∃ left ≤ budget,
      fs.locateFrom follow budget here (steps ++ more) = fs.locateFrom follow left there more := by
  induction budget, here, steps using locateFrom.induct fs true with
  | case1 budget here =>
    rw [locateFrom] at h
    cases h
    exact ⟨budget, Nat.le_refl _, rfl⟩
  | case2 budget here rest entries hat ih =>
    rw [locateFrom, hat] at h
    rw [List.cons_append, locateFrom, hat]
    exact ih h
  | case3 budget here rest entries hat _ ih =>
    rw [locateFrom, hat] at h
    rw [List.cons_append, locateFrom, hat]
    exact ih h
  | case4 budget here step rest entries hat hdot hup hlong =>
    simp [locateFrom, hat, hdot, hup, hlong] at h
  | case5 budget here step rest entries hat hdot hup hshort hnone =>
    simp [locateFrom, hat, hdot, hup, hshort, hnone] at h
  | case6 budget here step rest entries hat hdot hup hshort target hlink hlast =>
    simp at hlast
  | case7 here step rest entries hat hdot hup hshort target hlink hlast =>
    rw [locateFrom_link hat ⟨hdot, hup, Nat.not_lt.1 hshort⟩ hlink (by simp)] at h
    cases h
  | case8 here step rest entries hat hdot hup hshort target hlink hlast budget ih =>
    -- With more to come, the link is not the last step, whether the last one is followed or not.
    have hgoon : ((rest ++ more).isEmpty && !follow) = false := by simp [hmore]
    have hname : IsName step := ⟨hdot, hup, Nat.not_lt.1 hshort⟩
    rw [locateFrom_link hat hname hlink (by simp)] at h
    obtain ⟨left, hle, heq⟩ := ih h
    refine ⟨left, by omega, ?_⟩
    rw [List.cons_append, locateFrom_link hat hname hlink hgoon, ← heq, List.append_assoc]
  | case9 budget here step rest entries hat hdot hup hshort e hother hentry ih =>
    have hname : IsName step := ⟨hdot, hup, Nat.not_lt.1 hshort⟩
    rw [locateFrom_entry hat hname hentry hother] at h
    rw [List.cons_append, locateFrom_entry hat hname hentry hother]
    exact ih h
  | case10 budget here step rest e hat =>
    rw [locateFrom_error hat] at h
    cases h

/-- With fewer links to spare a look-up ends the same way, unless they run out. -/
theorem locateFrom_of_le {left : Nat} (hle : left ≤ budget) (follow : Bool) (here : Location)
    (steps : List String) :
    fs.locateFrom follow left here steps = fs.locateFrom follow budget here steps ∨
      fs.locateFrom follow left here steps = .error .tooManyLinks := by
  -- One link fewer to spare is lost with each link, on both sides.
  induction budget, here, steps using locateFrom.induct fs follow generalizing left with
  | case1 budget here => exact .inl (by rw [locateFrom, locateFrom])
  | case2 budget here rest entries hat ih => simpa [locateFrom, hat] using ih hle
  | case3 budget here rest entries hat hdot ih => simpa [locateFrom, hat, hdot] using ih hle
  | case4 budget here step rest entries hat hdot hup hlong =>
    simp [locateFrom, hat, hdot, hup, hlong]
  | case5 budget here step rest entries hat hdot hup hshort hnone =>
    simp [locateFrom, hat, hdot, hup, hshort, hnone]
  | case6 budget here step rest entries hat hdot hup hshort target hlink hlast =>
    simp [locateFrom, hat, hdot, hup, hshort, hlink, hlast]
  | case7 here step rest entries hat hdot hup hshort target hlink hlast =>
    -- Neither side has a link to spare: both run out.
    obtain rfl : left = 0 := by omega
    exact .inl rfl
  | case8 here step rest entries hat hdot hup hshort target hlink hlast budget ih =>
    have hname : IsName step := ⟨hdot, hup, Nat.not_lt.1 hshort⟩
    have hgoon := Bool.eq_false_iff.2 hlast
    rw [locateFrom_link hat hname hlink hgoon, locateFrom_link hat hname hlink hgoon]
    cases left with
    | zero => exact .inr rfl
    | succ left => exact ih (by omega)
  | case9 budget here step rest entries hat hdot hup hshort e hother hentry ih =>
    have hname : IsName step := ⟨hdot, hup, Nat.not_lt.1 hshort⟩
    rw [locateFrom_entry hat hname hentry hother, locateFrom_entry hat hname hentry hother]
    exact ih hle
  | case10 budget here step rest e hat =>
    rw [locateFrom_error hat, locateFrom_error hat]
    exact .inl rfl

/-- Whether every directory on the way from one location to another, the first one included, may be
searched. -/
def IsOpenFrom (fs : FileSystem) (here there : Location) : Prop :=
  ∀ above, here <+: above → above <+: there → above ≠ there → fs.maySearch above = true

theorem IsOpenFrom.head {names : Location} {name : String}
    (h : fs.IsOpenFrom here (here ++ name :: names)) : fs.maySearch here = true :=
  h here (List.prefix_refl _) (List.prefix_append _ _) (by simp)

theorem IsOpenFrom.tail {name : String} (h : fs.IsOpenFrom here there) :
    fs.IsOpenFrom (here ++ [name]) there :=
  fun above hbelow => h above ((List.prefix_append _ _).trans hbelow)

/-- **Names through directories are looked up as they are**, unless they end in a link that is
followed. -/
theorem locateFrom_names {names : Location} {e : Entry} {follow : Bool}
    (hat : fs.at? (here ++ names) = some e) (hopen : fs.IsOpenFrom here (here ++ names))
    (hnames : ∀ name ∈ names, IsName name) (hlast : follow = false ∨ e.isLink = false)
    (budget : Nat) : fs.locateFrom follow budget here names = .ok (here ++ names) := by
  induction names generalizing here with
  | nil => rw [locateFrom, List.append_nil]
  | cons name names ih =>
    obtain ⟨entries, below, hhere, hentry, hbelow, hrest⟩ := exists_entries hat
    obtain ⟨hname, hnames⟩ := List.forall_mem_cons.1 hnames
    have hentries : fs.entriesAt here = .ok entries := entriesAt_eq_ok.2 ⟨hhere, hopen.head⟩
    rw [List.append_cons] at hat hopen ⊢
    cases below with
    | link target =>
      -- Nothing is below a link, so it is the last entry.
      cases names with
      | nil =>
        cases hrest
        rcases hlast with rfl | hlast
        · rw [locateFrom_lastLink hentries hname hentry, List.append_nil]
        · cases hlast
      | cons name names => cases hrest
    | _ =>
      rw [locateFrom_entry hentries hname hentry (by simp)]
      exact ih hat hopen.tail hnames

/-! ## Directories -/

/-- Whether there is a directory at a location. -/
def HasDirectory (fs : FileSystem) (here : Location) : Prop :=
  ∃ entries, fs.at? here = some (.directory entries)

theorem exists_locate_of_isDirectory {path : Path} (h : fs.isDirectory path = true) :
    ∃ here, fs.locate true path = .ok here ∧ fs.HasDirectory here := by
  unfold isDirectory entry at h
  cases hlocate : fs.locate true path with
  | error e => simp [hlocate] at h
  | ok here =>
    refine ⟨here, rfl, ?_⟩
    cases hat : fs.at? here with
    | none => simp [hlocate, hat] at h
    | some e =>
      cases e with
      | directory entries => exact ⟨entries, hat⟩
      | _ => simp [hlocate, hat, Entry.isDirectory] at h

theorem isDirectory_of_locate {path : Path} (hlocate : fs.locate true path = .ok here)
    (hdirectory : fs.HasDirectory here) : fs.isDirectory path = true := by
  obtain ⟨entries, hat⟩ := hdirectory
  simp [isDirectory, entry, hlocate, hat, Entry.isDirectory]

/-- Whether there is a directory at a location, and an entry of some name in it. -/
def Lists (fs : FileSystem) (here : Location) (name : String) : Prop :=
  ∃ entries, fs.at? here = some (.directory entries) ∧ name ∈ entries.map (·.1)

/-- Whether a name in a directory leads to another one, looked up in the first. A link leads where
its target leads. -/
def Enters (fs : FileSystem) (here : Location) (name : String) (there : Location) : Prop :=
  fs.Lists here name ∧ fs.locateFrom true linkLimit here [name] = .ok there ∧
    fs.HasDirectory there

/-- Whether a path asks for more than the system allows, and for that reason cannot be looked up:
too many links are followed from its beginning to its end, or it is too long. -/
def Overstrains (fs : FileSystem) (path : Path) (e : AccessError) : Prop :=
  fs.locate true path = .error e ∧ (e = .tooManyLinks ∨ e = .nameTooLong)

/-! ## Paths -/

/-- Where everything may be searched, every directory is open to look-ups. -/
theorem entriesAt_of_at? (hopen : fs.unsearchable = [])
    (hat : fs.at? here = some (.directory entries)) : fs.entriesAt here = .ok entries :=
  entriesAt_eq_ok.2 ⟨hat, by simp [maySearch, hopen]⟩

/-- Names that lead down through directories are looked up as they are. -/
theorem locateFrom_of_leadsDown (hopen : fs.unsearchable = []) {names : List String} {e : Entry}
    (hat : fs.at? here = some e) (hdown : leadsDown names e = true) (follow : Bool) :
    fs.locateFrom follow budget here names = .ok (here ++ names) := by
  induction names generalizing here e with
  | nil => rw [locateFrom, List.append_nil]
  | cons name names ih =>
    cases e with
    | directory entries =>
      -- Each name is an entry of the directory before it, and no link.
      simp only [leadsDown, Bool.and_eq_true, bne_iff_ne, decide_eq_true_eq] at hdown
      obtain ⟨⟨⟨hdot, hup⟩, hshort⟩, hdown⟩ := hdown
      have hentries := entriesAt_of_at? hopen hat
      cases hentry : lookup? name entries with
      | none => simp [hentry] at hdown
      | some below =>
        cases below with
        | link target => simp [hentry] at hdown
        | _ =>
          rw [locateFrom_entry hentries ⟨hdot, hup, hshort⟩ hentry (by simp), List.append_cons here name names]
          refine ih ((at?_name hat name).trans hentry) ?_
          simpa only [hentry] using hdown
    | _ => cases hdown

/-- A path that is not too long is looked up step by step, be it on a short cut or not. -/
theorem locate_eq_locateFrom {follow : Bool} {path : Path}
    (hshort : ¬longestPath < path.text.utf8ByteSize) :
    fs.locate follow path = fs.locateFrom follow linkLimit [] path.parts := by
  rw [locate, if_neg hshort]
  split
  · rename_i hdown
    rw [Bool.and_eq_true, List.isEmpty_iff] at hdown
    have htop : fs.at? [] = some fs.root := rfl
    rw [locateFrom_of_leadsDown hdown.1 htop hdown.2, List.nil_append]
  · rfl

/-- The topmost directory is where it is. -/
theorem locate_top (fs : FileSystem) (follow : Bool) : fs.locate follow ⟨true, []⟩ = .ok [] := by
  rw [locate_eq_locateFrom (by decide), locateFrom]

/-- A path that is looked up is not too long. -/
theorem short_of_locate {follow : Bool} {path : Path} (h : fs.locate follow path = .ok here) :
    ¬longestPath < path.text.utf8ByteSize := by
  intro hlong
  simp [locate, hlong] at h

/-- **A name below a directory leads where it leads from the directory**, whichever path leads
there, unless the whole path overstrains the system. -/
theorem locate_below {path : Path} (h : fs.locate true path = .ok here) (name : String) :
    fs.locate true (Search.below path name) = fs.locateFrom true linkLimit here [name] ∨
      ∃ e, fs.Overstrains (Search.below path name) e := by
  by_cases hlong : longestPath < (Search.below path name).text.utf8ByteSize
  · exact .inr ⟨.nameTooLong, by simp only [locate, hlong, if_true], .inr rfl⟩
  · rw [locate_eq_locateFrom (short_of_locate h)] at h
    -- The name is looked up with the links that the path has left, not with all of them.
    obtain ⟨left, hle, heq⟩ := locateFrom_append h true (List.cons_ne_nil name [])
    have hbelow : fs.locate true (Search.below path name)
        = fs.locateFrom true left here [name] := by
      rw [locate_eq_locateFrom hlong]
      exact heq
    rcases locateFrom_of_le hle true here [name] with hsame | hnone
    · exact .inl (hbelow.trans hsame)
    · exact .inr ⟨.tooManyLinks, hbelow.trans hnone, .inl rfl⟩

/-- Where a path leads that goes on from a directory, the name leads from the directory itself. -/
theorem locateFrom_of_locate_below {path : Path} {name : String}
    (h : fs.locate true path = .ok here)
    (hbelow : fs.locate true (Search.below path name) = .ok there) :
    fs.locateFrom true linkLimit here [name] = .ok there := by
  rcases locate_below h name with hsame | ⟨e, herror, -⟩
  · rw [← hsame, hbelow]
  · rw [herror] at hbelow
    cases hbelow

end FileSystem

namespace Search

open FileSystem

variable {fs : FileSystem} {path : Path}

/-! ## Entries of a directory -/

@[simp] theorem above_below (path : Path) (name : String) : (below path name).above = path := by
  simp [below, Path.above]

/-- A path below a directory ends with the name there. -/
@[simp] theorem name_below (path : Path) (name : String) : (below path name).name = name := by
  simp [below, Path.name]

/-- A name in a directory is listed as the entry that it stands for. -/
theorem listed_below {here : Location} (h : fs.locate true path = .ok here) (name : String) :
    fs.listed (below path name) = fs.at? (here ++ [name]) := by
  simp [FileSystem.listed, h]

/-- Only links are looked up. -/
theorem leadsTo_of_listed {e : Entry} (hlisted : fs.listed path = some e) {follow : Bool}
    (hlast : follow = false ∨ e.isLink = false) (kind : Entry → Bool) :
    leadsTo fs follow kind path = .ok (kind e) := by
  rw [leadsTo, hlisted]
  rcases hlast with rfl | hlink
  · simp
  · simp [hlink]

/-- A file is as large as its bytes are many, if it can be looked up where it is listed. -/
theorem fileSize?_of_listed {bytes : List UInt8} (hlisted : fs.listed path = some (.file bytes))
    (hentry : fs.entry true path = .ok (.file bytes)) :
    fileSize? fs path = .ok (some bytes.length) := by
  rw [fileSize?, leadsTo_of_listed hlisted (.inr rfl), hentry]
  rfl

/-- A link that is followed leads to what its path leads to. -/
theorem leadsTo_of_link {target : String} (hlisted : fs.listed path = some (.link target))
    (kind : Entry → Bool) :
    leadsTo fs true kind path = match fs.entry true path with
      | .ok e => .ok (kind e)
      | .error .missing => .ok false
      | .error e => .error e := by
  rw [leadsTo, hlisted]
  rfl

end Search

end ScriptAudit
