import Mathlib.Data.List.Nodup
import Mathlib.Data.List.Pairwise
import Mathlib.Data.List.Perm.Basic
import Mathlib.Data.List.Range
import ScriptAudit.Lint.Registry
import ScriptAudit.Proofs.DistinctKeys

/-!
# The lifetime of a linter

A registry is asked for linters and told to close them, in any order. At any time every linter that was
ever made is open under one name, or was closed once.

- `Registry.Call`, `Registry.Event`: what a registry is asked, and what comes of it.
- `Registry.history`: the events of a list of calls.
- `Registry.Serves`, `Registry.Course`: what one call can do, and many calls.
- `Registry.IsSound`: **what was made is what is open and what was closed, each once.**
- `Registry.IsOrderly`: the rules of a linter's lifetime, as a property of events.
- `Registry.history_isOrderly`: every history keeps these rules.
-/

namespace ScriptAudit.Registry

/-- What a registry is asked: for the linter of a framework, or to close everything. -/
inductive Call where
  | get (framework : String)
  | close
  deriving DecidableEq, Repr

/-- A call and what comes of it: the number of the linter that is returned, and the numbers of those
that are made and of those that are closed. -/
structure Event where
  call : Call
  answer : Option Nat
  made : List Nat
  closed : List Nat
  deriving DecidableEq, Repr

variable {α : Type}

/-- The answer to a call, and the registry after it. -/
def serve (make : String → Nat → Except Failure α) (call : Call) (r : Registry α) :
    Except Failure (Option Nat × Registry α) :=
  match call with
  | .get framework => (r.getChecked make framework).map fun (number, next) => (some number, next)
  | .close => .ok (none, r.close)

/-- What has changed from before a call to after it. -/
def Event.between (call : Call) (answer : Option Nat) (before after : Registry α) : Event where
  call := call
  answer := answer
  made := (List.range after.made.length).drop before.made.length
  closed := after.closed.drop before.closed.length

/-- The events of calls made one after the other, and the registry after them. -/
def history (make : String → Nat → Except Failure α) :
    List Call → Registry α → Except Failure (List Event × Registry α)
  | [], r => .ok ([], r)
  | call :: calls, r => do
    let (answer, next) ← serve make call r
    let (events, last) ← history make calls next
    return (.between call answer r next :: events, last)

/-! ## What one call does -/

/-- What a call can do to a registry: return the linter that is open under a name, make one and open it,
or close everything. -/
inductive Serves (make : String → Nat → Except Failure α) (r : Registry α) :
    Event → Registry α → Prop
  | found {f : String} {n : Nat} (hopen : lookup? f r.opened = some n) :
    Serves make r ⟨.get f, some n, [], []⟩ r
  | made {f : String} {thing : α} (hnone : lookup? f r.opened = none)
    (hthing : make f r.made.length = .ok thing) :
    Serves make r ⟨.get f, some r.made.length, [r.made.length], []⟩
      ⟨r.made ++ [thing], r.opened ++ [(f, r.made.length)], r.closed⟩
  | closed : Serves make r ⟨.close, none, [], r.opened.map (·.2)⟩ r.close

variable {make : String → Nat → Except Failure α} {r next last : Registry α} {event : Event}
  {events before after : List Event} {f g : String} {n : Nat}

/-- A new name comes behind the others. -/
theorem insertEntry_of_none {β : Type} {key : String} {value : β} {entries : List (String × β)}
    (h : lookup? key entries = none) : insertEntry key value entries = entries ++ [(key, value)] := by
  induction entries with
  | nil => rfl
  | cons entry entries ih =>
    obtain ⟨k, v⟩ := entry
    rw [lookup?] at h
    rw [insertEntry]
    split at h
    case isTrue => cases h
    case isFalse hk => rw [if_neg hk, ih h, List.cons_append]

theorem serves_of_serve {call : Call} {answer : Option Nat}
    (h : serve make call r = .ok (answer, next)) :
    Serves make r (.between call answer r next) next := by
  -- What a call makes are the numbers that were not there before it, none if it makes nothing.
  have hnothing : (List.range r.made.length).drop r.made.length = [] :=
    List.drop_eq_nil_of_le (by rw [List.length_range])
  cases call with
  | close =>
    cases h
    have hserves : Serves make r _ r.close := .closed
    simpa [Event.between, close, hnothing] using hserves
  | get f =>
    obtain ⟨⟨number, next⟩, hget, heq⟩ := map_eq_ok_iff.1 h
    cases heq
    unfold getChecked at hget
    split at hget
    -- Found among the open ones: nothing is made.
    case h_1 number hopen =>
      cases hget
      have hserves : Serves make r _ r := .found hopen
      simpa [Event.between, hnothing] using hserves
    case h_2 hnone =>
      obtain ⟨thing, hthing, heq⟩ := map_eq_ok_iff.1 hget
      cases heq
      simpa [Event.between, opening, insertEntry_of_none hnone, List.range_succ] using
        Serves.made hnone hthing

/-! ## Sound registries -/

/-- Whether everything that was made is open or was closed, and is so once, and what is open under a
name was made for it. -/
structure IsSound (make : String → Nat → Except Failure α) (r : Registry α) : Prop where
  numbers : (r.closed ++ r.opened.map (·.2)).Perm (List.range r.made.length)
  origin : ∀ f n, lookup? f r.opened = some n →
    ∃ thing, r.made[n]? = some thing ∧ make f n = .ok thing

theorem isSound_empty : IsSound make empty :=
  ⟨.refl _, fun _ _ h => nomatch h⟩

theorem Serves.isSound (h : Serves make r event next) (hsound : IsSound make r) :
    IsSound make next := by
  cases h with
  | found hopen => exact hsound
  | made hnone hthing =>
    rename_i f thing
    -- The new number is the next one, and it was made under the name it is opened for.
    refine ⟨?_, fun g n hopen => ?_⟩
    · simpa [List.range_succ] using hsound.numbers.append_right [r.made.length]
    · rw [← insertEntry_of_none hnone, lookup?_insertEntry] at hopen
      split at hopen
      case isTrue hname =>
        cases hopen
        exact ⟨thing, List.getElem?_concat_length, hname ▸ hthing⟩
      case isFalse =>
        obtain ⟨other, hother, hmake⟩ := hsound.origin g n hopen
        refine ⟨other, ?_, hmake⟩
        rw [List.getElem?_append_left (List.getElem?_eq_some_iff.1 hother).1, hother]
  | closed =>
    refine ⟨?_, fun g n hopen => nomatch hopen⟩
    simpa [close] using hsound.numbers

namespace IsSound

variable (hsound : IsSound make r)

include hsound

theorem nodup : (r.closed ++ r.opened.map (·.2)).Nodup :=
  hsound.numbers.nodup_iff.2 List.nodup_range

/-- What was closed is not open. -/
theorem not_opened (h : n ∈ r.closed) : n ∉ r.opened.map (·.2) :=
  fun hopen => List.disjoint_of_nodup_append hsound.nodup h hopen

/-- Nothing is open under two names. -/
theorem name_eq (hf : lookup? f r.opened = some n) (hg : lookup? g r.opened = some n) : f = g := by
  have hnodup := (List.nodup_append.1 hsound.nodup).2.1
  have hsame := List.inj_on_of_nodup_map hnodup (mem_of_lookup? hf) (mem_of_lookup? hg) rfl
  exact congrArg Prod.fst hsame

end IsSound

/-! ## What one call keeps -/

/-- The numbers of what is closed by a call come behind those closed before. -/
theorem Serves.closed_eq (h : Serves make r event next) : next.closed = r.closed ++ event.closed := by
  cases h <;> simp [close]

theorem Serves.made_prefix (h : Serves make r event next) : r.made <+: next.made := by
  cases h with
  | found => exact List.prefix_rfl
  | made => exact List.prefix_append _ _
  | closed => exact List.prefix_rfl

/-- What is made by a call is open after it. -/
theorem Serves.opened_of_made (h : Serves make r event next) (hmade : n ∈ event.made) :
    n ∈ next.opened.map (·.2) := by
  cases h with
  | made => simp_all
  | _ => cases hmade

/-- What is closed by a call is everything that is open. -/
theorem Serves.closed_of_opened (h : Serves make r event next) (hclose : event.call = .close)
    (hopen : n ∈ r.opened.map (·.2)) : n ∈ event.closed := by
  cases h with
  | closed => exact hopen
  | _ => cases hclose

/-- As long as nothing is closed, what is open stays open. -/
theorem Serves.opened (h : Serves make r event next) (hget : event.call ≠ .close)
    (hopen : n ∈ r.opened.map (·.2)) : n ∈ next.opened.map (·.2) := by
  cases h with
  | found => exact hopen
  | made => simp_all
  | closed => exact absurd rfl hget

theorem Serves.lookup (h : Serves make r event next) (hget : event.call ≠ .close)
    (hopen : lookup? f r.opened = some n) : lookup? f next.opened = some n := by
  cases h with
  | found => exact hopen
  | made hnone hthing =>
    rename_i g thing
    have hne : ¬g = f := by
      rintro rfl
      rw [hnone] at hopen
      cases hopen
    rw [← insertEntry_of_none hnone, lookup?_insertEntry, if_neg hne, hopen]
  | closed => exact absurd rfl hget

/-- What is returned for a name is what is open under it then. -/
theorem Serves.lookup_answer (h : Serves make r event next) (hget : event.call = .get f) :
    ∃ n, event.answer = some n ∧ lookup? f next.opened = some n := by
  cases h with
  | found hopen =>
    cases hget
    exact ⟨_, rfl, hopen⟩
  | made hnone hthing =>
    cases hget
    refine ⟨_, rfl, ?_⟩
    rw [← insertEntry_of_none hnone, lookup?_insertEntry, if_pos rfl]
  | closed => cases hget

/-- What is returned is open. -/
theorem Serves.opened_of_answer (h : Serves make r event next) (hanswer : event.answer = some n) :
    n ∈ next.opened.map (·.2) := by
  cases h with
  | found hopen =>
    cases hanswer
    exact List.mem_map_of_mem (mem_of_lookup? hopen)
  | made => simp_all
  | closed => cases hanswer

/-- What is open under a name is returned for it, and nothing is made. -/
theorem Serves.eq_of_lookup (h : Serves make r event next) (hget : event.call = .get f)
    (hopen : lookup? f r.opened = some n) : event.answer = some n ∧ event.made = [] := by
  cases h with
  | found hopen' =>
    cases hget
    rw [hopen] at hopen'
    exact ⟨hopen'.symm, rfl⟩
  | made hnone hthing =>
    cases hget
    rw [hopen] at hnone
    cases hnone
  | closed => cases hget

theorem Serves.length_made_le (h : Serves make r event next) : event.made.length ≤ 1 := by
  cases h <;> simp

/-- Whether two events that return one linter ask for one name. -/
def Agree (event other : Event) : Prop :=
  ∀ f g n, event.call = .get f → other.call = .get g → event.answer = some n →
    other.answer = some n → f = g

instance : Std.Symm Agree :=
  ⟨fun _ _ h f g n hf hg hn hn' => (h g f n hg hf hn' hn).symm⟩

/-- An event asks for one name only. -/
theorem Agree.refl (event : Event) : Agree event event :=
  fun _ _ _ hf hg _ _ => Call.get.inj (hf.symm.trans hg)

/-! ## Courses -/

/-- Many calls, one after the other. -/
inductive Course (make : String → Nat → Except Failure α) :
    Registry α → List Event → Registry α → Prop
  | nil {r : Registry α} : Course make r [] r
  | cons {r next last : Registry α} {event : Event} {events : List Event}
    (hfirst : Serves make r event next) (hrest : Course make next events last) :
    Course make r (event :: events) last

theorem course_of_history {calls : List Call} (h : history make calls r = .ok (events, last)) :
    Course make r events last := by
  induction calls generalizing r events with
  | nil =>
    cases h
    exact .nil
  | cons call calls ih =>
    obtain ⟨⟨answer, next⟩, hserve, h⟩ := bind_eq_ok_iff.1 h
    obtain ⟨⟨rest, last⟩, hrest, h⟩ := bind_eq_ok_iff.1 h
    cases h
    exact .cons (serves_of_serve hserve) (ih hrest)

/-- If nothing fails to be made, nothing fails. -/
theorem exists_history (hmake : ∀ f n, ∃ thing, make f n = .ok thing) (calls : List Call)
    (r : Registry α) :
    ∃ events last, history make calls r = .ok (events, last) ∧ events.map (·.call) = calls := by
  -- One call is served, whatever the registry holds.
  have hserve (call : Call) (r : Registry α) : ∃ served, serve make call r = .ok served := by
    cases call with
    | close => exact ⟨_, rfl⟩
    | get f =>
      simp only [serve, getChecked]
      obtain ⟨thing, hthing⟩ := hmake f r.made.length
      split
      · exact ⟨_, rfl⟩
      · rw [hthing]
        exact ⟨_, rfl⟩
  induction calls generalizing r with
  | nil => exact ⟨[], r, rfl, rfl⟩
  | cons call calls ih =>
    obtain ⟨⟨answer, next⟩, hanswer⟩ := hserve call r
    obtain ⟨events, last, hevents, hcalls⟩ := ih next
    refine ⟨.between call answer r next :: events, last, ?_, congrArg (call :: ·) hcalls⟩
    rw [history, hanswer]
    simp only [bind, Except.bind, hevents]
    rfl

namespace Course

theorem of_append (h : Course make r (before ++ after) last) :
    ∃ mid, Course make r before mid ∧ Course make mid after last := by
  induction before generalizing r with
  | nil => exact ⟨r, .nil, h⟩
  | cons event before ih =>
    cases h with
    | cons hfirst hrest =>
      obtain ⟨mid, hbefore, hafter⟩ := ih hrest
      exact ⟨mid, .cons hfirst hbefore, hafter⟩

theorem isSound (h : Course make r events last) (hsound : IsSound make r) : IsSound make last := by
  induction h with
  | nil => exact hsound
  | cons hfirst _ ih => exact ih (hfirst.isSound hsound)

theorem closed_eq (h : Course make r events last) :
    last.closed = r.closed ++ events.flatMap (·.closed) := by
  induction h with
  | nil => simp
  | cons hfirst _ ih => rw [ih, hfirst.closed_eq, List.flatMap_cons, List.append_assoc]

theorem made_prefix (h : Course make r events last) : r.made <+: last.made := by
  induction h with
  | nil => exact List.prefix_rfl
  | cons hfirst _ ih => exact hfirst.made_prefix.trans ih

/-- As long as nothing is closed, what is open stays open. -/
theorem opened (h : Course make r events last) (hgets : ∀ event ∈ events, event.call ≠ .close)
    (hopen : n ∈ r.opened.map (·.2)) : n ∈ last.opened.map (·.2) := by
  induction h with
  | nil => exact hopen
  | cons hfirst _ ih =>
    obtain ⟨hget, hgets⟩ := List.forall_mem_cons.1 hgets
    exact ih hgets (hfirst.opened hget hopen)

/-- As long as nothing is closed, a name stands for one linter, and no other is made for it. -/
theorem lookup (h : Course make r events last) (hgets : ∀ event ∈ events, event.call ≠ .close)
    (hopen : lookup? f r.opened = some n) :
    lookup? f last.opened = some n ∧
      ∀ event ∈ events, event.call = .get f → event.made = [] := by
  induction h with
  | nil => exact ⟨hopen, by simp⟩
  | cons hfirst _ ih =>
    obtain ⟨hget, hgets⟩ := List.forall_mem_cons.1 hgets
    obtain ⟨hlast, hrest⟩ := ih hgets (hfirst.lookup hget hopen)
    exact ⟨hlast, List.forall_mem_cons.2
      ⟨fun hname => (hfirst.eq_of_lookup hname hopen).2, hrest⟩⟩

/-- What was closed is not returned any more. -/
theorem answer_ne (h : Course make r events last) (hsound : IsSound make r) (hn : n ∈ r.closed) :
    ∀ event ∈ events, event.answer ≠ some n := by
  induction h with
  | nil => simp
  | @cons r next last event events hfirst _ ih =>
    have hsound' := hfirst.isSound hsound
    have hn' : n ∈ next.closed := by
      rw [hfirst.closed_eq]
      exact List.mem_append_left _ hn
    refine List.forall_mem_cons.2 ⟨fun hanswer => ?_, ih hsound' hn'⟩
    exact hsound'.not_opened hn' (hfirst.opened_of_answer hanswer)

/-- What is open under a name, or was closed, is returned for no other name. -/
theorem name_eq (h : Course make r events last) (hsound : IsSound make r)
    (hn : lookup? f r.opened = some n ∨ n ∈ r.closed) :
    ∀ event ∈ events, event.call = .get g → event.answer = some n → g = f := by
  induction h with
  | nil => simp
  | @cons r next last event events hfirst _ ih =>
    have hsound' := hfirst.isSound hsound
    -- What is open stays open until a close, and what is closed stays so.
    have hn' : lookup? f next.opened = some n ∨ n ∈ next.closed := by
      rw [hfirst.closed_eq, List.mem_append]
      rcases hn with hopen | hclosed
      · by_cases hclose : event.call = .close
        · have hmem := List.mem_map_of_mem (f := Prod.snd) (mem_of_lookup? hopen)
          exact .inr (.inr (hfirst.closed_of_opened hclose hmem))
        · exact .inl (hfirst.lookup hclose hopen)
      · exact .inr (.inl hclosed)
    refine List.forall_mem_cons.2 ⟨fun hget hanswer => ?_, ih hsound' hn'⟩
    obtain ⟨m, hm, hopen⟩ := hfirst.lookup_answer hget
    obtain rfl : m = n := by simpa [hm] using hanswer
    rcases hn' with hopen' | hclosed
    · exact hsound'.name_eq hopen hopen'
    · exact absurd (hfirst.opened_of_answer hanswer) (hsound'.not_opened hclosed)

/-- What is returned for one name is not returned for another. -/
theorem pairwise (h : Course make r events last) (hsound : IsSound make r) :
    events.Pairwise Agree := by
  induction h with
  | nil => exact .nil
  | cons hfirst hrest ih =>
    have hsound' := hfirst.isSound hsound
    refine List.pairwise_cons.2 ⟨fun other hother f g n hf hg hn hn' => ?_, ih hsound'⟩
    obtain ⟨m, hm, hopen⟩ := hfirst.lookup_answer hf
    obtain rfl : m = n := by simpa [hm] using hn
    exact (hrest.name_eq hsound' (.inl hopen) other hother hg hn').symm

/-- What is returned was made for the name. -/
theorem exists_thing (h : Course make r events last) (hsound : IsSound make r) :
    ∀ event ∈ events, event.call = .get f → ∃ n thing, event.answer = some n ∧
      last.made[n]? = some thing ∧ make f n = .ok thing := by
  induction h with
  | nil => simp
  | cons hfirst hrest ih =>
    have hsound' := hfirst.isSound hsound
    refine List.forall_mem_cons.2 ⟨fun hget => ?_, ih hsound'⟩
    obtain ⟨n, hanswer, hopen⟩ := hfirst.lookup_answer hget
    obtain ⟨thing, hthing, hmake⟩ := hsound'.origin f n hopen
    obtain ⟨hlt, rfl⟩ := List.getElem?_eq_some_iff.1 hthing
    exact ⟨n, _, hanswer, List.prefix_iff_getElem?.1 hrest.made_prefix n hlt, hmake⟩

end Course

/-! ## The rules of a lifetime -/

/-- Events that keep the rules of a linter's lifetime. -/
structure IsOrderly (events : List Event) : Prop where
  /-- Until the next closing, all that ask for one framework are given one linter, and at most one is
  made for them. -/
  shared : ∀ (before : List Event) (first : Event) (between : List Event) (second : Event)
    (after : List Event) (f : String), events = before ++ first :: between ++ second :: after →
    first.call = .get f → second.call = .get f → (∀ event ∈ between, event.call ≠ .close) →
    second.answer = first.answer ∧
      (((first :: between ++ [second]).filter (·.call = .get f)).flatMap (·.made)).length ≤ 1
  /-- A linter is closed by the first closing after it was made, and never again. -/
  closedOnce : ∀ (before : List Event) (event : Event) (gets : List Event) (closing : Event)
    (after : List Event) (n : Nat), events = before ++ event :: gets ++ closing :: after →
    n ∈ event.made → (∀ other ∈ gets, other.call ≠ .close) → closing.call = .close →
    n ∈ closing.closed ∧ (events.flatMap (·.closed)).count n = 1
  /-- Without a closing after it was made, it is not closed. -/
  keptOpen : ∀ (before : List Event) (event : Event) (gets : List Event) (n : Nat),
    events = before ++ event :: gets → n ∈ event.made → (∀ other ∈ gets, other.call ≠ .close) →
    n ∉ events.flatMap (·.closed)
  /-- What was closed is not returned any more. -/
  gone : ∀ (before : List Event) (event : Event) (after : List Event) (n : Nat),
    events = before ++ event :: after → n ∈ event.closed → ∀ later ∈ after, later.answer ≠ some n
  /-- Different frameworks have different linters. -/
  apart : ∀ event ∈ events, ∀ other ∈ events, ∀ f g, event.call = .get f → other.call = .get g →
    f ≠ g → event.answer ≠ other.answer

theorem Course.shared (h : Course make r events last) {first second : Event}
    {between : List Event} (hevents : events = before ++ first :: between ++ second :: after)
    (hfirst : first.call = .get f) (hsecond : second.call = .get f)
    (hgets : ∀ event ∈ between, event.call ≠ .close) :
    second.answer = first.answer ∧
      (((first :: between ++ [second]).filter (·.call = .get f)).flatMap (·.made)).length ≤ 1 := by
  -- The events are cut at the two gets: what the first opens is still open at the second.
  rw [hevents, List.append_assoc] at h
  obtain ⟨mid, -, h⟩ := h.of_append
  cases h with
  | cons hserves h =>
    obtain ⟨mid', hbetween, h⟩ := h.of_append
    cases h with
    | cons hserves' _ =>
      obtain ⟨n, hn, hopen⟩ := hserves.lookup_answer hfirst
      obtain ⟨hopen', hnone⟩ := hbetween.lookup hgets hopen
      obtain ⟨hanswer, hmade⟩ := hserves'.eq_of_lookup hsecond hopen'
      refine ⟨hanswer.trans hn.symm, ?_⟩
      have hrest : ((between ++ [second]).filter (·.call = .get f)).flatMap (·.made) = [] := by
        refine List.flatMap_eq_nil_iff.2 fun event hevent => ?_
        obtain ⟨hmem, hget⟩ := List.mem_filter.1 hevent
        rcases List.mem_append.1 hmem with hmem | hmem
        · exact hnone event hmem (by simpa using hget)
        · rw [List.mem_singleton.1 hmem, hmade]
      rw [List.cons_append, List.filter_cons_of_pos (by simpa using hfirst), List.flatMap_cons, hrest,
        List.append_nil]
      exact hserves.length_made_le

/-- The numbers that are closed in a course are those that are closed at its end. -/
theorem Course.closed_eq_of_empty (h : Course make empty events last) :
    last.closed = events.flatMap (·.closed) :=
  h.closed_eq

theorem Course.closedOnce (h : Course make empty events last) {gets : List Event}
    {closing : Event} (hevents : events = before ++ event :: gets ++ closing :: after)
    (hn : n ∈ event.made) (hgets : ∀ other ∈ gets, other.call ≠ .close)
    (hclosing : closing.call = .close) :
    n ∈ closing.closed ∧ (events.flatMap (·.closed)).count n = 1 := by
  have hnodup := (List.nodup_append.1 (h.isSound isSound_empty).nodup).1
  rw [h.closed_eq_of_empty] at hnodup
  have hmem : n ∈ closing.closed := by
    rw [hevents, List.append_assoc] at h
    obtain ⟨mid, -, h⟩ := h.of_append
    cases h with
    | cons hserves h =>
      obtain ⟨mid', hmid, h⟩ := h.of_append
      cases h with
      | cons hserves' _ =>
        exact hserves'.closed_of_opened hclosing (hmid.opened hgets (hserves.opened_of_made hn))
  refine ⟨hmem, List.count_eq_one_of_mem hnodup (List.mem_flatMap.2 ⟨closing, ?_, hmem⟩)⟩
  simp [hevents]

theorem Course.keptOpen (h : Course make empty events last) {gets : List Event}
    (hevents : events = before ++ event :: gets) (hn : n ∈ event.made)
    (hgets : ∀ other ∈ gets, other.call ≠ .close) : n ∉ events.flatMap (·.closed) := by
  have hsound := h.isSound isSound_empty
  have hopen : n ∈ last.opened.map (·.2) := by
    rw [hevents] at h
    obtain ⟨mid, -, h⟩ := h.of_append
    cases h with
    | cons hserves h => exact h.opened hgets (hserves.opened_of_made hn)
  rw [← h.closed_eq_of_empty]
  exact fun hclosed => hsound.not_opened hclosed hopen

theorem Course.gone (h : Course make empty events last)
    (hevents : events = before ++ event :: after) (hn : n ∈ event.closed) :
    ∀ later ∈ after, later.answer ≠ some n := by
  rw [hevents] at h
  obtain ⟨mid, hbefore, h⟩ := h.of_append
  cases h with
  | cons hserves h =>
    refine h.answer_ne (hserves.isSound (hbefore.isSound isSound_empty)) ?_
    rw [hserves.closed_eq]
    exact List.mem_append_right _ hn

theorem Course.apart (h : Course make empty events last) : ∀ event ∈ events, ∀ other ∈ events,
    ∀ f g, event.call = .get f → other.call = .get g → f ≠ g → event.answer ≠ other.answer := by
  intro event hevent other hother f g hf hg hne heq
  have hagree : Agree event other :=
    (h.pairwise isSound_empty).forall_of_forall (fun event _ => .refl event) hevent hother
  obtain ⟨n, thing, hn, -⟩ := h.exists_thing isSound_empty event hevent hf
  exact hne (hagree f g n hf hg hn (heq ▸ hn))

/-- **Every history keeps the rules of a linter's lifetime**, if no linter fails to be made: whatever
is asked for and closed in whatever order, what is made is shared until the next closing, which closes
it for good, and nothing is returned that was closed, or was made for another framework. -/
theorem history_isOrderly (hmake : ∀ f n, ∃ thing, make f n = .ok thing) (calls : List Call) :
    ∃ events last, history make calls empty = .ok (events, last) ∧ events.map (·.call) = calls ∧
      IsOrderly events ∧ ∀ event ∈ events, ∀ f, event.call = .get f →
        ∃ n thing, event.answer = some n ∧ last.made[n]? = some thing ∧ make f n = .ok thing := by
  obtain ⟨events, last, hhistory, hcalls⟩ := exists_history hmake calls empty
  have hcourse := course_of_history hhistory
  refine ⟨events, last, hhistory, hcalls, ⟨?_, ?_, ?_, ?_, hcourse.apart⟩,
    fun event hevent f hget => hcourse.exists_thing isSound_empty event hevent hget⟩
  · intro before first between second after f hevents hfirst hsecond hgets
    exact hcourse.shared hevents hfirst hsecond hgets
  · intro before event gets closing after n hevents hn hgets hclosing
    exact hcourse.closedOnce hevents hn hgets hclosing
  · intro before event gets n hevents hn hgets
    exact hcourse.keptOpen hevents hn hgets
  · intro before event after n hevents hn
    exact hcourse.gone hevents hn

/-- Two frameworks, and the first of them again after a closing; the closing at the end finds nothing
open. -/
def reuse : List Call :=
  [.get "vue", .get "react", .get "vue", .close, .get "vue", .close, .close]

/-- Three linters are made, and each is closed once. -/
theorem history_isOrderly_reuse :
    (∀ f n, ∃ thing, (fun f n => .ok (f, n) : String → Nat → Except Failure (String × Nat)) f n
      = .ok thing) ∧
    ∃ events last, history (fun f n => .ok (f, n)) reuse empty = .ok (events, last) ∧
      events.map (·.answer) = [some 0, some 1, some 0, none, some 2, none, none] ∧
      events.map (·.closed) = [[], [], [], [0, 1], [], [2], []] ∧
      last.made = [("vue", 0), ("react", 1), ("vue", 2)] ∧ IsOrderly events := by
  have hmake : ∀ f n, ∃ thing,
      (fun f n => .ok (f, n) : String → Nat → Except Failure (String × Nat)) f n = .ok thing :=
    fun f n => ⟨(f, n), rfl⟩
  obtain ⟨events, last, hhistory, -, horderly, -⟩ := history_isOrderly hmake reuse
  have hrun := hhistory
  cases hrun
  exact ⟨hmake, _, _, hhistory, rfl, rfl, rfl, horderly⟩

end ScriptAudit.Registry
