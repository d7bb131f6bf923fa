import Mathlib.Data.List.Nodup
import ScriptAudit.Proofs.FallibleSteps
import ScriptAudit.Toml.Parser

/-!
# Keys that occur once

A table is a list of entries, and a look-up finds the first one under a key. That it is the only one
has to be shown where tables are made.

- `lookup?_insertEntry`, `nodup_insertEntry`: putting a value under a key.
- `Value.DistinctKeys`: values in whose tables, at any depth, no key occurs twice.
- `Toml.Entries.nest?_distinctKeys`: a change to a table somewhere inside others.
- `Toml.readsDistinct`: the values in a text, by the nesting of its collections.
- `Toml.read_distinctKeys`: **no table of a TOML text has a key twice**, neither the table of the
  whole text nor one inside it.
-/

namespace ScriptAudit

variable {α : Type}

/-! ## Entries -/

theorem lookup?_eq_none_iff {key : String} {entries : List (String × α)} :
    lookup? key entries = none ↔ key ∉ entries.map (·.1) := by
  induction entries with
  | nil => simp [lookup?]
  | cons entry entries ih =>
    obtain ⟨k, v⟩ := entry
    rw [lookup?, List.map_cons, List.mem_cons, not_or, ← ih]
    by_cases hk : k = key
    · simp [hk]
    · simp [hk, Ne.symm hk]

theorem lookup?_insertEntry (key other : String) (value : α) (entries : List (String × α)) :
    lookup? other (insertEntry key value entries)
      = if key = other then some value else lookup? other entries := by
  induction entries with
  | nil => rfl
  | cons entry entries ih =>
    obtain ⟨k, v⟩ := entry
    rw [insertEntry]
    by_cases hk : k = key
    · subst hk
      rw [if_pos rfl, lookup?, lookup?]
      split <;> rfl
    · rw [if_neg hk, lookup?, lookup?, ih]
      by_cases hother : k = other
      · rw [if_pos hother, if_pos hother, if_neg fun hkey => hk (hother.trans hkey.symm)]
      · rw [if_neg hother, if_neg hother]

theorem mem_insertEntry {key : String} {value : α} {entries : List (String × α)}
    {entry : String × α} (h : entry ∈ insertEntry key value entries) :
    entry = (key, value) ∨ entry ∈ entries := by
  induction entries with
  | nil => exact .inl (List.mem_singleton.1 h)
  | cons first entries ih =>
    obtain ⟨k, v⟩ := first
    rw [insertEntry] at h
    split at h
    case isTrue hk =>
      subst hk
      exact (List.mem_cons.1 h).imp_right (List.mem_cons_of_mem _)
    case isFalse hk =>
      rcases List.mem_cons.1 h with rfl | h
      · exact .inr List.mem_cons_self
      · exact (ih h).imp_right (List.mem_cons_of_mem _)

/-- Putting a value under a key leaves the keys distinct. -/
theorem nodup_insertEntry {key : String} {value : α} {entries : List (String × α)}
    (h : (entries.map (·.1)).Nodup) : ((insertEntry key value entries).map (·.1)).Nodup := by
  induction entries with
  | nil => exact List.nodup_singleton key
  | cons first entries ih =>
    obtain ⟨k, v⟩ := first
    obtain ⟨hnotMem, hnodup⟩ := List.nodup_cons.1 h
    rw [insertEntry]
    -- A key that is there keeps its place with a new value, and any other goes to the end.
    split
    case isTrue hk => exact List.nodup_cons.2 ⟨hnotMem, hnodup⟩
    case isFalse hk =>
      refine List.nodup_cons.2 ⟨fun hmem => ?_, ih hnodup⟩
      obtain ⟨entry, hentry, hkey⟩ := List.mem_map.1 hmem
      rcases mem_insertEntry hentry with rfl | hentry
      · exact hk hkey.symm
      · exact hnotMem (List.mem_map.2 ⟨entry, hentry, hkey⟩)

/-! ## Values -/

namespace Value

/-- Whether a value is neither a list nor a table. -/
def IsScalar : Value → Prop
  | .list _ | .table _ => False
  | _ => True

/-- Whether no key occurs twice in a table of a value, at any depth. -/
inductive DistinctKeys : Value → Prop
  | scalar {value : Value} (hscalar : value.IsScalar) : DistinctKeys value
  | list {items : List Value} (hitems : ∀ item ∈ items, DistinctKeys item) :
    DistinctKeys (.list items)
  | table {entries : List (String × Value)} (hnodup : (entries.map (·.1)).Nodup)
    (hvalues : ∀ entry ∈ entries, DistinctKeys entry.2) : DistinctKeys (.table entries)

variable {items : List Value} {entries : List (String × Value)} {key : String} {value : Value}

theorem DistinctKeys.forall_item (h : (Value.list items).DistinctKeys) :
    ∀ item ∈ items, item.DistinctKeys := by
  cases h with
  | scalar hscalar => exact hscalar.elim
  | list hitems => exact hitems

theorem DistinctKeys.nodup (h : (Value.table entries).DistinctKeys) :
    (entries.map (·.1)).Nodup := by
  cases h with
  | scalar hscalar => exact hscalar.elim
  | table hnodup _ => exact hnodup

theorem DistinctKeys.values (h : (Value.table entries).DistinctKeys) :
    ∀ entry ∈ entries, entry.2.DistinctKeys := by
  cases h with
  | scalar hscalar => exact hscalar.elim
  | table _ hvalues => exact hvalues

theorem DistinctKeys.lookup (h : (Value.table entries).DistinctKeys)
    (hfound : lookup? key entries = some value) : value.DistinctKeys :=
  h.values _ (mem_of_lookup? hfound)

theorem distinctKeys_empty : (Value.table []).DistinctKeys :=
  .table List.nodup_nil fun _ hnone => absurd hnone List.not_mem_nil

theorem DistinctKeys.insert (h : (Value.table entries).DistinctKeys)
    (hvalue : value.DistinctKeys) : (Value.table (insertEntry key value entries)).DistinctKeys := by
  refine .table (nodup_insertEntry h.nodup) fun entry hentry => ?_
  rcases mem_insertEntry hentry with rfl | hentry
  · exact hvalue
  · exact h.values entry hentry

/-- An entry under a new key may stand at the end. -/
theorem DistinctKeys.concat (h : (Value.table entries).DistinctKeys)
    (hnew : lookup? key entries = none) (hvalue : value.DistinctKeys) :
    (Value.table (entries ++ [(key, value)])).DistinctKeys := by
  refine .table ?_ fun entry hentry => ?_
  · rw [List.map_append, List.map_singleton]
    exact h.nodup.append (List.nodup_singleton key)
      (List.disjoint_singleton.2 (lookup?_eq_none_iff.1 hnew))
  · rcases List.mem_append.1 hentry with hentry | hentry
    · exact h.values entry hentry
    · rw [List.mem_singleton.1 hentry]
      exact hvalue

end Value

namespace Toml

open Value

/-! ## Tables -/

namespace Entries

variable {entries changed : Entries} {key : String} {value : Value}

theorem add?_distinctKeys (h : entries.add? key value = some changed)
    (hentries : (Value.table entries).DistinctKeys) (hvalue : value.DistinctKeys) :
    (Value.table changed).DistinctKeys := by
  unfold add? at h
  split at h
  case isTrue => cases h
  case isFalse hnew =>
    cases h
    exact hentries.concat (Option.not_isSome_iff_eq_none.1 hnew) hvalue

theorem append?_distinctKeys (h : entries.append? key = some changed)
    (hentries : (Value.table entries).DistinctKeys) : (Value.table changed).DistinctKeys := by
  have hempty : ∀ item ∈ [Value.table []], item.DistinctKeys :=
    List.forall_mem_singleton.2 distinctKeys_empty
  unfold append? at h
  split at h
  case h_1 hnew =>
    cases h
    exact hentries.concat hnew (.list hempty)
  case h_2 items hfound =>
    cases h
    have hitems := (hentries.lookup hfound).forall_item
    exact hentries.insert (.list (List.forall_mem_append.2 ⟨hitems, hempty⟩))
  case h_3 => cases h

/-- A change that keeps keys distinct in one table keeps them distinct in all around it. -/
theorem nest?_distinctKeys {lists : Bool} {change : Entries → Option Entries}
    (hchange : ∀ {entries changed : Entries}, change entries = some changed →
      (Value.table entries).DistinctKeys → (Value.table changed).DistinctKeys)
    {keys : List String} (h : nest? lists change keys entries = some changed)
    (hentries : (Value.table entries).DistinctKeys) : (Value.table changed).DistinctKeys := by
  induction keys generalizing entries changed with
  | nil => exact hchange h hentries
  | cons key keys ih =>
    rw [nest?] at h
    split at h
    case h_1 =>
      obtain ⟨inner, hinner, rfl⟩ := Option.map_eq_some_iff.1 h
      exact hentries.insert (ih hinner distinctKeys_empty)
    case h_2 found hfound =>
      obtain ⟨inner, hinner, rfl⟩ := Option.map_eq_some_iff.1 h
      exact hentries.insert (ih hinner (hentries.lookup hfound))
    case h_3 items hfound =>
      have hitems := (hentries.lookup hfound).forall_item
      split at h
      case h_1 last hlast =>
        obtain ⟨inner, hinner, rfl⟩ := Option.map_eq_some_iff.1 h
        -- Only the last item of the list is changed.
        refine hentries.insert (.list (List.forall_mem_append.2 ⟨fun item hitem => ?_, ?_⟩))
        · exact hitems item (List.dropLast_subset items hitem)
        · exact List.forall_mem_singleton.2
            (ih hinner (hitems _ (List.mem_of_getLast? hlast)))
      case h_2 => cases h
    case h_4 => cases h

end Entries

/-! ## Values in a text -/

theorem needed_eq_ok_iff {β : Type} {o : Option β} {b : β} :
    Refusal.needed o = .ok b ↔ o = some b := by
  cases o <;> simp [Refusal.needed]

theorem isScalar_of_based? {text rest : List Char} {value : Value}
    (h : based? text = some (value, rest)) : value.IsScalar := by
  unfold based? at h
  split at h
  · split at h
    · obtain ⟨_, -, hvalue⟩ := Option.map_eq_some_iff.1 h
      cases hvalue
      trivial
    · cases h
  · cases h

theorem isScalar_of_decimal? {text rest : List Char} {value : Value}
    (h : decimal? text = some (.ok (value, rest))) : value.IsScalar := by
  obtain ⟨_, -, hvalue⟩ := Option.map_eq_some_iff.1 h
  dsimp only at hvalue
  split at hvalue
  · obtain ⟨_, -, hvalue⟩ := map_eq_ok_iff.1 hvalue
    cases hvalue
    trivial
  · cases hvalue
    trivial

theorem isScalar_of_word? {text rest : List Char} {value : Value}
    (h : word? text = some (value, rest)) : value.IsScalar := by
  unfold word? at h
  dsimp only at h
  split at h <;> cases h <;> trivial

theorem isScalar_of_readNumber {text rest : List Char} {value : Value}
    (h : readNumber text = .ok (value, rest)) : value.IsScalar := by
  unfold readNumber at h
  split at h
  case h_1 hbased =>
    cases h
    exact isScalar_of_based? hbased
  case h_2 hdecimal =>
    cases h
    exact isScalar_of_decimal? hdecimal
  case h_3 => exact isScalar_of_word? (needed_eq_ok_iff.1 h)

theorem isScalar_of_moment? {text rest : List Char} {value : Value}
    (h : moment? text = some (value, rest)) : value.IsScalar := by
  unfold moment? at h
  split at h
  · split at h
    · cases h
      trivial
    · cases h
  · obtain ⟨_, -, hvalue⟩ := Option.map_eq_some_iff.1 h
    cases hvalue
    trivial

theorem isScalar_of_readScalar {text rest : List Char} {value : Value}
    (h : readScalar text = .ok (value, rest)) : value.IsScalar := by
  unfold readScalar at h
  -- Truth values, then moments, then numbers; none of them nests anything.
  split at h
  case h_1 =>
    cases h
    trivial
  case h_2 =>
    cases h
    trivial
  case h_3 hmoment =>
    cases h
    exact isScalar_of_moment? hmoment
  case h_4 =>
    split at h
    · cases h
    · exact isScalar_of_readNumber h

theorem addInline?_distinctKeys {entries changed : Entries} {marks : Marks} {key : List String}
    {value : Value} (h : addInline? entries marks key value = some changed)
    (hentries : (Value.table entries).DistinctKeys) (hvalue : value.DistinctKeys) :
    (Value.table changed).DistinctKeys := by
  unfold addInline? at h
  split at h
  · cases h
  · exact Entries.nest?_distinctKeys
      (fun hadd hinner => Entries.add?_distinctKeys hadd hinner hvalue) h hentries

/-- All that is read with a bound on nested readings has distinct keys: values, items of lists, and
inline tables if those they are added to have. -/
structure ReadsDistinct (fuel : Nat) : Prop where
  value : ∀ {depth : Nat} {text rest : List Char} {value : Value},
    readValue fuel depth text = .ok (value, rest) → value.DistinctKeys
  items : ∀ {depth : Nat} {text rest : List Char} {items : List Value},
    readItems fuel depth text = .ok (items, rest) → (Value.list items).DistinctKeys
  pairs : ∀ {depth : Nat} {text rest : List Char} {entries changed : Entries} {marks : Marks},
    readPairs fuel depth entries marks text = .ok (changed, rest) →
      (Value.table entries).DistinctKeys → (Value.table changed).DistinctKeys

namespace ReadsDistinct

variable {fuel depth : Nat} {text rest : List Char}

theorem zero : ReadsDistinct 0 where
  value h := by
    rw [readValue] at h
    cases h
  items h := by
    rw [readItems] at h
    cases h
  pairs h := by
    rw [readPairs] at h
    cases h

theorem value_succ (inner : ReadsDistinct fuel) {value : Value}
    (h : readValue (fuel + 1) depth text = .ok (value, rest)) : value.DistinctKeys := by
  -- The inner readings of lists and tables have distinct keys, and the other values hold none at
  -- all.
  rw [readValue.eq_def] at h
  dsimp only at h
  split at h
  case h_1 | h_2 =>
    obtain ⟨_, -, h⟩ := bind_eq_ok_iff.1 h
    cases h
    exact .scalar trivial
  case h_3 =>
    obtain ⟨_, -, h⟩ := bind_eq_ok_iff.1 h
    obtain ⟨_, -, h⟩ := bind_eq_ok_iff.1 h
    obtain ⟨_, hitems, h⟩ := bind_eq_ok_iff.1 h
    cases h
    exact inner.items hitems
  case h_4 =>
    obtain ⟨_, -, h⟩ := bind_eq_ok_iff.1 h
    split at h
    · cases h
      exact distinctKeys_empty
    · obtain ⟨_, hpairs, h⟩ := bind_eq_ok_iff.1 h
      cases h
      exact inner.pairs hpairs distinctKeys_empty
  case h_5 => exact .scalar (isScalar_of_readScalar h)

theorem items_succ (inner : ReadsDistinct fuel) {items : List Value}
    (h : readItems (fuel + 1) depth text = .ok (items, rest)) :
    (Value.list items).DistinctKeys := by
  -- Every item was read by an inner reading, the last one like those before it.
  rw [readItems.eq_def] at h
  dsimp only at h
  split at h
  case h_1 =>
    cases h
    exact .list fun _ hnone => absurd hnone List.not_mem_nil
  case h_2 =>
    obtain ⟨_, hvalue, h⟩ := bind_eq_ok_iff.1 h
    obtain ⟨_, -, h⟩ := bind_eq_ok_iff.1 h
    split at h
    · cases h
      exact .list (List.forall_mem_singleton.2 (inner.value hvalue))
    · obtain ⟨_, -, h⟩ := bind_eq_ok_iff.1 h
      obtain ⟨_, hitems, h⟩ := bind_eq_ok_iff.1 h
      cases h
      exact .list (List.forall_mem_cons.2 ⟨inner.value hvalue, (inner.items hitems).forall_item⟩)
    · cases h

theorem pairs_succ (inner : ReadsDistinct fuel) {entries changed : Entries} {marks : Marks}
    (h : readPairs (fuel + 1) depth entries marks text = .ok (changed, rest))
    (hentries : (Value.table entries).DistinctKeys) : (Value.table changed).DistinctKeys := by
  rw [readPairs] at h
  obtain ⟨_, -, h⟩ := bind_eq_ok_iff.1 h
  obtain ⟨_, -, h⟩ := bind_eq_ok_iff.1 h
  obtain ⟨_, hvalue, h⟩ := bind_eq_ok_iff.1 h
  obtain ⟨_, hadd, h⟩ := bind_eq_ok_iff.1 h
  have hadded := addInline?_distinctKeys (needed_eq_ok_iff.1 hadd) hentries (inner.value hvalue)
  split at h
  · cases h
    exact hadded
  · exact inner.pairs h hadded
  · cases h

end ReadsDistinct

theorem readsDistinct (fuel : Nat) : ReadsDistinct fuel := by
  induction fuel with
  | zero => exact .zero
  | succ fuel ih => exact ⟨ih.value_succ, ih.items_succ, ih.pairs_succ⟩

/-! ## Whole texts -/

namespace Reading

variable {r after : Reading} {text rest : List Char} {key : List String} {value : Value}

theorem openTable?_distinctKeys (h : r.openTable? key = some after)
    (hentries : (Value.table r.entries).DistinctKeys) :
    (Value.table after.entries).DistinctKeys := by
  unfold openTable? at h
  split at h
  · cases h
  · obtain ⟨entries, hnest, rfl⟩ := Option.map_eq_some_iff.1 h
    refine Entries.nest?_distinctKeys (fun hsame hinner => ?_) hnest hentries
    cases hsame
    exact hinner

theorem openItem?_distinctKeys (h : r.openItem? key = some after)
    (hentries : (Value.table r.entries).DistinctKeys) :
    (Value.table after.entries).DistinctKeys := by
  unfold openItem? at h
  split at h
  · cases h
  · obtain ⟨entries, hnest, rfl⟩ := Option.map_eq_some_iff.1 h
    exact Entries.nest?_distinctKeys Entries.append?_distinctKeys hnest hentries

theorem add?_distinctKeys (h : r.add? key value = some after)
    (hentries : (Value.table r.entries).DistinctKeys) (hvalue : value.DistinctKeys) :
    (Value.table after.entries).DistinctKeys := by
  unfold add? at h
  dsimp only at h
  split at h
  · cases h
  · obtain ⟨entries, hnest, rfl⟩ := Option.map_eq_some_iff.1 h
    exact Entries.nest?_distinctKeys
      (fun hadd hinner => Entries.add?_distinctKeys hadd hinner hvalue) hnest hentries

/-- One statement leaves the keys distinct. -/
theorem statement_distinctKeys {depth : Nat} (h : r.statement depth text = .ok (after, rest))
    (hentries : (Value.table r.entries).DistinctKeys) :
    (Value.table after.entries).DistinctKeys := by
  unfold statement at h
  -- Blank lines change nothing; headers open tables, and only an entry brings in a value.
  split at h
  case h_1 | h_2 | h_3 =>
    cases h
    exact hentries
  case h_4 =>
    obtain ⟨_, -, h⟩ := Option.bind_eq_some_iff.1 (needed_eq_ok_iff.1 h)
    obtain ⟨_, hopen, h⟩ := Option.bind_eq_some_iff.1 h
    obtain ⟨_, -, h⟩ := Option.bind_eq_some_iff.1 h
    obtain ⟨_, -, h⟩ := Option.bind_eq_some_iff.1 h
    cases h
    exact openItem?_distinctKeys hopen hentries
  case h_5 =>
    obtain ⟨_, -, h⟩ := Option.bind_eq_some_iff.1 (needed_eq_ok_iff.1 h)
    obtain ⟨_, hopen, h⟩ := Option.bind_eq_some_iff.1 h
    obtain ⟨_, -, h⟩ := Option.bind_eq_some_iff.1 h
    cases h
    exact openTable?_distinctKeys hopen hentries
  case h_6 =>
    obtain ⟨_, -, h⟩ := bind_eq_ok_iff.1 h
    obtain ⟨_, -, h⟩ := bind_eq_ok_iff.1 h
    obtain ⟨_, hvalue, h⟩ := bind_eq_ok_iff.1 h
    obtain ⟨_, hadd, h⟩ := bind_eq_ok_iff.1 h
    cases h
    exact add?_distinctKeys (needed_eq_ok_iff.1 hadd) hentries ((readsDistinct _).value hvalue)

theorem lines_distinctKeys {depth fuel : Nat} (h : lines depth fuel r text = .ok after)
    (hentries : (Value.table r.entries).DistinctKeys) :
    (Value.table after.entries).DistinctKeys := by
  induction fuel generalizing r text with
  | zero => cases h
  | succ fuel ih =>
    rw [lines] at h
    obtain ⟨_, hstatement, h⟩ := bind_eq_ok_iff.1 h
    obtain ⟨_, -, h⟩ := bind_eq_ok_iff.1 h
    have hafter := statement_distinctKeys hstatement hentries
    split at h
    · cases h
      exact hafter
    · exact ih h hafter
    · cases h

end Reading

/-- **No table of a text has a key twice**, the one that holds everything and all inside it. -/
theorem read_distinctKeys {depth : Nat} {text : List Char} {entries : Entries}
    (h : read depth text = .ok entries) :
    (Value.table entries).DistinctKeys := by
  obtain ⟨last, hlines, rfl⟩ := map_eq_ok_iff.1 h
  exact Reading.lines_distinctKeys hlines distinctKeys_empty

end Toml

end ScriptAudit
