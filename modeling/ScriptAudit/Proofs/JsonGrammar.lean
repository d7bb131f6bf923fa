import ScriptAudit.Proofs.DistinctKeys
import ScriptAudit.Proofs.JsonScalars

/-!
# The grammar of JSON

What a text denotes, said without the reader, and that the reader finds exactly this. Blanks may
stand around every value. The reader has two limits that JSON does not have: on the digits of a
whole number and on the nesting of collections.

- `Json.Denotes`: whether a text denotes a value, with the digits and the levels that it may need.
- `Json.Denotes.yields`: what is denoted is read, by the rules of the grammar.
- `Json.readsDenoted`: what is read is denoted, by the nesting of readings.
- `Json.read_eq_ok_iff`: **what is read from a text is what it denotes within the limits.**
- `Json.Denotes.yields_read`: **a text that denotes a value has no other one, and it is refused for
  its size only.**
-/

namespace ScriptAudit.Json

variable {text rest : List Char}

/-! ## Blanks -/

/-- A text of blanks only, or the empty one. -/
def IsBlanks (text : List Char) : Prop :=
  ∀ c ∈ text, isBlank c = true

theorem isBlanks_nil : IsBlanks [] :=
  fun _ hnone => absurd hnone List.not_mem_nil

theorem exists_isBlanks (h : skipBlanks text = rest) :
    ∃ blanks, IsBlanks blanks ∧ text = blanks ++ rest := by
  subst h
  exact ⟨text.takeWhile isBlank, fun _ => List.mem_takeWhile_imp,
    List.takeWhile_append_dropWhile.symm⟩

theorem IsBlanks.skipBlanks_append {blanks : List Char} (h : IsBlanks blanks) (text : List Char) :
    skipBlanks (blanks ++ text) = skipBlanks text :=
  List.dropWhile_append_of_pos h

theorem skipBlanks_cons {c : Char} (h : isBlank c = false) :
    skipBlanks (c :: text) = c :: text := by
  rw [skipBlanks, List.dropWhile_cons_of_neg (Bool.not_eq_true _ ▸ h)]

theorem isTokenChar_of_isBlank {c : Char} (h : isBlank c = true) : isTokenChar c = false := by
  simp only [isBlank, Bool.or_eq_true, beq_iff_eq] at h
  rcases h with ((rfl | rfl) | rfl) | rfl <;> rfl

theorem IsBlanks.ends_append {blanks : List Char} (h : IsBlanks blanks)
    (hrest : Outline.Ends rest) : Outline.Ends (blanks ++ rest) := by
  cases blanks with
  | nil => exact hrest
  | cons c blanks =>
    intro first hfirst
    cases hfirst
    exact isTokenChar_of_isBlank (h _ List.mem_cons_self)

/-! ## The grammar -/

/-- Entries with others that are written behind them: a later one takes the place of an earlier one
with its key. -/
def entered (before written : List (String × Value)) : List (String × Value) :=
  written.foldl (fun entries entry => insertEntry entry.1 entry.2 entries) before

/-- Whether a text is a key, with the colon that follows it. Halves in the key are replaced. -/
inductive SpellsKey : List Char → String → Prop
  | mk {left source right : List Char} {runes : List Rune} (hleft : IsBlanks left)
    (hkey : SpellsText source runes) (hright : IsBlanks right) :
    SpellsKey (left ++ '"' :: (source ++ '"' :: (right ++ [':']))) (Rune.text runes)

mutual

/-- Whether a text denotes a value. Whole numbers in it have at most `longest` digits, and its
collections are nested in at most so many levels. -/
inductive Denotes (longest : Nat) : Nat → List Char → Value → Prop
  | padded {levels : Nat} {left text right : List Char} {value : Value} (hleft : IsBlanks left)
    (hright : IsBlanks right) (h : Denotes longest levels text value) :
    Denotes longest levels (left ++ (text ++ right)) value
  | scalar {levels : Nat} {text : List Char} {value : Value}
    (h : SpellsScalar longest text value) : Denotes longest levels text value
  | text {levels : Nat} {source : List Char} {runes : List Rune} (h : SpellsText source runes) :
    Denotes longest levels ('"' :: (source ++ ['"'])) (.ofRunes runes)
  | emptyList {levels : Nat} {blanks : List Char} (h : IsBlanks blanks) :
    Denotes longest (levels + 1) ('[' :: (blanks ++ [']'])) (.list [])
  | list {levels : Nat} {text : List Char} {items : List Value}
    (h : DenotesItems longest levels text items) :
    Denotes longest (levels + 1) ('[' :: (text ++ [']'])) (.list items)
  | emptyTable {levels : Nat} {blanks : List Char} (h : IsBlanks blanks) :
    Denotes longest (levels + 1) ('\x7b' :: (blanks ++ ['\x7d'])) (.table [])
  | table {levels : Nat} {text : List Char} {entries : List (String × Value)}
    (h : DenotesEntries longest levels text entries) :
    Denotes longest (levels + 1) ('\x7b' :: (text ++ ['\x7d'])) (.table (entered [] entries))

/-- The items between two brackets. -/
inductive DenotesItems (longest : Nat) : Nat → List Char → List Value → Prop
  | last {levels : Nat} {text : List Char} {item : Value} (h : Denotes longest levels text item) :
    DenotesItems longest levels text [item]
  | more {levels : Nat} {text others : List Char} {item : Value} {items : List Value}
    (h : Denotes longest levels text item) (hothers : DenotesItems longest levels others items) :
    DenotesItems longest levels (text ++ ',' :: others) (item :: items)

/-- The entries between two braces. -/
inductive DenotesEntries (longest : Nat) : Nat → List Char → List (String × Value) → Prop
  | last {levels : Nat} {head text : List Char} {key : String} {value : Value}
    (hkey : SpellsKey head key) (h : Denotes longest levels text value) :
    DenotesEntries longest levels (head ++ text) [(key, value)]
  | more {levels : Nat} {head text others : List Char} {key : String} {value : Value}
    {entries : List (String × Value)} (hkey : SpellsKey head key)
    (h : Denotes longest levels text value)
    (hothers : DenotesEntries longest levels others entries) :
    DenotesEntries longest levels (head ++ (text ++ ',' :: others)) ((key, value) :: entries)

end

variable {longest levels fuel deep : Nat} {value : Value}

/-! ## What is denoted is read -/

theorem readValue_scalar {c : Char} (h : isTokenChar c = true) :
    readValue (fuel + 1) deep (c :: text) = readScalar (c :: text) := by
  have hne {d : Char} (hd : isTokenChar d = false) : c ≠ d := by
    rintro rfl
    exact absurd (h.symm.trans hd) nofun
  rw [readValue]
  · exact fun _ heq => hne rfl (List.cons.inj heq).1
  · exact fun _ heq => absurd (List.cons.inj heq).1 (hne rfl)
  · exact fun _ heq => absurd (List.cons.inj heq).1 (hne rfl)
  · exact fun _ _ heq => absurd (List.cons.inj heq).1 (hne rfl)
  · exact fun _ _ heq => absurd (List.cons.inj heq).1 (hne rfl)

theorem readValue_bracket (h : ∀ after, skipBlanks text ≠ ']' :: after) :
    readValue (fuel + 1) (deep + 1) ('[' :: text)
      = (readItems fuel deep (skipBlanks text)).map fun found => (.list found.1, found.2) := by
  rw [readValue]
  split
  case h_1 heq => exact absurd heq (h _)
  case h_2 => cases readItems fuel deep (skipBlanks text) <;> rfl

theorem readValue_brace (h : ∀ after, skipBlanks text ≠ '\x7d' :: after) :
    readValue (fuel + 1) (deep + 1) ('\x7b' :: text)
      = (readEntries fuel deep [] (skipBlanks text)).map fun found =>
          (.table found.1, found.2) := by
  rw [readValue]
  split
  case h_1 heq => exact absurd heq (h _)
  case h_2 => cases readEntries fuel deep [] (skipBlanks text) <;> rfl

theorem skipBlanks_eq_cons {c : Char} (h : isTokenChar c = true) :
    skipBlanks (c :: text) = c :: text :=
  skipBlanks_cons (Bool.eq_false_iff.2 fun hblank =>
    absurd (h.symm.trans (isTokenChar_of_isBlank hblank)) nofun)

/-- No value begins with a closing bracket. -/
theorem Denotes.head {levels : Nat} {text : List Char} {value : Value} :
    Denotes longest levels text value → ∀ rest after, skipBlanks (text ++ rest) ≠ ']' :: after
  | .padded hleft _ h, rest, after => by
    rw [List.append_assoc, hleft.skipBlanks_append, List.append_assoc]
    exact h.head _ _
  | .scalar h, rest, after => by
    obtain ⟨c, tail, rfl, hc⟩ := h.exists_cons
    rw [List.cons_append, skipBlanks_eq_cons hc]
    rintro heq
    cases heq
    cases hc
  | .text _, _, _ | .emptyList _, _, _ | .list _, _, _ | .emptyTable _, _, _
  | .table _, _, _ => nofun

theorem DenotesItems.head {items : List Value} (h : DenotesItems longest levels text items)
    (rest after : List Char) : skipBlanks (text ++ rest) ≠ ']' :: after := by
  cases h with
  | last h => exact h.head _ _
  | more h _ =>
    rw [List.append_assoc]
    exact h.head _ _

theorem SpellsKey.head {head : List Char} {key : String} (h : SpellsKey head key)
    (rest after : List Char) : skipBlanks (head ++ rest) ≠ '\x7d' :: after := by
  obtain ⟨hleft, hkey, hright⟩ := h
  rw [List.append_assoc, hleft.skipBlanks_append]
  exact nofun

theorem DenotesEntries.head {entries : List (String × Value)}
    (h : DenotesEntries longest levels text entries) (rest after : List Char) :
    skipBlanks (text ++ rest) ≠ '\x7d' :: after := by
  cases h with
  | last hkey _ | more hkey _ _ =>
    rw [List.append_assoc]
    exact hkey.head _ _

/-- Behind the value of an entry comes the next entry, or the end of the table. -/
def readMoreEntries (fuel deep : Nat) (entries : List (String × Value)) (rest : List Char) :
    Except Refusal (List (String × Value) × List Char) :=
  match skipBlanks rest with
  | '\x7d' :: rest => .ok (entries, rest)
  | ',' :: rest => readEntries fuel deep entries (skipBlanks rest)
  | _ => .error .malformed

theorem SpellsKey.readEntries {head : List Char} {key : String} (h : SpellsKey head key)
    (before : List (String × Value)) (rest : List Char) :
    readEntries (fuel + 1) deep before (skipBlanks (head ++ rest))
      = readValue fuel deep (skipBlanks rest) >>= fun found =>
          readMoreEntries fuel deep (insertEntry key found.1 before) found.2 := by
  cases h with
  | @mk left source right runes hleft hkey hright =>
    have hcolon : skipBlanks (right ++ ':' :: rest) = ':' :: rest := by
      rw [hright.skipBlanks_append, skipBlanks_cons rfl]
    rw [List.append_assoc, hleft.skipBlanks_append, List.cons_append, skipBlanks_cons rfl,
      List.append_assoc, List.cons_append, List.append_assoc, Json.readEntries, hkey.stringBody?]
    simp only [Refusal.needed, bind, Except.bind, List.singleton_append, hcolon]
    cases readValue fuel deep (skipBlanks rest) <;> rfl

theorem ends_of_cons {c : Char} (h : isTokenChar c = false) (rest : List Char) :
    Outline.Ends (c :: rest) := by
  intro first hfirst
  cases hfirst
  exact h

/-- Reading what is not empty takes a step. -/
theorem exists_step {c : Char} (h : (c :: text).length ≤ fuel) :
    ∃ left, fuel = left + 1 ∧ text.length ≤ left := by
  obtain ⟨left, rfl⟩ := Nat.exists_eq_add_of_le' h
  exact ⟨left + text.length, rfl, Nat.le_add_left _ _⟩

/-- A collection may be opened wherever the reader has a level left for it. -/
theorem yields_opened {p : Value × List Char → Prop} {c : Char} (hopens : c = '[' ∨ c = '\x7b')
    (h : ∀ deep, Yields longest (levels + 1) (deep + 1) p
      (readValue (fuel + 1) (deep + 1) (c :: text))) :
    Yields longest (levels + 1) deep p (readValue (fuel + 1) deep (c :: text)) := by
  cases deep with
  | zero => rcases hopens with rfl | rfl <;> exact .tooDeep (Nat.succ_pos _)
  | succ deep => exact h deep

-- The induction is on the grammar. Each part of a text is shorter than the text by the character
-- that a step has taken, so the fuel lasts; and each reader is told what may follow its part.
mutual

/-- A value that is denoted is read, up to blanks behind it. -/
theorem Denotes.yields {levels : Nat} {text : List Char} {value : Value} :
    Denotes longest levels text value → ∀ {fuel deep : Nat} {rest : List Char},
      text.length ≤ fuel → Outline.Ends rest →
      Yields longest levels deep
        (fun found => found.1 = value ∧ skipBlanks found.2 = skipBlanks rest)
        (readValue fuel deep (skipBlanks (text ++ rest)))
  -- By the grammar, one case for each way of writing a value.
  | .padded hleft hright h, fuel, deep, rest, hfuel, hrest => by
    simp only [List.length_append] at hfuel
    -- The blanks behind the value are not read with it, but they may follow it.
    rw [List.append_assoc, hleft.skipBlanks_append, List.append_assoc,
      ← hright.skipBlanks_append rest]
    exact h.yields (by omega) (hright.ends_append hrest)
  | .scalar h, fuel, deep, rest, hfuel, hrest => by
    obtain ⟨c, tail, rfl, hc⟩ := h.exists_cons
    obtain ⟨fuel, rfl, -⟩ := exists_step hfuel
    rw [List.cons_append, skipBlanks_eq_cons hc, readValue_scalar hc]
    refine (h.readScalar hrest).mono fun found hfound => ?_
    subst hfound
    exact ⟨rfl, rfl⟩
  | .text h, fuel, deep, rest, hfuel, hrest => by
    obtain ⟨fuel, rfl, -⟩ := exists_step hfuel
    rw [List.cons_append, skipBlanks_cons rfl, readValue_quote, List.append_assoc,
      List.singleton_append, h.stringBody?]
    exact ⟨rfl, rfl⟩
  | .emptyList h, fuel, deep, rest, hfuel, hrest => by
    obtain ⟨fuel, rfl, -⟩ := exists_step hfuel
    rw [List.cons_append, skipBlanks_cons rfl]
    refine yields_opened (.inl rfl) fun deep => ?_
    rw [readValue, List.append_assoc, h.skipBlanks_append, List.singleton_append,
      skipBlanks_cons rfl]
    exact ⟨rfl, rfl⟩
  | .list h, fuel, deep, rest, hfuel, hrest => by
    obtain ⟨fuel, rfl, hleft⟩ := exists_step hfuel
    rw [List.length_append] at hleft
    rw [List.cons_append, skipBlanks_cons rfl]
    refine yields_opened (.inl rfl) fun deep => ?_
    rw [List.append_assoc, List.singleton_append, readValue_bracket (h.head _)]
    refine (h.yields hleft).deeper.map fun found hfound => ?_
    subst hfound
    exact ⟨rfl, rfl⟩
  | .emptyTable h, fuel, deep, rest, hfuel, hrest => by
    obtain ⟨fuel, rfl, -⟩ := exists_step hfuel
    rw [List.cons_append, skipBlanks_cons rfl]
    refine yields_opened (.inr rfl) fun deep => ?_
    rw [readValue, List.append_assoc, h.skipBlanks_append, List.singleton_append,
      skipBlanks_cons rfl]
    exact ⟨rfl, rfl⟩
  | .table h, fuel, deep, rest, hfuel, hrest => by
    obtain ⟨fuel, rfl, hleft⟩ := exists_step hfuel
    rw [List.length_append] at hleft
    rw [List.cons_append, skipBlanks_cons rfl]
    refine yields_opened (.inr rfl) fun deep => ?_
    rw [List.append_assoc, List.singleton_append, readValue_brace (h.head _)]
    refine (h.yields hleft).deeper.map fun found hfound => ?_
    subst hfound
    exact ⟨rfl, rfl⟩

theorem DenotesItems.yields {levels : Nat} {text : List Char} {items : List Value} :
    DenotesItems longest levels text items → ∀ {fuel deep : Nat} {rest : List Char},
      text.length + 1 ≤ fuel →
      Yields longest levels deep (· = (items, rest))
        (readItems fuel deep (skipBlanks (text ++ ']' :: rest)))
  | .last h, fuel, deep, rest, hfuel => by
    -- The last item ends at the closing bracket, and any other at a comma with more items behind
    -- it.
    obtain ⟨spare, rfl⟩ := Nat.exists_eq_add_of_le' hfuel
    rw [← Nat.add_assoc, readItems]
    refine (h.yields (Nat.le_add_left _ _) (ends_of_cons rfl rest)).bind fun found hfound => ?_
    obtain ⟨item, behind⟩ := found
    obtain ⟨rfl, hbehind⟩ := hfound
    dsimp only at hbehind ⊢
    rw [hbehind, skipBlanks_cons rfl]
    rfl
  | .more h hothers, fuel, deep, rest, hfuel => by
    obtain ⟨spare, rfl⟩ := Nat.exists_eq_add_of_le' hfuel
    rw [← Nat.add_assoc, readItems, List.append_assoc, List.cons_append]
    simp only [List.length_append, List.length_cons]
    refine (h.yields (by omega) (ends_of_cons rfl _)).bind fun found hfound => ?_
    obtain ⟨item, behind⟩ := found
    obtain ⟨rfl, hbehind⟩ := hfound
    dsimp only at hbehind ⊢
    rw [hbehind, skipBlanks_cons rfl]
    refine (hothers.yields (by omega)).bind fun found hfound => ?_
    subst hfound
    rfl

theorem DenotesEntries.yields {levels : Nat} {text : List Char} {entries : List (String × Value)} :
    DenotesEntries longest levels text entries → ∀ {fuel deep : Nat} {rest : List Char}
      {before : List (String × Value)}, text.length + 1 ≤ fuel →
      Yields longest levels deep
        (· = (entered before entries, rest))
        (readEntries fuel deep before (skipBlanks (text ++ '\x7d' :: rest)))
  | .last hkey h, fuel, deep, rest, before, hfuel => by
    -- Each entry is put in behind those read before it.
    obtain ⟨spare, rfl⟩ := Nat.exists_eq_add_of_le' hfuel
    rw [← Nat.add_assoc, List.append_assoc, hkey.readEntries]
    simp only [List.length_append]
    refine (h.yields (by omega) (ends_of_cons rfl rest)).bind fun found hfound => ?_
    obtain ⟨rfl, hbehind⟩ := hfound
    rw [readMoreEntries, hbehind, skipBlanks_cons rfl]
    rfl
  | .more hkey h hothers, fuel, deep, rest, before, hfuel => by
    obtain ⟨spare, rfl⟩ := Nat.exists_eq_add_of_le' hfuel
    rw [← Nat.add_assoc, List.append_assoc, hkey.readEntries, List.append_assoc,
      List.cons_append]
    simp only [List.length_append, List.length_cons]
    refine (h.yields (by omega) (ends_of_cons rfl _)).bind fun found hfound => ?_
    obtain ⟨rfl, hbehind⟩ := hfound
    rw [readMoreEntries, hbehind, skipBlanks_cons rfl]
    exact hothers.yields (by omega)

end

/-! ## What is read is denoted -/

theorem Denotes.behindBlanks {left : List Char} (h : Denotes longest levels text value)
    (hleft : IsBlanks left) : Denotes longest levels (left ++ text) value := by
  simpa using Denotes.padded hleft isBlanks_nil h

theorem Denotes.beforeBlanks {right : List Char} (h : Denotes longest levels text value)
    (hright : IsBlanks right) : Denotes longest levels (text ++ right) value :=
  .padded isBlanks_nil hright h

theorem DenotesItems.behindBlanks {left : List Char} {items : List Value}
    (h : DenotesItems longest levels text items) (hleft : IsBlanks left) :
    DenotesItems longest levels (left ++ text) items := by
  cases h with
  | last h => exact .last (h.behindBlanks hleft)
  | more h hothers =>
    rw [← List.append_assoc]
    exact .more (h.behindBlanks hleft) hothers

/-- A key without characters that need an escape is spelled by itself. -/
theorem SpellsKey.of_plain {key : List Char}
    (h : ∀ c ∈ key, c ≠ '"' ∧ c ≠ '\\' ∧ ¬c.toNat < 0x20) :
    SpellsKey ('"' :: (key ++ '"' :: [':'])) (String.ofList key) := by
  simpa [Rune.text, Function.comp_def, Rune.char] using
    SpellsKey.mk isBlanks_nil (.of_plain h) isBlanks_nil

theorem SpellsKey.behindBlanks {head left : List Char} {key : String} (h : SpellsKey head key)
    (hleft : IsBlanks left) : SpellsKey (left ++ head) key := by
  obtain ⟨hbefore, hkey, hright⟩ := h
  rw [← List.append_assoc]
  exact .mk (List.forall_mem_append.2 ⟨hleft, hbefore⟩) hkey hright

theorem DenotesEntries.behindBlanks {left : List Char} {entries : List (String × Value)}
    (h : DenotesEntries longest levels text entries) (hleft : IsBlanks left) :
    DenotesEntries longest levels (left ++ text) entries := by
  cases h with
  | last hkey h =>
    rw [← List.append_assoc]
    exact .last (hkey.behindBlanks hleft) h
  | more hkey h hothers =>
    rw [← List.append_assoc]
    exact .more (hkey.behindBlanks hleft) h hothers

/-- What is read with so many nested readings is denoted. -/
structure ReadsDenoted (fuel : Nat) : Prop where
  value {deep : Nat} {text rest : List Char} {value : Value}
    (h : readValue fuel deep text = .ok (value, rest)) :
    ∃ taken, text = taken ++ rest ∧ Denotes longestNumber deep taken value
  items {deep : Nat} {text rest : List Char} {items : List Value}
    (h : readItems fuel deep text = .ok (items, rest)) :
    ∃ taken, text = taken ++ ']' :: rest ∧ DenotesItems longestNumber deep taken items
  entries {deep : Nat} {text rest : List Char} {before entries : List (String × Value)}
    (h : readEntries fuel deep before text = .ok (entries, rest)) :
    ∃ taken written, text = taken ++ '\x7d' :: rest ∧
      DenotesEntries longestNumber deep taken written ∧
      entries = entered before written

namespace ReadsDenoted

theorem zero : ReadsDenoted 0 where
  value h := by
    rw [readValue] at h
    cases h
  items h := by
    rw [readItems] at h
    cases h
  entries h := by
    rw [readEntries] at h
    cases h

theorem value_succ (inner : ReadsDenoted fuel)
    (h : readValue (fuel + 1) deep text = .ok (value, rest)) :
    ∃ taken, text = taken ++ rest ∧ Denotes longestNumber deep taken value := by
  rw [readValue.eq_def] at h
  dsimp only at h
  -- One case for each character that a value can begin with. What stands between the brackets was
  -- read by an inner reading.
  split at h
  case h_1 =>
    obtain ⟨_, hbody, h⟩ := bind_eq_ok_iff.1 h
    cases h
    obtain ⟨source, runes, rfl, hrunes, hspells⟩ :=
      spellsUpTo_of_stringBody? (Toml.needed_eq_ok_iff.1 hbody)
    rw [hrunes]
    exact ⟨'"' :: (source ++ ['"']), by simp, .text hspells⟩
  case h_2 | h_3 => cases h
  case h_4 =>
    split at h
    case h_1 hend =>
      cases h
      obtain ⟨blanks, hblanks, rfl⟩ := exists_isBlanks hend
      exact ⟨'[' :: (blanks ++ [']']), by simp, .emptyList hblanks⟩
    case h_2 =>
      obtain ⟨_, hitems, h⟩ := bind_eq_ok_iff.1 h
      cases h
      obtain ⟨taken, htaken, hdenotes⟩ := inner.items hitems
      obtain ⟨blanks, hblanks, rfl⟩ := exists_isBlanks htaken
      exact ⟨'[' :: (blanks ++ taken ++ [']']), by simp, .list (hdenotes.behindBlanks hblanks)⟩
  case h_5 =>
    split at h
    case h_1 hend =>
      cases h
      obtain ⟨blanks, hblanks, rfl⟩ := exists_isBlanks hend
      exact ⟨'\x7b' :: (blanks ++ ['\x7d']), by simp, .emptyTable hblanks⟩
    case h_2 =>
      obtain ⟨_, hentries, h⟩ := bind_eq_ok_iff.1 h
      cases h
      obtain ⟨taken, written, htaken, hdenotes, hwritten⟩ := inner.entries hentries
      obtain ⟨blanks, hblanks, rfl⟩ := exists_isBlanks htaken
      rw [hwritten]
      exact ⟨'\x7b' :: (blanks ++ taken ++ ['\x7d']), by simp,
        .table (hdenotes.behindBlanks hblanks)⟩
  case h_6 =>
    obtain ⟨taken, rfl, hspells⟩ := spellsScalar_of_readScalar h
    exact ⟨taken, rfl, .scalar hspells⟩

theorem items_succ (inner : ReadsDenoted fuel) {items : List Value}
    (h : readItems (fuel + 1) deep text = .ok (items, rest)) :
    ∃ taken, text = taken ++ ']' :: rest ∧ DenotesItems longestNumber deep taken items := by
  rw [readItems] at h
  obtain ⟨⟨item, after⟩, hitem, hmore⟩ := bind_eq_ok_iff.1 h
  obtain ⟨taken, rfl, hdenotes⟩ := inner.value hitem
  dsimp only at hmore
  split at hmore
  -- Behind an item comes the end of the list or a comma; the blanks on either side belong to the
  -- text that was read.
  case h_1 hend =>
    cases hmore
    obtain ⟨blanks, hblanks, rfl⟩ := exists_isBlanks hend
    exact ⟨taken ++ blanks, by simp, .last (hdenotes.beforeBlanks hblanks)⟩
  case h_2 hcomma =>
    obtain ⟨_, hitems, hmore⟩ := bind_eq_ok_iff.1 hmore
    cases hmore
    obtain ⟨others, hothers, hdenotesOthers⟩ := inner.items hitems
    obtain ⟨left, hleft, rfl⟩ := exists_isBlanks hothers
    obtain ⟨blanks, hblanks, rfl⟩ := exists_isBlanks hcomma
    exact ⟨taken ++ blanks ++ ',' :: (left ++ others), by simp,
      .more (hdenotes.beforeBlanks hblanks) (hdenotesOthers.behindBlanks hleft)⟩
  case h_3 => cases hmore

theorem entries_succ (inner : ReadsDenoted fuel) {before entries : List (String × Value)}
    (h : readEntries (fuel + 1) deep before text = .ok (entries, rest)) :
    ∃ taken written, text = taken ++ '\x7d' :: rest ∧
      DenotesEntries longestNumber deep taken written ∧
      entries = entered before written := by
  rw [readEntries.eq_def] at h
  dsimp only at h
  -- An entry is a key, a colon and a value, with blanks around each of them.
  split at h
  case h_2 => cases h
  obtain ⟨⟨body, behindKey⟩, hbody, hbehindKey⟩ := bind_eq_ok_iff.1 h
  obtain ⟨source, runes, rfl, rfl, hspells⟩ :=
    spellsUpTo_of_stringBody? (Toml.needed_eq_ok_iff.1 hbody)
  dsimp only at hbehindKey
  split at hbehindKey
  case h_2 => cases hbehindKey
  rename_i hcolon
  obtain ⟨⟨value, after⟩, hvalue, hmore⟩ := bind_eq_ok_iff.1 hbehindKey
  obtain ⟨taken, htaken, hdenotes⟩ := inner.value hvalue
  obtain ⟨left, hleft, rfl⟩ := exists_isBlanks htaken
  obtain ⟨right, hright, rfl⟩ := exists_isBlanks hcolon
  have hkey := SpellsKey.mk isBlanks_nil hspells hright
  have hpadded := hdenotes.behindBlanks hleft
  dsimp only at hmore
  split at hmore
  case h_1 hend =>
    cases hmore
    obtain ⟨blanks, hblanks, rfl⟩ := exists_isBlanks hend
    exact ⟨_, _, by simp, .last hkey (hpadded.beforeBlanks hblanks), rfl⟩
  case h_2 hcomma =>
    obtain ⟨others, written, hothers, hdenotesOthers, hwritten⟩ := inner.entries hmore
    obtain ⟨ahead, hahead, rfl⟩ := exists_isBlanks hothers
    obtain ⟨blanks, hblanks, rfl⟩ := exists_isBlanks hcomma
    exact ⟨_, _, by simp,
      .more hkey (hpadded.beforeBlanks hblanks) (hdenotesOthers.behindBlanks hahead), hwritten⟩
  case h_3 => cases hmore

end ReadsDenoted

theorem readsDenoted (fuel : Nat) : ReadsDenoted fuel := by
  induction fuel with
  | zero => exact .zero
  | succ fuel ih => exact ⟨ih.value_succ, ih.items_succ, ih.entries_succ⟩

/-! ## Whole texts -/

/-- A text that denotes a value is read as this value, or refused for its size. -/
theorem Denotes.yields_read {depth : Nat} (h : Denotes longest levels text value) :
    Yields longest levels depth (· = value) (read depth text) := by
  have hends : Outline.Ends [] := nofun
  have hread : Yields longest levels depth _ _ := h.yields (Nat.le_succ _) hends
  rw [List.append_nil] at hread
  refine hread.bind fun found hfound => ?_
  obtain ⟨found, rest⟩ := found
  obtain ⟨rfl, hrest⟩ := hfound
  dsimp only at hrest ⊢
  rw [hrest]
  rfl

/-- **What is read from a text is what it denotes**, within the limits of the reader. -/
theorem read_eq_ok_iff {depth : Nat} :
    read depth text = .ok value ↔ Denotes longestNumber depth text value := by
  constructor
  · intro h
    obtain ⟨⟨found, rest⟩, hfound, hend⟩ := bind_eq_ok_iff.1 h
    obtain ⟨taken, htaken, hdenotes⟩ := (readsDenoted _).value hfound
    obtain ⟨blanks, hblanks, rfl⟩ := exists_isBlanks htaken
    dsimp only at hend
    split at hend
    case isTrue hnone =>
      cases hend
      have hrest := List.dropWhile_eq_nil_iff.1 (List.isEmpty_iff.1 hnone)
      exact (hdenotes.beforeBlanks hrest).behindBlanks hblanks
    case isFalse => cases hend
  · intro h
    have hread : Yields longestNumber depth depth (· = value) (read depth text) := h.yields_read
    cases hfound : read depth text with
    | ok found =>
      rw [hfound] at hread
      exact congrArg _ hread
    | error refusal =>
      -- Nothing in the text goes beyond the limits.
      rw [hfound] at hread
      cases hread with
      | tooLong hlong hlongest => exact absurd hlongest (Nat.not_le_of_lt hlong)
      | tooDeep hdeep => exact absurd hdeep (Nat.lt_irrefl _)

/-- A text that is refused as no data denotes nothing, whatever its size. -/
theorem Denotes.read_ne_malformed {depth : Nat} (h : Denotes longest levels text value) :
    read depth text ≠ .error .malformed := by
  intro hread
  have hyields : Yields longest levels depth (· = value) (read depth text) := h.yields_read
  rw [hread] at hyields
  cases hyields

/-- A text denotes one value only. -/
theorem Denotes.eq_of_read {depth : Nat} {found : Value} (h : Denotes longest levels text value)
    (hread : read depth text = .ok found) : found = value := by
  have hyields : Yields longest levels depth (· = value) (read depth text) := h.yields_read
  rw [hread] at hyields
  exact hyields

end ScriptAudit.Json
