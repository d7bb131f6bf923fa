import ScriptAudit.Proofs.NumberTexts
import ScriptAudit.Proofs.QuotedStrings

/-!
# What JSON text tells

Indented JSON is laid out by the shape of a value alone: every value ends where a comma or a line
end follows, so values and their parts can be told apart from the first character on.

- `Json.Outline`: a value as far as its text tells, with its words, its strings and its parts.
- `Json.indentedAt_eq`: the text of a value is that of its outline.
- `Json.Outline.chars_append_inj`: **texts that begin alike have the same outline and end at the
  same place.**
- `Json.indented_eq_iff`: values have the same text exactly if they have the same outline.
-/

namespace ScriptAudit.Json

/-- A text of letters, digits, signs and points. -/
abbrev Token : Type := { text : List Char // IsToken text }

/-- What stands between two quotes. -/
abbrev Body : Type := { text : List Char // IsBody text }

/-- A text between quotes. -/
def Body.ofText (text : List Char) : Body :=
  ⟨text.flatMap escapeChar, isBody_escapeText text⟩

/-- What the text of a value tells. Numbers, truth values and the empty value are words. Of a moment
only its text is left, and of a torn text only how it is written, since two halves that follow each
other are written like the character that they make up. -/
inductive Outline where
  | word (token : Token)
  | quoted (body : Body)
  | list (items : List Outline)
  | table (entries : List (List Char × Outline))

namespace Outline

mutual

/-- The outline of a value. -/
def of : Value → Outline
  | .null => .word ⟨"null".toList, by decide⟩
  | .bool b => .word ⟨if b then "true".toList else "false".toList, by cases b <;> decide⟩
  | .int n => .word ⟨(intText n).toList, isToken_intText n⟩
  | .float x => .word ⟨(floatTextIn floatStyle x).toList,
      isToken_floatTextIn (by decide) (by decide) x⟩
  | .text s => .quoted (.ofText s.toList)
  | .torn t => .quoted ⟨t.runes.flatMap escapeRune, isBody_escapeRunes t.runes⟩
  | .moment m => .quoted (.ofText m.text.toList)
  | .list items => .list (ofItems items)
  | .table entries => .table (ofEntries entries)

/-- The outlines of the items of a list. -/
def ofItems : List Value → List Outline
  | [] => []
  | item :: items => of item :: ofItems items

/-- The outlines of the entries of a table. -/
def ofEntries : List (String × Value) → List (List Char × Outline)
  | [] => []
  | (key, value) :: entries => (key.toList, of value) :: ofEntries entries

end

theorem ofItems_eq_map (items : List Value) : ofItems items = items.map of := by
  induction items with
  | nil => rw [ofItems, List.map_nil]
  | cons item items ih => rw [ofItems, ih, List.map_cons]

/-! ## Layout -/

/-- A line end and the indentation of a level. -/
def breakChars (level : Nat) : List Char :=
  '\n' :: List.replicate (2 * level) ' '

mutual

/-- The text of an outline at a level of indentation. -/
def chars (level : Nat) : Outline → List Char
  | .word token => token.1
  | .quoted body => '"' :: body.1 ++ ['"']
  | .list [] => ['[', ']']
  | .list (item :: items) =>
    '[' :: breakChars (level + 1) ++ chars (level + 1) item ++ moreItems (level + 1) items
      ++ breakChars level ++ [']']
  | .table [] => ['\x7b', '\x7d']
  | .table ((key, value) :: entries) =>
    '\x7b' :: breakChars (level + 1) ++ quote key ++ [':', ' '] ++ chars (level + 1) value
      ++ moreEntries (level + 1) entries ++ breakChars level ++ ['\x7d']

/-- Items behind another one. -/
def moreItems (level : Nat) : List Outline → List Char
  | [] => []
  | item :: items => ',' :: breakChars level ++ chars level item ++ moreItems level items

/-- Entries behind another one. -/
def moreEntries (level : Nat) : List (List Char × Outline) → List Char
  | [] => []
  | (key, value) :: entries =>
    ',' :: breakChars level ++ quote key ++ [':', ' '] ++ chars level value
      ++ moreEntries level entries

end

end Outline

theorem toList_lineBreak (level : Nat) : (lineBreak level).toList = Outline.breakChars level := by
  rw [lineBreak, String.toList_ofList, Outline.breakChars]

theorem toList_quoteString (s : String) : (quoteString s).toList = quote s.toList := by
  rw [quoteString, String.toList_ofList]

open Outline in
mutual

/-- The text of a value is that of its outline. -/
theorem indentedAt_eq (level : Nat) :
    ∀ value : Value, (indentedAt level value).toList = (Outline.of value).chars level
  | .null => by simp [indentedAt, scalar, Outline.of, chars]
  | .bool b => by cases b <;> simp [indentedAt, scalar, Outline.of, chars]
  | .int n => by simp [indentedAt, scalar, Outline.of, chars]
  | .float x => by simp [indentedAt, scalar, Outline.of, chars]
  | .text s => by simp [indentedAt, scalar, Outline.of, chars, toList_quoteString, quote, Body.ofText]
  | .torn t => by simp [indentedAt, scalar, Outline.of, chars, quoteTorn]
  | .moment m => by
    simp [indentedAt, scalar, Outline.of, chars, toList_quoteString, quote, Body.ofText]
  | .list [] => by simp [indentedAt, Outline.of, ofItems, chars]
  | .list (item :: items) => by
    have hitems := indentedItems_eq (level + 1) item items
    simp [indentedAt, Outline.of, ofItems, chars, toList_lineBreak, hitems]
  | .table [] => by simp [indentedAt, Outline.of, ofEntries, chars]
  | .table ((key, value) :: entries) => by
    have hentries := indentedEntries_eq (level + 1) key value entries
    simp [indentedAt, Outline.of, ofEntries, chars, toList_lineBreak, hentries]
termination_by value => sizeOf value

theorem indentedItems_eq (level : Nat) : ∀ (item : Value) (items : List Value),
    (indentedItems level (item :: items)).toList
      = (Outline.of item).chars level ++ moreItems level (ofItems items)
  | item, [] => by
    simp [indentedItems, ofItems, moreItems, indentedAt_eq level item]
  | item, next :: items => by
    have hitems := indentedItems_eq level next items
    simp [indentedItems, ofItems, moreItems, indentedAt_eq level item, toList_lineBreak, hitems]
termination_by item items => sizeOf (item :: items)

theorem indentedEntries_eq (level : Nat) :
    ∀ (key : String) (value : Value) (entries : List (String × Value)),
      (indentedEntries level ((key, value) :: entries)).toList
        = quote key.toList ++ [':', ' '] ++ (Outline.of value).chars level
          ++ moreEntries level (ofEntries entries)
  | key, value, [] => by
    simp [indentedEntries, ofEntries, moreEntries, indentedAt_eq level value, toList_quoteString]
  | key, value, (next, other) :: entries => by
    have hentries := indentedEntries_eq level next other entries
    simp [indentedEntries, ofEntries, moreEntries, indentedAt_eq level value, toList_quoteString,
      toList_lineBreak, hentries]
termination_by key value entries => sizeOf ((key, value) :: entries)

end

namespace Outline

/-! ## Beginnings and ends -/

/-- What may follow a value: nothing, or a character that belongs to no word. -/
def Ends (rest : List Char) : Prop :=
  ∀ c ∈ rest.head?, isTokenChar c = false

/-- What follows the last part of a value. -/
def StartsLine (rest : List Char) : Prop :=
  rest.head? = some '\n'

theorem StartsLine.ends {rest : List Char} (h : StartsLine rest) : Ends rest := by
  intro c hc
  rw [h] at hc
  cases hc
  rfl

theorem startsLine_breakChars (level : Nat) (rest : List Char) :
    StartsLine (breakChars level ++ rest) :=
  rfl

theorem ends_moreItems (level : Nat) (items : List Outline) {rest : List Char}
    (h : StartsLine rest) : Ends (moreItems level items ++ rest) := by
  cases items with
  | nil => exact h.ends
  | cons item items =>
    intro c hc
    simp [moreItems] at hc
    subst hc
    rfl

theorem ends_moreEntries (level : Nat) (entries : List (List Char × Outline)) {rest : List Char}
    (h : StartsLine rest) : Ends (moreEntries level entries ++ rest) := by
  cases entries with
  | nil => exact h.ends
  | cons entry entries =>
    obtain ⟨key, value⟩ := entry
    intro c hc
    simp [moreEntries] at hc
    subst hc
    rfl

/-- The four kinds of outlines. -/
inductive Kind where
  | word
  | quoted
  | list
  | table
  deriving DecidableEq

/-- The kind of an outline. -/
def kind : Outline → Kind
  | .word _ => .word
  | .quoted _ => .quoted
  | .list _ => .list
  | .table _ => .table

/-- The kind of outline that begins with a character. -/
def kindOf (c : Char) : Kind :=
  if c = '"' then .quoted else if c = '[' then .list else if c = '\x7b' then .table else .word

theorem kindOf_of_isTokenChar {c : Char} (h : isTokenChar c = true) : kindOf c = .word := by
  unfold kindOf
  split_ifs with hquote hbracket hbrace
  · subst hquote
    cases h
  · subst hbracket
    cases h
  · subst hbrace
    cases h
  · rfl

/-- The first character of an outline tells its kind. -/
theorem exists_head (level : Nat) (o : Outline) :
    ∃ c rest, o.chars level = c :: rest ∧ kindOf c = o.kind := by
  cases o with
  | word token =>
    obtain ⟨text, hne, hall⟩ := token
    obtain ⟨c, rest, rfl⟩ := List.exists_cons_of_ne_nil hne
    exact ⟨c, rest, by rw [chars], kindOf_of_isTokenChar (hall c List.mem_cons_self)⟩
  | quoted text => exact ⟨'"', _, by rw [chars]; rfl, rfl⟩
  | list items =>
    -- The empty list is a form of its own: it has no first entry to look at.
    cases items with
    | nil => exact ⟨'[', [']'], by rw [chars], rfl⟩
    | cons item items => exact ⟨'[', _, by rw [chars]; rfl, rfl⟩
  | table entries =>
    cases entries with
    | nil => exact ⟨'\x7b', ['\x7d'], by rw [chars], rfl⟩
    | cons entry entries => exact ⟨'\x7b', _, by rw [chars]; rfl, rfl⟩

theorem kind_eq_of_chars {level : Nat} {o p : Outline} {rest other : List Char}
    (h : o.chars level ++ rest = p.chars level ++ other) : o.kind = p.kind := by
  obtain ⟨c, text, ho, hkind⟩ := exists_head level o
  obtain ⟨d, text', hp, hkind'⟩ := exists_head level p
  rw [ho, hp] at h
  rw [← hkind, ← hkind', (List.cons.inj h).1]

/-! ## Reading on -/

/-- Words end where their characters end. -/
theorem token_append_inj {t u : Token} {rest other : List Char} (hrest : Ends rest)
    (hother : Ends other) (h : t.1 ++ rest = u.1 ++ other) : t = u ∧ rest = other := by
  have hword (t : Token) {rest : List Char} (hrest : Ends rest) :
      (t.1 ++ rest).takeWhile isTokenChar = t.1 := by
    rw [List.takeWhile_append_of_pos t.2.2]
    cases rest with
    | nil => simp
    | cons c rest => simp [hrest c rfl]
  have htext : t.1 = u.1 := by
    rw [← hword t hrest, ← hword u hother, h]
  rw [htext] at h
  exact ⟨Subtype.ext htext, List.append_cancel_left h⟩

mutual

/-- **Outlines whose texts begin alike are the same**, and their texts end at the same place. -/
theorem chars_append_inj (level : Nat) : ∀ (o p : Outline) {rest other : List Char}, Ends rest →
    Ends other → o.chars level ++ rest = p.chars level ++ other → o = p ∧ rest = other
  | .word t, .word u, rest, other, hrest, hother, h => by
    rw [chars, chars] at h
    obtain ⟨rfl, hsame⟩ := token_append_inj hrest hother h
    exact ⟨rfl, hsame⟩
  | .quoted ⟨body, hbody⟩, .quoted ⟨otherBody, hother⟩, rest, other, _, _, h => by
    simp only [chars, List.cons_append, List.append_assoc, List.cons.injEq, true_and] at h
    obtain ⟨rfl, hsame⟩ := hbody.append_inj hother h
    exact ⟨rfl, hsame⟩
  | .list [], .list [], rest, other, _, _, h => by
    simpa [chars] using h
  | .list [], .list (_ :: _), rest, other, _, _, h => by
    simp [chars, breakChars] at h
  | .list (_ :: _), .list [], rest, other, _, _, h => by
    simp [chars, breakChars] at h
  | .list (item :: items), .list (otherItem :: otherItems), rest, other, _, _, h => by
    -- The first items are the same and end at the same place, where the others begin.
    simp only [chars, List.cons_append, List.append_assoc, List.cons.injEq, true_and,
      List.append_cancel_left_eq] at h
    obtain ⟨rfl, hitems⟩ := chars_append_inj (level + 1) item otherItem
      (ends_moreItems _ _ (startsLine_breakChars level _))
      (ends_moreItems _ _ (startsLine_breakChars level _)) h
    obtain ⟨rfl, hend⟩ := moreItems_append_inj (level + 1) items otherItems
      (startsLine_breakChars level _) (startsLine_breakChars level _) hitems
    exact ⟨rfl, by simpa using hend⟩
  | .table [], .table [], rest, other, _, _, h => by
    simpa [chars] using h
  | .table [], .table (_ :: _), rest, other, _, _, h => by
    simp [chars, breakChars] at h
  | .table (_ :: _), .table [], rest, other, _, _, h => by
    simp [chars, breakChars] at h
  | .table ((key, value) :: entries), .table ((otherKey, otherValue) :: otherEntries), rest, other,
      _, _, h => by
    simp only [chars, List.cons_append, List.append_assoc, List.cons.injEq, true_and,
      List.append_cancel_left_eq] at h
    obtain ⟨rfl, hvalue⟩ := quote_append_inj h
    simp only [List.nil_append, List.cons.injEq, true_and] at hvalue
    obtain ⟨rfl, hentries⟩ := chars_append_inj (level + 1) value otherValue
      (ends_moreEntries _ _ (startsLine_breakChars level _))
      (ends_moreEntries _ _ (startsLine_breakChars level _)) hvalue
    obtain ⟨rfl, hend⟩ := moreEntries_append_inj (level + 1) entries otherEntries
      (startsLine_breakChars level _) (startsLine_breakChars level _) hentries
    exact ⟨rfl, by simpa using hend⟩
  | .word _, .quoted _, _, _, _, _, h | .word _, .list _, _, _, _, _, h
  | .word _, .table _, _, _, _, _, h | .quoted _, .word _, _, _, _, _, h
  | .quoted _, .list _, _, _, _, _, h | .quoted _, .table _, _, _, _, _, h
  | .list _, .word _, _, _, _, _, h | .list _, .quoted _, _, _, _, _, h
  | .list _, .table _, _, _, _, _, h | .table _, .word _, _, _, _, _, h
  | .table _, .quoted _, _, _, _, _, h | .table _, .list _, _, _, _, _, h =>
    -- Outlines of different kinds differ in their first characters.
    absurd (kind_eq_of_chars h) (by simp [kind])
termination_by o => sizeOf o

theorem moreItems_append_inj (level : Nat) : ∀ (items others : List Outline)
    {rest other : List Char}, StartsLine rest → StartsLine other →
      moreItems level items ++ rest = moreItems level others ++ other →
        items = others ∧ rest = other
  | [], [], rest, other, _, _, h => ⟨rfl, by simpa [moreItems] using h⟩
  | [], _ :: _, rest, other, hrest, _, h => by
    -- One text goes on with a comma where a line ends in the other.
    simp [moreItems] at h
    simp [StartsLine, h] at hrest
  | _ :: _, [], rest, other, _, hother, h => by
    simp [moreItems] at h
    simp [StartsLine, ← h] at hother
  | item :: items, otherItem :: others, rest, other, hrest, hother, h => by
    simp only [moreItems, List.cons_append, List.append_assoc, List.cons.injEq, true_and,
      List.append_cancel_left_eq] at h
    obtain ⟨rfl, hitems⟩ := chars_append_inj level item otherItem (ends_moreItems _ _ hrest)
      (ends_moreItems _ _ hother) h
    obtain ⟨rfl, hend⟩ := moreItems_append_inj level items others hrest hother hitems
    exact ⟨rfl, hend⟩
termination_by items => sizeOf items

theorem moreEntries_append_inj (level : Nat) : ∀ (entries others : List (List Char × Outline))
    {rest other : List Char}, StartsLine rest → StartsLine other →
      moreEntries level entries ++ rest = moreEntries level others ++ other →
        entries = others ∧ rest = other
  | [], [], rest, other, _, _, h => ⟨rfl, by simpa [moreEntries] using h⟩
  | [], (_, _) :: _, rest, other, hrest, _, h => by
    simp [moreEntries] at h
    simp [StartsLine, h] at hrest
  | (_, _) :: _, [], rest, other, _, hother, h => by
    simp [moreEntries] at h
    simp [StartsLine, ← h] at hother
  | (key, value) :: entries, (otherKey, otherValue) :: others, rest, other, hrest, hother, h => by
    simp only [moreEntries, List.cons_append, List.append_assoc, List.cons.injEq, true_and,
      List.append_cancel_left_eq] at h
    obtain ⟨rfl, hvalue⟩ := quote_append_inj h
    simp only [List.nil_append, List.cons.injEq, true_and] at hvalue
    obtain ⟨rfl, hentries⟩ := chars_append_inj level value otherValue (ends_moreEntries _ _ hrest)
      (ends_moreEntries _ _ hother) hvalue
    obtain ⟨rfl, hend⟩ := moreEntries_append_inj level entries others hrest hother hentries
    exact ⟨rfl, hend⟩
termination_by entries => sizeOf entries

end

end Outline

/-- **The text of a value tells its outline and nothing else.** -/
theorem indented_eq_iff {v w : Value} : indented v = indented w ↔ Outline.of v = Outline.of w := by
  have hends : Outline.Ends [] := fun c hc => by cases hc
  constructor
  · intro h
    have hchars := congrArg String.toList h
    rw [indented, indented, indentedAt_eq, indentedAt_eq] at hchars
    exact (Outline.chars_append_inj 0 _ _ hends hends (by rw [hchars])).1
  · intro h
    rw [← String.toList_inj, indented, indented, indentedAt_eq, indentedAt_eq, h]

end ScriptAudit.Json
