import Mathlib.Tactic.IntervalCases
import Mathlib.Tactic.SplitIfs
import ScriptAudit.Json.Parser
import ScriptAudit.Json.Printer

/-!
# Strings read back

A quoted string tells its text. Each character is written by an escape of its own or stands for
itself, and the reader undoes one escape after the other.

- `hexUnit?_hex`: four hexadecimal digits give back the number they were made of.
- `stringBody?_escapeChar`: **the escape of a character reads as that character**, a pair of
  surrogates included, whatever follows it.
- `stringBody?_quote`: what is read between the quotes of a text is that text.
- `quote_append_inj`: quoted texts are told apart even if something follows them.
- `IsBody`: what can stand between two quotes, torn or not; `IsBody.append_inj`: it ends at the first
  quote that is not escaped.
-/

namespace ScriptAudit.Json

/-! ## Hexadecimal digits -/

theorem hexValue?_hexDigit {n : Nat} (h : n < 16) : hexValue? (Text.hexDigit n) = some n := by
  interval_cases n <;> rfl

/-- The four digits of a number below `0x10000` give it back. -/
theorem hexUnit?_hex {unit : Nat} (h : unit < 0x10000) :
    ∃ a b c d, Text.hex 4 unit = [a, b, c, d] ∧ hexUnit? a b c d = some unit := by
  refine ⟨_, _, _, _, rfl, ?_⟩
  have hdigit (n : Nat) : hexValue? (Text.hexDigit (n % 16)) = some (n % 16) :=
    hexValue?_hexDigit (Nat.mod_lt n (by decide))
  simp only [hexUnit?, hdigit, Option.bind_eq_bind, Option.bind_some, Option.pure_def]
  congr 1
  omega

/-! ## Escapes -/

variable {read : List Rune} {rest : List Char}

/-- A character that needs no escape is read as it stands. -/
theorem stringBody?_plain {c : Char} (hquote : c ≠ '"') (hslash : c ≠ '\\')
    (hcontrol : ¬c.toNat < 0x20) : stringBody? read (c :: rest) = stringBody? (.whole c :: read) rest := by
  rw [stringBody?, if_neg (not_or_intro hcontrol hslash)]
  · exact hquote
  · exact fun _ _ _ _ _ _ _ _ _ h => absurd h hslash
  · exact fun _ _ _ _ _ h => absurd h hslash
  · exact fun _ _ h => absurd h hslash

/-- An escape of one letter is read as the character that the letter stands for. -/
theorem stringBody?_letter {c d : Char} (hletter : c ≠ 'u') (h : escaped? c = some d) :
    stringBody? read ('\\' :: c :: rest) = stringBody? (.whole d :: read) rest := by
  rw [stringBody?, h]
  · exact fun _ _ _ _ _ _ _ _ _ hu => absurd hu hletter
  · exact fun _ _ _ _ _ hu => absurd hu hletter

/-- An escape of four digits that opens no pair is read for itself, even if another one follows. -/
theorem stringBody?_unit {a b c d : Char} {unit : Nat} (hunit : hexUnit? a b c d = some unit)
    (hhigh : isHighSurrogate unit = false) :
    stringBody? read ('\\' :: 'u' :: a :: b :: c :: d :: rest)
      = stringBody? (.ofUnit unit :: read) rest := by
  -- The reader looks ahead for a second escape before it knows whether the first one opens a pair.
  by_cases hnext : ∃ e f g h tail, rest = '\\' :: 'u' :: e :: f :: g :: h :: tail
  · obtain ⟨e, f, g, h, tail, rfl⟩ := hnext
    rw [stringBody?, hunit]
    dsimp only
    rw [hhigh]
  · rw [stringBody?, hunit]
    intro e f g h tail hrest
    exact hnext ⟨e, f, g, h, tail, hrest⟩

/-- Two escapes of four digits that make a pair are read as one character. -/
theorem stringBody?_pair {a b c d e f g h : Char} {high low : Nat}
    (hunit : hexUnit? a b c d = some high) (hhigh : isHighSurrogate high = true)
    (hnext : hexUnit? e f g h = some low) (hlow : isLowSurrogate low = true) :
    stringBody? read
        ('\\' :: 'u' :: a :: b :: c :: d :: '\\' :: 'u' :: e :: f :: g :: h :: rest)
      = stringBody? (.whole (pairChar high low) :: read) rest := by
  have hpartner : (hexUnit? e f g h).filter isLowSurrogate = some low := by
    rw [hnext, Option.filter_some, if_pos hlow]
  rw [stringBody?, hunit, hpartner]
  dsimp only
  rw [hhigh]

theorem isHighSurrogate_iff {unit : Nat} :
    isHighSurrogate unit = true ↔ 0xD800 ≤ unit ∧ unit < 0xDC00 := by
  rw [isHighSurrogate, Bool.and_eq_true, decide_eq_true_iff, decide_eq_true_iff]

theorem isLowSurrogate_iff {unit : Nat} :
    isLowSurrogate unit = true ↔ 0xDC00 ≤ unit ∧ unit < 0xE000 := by
  rw [isLowSurrogate, Bool.and_eq_true, decide_eq_true_iff, decide_eq_true_iff]

/-- The numbers of characters leave out those that make pairs. -/
theorem toNat_valid (c : Char) : c.toNat < 0xD800 ∨ 0xDFFF < c.toNat ∧ c.toNat < 0x110000 :=
  c.valid

/-- No character is half a pair. -/
theorem ofUnit_toNat (c : Char) :
    isHighSurrogate c.toNat = false ∧ Rune.ofUnit c.toNat = .whole c := by
  have hvalid := toNat_valid c
  have hhigh : isHighSurrogate c.toNat = false := by
    rw [Bool.eq_false_iff, Ne, isHighSurrogate_iff]
    omega
  have hwhole : ¬(Rune.firstHalf ≤ c.toNat ∧ c.toNat < Rune.firstHalf + 0x800) := by
    rw [Rune.firstHalf]
    omega
  exact ⟨hhigh, by rw [Rune.ofUnit, dif_neg hwhole, Char.ofNat_toNat]⟩

theorem stringBody?_unitEscape (c : Char) (h : c.toNat < 0x10000) :
    stringBody? read (unitEscape c.toNat ++ rest) = stringBody? (.whole c :: read) rest := by
  obtain ⟨d₁, d₂, d₃, d₄, hdigits, hunit⟩ := hexUnit?_hex h
  obtain ⟨hhigh, hchar⟩ := ofUnit_toNat c
  simp only [unitEscape, hdigits, List.cons_append, List.nil_append]
  rw [stringBody?_unit hunit hhigh, hchar]

theorem stringBody?_pairEscape (c : Char) (h : 0x10000 ≤ c.toNat) :
    stringBody? read (unitEscape (0xD800 + (c.toNat - 0x10000) / 0x400)
        ++ unitEscape (0xDC00 + (c.toNat - 0x10000) % 0x400) ++ rest)
      = stringBody? (.whole c :: read) rest := by
  have hvalid := toNat_valid c
  have hhighUnit : 0xD800 + (c.toNat - 0x10000) / 0x400 < 0x10000 := by omega
  have hlowUnit : 0xDC00 + (c.toNat - 0x10000) % 0x400 < 0x10000 := by omega
  obtain ⟨a, b, c', d, hfirst, hhigh⟩ := hexUnit?_hex hhighUnit
  obtain ⟨e, f, g, i, hsecond, hlow⟩ := hexUnit?_hex hlowUnit
  simp only [unitEscape, hfirst, hsecond, List.cons_append, List.nil_append]
  rw [stringBody?_pair hhigh (isHighSurrogate_iff.2 (by omega)) hlow
    (isLowSurrogate_iff.2 (by omega))]
  -- The two halves of the offset are put together again.
  have hsum : 0x10000 + (0xD800 + (c.toNat - 0x10000) / 0x400 - 0xD800) * 0x400
      + (0xDC00 + (c.toNat - 0x10000) % 0x400 - 0xDC00) = c.toNat := by
    omega
  rw [pairChar, hsum, Char.ofNat_toNat]

/-- **The escape of a character reads as that character.** -/
theorem stringBody?_escapeChar (c : Char) (read : List Rune) (rest : List Char) :
    stringBody? read (escapeChar c ++ rest) = stringBody? (.whole c :: read) rest := by
  unfold escapeChar
  by_cases hquote : c = '"'
  · rw [if_pos hquote, hquote]
    exact stringBody?_letter (by decide) rfl
  by_cases hslash : c = '\\'
  · rw [if_neg hquote, if_pos hslash, hslash]
    exact stringBody?_letter (by decide) rfl
  rw [if_neg hquote, if_neg hslash]
  by_cases hline : c = '\n'
  · rw [if_pos hline, hline]
    exact stringBody?_letter (by decide) rfl
  by_cases hreturn : c = '\r'
  · rw [if_neg hline, if_pos hreturn, hreturn]
    exact stringBody?_letter (by decide) rfl
  by_cases htab : c = '\t'
  · rw [if_neg hline, if_neg hreturn, if_pos htab, htab]
    exact stringBody?_letter (by decide) rfl
  rw [if_neg hline, if_neg hreturn, if_neg htab]
  -- The last two escapes of one letter are for characters that are known by their number.
  by_cases hback : c.toNat = 0x08
  · have hchar : Char.ofNat 0x08 = c := hback ▸ Char.ofNat_toNat c
    rw [if_pos hback]
    exact stringBody?_letter (by decide) (congrArg some hchar)
  by_cases hfeed : c.toNat = 0x0C
  · have hchar : Char.ofNat 0x0C = c := hfeed ▸ Char.ofNat_toNat c
    rw [if_neg hback, if_pos hfeed]
    exact stringBody?_letter (by decide) (congrArg some hchar)
  rw [if_neg hback, if_neg hfeed]
  by_cases hascii : 0x20 ≤ c.toNat ∧ c.toNat ≤ 0x7E
  · rw [if_pos hascii]
    exact stringBody?_plain hquote hslash (by omega)
  by_cases hshort : c.toNat < 0x10000
  · rw [if_neg hascii, if_pos hshort]
    exact stringBody?_unitEscape c hshort
  · rw [if_neg hascii, if_neg hshort]
    exact stringBody?_pairEscape c (by omega)

/-! ## Texts -/

theorem stringBody?_flatMap_escapeChar (text : List Char) (read : List Rune) (rest : List Char) :
    stringBody? read (text.flatMap escapeChar ++ rest)
      = stringBody? ((text.map .whole).reverse ++ read) rest := by
  induction text generalizing read with
  | nil => rfl
  | cons c text ih =>
    rw [List.flatMap_cons, List.append_assoc, stringBody?_escapeChar, ih, List.map_cons,
      List.reverse_cons, List.append_assoc, List.singleton_append]

/-- **A text is read back from its quotes.** -/
theorem stringBody?_quote (text rest : List Char) :
    stringBody? [] ((quote text ++ rest).drop 1) = some (text.map .whole, rest) := by
  have hquote : (quote text ++ rest).drop 1 = text.flatMap escapeChar ++ '"' :: rest := by
    simp [quote]
  rw [hquote, stringBody?_flatMap_escapeChar, stringBody?_end, List.append_nil, List.reverse_reverse]

/-- Where two quoted texts begin alike, they are the same text and end at the same place. -/
theorem quote_append_inj {text other rest otherRest : List Char}
    (h : quote text ++ rest = quote other ++ otherRest) : text = other ∧ rest = otherRest := by
  have hread : some (text.map Rune.whole, rest) = some (other.map Rune.whole, otherRest) := by
    rw [← stringBody?_quote text rest, ← stringBody?_quote other otherRest, h]
  obtain ⟨htext, hrest⟩ := Prod.mk.inj (Option.some.inj hread)
  exact ⟨(List.map_inj_right fun _ _ => Rune.whole.inj).1 htext, hrest⟩

theorem escapeText_injective {text other : List Char}
    (h : text.flatMap escapeChar = other.flatMap escapeChar) : text = other := by
  have hquote : quote text ++ [] = quote other ++ [] := by
    rw [quote, quote, h]
  exact (quote_append_inj hquote).1

/-! ## Bodies -/

/-- What can stand between two quotes. -/
inductive IsBody : List Char → Prop
  | nil : IsBody []
  | plain {c : Char} {body : List Char} (hquote : c ≠ '"') (hslash : c ≠ '\\') (h : IsBody body) :
    IsBody (c :: body)
  | escape {c : Char} {body : List Char} (h : IsBody body) : IsBody ('\\' :: c :: body)

theorem IsBody.append {body other : List Char} (h : IsBody body) (hother : IsBody other) :
    IsBody (body ++ other) := by
  induction h with
  | nil => exact hother
  | plain hquote hslash _ ih => exact .plain hquote hslash ih
  | escape _ ih => exact .escape ih

/-- A body ends at the first quote that is not escaped. -/
theorem IsBody.append_inj {body other otherRest : List Char} (h : IsBody body)
    (hother : IsBody other) (heq : body ++ '"' :: rest = other ++ '"' :: otherRest) :
    body = other ∧ rest = otherRest := by
  induction h generalizing other with
  | nil =>
    -- The first characters decide which of the forms the other text has.
    cases hother with
    | nil => exact ⟨rfl, (List.cons.inj heq).2⟩
    | plain hquote => exact absurd (List.cons.inj heq).1.symm hquote
    | escape => exact absurd (List.cons.inj heq).1 (by decide)
  | plain hquote hslash _ ih =>
    cases hother with
    | nil => exact absurd (List.cons.inj heq).1 hquote
    | plain _ _ hother =>
      obtain ⟨rfl, hbehind⟩ := List.cons.inj heq
      obtain ⟨rfl, hrest⟩ := ih hother hbehind
      exact ⟨rfl, hrest⟩
    | escape => exact absurd (List.cons.inj heq).1 hslash
  | escape _ ih =>
    cases hother with
    | nil => exact absurd (List.cons.inj heq).1 (by decide)
    | plain _ hslash => exact absurd (List.cons.inj heq).1.symm hslash
    | escape hother =>
      obtain ⟨rfl, hbehind⟩ := List.cons.inj (List.cons.inj heq).2
      obtain ⟨rfl, hrest⟩ := ih hother hbehind
      exact ⟨rfl, hrest⟩

theorem isBody_hex (width n : Nat) : IsBody (Text.hex width n) := by
  have hdigit {n : Nat} (h : n < 16) : Text.hexDigit n ≠ '"' ∧ Text.hexDigit n ≠ '\\' := by
    interval_cases n <;> decide
  induction width generalizing n with
  | zero => exact .nil
  | succ width ih =>
    obtain ⟨hquote, hslash⟩ := hdigit (Nat.mod_lt n (by decide))
    exact (ih _).append (.plain hquote hslash .nil)

theorem isBody_unitEscape (unit : Nat) : IsBody (unitEscape unit) :=
  .escape (isBody_hex 4 unit)

theorem isBody_escapeChar (c : Char) : IsBody (escapeChar c) := by
  unfold escapeChar
  by_cases hquote : c = '"'
  · rw [if_pos hquote]
    exact .escape .nil
  by_cases hslash : c = '\\'
  · rw [if_neg hquote, if_pos hslash]
    exact .escape .nil
  rw [if_neg hquote, if_neg hslash]
  split_ifs
  iterate 5 exact .escape .nil
  · exact .plain hquote hslash .nil
  · exact isBody_unitEscape _
  · exact (isBody_unitEscape _).append (isBody_unitEscape _)

theorem isBody_escapeText (text : List Char) : IsBody (text.flatMap escapeChar) := by
  induction text with
  | nil => exact .nil
  | cons c text ih => exact (isBody_escapeChar c).append ih

theorem isBody_escapeRunes (runes : List Rune) : IsBody (runes.flatMap escapeRune) := by
  induction runes with
  | nil => exact .nil
  | cons rune runes ih =>
    cases rune with
    | whole c => exact (isBody_escapeChar c).append ih
    | half offset => exact (isBody_unitEscape _).append ih

end ScriptAudit.Json
