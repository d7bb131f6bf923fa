import Mathlib.Data.List.TakeDrop
import Mathlib.Data.List.TakeWhile
import ScriptAudit.Proofs.FallibleSteps
import ScriptAudit.Proofs.JsonOutline

/-!
# The smallest parts of JSON

How strings, words and numbers are spelled, said without the reader, and that the reader takes
exactly what is spelled. A number that is too long for it is refused as such.

- `Json.IsBeyond`, `Json.Yields`: what is refused for its size, and readings with no other refusal.
- `Json.SpellsText`: what stands between two quotes; `SpellsText.stringBody?` and
  `spellsUpTo_of_stringBody?`: **it is read to the closing quote, and nothing else is.**
- `Json.SpellsMagnitude`: numbers without their sign, by whole part, fraction and exponent.
- `Json.SpellsScalar`: words and numbers; `SpellsScalar.readScalar` and
  `spellsScalar_of_readScalar`: **they are read, and nothing else is.**
-/

namespace ScriptAudit.Json

variable {text rest : List Char}

/-! ## Limits -/

/-- Why a reader refuses a text for its size, if whole numbers of it have at most `longest` digits
and its collections are nested in at most `levels` levels, of which the reader takes `deep`. -/
inductive IsBeyond (longest levels deep : Nat) : Refusal → Prop
  | tooLong {digits : Nat} (hlong : longestNumber < digits) (hlongest : digits ≤ longest) :
    IsBeyond longest levels deep (.tooLong digits)
  | tooDeep (hdeep : deep < levels) : IsBeyond longest levels deep .tooDeep

/-- Whether a reading gives what it should, or is refused for the size of the text. -/
def Yields {α : Type} (longest levels deep : Nat) (p : α → Prop) : Except Refusal α → Prop
  | .ok a => p a
  | .error refusal => IsBeyond longest levels deep refusal

variable {longest levels deep : Nat}

theorem Yields.bind {α β : Type} {p : α → Prop} {q : β → Prop} {x : Except Refusal α}
    {f : α → Except Refusal β} (h : Yields longest levels deep p x)
    (hf : ∀ a, p a → Yields longest levels deep q (f a)) :
    Yields longest levels deep q (x >>= f) := by
  cases x with
  | ok a => exact hf a h
  | error refusal => exact h

theorem Yields.mono {α : Type} {p q : α → Prop} {x : Except Refusal α}
    (h : Yields longest levels deep p x) (hpq : ∀ a, p a → q a) :
    Yields longest levels deep q x := by
  cases x with
  | ok a => exact hpq a h
  | error refusal => exact h

theorem Yields.map {α β : Type} {p : α → Prop} {q : β → Prop} {x : Except Refusal α} {f : α → β}
    (h : Yields longest levels deep p x) (hf : ∀ a, p a → q (f a)) :
    Yields longest levels deep q (x.map f) := by
  cases x with
  | ok a => exact hf a h
  | error refusal => exact h

/-- Nothing is read at a level more that was not refused at the level below. -/
theorem Yields.deeper {α : Type} {p : α → Prop} {x : Except Refusal α}
    (h : Yields longest levels deep p x) : Yields longest (levels + 1) (deep + 1) p x := by
  cases x with
  | ok a => exact h
  | error refusal =>
    cases h with
    | tooLong hlong hlongest => exact .tooLong hlong hlongest
    | tooDeep hdeep => exact .tooDeep (Nat.succ_lt_succ hdeep)

/-! ## Strings -/

/-- Whether a text begins with an escape for the second half of a pair. -/
def OpensLow (text : List Char) : Prop :=
  ∃ e f g h low rest, text = '\\' :: 'u' :: e :: f :: g :: h :: rest ∧
    hexUnit? e f g h = some low ∧ isLowSurrogate low = true

/-- Whether what stands between two quotes spells some runes. Half a pair stands for itself only where
the other half does not follow. -/
inductive SpellsText : List Char → List Rune → Prop
  | nil : SpellsText [] []
  | plain {c : Char} {source : List Char} {runes : List Rune} (hquote : c ≠ '"') (hslash : c ≠ '\\')
    (hcontrol : ¬c.toNat < 0x20) (h : SpellsText source runes) :
    SpellsText (c :: source) (.whole c :: runes)
  | letter {c d : Char} {source : List Char} {runes : List Rune} (hletter : escaped? c = some d)
    (h : SpellsText source runes) : SpellsText ('\\' :: c :: source) (.whole d :: runes)
  | unit {a b c d : Char} {unit : Nat} {source : List Char} {runes : List Rune}
    (hunit : hexUnit? a b c d = some unit)
    (halone : isHighSurrogate unit = true → ¬OpensLow source) (h : SpellsText source runes) :
    SpellsText ('\\' :: 'u' :: a :: b :: c :: d :: source) (.ofUnit unit :: runes)
  | pair {a b c d e f g i : Char} {high low : Nat} {source : List Char} {runes : List Rune}
    (hhigh : hexUnit? a b c d = some high) (hopens : isHighSurrogate high = true)
    (hlow : hexUnit? e f g i = some low) (hcloses : isLowSurrogate low = true)
    (h : SpellsText source runes) :
    SpellsText ('\\' :: 'u' :: a :: b :: c :: d :: '\\' :: 'u' :: e :: f :: g :: i :: source)
      (.whole (pairChar high low) :: runes)

/-- A text without characters that need an escape spells itself. -/
theorem SpellsText.of_plain {text : List Char}
    (h : ∀ c ∈ text, c ≠ '"' ∧ c ≠ '\\' ∧ ¬c.toNat < 0x20) :
    SpellsText text (text.map .whole) := by
  induction text with
  | nil => exact .nil
  | cons c text ih =>
    obtain ⟨⟨hquote, hslash, hcontrol⟩, htext⟩ := List.forall_mem_cons.1 h
    exact .plain hquote hslash hcontrol (ih htext)

theorem ne_u_of_escaped? {c d : Char} (h : escaped? c = some d) : c ≠ 'u' := by
  rintro rfl
  cases h

/-- What follows the quotes does not complete a pair. -/
theorem SpellsText.opensLow {source rest : List Char} {runes : List Rune}
    (h : SpellsText source runes) (hlow : OpensLow (source ++ '"' :: rest)) : OpensLow source := by
  obtain ⟨e, f, g, i, low, after, htext, hunit, hcloses⟩ := hlow
  -- Only an escape of four digits begins in this way, and it is spelled out before the quote.
  cases h with
  | nil => cases htext
  | plain _ hslash _ _ => exact absurd (List.cons.inj htext).1 hslash
  | letter hletter _ =>
    exact absurd (List.cons.inj (List.cons.inj htext).2).1 (ne_u_of_escaped? hletter)
  | unit _ _ _ | pair _ _ _ _ _ =>
    cases htext
    exact ⟨e, f, g, i, low, _, rfl, hunit, hcloses⟩

/-- Half a pair whose other half does not follow is read for itself. -/
theorem stringBody?_alone {a b c d : Char} {unit : Nat} {read : List Rune}
    (hunit : hexUnit? a b c d = some unit) (halone : isHighSurrogate unit = true → ¬OpensLow rest) :
    stringBody? read ('\\' :: 'u' :: a :: b :: c :: d :: rest)
      = stringBody? (.ofUnit unit :: read) rest := by
  cases hhigh : isHighSurrogate unit with
  | false => exact stringBody?_unit hunit hhigh
  | true =>
    by_cases hnext : ∃ e f g h tail, rest = '\\' :: 'u' :: e :: f :: g :: h :: tail
    · obtain ⟨e, f, g, i, tail, rfl⟩ := hnext
      have hpartner : (hexUnit? e f g i).filter isLowSurrogate = none := by
        refine Option.filter_eq_none_iff.2 fun low hlow hcloses => halone hhigh ?_
        exact ⟨e, f, g, i, low, tail, rfl, hlow, hcloses⟩
      rw [stringBody?, hunit, hpartner]
      simp only [hhigh]
    · rw [stringBody?, hunit]
      exact fun e f g h tail hrest => hnext ⟨e, f, g, h, tail, hrest⟩

/-- What is spelled between quotes is read. -/
theorem SpellsText.stringBody? {source : List Char} {runes : List Rune} (h : SpellsText source runes)
    (read : List Rune) (rest : List Char) :
    stringBody? read (source ++ '"' :: rest) = some (read.reverse ++ runes, rest) := by
  induction h generalizing read with
  | nil => rw [List.nil_append, Json.stringBody?, List.append_nil]
  | plain hquote hslash hcontrol _ ih =>
    rw [List.cons_append, stringBody?_plain hquote hslash hcontrol, ih]
    simp
  | letter hletter _ ih =>
    rw [List.cons_append, List.cons_append,
      stringBody?_letter (ne_u_of_escaped? hletter) hletter, ih]
    simp
  -- Half of a pair stands alone: the reader looks ahead for the other half and must not find it.
  | unit hunit halone h ih =>
    simp only [List.cons_append]
    rw [stringBody?_alone hunit fun hhigh hlow => halone hhigh (h.opensLow hlow), ih]
    simp
  -- Both halves are there, and make one character.
  | pair hhigh hopens hlow hcloses _ ih =>
    simp only [List.cons_append]
    rw [stringBody?_pair hhigh hopens hlow hcloses, ih]
    simp

/-- Whether runes are spelled up to a quote, and `body` has them behind those already read. -/
def SpellsUpTo (rest : List Char) (read body : List Rune) (text : List Char) : Prop :=
  ∃ source runes, text = source ++ '"' :: rest ∧ body = read.reverse ++ runes ∧
    SpellsText source runes

theorem OpensLow.append {text : List Char} (h : OpensLow text) (rest : List Char) :
    OpensLow (text ++ rest) := by
  obtain ⟨e, f, g, i, low, after, rfl, hlow⟩ := h
  exact ⟨e, f, g, i, low, after ++ rest, rfl, hlow⟩

/-- One more rune in front of those that are spelled. -/
theorem SpellsUpTo.cons {read body : List Rune} {text : List Char} {rune : Rune}
    (h : SpellsUpTo rest (rune :: read) body text) (escape : List Char)
    (hescape : ∀ source runes, (OpensLow source → OpensLow text) → SpellsText source runes →
      SpellsText (escape ++ source) (rune :: runes)) :
    SpellsUpTo rest read body (escape ++ text) := by
  obtain ⟨source, runes, rfl, rfl, hspells⟩ := h
  refine ⟨escape ++ source, rune :: runes, by simp, by simp, hescape source runes ?_ hspells⟩
  exact fun hlow => hlow.append _

/-- What is read up to a quote is spelled before it. -/
theorem spellsUpTo_of_stringBody? {read body : List Rune}
    (h : Json.stringBody? read text = some (body, rest)) : SpellsUpTo rest read body text := by
  fun_induction Json.stringBody? read text generalizing body with
  -- The ways to stop without a text: no quote, a cut escape, an unknown letter, a control character.
  | case1 | case3 | case6 | case8 | case10 => cases h
  | case2 =>
    cases h
    exact ⟨[], [], rfl, (List.append_nil _).symm, .nil⟩
  | case4 read a b c d e f g i after high hhigh low hpartner hopens ih =>
    obtain ⟨hlow, hcloses⟩ := Option.filter_eq_some_iff.1 hpartner
    exact (ih h).cons ['\\', 'u', a, b, c, d, '\\', 'u', e, f, g, i] fun _ _ _ =>
      .pair hhigh hopens hlow hcloses
  -- Four digits before another escape that is not the other half.
  | case5 read a b c d e f g i after unit hunit hpartner ih =>
    refine (ih h).cons ['\\', 'u', a, b, c, d] fun source runes hlow =>
      .unit hunit fun hhigh hsource => ?_
    obtain ⟨_, _, _, _, low, _, htext, hunit, hcloses⟩ := hlow hsource
    cases htext
    exact hpartner low hhigh (Option.filter_eq_some_iff.2 ⟨hunit, hcloses⟩)
  -- Four digits before anything else: it opens no escape, so no other half can follow.
  | case7 read a b c d after hnext unit hunit ih =>
    refine (ih h).cons ['\\', 'u', a, b, c, d] fun source runes hlow =>
      .unit hunit fun _ hsource => ?_
    obtain ⟨e, f, g, i, _, tail, htext, -⟩ := hlow hsource
    exact hnext e f g i tail htext
  | case9 read c after _ _ d hletter ih => exact (ih h).cons ['\\', c] fun _ _ _ => .letter hletter
  | case11 read c after hquote _ _ _ hplain ih =>
    obtain ⟨hcontrol, hslash⟩ := not_or.1 hplain
    exact (ih h).cons [c] fun _ _ _ => .plain hquote hslash hcontrol

/-! ## Numbers -/

/-- A text of digits only, of one at least. -/
def IsDigits (text : List Char) : Prop :=
  text ≠ [] ∧ ∀ c ∈ text, c.isDigit = true

/-- The whole part of a number: no zero leads it unless it stands alone. -/
inductive IsWhole : List Char → Prop
  | zero : IsWhole ['0']
  | other {digits : List Char} (hhead : digits.head? ≠ some '0') (hdigits : IsDigits digits) :
    IsWhole digits

/-- Whether a text is a fraction with these decimals. It may be left out. -/
inductive SpellsFraction : List Char → List Char → Prop
  | none : SpellsFraction [] []
  | point {digits : List Char} (hdigits : IsDigits digits) : SpellsFraction ('.' :: digits) digits

/-- Whether a text is a sign, which may be left out, and whether it is a minus. -/
inductive SpellsSign : List Char → Bool → Prop
  | none : SpellsSign [] false
  | plus : SpellsSign ['+'] false
  | minus : SpellsSign ['-'] true

/-- Whether a text is an exponent. It may be left out. -/
inductive SpellsPower : List Char → Option Int → Prop
  | none : SpellsPower [] none
  | letter {c : Char} {sign digits : List Char} {negative : Bool} (hletter : c = 'e' ∨ c = 'E')
    (hsign : SpellsSign sign negative) (hdigits : IsDigits digits) :
    SpellsPower (c :: (sign ++ digits)) (some (Binary.signed negative (digitsOf digits)))

/-- Whether a text is a number without its sign. A whole number has at most `longest` digits. -/
inductive SpellsMagnitude (longest : Nat) (negative : Bool) : List Char → Value → Prop
  | whole {digits : List Char} (hwhole : IsWhole digits) (hlength : digits.length ≤ longest) :
    SpellsMagnitude longest negative digits (.int (Binary.signed negative (digitsOf digits)))
  | real {whole point decimals exponent : List Char} {power : Option Int} (hwhole : IsWhole whole)
    (hpoint : SpellsFraction point decimals) (hexponent : SpellsPower exponent power)
    (hreal : decimals ≠ [] ∨ power ≠ none) :
    SpellsMagnitude longest negative (whole ++ (point ++ exponent))
      (.float (floatOfDecimal negative (digitsOf (whole ++ decimals))
        (power.getD 0 - decimals.length)))

theorem digitSpan_append {digits : List Char} (hdigits : ∀ c ∈ digits, c.isDigit = true)
    (hrest : ∀ c ∈ rest.head?, c.isDigit = false) :
    digitSpan (digits ++ rest) = (digits, rest) := by
  rw [digitSpan, List.span_eq_takeWhile_dropWhile, List.takeWhile_append_of_pos hdigits,
    List.dropWhile_append_of_pos hdigits]
  cases rest with
  | nil => simp
  | cons c rest => simp [hrest c rfl]

theorem digitSpan_eq {digits : List Char} (h : digitSpan text = (digits, rest)) :
    text = digits ++ rest ∧ ∀ c ∈ digits, c.isDigit = true := by
  rw [digitSpan, List.span_eq_takeWhile_dropWhile] at h
  cases h
  exact ⟨List.takeWhile_append_dropWhile.symm, fun _ => List.mem_takeWhile_imp⟩

/-- What follows the decimals of a number: neither another digit nor a point. -/
theorem SpellsFraction.fraction {point decimals : List Char} (h : SpellsFraction point decimals)
    (hrest : ∀ c ∈ rest.head?, c.isDigit = false ∧ c ≠ '.') :
    fraction (point ++ rest) = (decimals, rest) := by
  cases h with
  | none =>
    rw [List.nil_append, Json.fraction.eq_def]
    split
    case h_1 after => exact absurd rfl (hrest '.' rfl).2
    case h_2 => rfl
  | point hdigits =>
    rw [List.cons_append, Json.fraction, digitSpan_append hdigits.2 fun c hc => (hrest c hc).1]
    obtain ⟨hsome, -⟩ := hdigits
    cases decimals with
    | nil => exact absurd rfl hsome
    | cons => rfl

theorem exists_spellsFraction {decimals : List Char} (h : Json.fraction text = (decimals, rest)) :
    ∃ point, text = point ++ rest ∧ SpellsFraction point decimals := by
  rw [Json.fraction.eq_def] at h
  -- A point without a digit behind it is left to what comes after the number.
  split at h
  case h_1 after =>
    split at h
    case h_1 =>
      cases h
      exact ⟨[], rfl, .none⟩
    case h_2 digits rest hsome hspan =>
      cases h
      obtain ⟨rfl, hdigits⟩ := digitSpan_eq hspan
      refine ⟨'.' :: decimals, rfl, .point ⟨?_, hdigits⟩⟩
      rintro rfl
      exact hsome rfl
  case h_2 =>
    cases h
    exact ⟨[], rfl, .none⟩

theorem ends_of_isTokenChar_eq_false {c : Char} (h : isTokenChar c = false) :
    c.isDigit = false ∧ c ≠ '.' ∧ c ≠ 'e' ∧ c ≠ 'E' := by
  refine ⟨Bool.eq_false_iff.2 fun hdigit => ?_, ?_, ?_, ?_⟩
  · rw [isTokenChar_of_isDigit hdigit] at h
    cases h
  all_goals
    rintro rfl
    cases h

/-- Digits begin with a digit. -/
theorem IsDigits.exists_cons {digits : List Char} (h : IsDigits digits) :
    ∃ c after, digits = c :: after ∧ c.isDigit = true := by
  obtain ⟨hsome, hdigits⟩ := h
  cases digits with
  | nil => exact absurd rfl hsome
  | cons c after => exact ⟨c, after, rfl, hdigits c List.mem_cons_self⟩

theorem SpellsSign.readSign {sign digits : List Char} {negative : Bool}
    (h : SpellsSign sign negative) (hdigits : IsDigits digits) :
    readSign (sign ++ (digits ++ rest)) = (negative, digits ++ rest) := by
  cases h with
  | plus | minus => rfl
  | none =>
    obtain ⟨c, after, rfl, hc⟩ := hdigits.exists_cons
    rw [List.nil_append, List.cons_append, ScriptAudit.readSign.eq_def]
    split
    case h_1 heq | h_2 heq =>
      cases heq
      cases hc
    case h_3 => rfl

theorem exists_spellsSign (text : List Char) :
    ∃ sign, text = sign ++ (readSign text).2 ∧ SpellsSign sign (readSign text).1 := by
  rw [readSign.eq_def]
  split
  case h_1 => exact ⟨['-'], rfl, .minus⟩
  case h_2 => exact ⟨['+'], rfl, .plus⟩
  case h_3 => exact ⟨[], rfl, .none⟩

/-- What follows an exponent belongs to no number. -/
theorem SpellsPower.exponent? {exponent : List Char} {power : Option Int}
    (h : SpellsPower exponent power) (hrest : Outline.Ends rest) :
    exponent? (exponent ++ rest) = (power, rest) := by
  cases h with
  | none =>
    cases rest with
    | nil => rfl
    | cons c rest =>
      obtain ⟨-, -, hlower, hupper⟩ := ends_of_isTokenChar_eq_false (hrest c rfl)
      rw [List.nil_append, Json.exponent?, if_neg (not_or_intro hlower hupper)]
  | letter hletter hsign hdigits =>
    have hspan := digitSpan_append hdigits.2 fun c hc =>
      (ends_of_isTokenChar_eq_false (hrest c hc)).1
    rw [List.cons_append, List.append_assoc, Json.exponent?, if_pos hletter, hsign.readSign hdigits]
    dsimp only
    rw [hspan]
    obtain ⟨c, after, rfl, -⟩ := hdigits.exists_cons
    rfl

theorem exists_spellsPower {power : Option Int} (h : Json.exponent? text = (power, rest)) :
    ∃ exponent, text = exponent ++ rest ∧ SpellsPower exponent power := by
  rw [Json.exponent?.eq_def] at h
  split at h
  case h_1 letter after =>
    -- Likewise for the letter of an exponent.
    split at h
    case isTrue hletter =>
      dsimp only at h
      split at h
      case h_1 =>
        cases h
        exact ⟨[], rfl, .none⟩
      case h_2 digits behind hsome hspan =>
        cases h
        obtain ⟨sign, hafter, hsign⟩ := exists_spellsSign after
        obtain ⟨hbody, hdigits⟩ := digitSpan_eq hspan
        refine ⟨letter :: (sign ++ digits), ?_, .letter hletter hsign ⟨?_, hdigits⟩⟩
        · rw [List.cons_append, List.append_assoc, ← hbody, ← hafter]
        · rintro rfl
          exact hsome rfl
    case isFalse =>
      cases h
      exact ⟨[], rfl, .none⟩
  case h_2 =>
    cases h
    exact ⟨[], rfl, .none⟩

/-! ### Whole numbers and others -/

/-- The digits of the whole part of a number, and what follows them. -/
def wholeSpan (text : List Char) : List Char × List Char :=
  match text with
  | '0' :: rest => (['0'], rest)
  | _ => digitSpan text

theorem magnitude_eq_error (negative : Bool) (h : (wholeSpan text).1 = []) :
    magnitude negative text = .error .malformed := by
  rw [magnitude.eq_def]
  split
  case h_1 digits after heq =>
    have hwhole : wholeSpan text = (digits, after) := heq
    rw [hwhole] at h
    cases h
    rfl

theorem magnitude_eq {digits decimals afterWhole afterFraction afterExponent : List Char}
    {power : Option Int} (negative : Bool) (hwhole : wholeSpan text = (digits, afterWhole))
    (hsome : digits ≠ []) (hfraction : fraction afterWhole = (decimals, afterFraction))
    (hpower : exponent? afterFraction = (power, afterExponent)) :
    magnitude negative text =
      if decimals.isEmpty && power.isNone then
        (Refusal.checkDigits digits.length).map fun _ =>
          (.int (Binary.signed negative (digitsOf digits)), afterWhole)
      else .ok (.float (floatOfDecimal negative (digitsOf (digits ++ decimals))
        (power.getD 0 - decimals.length)), afterExponent) := by
  rw [magnitude.eq_def]
  split
  case h_1 heq =>
    obtain ⟨rfl, rfl⟩ := Prod.mk.inj (Eq.trans (Eq.symm heq) hwhole)
    rw [if_neg (by simpa using hsome)]
    dsimp only
    rw [hfraction]
    dsimp only
    rw [hpower]
    rfl

theorem IsWhole.isDigits {digits : List Char} (h : IsWhole digits) : IsDigits digits := by
  cases h with
  | zero => exact ⟨List.cons_ne_nil _ _, List.forall_mem_singleton.2 rfl⟩
  | other _ hdigits => exact hdigits

theorem IsWhole.wholeSpan {digits : List Char} (h : IsWhole digits)
    (hrest : ∀ c ∈ rest.head?, c.isDigit = false) :
    wholeSpan (digits ++ rest) = (digits, rest) := by
  cases h with
  | zero => rfl
  | other hhead hdigits =>
    rw [Json.wholeSpan.eq_def]
    split
    case h_1 heq =>
      obtain ⟨c, after, rfl, -⟩ := hdigits.exists_cons
      cases heq
      exact absurd rfl hhead
    case h_2 => exact digitSpan_append hdigits.2 hrest

theorem isWhole_of_wholeSpan {digits : List Char} (h : wholeSpan text = (digits, rest))
    (hsome : digits ≠ []) : text = digits ++ rest ∧ IsWhole digits := by
  rw [wholeSpan.eq_def] at h
  split at h
  case h_1 =>
    cases h
    exact ⟨rfl, .zero⟩
  case h_2 hzero =>
    obtain ⟨rfl, hdigits⟩ := digitSpan_eq h
    refine ⟨rfl, .other (fun hhead => ?_) ⟨hsome, hdigits⟩⟩
    obtain ⟨after, rfl⟩ := List.head?_eq_some_iff.1 hhead
    exact hzero _ rfl

theorem SpellsPower.head {exponent : List Char} {power : Option Int}
    (h : SpellsPower exponent power)
    (hrest : ∀ c ∈ rest.head?, c.isDigit = false ∧ c ≠ '.' ∧ c ≠ 'e' ∧ c ≠ 'E') :
    ∀ c ∈ (exponent ++ rest).head?, c.isDigit = false ∧ c ≠ '.' := by
  intro c hc
  cases h with
  | none => exact ⟨(hrest c hc).1, (hrest c hc).2.1⟩
  | letter hletter =>
    cases hc
    rcases hletter with rfl | rfl <;> decide

theorem SpellsFraction.head {point decimals : List Char} (h : SpellsFraction point decimals)
    (hrest : ∀ c ∈ rest.head?, c.isDigit = false ∧ c ≠ '.') :
    ∀ c ∈ (point ++ rest).head?, c.isDigit = false := by
  intro c hc
  cases h with
  | none => exact (hrest c hc).1
  | point =>
    cases hc
    rfl

theorem checkDigits_eq_ok_iff {digits : Nat} {u : Unit} :
    Refusal.checkDigits digits = .ok u ↔ digits ≤ longestNumber := by
  rw [Refusal.checkDigits]
  split
  case isTrue hle => exact iff_of_true rfl hle
  case isFalse hlong => exact iff_of_false nofun hlong

theorem yields_checkDigits {digits : Nat} (h : digits ≤ longest) :
    Yields longest levels deep (fun _ => True) (Refusal.checkDigits digits) := by
  rw [Refusal.checkDigits]
  split
  case isTrue => trivial
  case isFalse hlong => exact .tooLong (Nat.lt_of_not_le hlong) h

/-- A number is read, unless it is a whole one with more digits than a reader takes. -/
theorem SpellsMagnitude.magnitude {longest : Nat} {negative : Bool} {value : Value}
    (h : SpellsMagnitude longest negative text value) (hrest : Outline.Ends rest) :
    Yields longest levels deep (· = (value, rest)) (magnitude negative (text ++ rest)) := by
  have hends (c : Char) (hc : c ∈ rest.head?) := ends_of_isTokenChar_eq_false (hrest c hc)
  cases h with
  | whole hwhole hlength =>
    -- Neither a point nor a letter follows, so the number ends with its digits.
    have hfraction := SpellsFraction.none.fraction fun c hc => ⟨(hends c hc).1, (hends c hc).2.1⟩
    rw [magnitude_eq negative (hwhole.wholeSpan fun c hc => (hends c hc).1) hwhole.isDigits.1
      hfraction (SpellsPower.none.exponent? hrest)]
    exact (yields_checkDigits hlength).map fun _ _ => rfl
  | real hwhole hpoint hexponent hreal =>
    have hpower : ∀ c ∈ (_ ++ rest).head?, c.isDigit = false ∧ c ≠ '.' := hexponent.head hends
    have hafter := hpoint.head hpower
    rw [List.append_assoc, List.append_assoc, magnitude_eq negative (hwhole.wholeSpan hafter)
      -- A real is told by its point or its exponent: the branch of the whole numbers is not taken.
      hwhole.isDigits.1 (hpoint.fraction hpower) (hexponent.exponent? hrest), if_neg]
    · rfl
    · simpa [imp_iff_not_or] using hreal

/-- What is read as a number is one. -/
theorem exists_spellsMagnitude {negative : Bool} {value : Value}
    (h : Json.magnitude negative text = .ok (value, rest)) :
    ∃ taken, text = taken ++ rest ∧ SpellsMagnitude longestNumber negative taken value := by
  rcases hwhole : wholeSpan text with ⟨digits, afterWhole⟩
  rcases hfraction : Json.fraction afterWhole with ⟨decimals, afterFraction⟩
  rcases hpower : Json.exponent? afterFraction with ⟨power, afterExponent⟩
  -- Without a digit nothing is read.
  by_cases hsome : digits = []
  · rw [magnitude_eq_error negative (by rw [hwhole, hsome])] at h
    cases h
  rw [magnitude_eq negative hwhole hsome hfraction hpower] at h
  obtain ⟨rfl, hdigits⟩ := isWhole_of_wholeSpan hwhole hsome
  split at h
  case isTrue =>
    obtain ⟨_, hcheck, h⟩ := map_eq_ok_iff.1 h
    cases h
    exact ⟨digits, rfl, .whole hdigits (checkDigits_eq_ok_iff.1 hcheck)⟩
  case isFalse hreal =>
    cases h
    obtain ⟨point, rfl, hpoint⟩ := exists_spellsFraction hfraction
    obtain ⟨exponent, rfl, hexponent⟩ := exists_spellsPower hpower
    refine ⟨digits ++ (point ++ exponent), by simp, .real hdigits hpoint hexponent ?_⟩
    simpa [imp_iff_not_or] using hreal

/-! ## Words and numbers -/

/-- Whether a text is a word that is a value, or a number. -/
inductive SpellsScalar (longest : Nat) : List Char → Value → Prop
  | word {word : String} {value : Value} (hword : (word, value) ∈ words) :
    SpellsScalar longest word.toList value
  | positive {text : List Char} {value : Value} (h : SpellsMagnitude longest false text value) :
    SpellsScalar longest text value
  | negative {text : List Char} {value : Value} (h : SpellsMagnitude longest true text value) :
    SpellsScalar longest ('-' :: text) value

/-- The word at the head of a text, with what follows it. -/
def wordAtHead? (text : List Char) : Option (Value × List Char) :=
  words.findSome? fun (word, value) => (afterWord? word text).map (value, ·)

theorem wordAtHead?_append {word : String} {value : Value} (hword : (word, value) ∈ words)
    (rest : List Char) : wordAtHead? (word.toList ++ rest) = some (value, rest) := by
  simp only [words, List.mem_cons, List.not_mem_nil, or_false] at hword
  rcases hword with h | h | h | h | h | h <;>
    · cases h
      rfl

theorem exists_mem_words {value : Value} (h : wordAtHead? text = some (value, rest)) :
    ∃ word, (word, value) ∈ words ∧ text = word.toList ++ rest := by
  obtain ⟨⟨word, other⟩, hword, hafter⟩ := List.exists_of_findSome?_eq_some h
  obtain ⟨after, hafter, hvalue⟩ := Option.map_eq_some_iff.1 hafter
  cases hvalue
  rw [afterWord?] at hafter
  split at hafter
  case isTrue hprefix =>
    cases hafter
    obtain ⟨after, rfl⟩ := List.isPrefixOf_iff_prefix.1 hprefix
    exact ⟨word, hword, by rw [← String.length_toList, List.drop_left]⟩
  case isFalse => cases hafter

/-- A number begins with a digit. -/
theorem SpellsMagnitude.exists_cons {negative : Bool} {value : Value}
    (h : SpellsMagnitude longest negative text value) :
    ∃ c after, text = c :: after ∧ c.isDigit = true := by
  cases h with
  | whole hwhole => exact hwhole.isDigits.exists_cons
  | real hwhole =>
    obtain ⟨c, after, rfl, hc⟩ := hwhole.isDigits.exists_cons
    exact ⟨c, _, rfl, hc⟩

/-- A word begins with a letter, or with a sign and a letter. -/
theorem exists_of_mem_words {word : String} {value : Value} (hword : (word, value) ∈ words) :
    ∃ c d after, word.toList = c :: d :: after ∧ isTokenChar c = true ∧ c.isDigit = false ∧
      d.isDigit = false := by
  simp only [words, List.mem_cons, List.not_mem_nil, or_false] at hword
  rcases hword with h | h | h | h | h | h <;>
    · cases h
      exact ⟨_, _, _, rfl, rfl, rfl, rfl⟩

/-- No word is at the head of a number, with a sign or without. -/
theorem wordAtHead?_digit {c : Char} (h : c.isDigit = true) (rest : List Char) :
    wordAtHead? (c :: rest) = none ∧ wordAtHead? ('-' :: c :: rest) = none := by
  refine ⟨Option.eq_none_iff_forall_ne_some.2 fun found hfound => ?_,
    Option.eq_none_iff_forall_ne_some.2 fun found hfound => ?_⟩
  all_goals
    obtain ⟨word, hword, htext⟩ := exists_mem_words hfound
    obtain ⟨first, second, after, hcons, -, hfirst, hsecond⟩ := exists_of_mem_words hword
    rw [hcons] at htext
    cases htext
  · exact absurd (h.symm.trans hfirst) nofun
  · exact absurd (h.symm.trans hsecond) nofun

/-- A word or a number begins with a letter, a digit or a sign. -/
theorem SpellsScalar.exists_cons {value : Value} (h : SpellsScalar longest text value) :
    ∃ c after, text = c :: after ∧ isTokenChar c = true := by
  cases h with
  | word hword =>
    obtain ⟨c, d, after, hcons, hc, -⟩ := exists_of_mem_words hword
    exact ⟨c, d :: after, hcons, hc⟩
  | positive h =>
    obtain ⟨c, after, rfl, hc⟩ := h.exists_cons
    exact ⟨c, after, rfl, isTokenChar_of_isDigit hc⟩
  | negative => exact ⟨'-', _, rfl, rfl⟩

/-- A word is read, and so is a number that is not too long. -/
theorem SpellsScalar.readScalar {value : Value} (h : SpellsScalar longest text value)
    (hrest : Outline.Ends rest) :
    Yields longest levels deep (· = (value, rest)) (readScalar (text ++ rest)) := by
  rw [Json.readScalar.eq_def]
  cases h with
  | word hword =>
    have hhead := wordAtHead?_append hword rest
    rw [wordAtHead?] at hhead
    rw [hhead]
    rfl
  -- A digit and a minus open no word, so the scalar is left to the numbers.
  | positive h =>
    obtain ⟨c, after, rfl, hc⟩ := h.exists_cons
    have hhead := (wordAtHead?_digit hc (after ++ rest)).1
    rw [wordAtHead?] at hhead
    rw [List.cons_append, hhead]
    dsimp only
    split
    case h_1 heq =>
      cases heq
      cases hc
    case h_2 => exact h.magnitude hrest
  | negative h =>
    obtain ⟨c, after, rfl, hc⟩ := h.exists_cons
    have hhead := (wordAtHead?_digit hc (after ++ rest)).2
    rw [wordAtHead?] at hhead
    rw [List.cons_append, List.cons_append, hhead]
    exact h.magnitude hrest

theorem spellsScalar_of_readScalar {value : Value} (h : Json.readScalar text = .ok (value, rest)) :
    ∃ taken, text = taken ++ rest ∧ SpellsScalar longestNumber taken value := by
  rw [Json.readScalar.eq_def] at h
  split at h
  case h_1 found hfound =>
    cases h
    obtain ⟨word, hword, htext⟩ := exists_mem_words hfound
    exact ⟨word.toList, htext, .word hword⟩
  case h_2 =>
    split at h
    case h_1 =>
      obtain ⟨taken, rfl, htaken⟩ := exists_spellsMagnitude h
      exact ⟨'-' :: taken, rfl, .negative htaken⟩
    case h_2 =>
      obtain ⟨taken, rfl, htaken⟩ := exists_spellsMagnitude h
      exact ⟨taken, rfl, .positive htaken⟩

end ScriptAudit.Json
