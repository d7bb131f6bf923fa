import Mathlib.Data.List.Chain
import ScriptAudit.Proofs.JsonScalars
import ScriptAudit.Report.File

/-!
# Pairs of halves

A torn text is written rune by rune. Two halves of a pair that follow each other come out like the
character that they make up, and this is all that the JSON text of a torn text does not tell.

- `Rune.join`: runes with one character for two such halves.
- `Json.stringBody?_escapeRunes`: **what is read between the quotes of a torn text is the text with its
  pairs joined.**
- `Json.escapeRunes_eq_iff`: runes are written alike exactly if they are joined alike.
- `Value.joined`, `Issue.joined`, `FileReport.joined`: texts with their pairs joined, in issues and in
  reports too.
-/

namespace ScriptAudit

namespace Rune

/-- The character that two runes make up, if they are the halves of a pair in their order. -/
def pair? : Rune → Rune → Option Char
  | half high, half low =>
    if high.val < 0x400 ∧ 0x400 ≤ low.val then
      some (Char.ofNat (0x10000 + high.val * 0x400 + (low.val - 0x400)))
    else none
  | _, _ => none

/-- Runes with a character in the place of every two halves of a pair that follow each other. -/
def join : List Rune → List Rune
  | [] => []
  | [rune] => [rune]
  | rune :: next :: rest =>
    match pair? rune next with
    | some c => whole c :: join rest
    | none => rune :: join (next :: rest)

variable {rune next : Rune} {c : Char}

theorem pair?_eq_some_iff : pair? rune next = some c ↔ ∃ high low : Fin 0x800,
    rune = half high ∧ next = half low ∧ high.val < 0x400 ∧ 0x400 ≤ low.val ∧
      c.toNat = 0x10000 + high.val * 0x400 + (low.val - 0x400) := by
  constructor
  · intro h
    cases rune with
    | whole _ => cases h
    | half high =>
      cases next with
      | whole _ => cases h
      | half low =>
        rw [pair?] at h
        split at h
        case isTrue hbounds =>
          obtain ⟨hhigh, hlow⟩ := hbounds
          obtain rfl := Option.some.inj h
          have hvalid : (0x10000 + high.val * 0x400 + (low.val - 0x400)).isValidChar := by
            rw [Nat.isValidChar]
            omega
          refine ⟨high, low, rfl, rfl, hhigh, hlow, ?_⟩
          rw [Char.ofNat, dif_pos hvalid]
          rfl
        case isFalse => cases h
  · rintro ⟨high, low, rfl, rfl, hhigh, hlow, hcode⟩
    rw [pair?, if_pos ⟨hhigh, hlow⟩, ← hcode, Char.ofNat_toNat]

/-- Runes without pairs are what they are. -/
theorem join_eq_self {runes : List Rune}
    (h : runes.IsChain fun rune next => pair? rune next = none) : join runes = runes := by
  fun_induction join runes with
  | case1 => rfl
  | case2 => rfl
  | case3 rune next rest c hpair _ =>
    rw [List.isChain_cons_cons] at h
    rw [h.1] at hpair
    cases hpair
  | case4 rune next rest hpair ih => rw [ih (List.isChain_cons_cons.1 h).2]

theorem join_ofText (text : String) : join (ofText text) = ofText text := by
  have hpairs : text.toList.Pairwise fun c d => pair? (whole c) (whole d) = none :=
    List.pairwise_iff_forall_sublist.2 fun _ => rfl
  refine join_eq_self ?_
  rw [ofText, List.isChain_map]
  exact hpairs.isChain

end Rune

namespace Json

/-! ## Escapes -/

/-- A character beyond the first plane is written as two escapes. -/
theorem escapeChar_of_le {c : Char} (h : 0x10000 ≤ c.toNat) :
    escapeChar c = unitEscape (0xD800 + (c.toNat - 0x10000) / 0x400)
      ++ unitEscape (0xDC00 + (c.toNat - 0x10000) % 0x400) := by
  have hne {d : Char} (hd : d.toNat < 0x10000) : c ≠ d := by
    rintro rfl
    omega
  rw [escapeChar, if_neg (hne (by decide)), if_neg (hne (by decide)), if_neg (hne (by decide)),
    if_neg (hne (by decide)), if_neg (hne (by decide)), if_neg (by omega), if_neg (by omega),
    if_neg (by omega), if_neg (by omega)]

/-- The halves of a pair are written like the character that they make up. -/
theorem escapeRune_of_pair? {rune next : Rune} {c : Char} (h : Rune.pair? rune next = some c) :
    escapeRune rune ++ escapeRune next = escapeChar c := by
  obtain ⟨high, low, rfl, rfl, hhigh, hlow, hcode⟩ := Rune.pair?_eq_some_iff.1 h
  have hfirst : 0xD800 + (c.toNat - 0x10000) / 0x400 = Rune.firstHalf + high.val := by
    rw [Rune.firstHalf]
    omega
  have hsecond : 0xDC00 + (c.toNat - 0x10000) % 0x400 = Rune.firstHalf + low.val := by
    rw [Rune.firstHalf]
    omega
  rw [escapeChar_of_le (by omega), hfirst, hsecond, escapeRune, escapeRune]

theorem escapeRunes_join (runes : List Rune) :
    (Rune.join runes).flatMap escapeRune = runes.flatMap escapeRune := by
  fun_induction Rune.join runes with
  | case1 => rfl
  | case2 => rfl
  | case3 rune next rest c hpair ih =>
    rw [List.flatMap_cons, ih, List.flatMap_cons, List.flatMap_cons, ← List.append_assoc,
      escapeRune_of_pair? hpair, escapeRune]
  | case4 rune next rest hpair ih => rw [List.flatMap_cons, ih, ← List.flatMap_cons]

/-! ## Halves that stand alone -/

variable {rest : List Char}

theorem isLowSurrogate_of_opensLow {unit : Nat} (hunit : unit < 0x10000)
    (h : OpensLow (unitEscape unit ++ rest)) : isLowSurrogate unit = true := by
  obtain ⟨a, b, c, d, hdigits, hvalue⟩ := hexUnit?_hex hunit
  obtain ⟨e, f, g, i, low, after, htext, hlow, hcloses⟩ := h
  simp only [unitEscape, hdigits, List.cons_append, List.nil_append, List.cons.injEq,
    true_and] at htext
  obtain ⟨rfl, rfl, rfl, rfl, rfl⟩ := htext
  rw [hvalue] at hlow
  rwa [Option.some.inj hlow]

/-- No character begins like a second half. -/
theorem not_opensLow_escapeChar (c : Char) : ¬OpensLow (escapeChar c ++ rest) := by
  have hvalid := toNat_valid c
  have hletter {d : Char} (hd : d ≠ 'u') : ¬OpensLow (['\\', d] ++ rest) := by
    rintro ⟨e, f, g, i, low, after, htext, -⟩
    exact hd (List.cons.inj (List.cons.inj htext).2).1
  unfold escapeChar
  split_ifs with hquote hslash
  iterate 7 exact hletter (by decide)
  · rintro ⟨e, f, g, i, low, after, htext, -⟩
    exact hslash (List.cons.inj htext).1
  · intro h
    have hlow := isLowSurrogate_iff.1 (isLowSurrogate_of_opensLow (by assumption) h)
    omega
  · intro h
    rw [List.append_assoc] at h
    have hlow := isLowSurrogate_iff.1 (isLowSurrogate_of_opensLow (by omega) h)
    omega

theorem exists_half_of_opensLow {rune : Rune} (h : OpensLow (escapeRune rune ++ rest)) :
    ∃ low : Fin 0x800, rune = .half low ∧ 0x400 ≤ low.val := by
  cases rune with
  | whole c => exact absurd h (not_opensLow_escapeChar c)
  | half low =>
    have hunit : Rune.firstHalf + low.val < 0x10000 := by
      rw [Rune.firstHalf]
      omega
    have hlow := isLowSurrogate_iff.1 (isLowSurrogate_of_opensLow hunit h)
    rw [Rune.firstHalf] at hlow
    exact ⟨low, rfl, by omega⟩

theorem ofUnit_half (offset : Fin 0x800) : Rune.ofUnit (Rune.firstHalf + offset) = .half offset := by
  have hbounds : Rune.firstHalf ≤ Rune.firstHalf + offset.val
      ∧ Rune.firstHalf + offset.val < Rune.firstHalf + 0x800 := by
    omega
  rw [Rune.ofUnit, dif_pos hbounds]
  exact congrArg Rune.half (Fin.ext (Nat.add_sub_cancel_left ..))

/-- The escape of a rune reads as that rune, unless it opens a pair that is closed behind it. -/
theorem stringBody?_escapeRune {rune : Rune}
    (halone : ∀ high : Fin 0x800, rune = .half high → high.val < 0x400 → ¬OpensLow rest)
    (read : List Rune) :
    stringBody? read (escapeRune rune ++ rest) = stringBody? (rune :: read) rest := by
  cases rune with
  | whole c => exact stringBody?_escapeChar c read rest
  | half offset =>
    have hbound : Rune.firstHalf + offset.val < 0x10000 := by
      rw [Rune.firstHalf]
      omega
    obtain ⟨a, b, c, d, hdigits, hunit⟩ := hexUnit?_hex hbound
    have hopens : isHighSurrogate (Rune.firstHalf + offset.val) = true → ¬OpensLow rest := by
      intro hhigh
      rw [isHighSurrogate_iff, Rune.firstHalf] at hhigh
      exact halone offset rfl (by omega)
    simp only [escapeRune, unitEscape, hdigits, List.cons_append, List.nil_append]
    rw [stringBody?_alone hunit hopens, ofUnit_half]

/-! ## Torn texts -/

/-- **A torn text is read back from its quotes, with its pairs joined.** -/
theorem stringBody?_escapeRunes (runes read : List Rune) (rest : List Char) :
    stringBody? read (runes.flatMap escapeRune ++ '"' :: rest)
      = some (read.reverse ++ Rune.join runes, rest) := by
  fun_induction Rune.join runes generalizing read with
  | case1 => rw [List.flatMap_nil, List.nil_append, stringBody?_end, List.append_nil]
  | case2 rune =>
    have hend : ¬OpensLow ('"' :: rest) := by
      rintro ⟨e, f, g, i, low, after, htext, -⟩
      cases htext
    rw [List.flatMap_singleton, stringBody?_escapeRune fun _ _ _ => hend, stringBody?_end,
      List.reverse_cons]
  | case3 rune next more c hpair ih =>
    -- The two escapes are those of the character, which the reader takes at once.
    rw [List.flatMap_cons, List.flatMap_cons, ← List.append_assoc, escapeRune_of_pair? hpair,
      List.append_assoc, stringBody?_escapeChar, ih, List.reverse_cons, List.append_assoc,
      List.singleton_append]
  | case4 rune next more hpair ih =>
    -- A first half is read alone since no second one follows: the two would be a pair.
    have halone : ∀ high : Fin 0x800, rune = .half high → high.val < 0x400 →
        ¬OpensLow ((next :: more).flatMap escapeRune ++ '"' :: rest) := by
      rintro high rfl hhigh hopens
      rw [List.flatMap_cons, List.append_assoc] at hopens
      obtain ⟨low, rfl, hlow⟩ := exists_half_of_opensLow hopens
      rw [Rune.pair?, if_pos ⟨hhigh, hlow⟩] at hpair
      cases hpair
    rw [List.flatMap_cons, List.append_assoc, stringBody?_escapeRune halone, ih, List.reverse_cons,
      List.append_assoc, List.singleton_append]

/-- Runes are written alike exactly if they are the same with their pairs joined. -/
theorem escapeRunes_eq_iff {runes others : List Rune} :
    runes.flatMap escapeRune = others.flatMap escapeRune ↔ Rune.join runes = Rune.join others := by
  constructor
  · intro h
    have hread := stringBody?_escapeRunes runes [] []
    rw [h, stringBody?_escapeRunes] at hread
    exact (Prod.mk.inj (Option.some.inj hread)).1.symm
  · intro h
    rw [← escapeRunes_join runes, h, escapeRunes_join]

end Json

/-! ## Reports -/

/-- A text with its pairs joined; another value is left as it is. -/
def Value.joined (value : Value) : Value :=
  match value.runes? with
  | some runes => .ofRunes (Rune.join runes)
  | none => value

theorem Value.joined_of_runes? {value : Value} {runes : List Rune} (h : value.runes? = some runes) :
    value.joined = .ofRunes (Rune.join runes) := by
  rw [joined, h]

/-- A text that is not torn has no pairs. -/
theorem Value.joined_text (text : String) : (Value.text text).joined = .text text := by
  have hrunes : (Value.text text).runes? = some (Rune.ofText text) := rfl
  rw [joined_of_runes? hrunes, Rune.join_ofText, ofRunes_of_runes? hrunes]

theorem Value.joined_eq_iff {value other : Value} {runes others : List Rune}
    (hvalue : value.runes? = some runes) (hother : other.runes? = some others) :
    value.joined = other.joined ↔ Rune.join runes = Rune.join others := by
  rw [joined_of_runes? hvalue, joined_of_runes? hother]
  constructor
  · intro h
    have hrunes := congrArg runes? h
    rw [runes?_ofRunes, runes?_ofRunes] at hrunes
    exact Option.some.inj hrunes
  · intro h
    rw [h]

/-- An issue with the pairs in its message and its code joined. -/
def Issue.joined (issue : Issue) : Issue :=
  { issue with message := issue.message.joined, code := issue.code.joined }

/-- Nothing changes in plain issues. -/
theorem Issue.IsPlain.joined {issue : Issue} (h : issue.IsPlain) : issue.joined = issue := by
  cases h
  simp only [Issue.joined, Value.joined_text]

theorem Issue.map_joined {issues : List Issue} (h : ∀ issue ∈ issues, issue.IsPlain) :
    issues.map joined = issues := by
  have hissues : issues.map joined = issues.map id :=
    List.map_congr_left fun issue hmem => (h issue hmem).joined
  rw [hissues, List.map_id]

/-- A report on a file with the pairs in its issues joined. -/
def FileReport.joined (r : FileReport) : FileReport :=
  { r with issues := r.issues.map Issue.joined }

theorem FileReport.map_joined {files : List FileReport}
    (h : ∀ file ∈ files, ∀ issue ∈ file.issues, issue.IsPlain) : files.map joined = files := by
  have hfiles : files.map joined = files.map id := by
    refine List.map_congr_left fun file hmem => ?_
    rw [joined, Issue.map_joined (h file hmem), id]
  rw [hfiles, List.map_id]

end ScriptAudit
