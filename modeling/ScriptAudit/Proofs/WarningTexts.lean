import ScriptAudit.Proofs.NumberTexts
import ScriptAudit.Proofs.SearchLog

/-!
# Reading warnings

A warning names a path and a reason, and both can be made out from its text if the path is absolute:
behind the words it begins with stands a slash, and no two reasons end in the same way.

- `Reason.toList_text`: the path of a warning stands between two stretches that the reason fixes.
- `Reason.eq_of_tails`: the end of a warning tells the reason from others that begin alike.
- `Notice.text_injective`: **a warning can be read in one way only.** `Tells.unique` says the same
  of a list of them.
-/

namespace ScriptAudit

namespace Reason

variable {allowed : String} {reason other : Reason} {first second : List Char}

/-! ## The parts of a warning -/

/-- The words before the path. -/
def head : Reason → String
  | unopened _ => "Skipping directory "
  | revisited => "Symlink loop at "
  | unclear _ => "Cannot stat "
  | dangling => "Dangling symlink "
  | unknown _ | tooLarge _ | tooMany => "Skipping "

/-- The words between the path and what the warning says in detail. -/
def bridge : Reason → String
  | revisited | dangling => ", skipping"
  | tooMany => ": max files limit ("
  | _ => ": "

/-- What a warning says in detail. -/
def detail (allowed : String) : Reason → String
  | unopened e | unknown e | unclear e => e.text
  | tooLarge size => natText size
  | tooMany => allowed
  | _ => ""

/-- The words at the end. -/
def closing : Reason → String
  | tooLarge _ => " bytes exceeds size limit"
  | tooMany => ")"
  | _ => ""

/-- Everything behind the path. -/
def tail (allowed : String) (reason : Reason) : List Char :=
  (reason.bridge ++ reason.detail allowed ++ reason.closing).toList

theorem toList_text (allowed shown : String) (reason : Reason) :
    (reason.text allowed shown).toList
      = reason.head.toList ++ shown.toList ++ reason.tail allowed := by
  -- Each text is put together from a head, the path and what stands behind it.
  cases reason with
  | unopened e =>
    show ("Skipping directory " ++ shown ++ ": " ++ e.text).toList = _
    simp [head, tail, bridge, detail, closing]
  | revisited =>
    show ("Symlink loop at " ++ shown ++ ", skipping").toList = _
    simp [head, tail, bridge, detail, closing]
  | unknown e =>
    show ("Skipping " ++ shown ++ ": " ++ e.text).toList = _
    simp [head, tail, bridge, detail, closing]
  | unclear e =>
    show ("Cannot stat " ++ shown ++ ": " ++ e.text).toList = _
    simp [head, tail, bridge, detail, closing]
  | dangling =>
    show ("Dangling symlink " ++ shown ++ ", skipping").toList = _
    simp [head, tail, bridge, detail, closing]
  | tooLarge size =>
    show ("Skipping " ++ shown ++ ": " ++ natText size ++ " bytes exceeds size limit").toList = _
    simp [head, tail, bridge, detail, closing]
  | tooMany =>
    show ("Skipping " ++ shown ++ ": max files limit (" ++ allowed ++ ")").toList = _
    simp [head, tail, bridge, detail, closing]

/-- With a slash behind the words before the path, these can be told. -/
theorem head_eq_of_slash {rest rest' : List Char}
    (h : reason.head.toList ++ '/' :: rest = other.head.toList ++ '/' :: rest') :
    reason.head = other.head := by
  cases reason <;> cases other <;> first | rfl | simp [head] at h

/-! ## The end of a warning -/

/-- The access error that a reason is. -/
def error? : Reason → Option AccessError
  | unopened e | unknown e | unclear e => some e
  | _ => none

theorem tail_of_error {e : AccessError} (h : reason.error? = some e) :
    reason.tail allowed = (": " ++ e.text).toList := by
  cases reason <;> cases h <;> simp [tail, bridge, detail, closing]

theorem tail_tooLarge (size : Nat) :
    (tooLarge size).tail allowed
      = [':'] ++ ' ' :: Nat.toDigits 10 size ++ " bytes exceeds size limit".toList := by
  simp [tail, bridge, detail, closing, natText]

theorem tail_tooMany :
    tooMany.tail allowed = ": max files limit (".toList ++ allowed.toList ++ [')'] := by
  simp [tail, bridge, detail, closing]

/-- No two access errors have texts of which one ends like the other. -/
theorem accessError_eq_of_suffix {e e' : AccessError}
    (h : (": " ++ e.text).toList <:+ (": " ++ e'.text).toList) : e = e' := by
  revert h
  cases e <;> cases e' <;> decide

theorem accessError_eq_of_tails {e e' : AccessError} (he : reason.error? = some e)
    (he' : other.error? = some e')
    (h : first ++ reason.tail allowed = second ++ other.tail allowed) : e = e' := by
  rw [tail_of_error he, tail_of_error he'] at h
  have hend : (": " ++ e'.text).toList <:+ first ++ (": " ++ e.text).toList := ⟨second, h.symm⟩
  rcases List.suffix_or_suffix_of_suffix (List.suffix_append first _) hend with hsuffix | hsuffix
  · exact accessError_eq_of_suffix hsuffix
  · exact (accessError_eq_of_suffix hsuffix).symm

/-- What follows the last blank of a text. -/
theorem eq_of_last_blank {word word' : List Char} (hword : ' ' ∉ word) (hword' : ' ' ∉ word')
    (h : first ++ ' ' :: word = second ++ ' ' :: word') : word = word' := by
  have hreverse := congrArg (fun text => text.reverse.takeWhile (· != ' ')) h
  rw [Text.takeWhile_reverse_append hword, Text.takeWhile_reverse_append hword'] at hreverse
  exact List.reverse_inj.1 hreverse

theorem size_eq_of_tails {size size' : Nat}
    (h : first ++ (tooLarge size).tail allowed = second ++ (tooLarge size').tail allowed) :
    size = size' := by
  have hblank : ∀ n : Nat, ' ' ∉ Nat.toDigits 10 n := by
    intro n hmem
    exact absurd ((isToken_toDigits n).2 _ hmem) (by decide)
  simp only [tail_tooLarge, ← List.append_assoc] at h
  exact toDigits_injective
    (eq_of_last_blank (hblank size) (hblank size') (List.append_cancel_right h))

theorem getLast?_tail_eq (h : first ++ reason.tail allowed = second ++ other.tail allowed) :
    (reason.tail allowed).getLast? = (other.tail allowed).getLast? := by
  have hne : ∀ r : Reason, r.tail allowed ≠ [] := by
    intro r
    cases r <;> simp [tail, bridge]
  have hlast : ∀ (before : List Char) (r : Reason),
      (before ++ r.tail allowed).getLast? = (r.tail allowed).getLast? := by
    intro before r
    rw [List.getLast?_append, Option.or_of_isSome]
    simpa using hne r
  rw [← hlast first, h, hlast]

/-- The last character tells the limits from each other and from access errors. -/
theorem getLast?_of_error {e : AccessError} (h : reason.error? = some e) :
    (reason.tail allowed).getLast? ≠ some 't' ∧ (reason.tail allowed).getLast? ≠ some ')' := by
  rw [tail_of_error h]
  cases e <;> decide

theorem getLast?_tooLarge (size : Nat) : ((tooLarge size).tail allowed).getLast? = some 't' := by
  rw [tail_tooLarge, List.getLast?_append]
  rfl

theorem getLast?_tooMany : (tooMany.tail allowed).getLast? = some ')' := by
  rw [tail_tooMany, List.getLast?_append]
  rfl

/-- **The end of a warning tells the reason** from all others that begin alike. -/
theorem eq_of_tails (hhead : reason.head = other.head)
    (h : first ++ reason.tail allowed = second ++ other.tail allowed) : reason = other := by
  -- Warnings with one head are told apart by the last characters, or by what stands in between.
  have hlast := getLast?_tail_eq h
  cases reason with
  | unopened e =>
    cases other with
    | unopened e' => rw [accessError_eq_of_tails rfl rfl h]
    | _ => simp [head] at hhead
  | unclear e =>
    cases other with
    | unclear e' => rw [accessError_eq_of_tails rfl rfl h]
    | _ => simp [head] at hhead
  | revisited | dangling => cases other <;> first | rfl | simp [head] at hhead
  | unknown e =>
    cases other with
    | unknown e' => rw [accessError_eq_of_tails rfl rfl h]
    | tooLarge size =>
      exact absurd (hlast.trans (getLast?_tooLarge size)) (getLast?_of_error rfl).1
    | tooMany => exact absurd (hlast.trans getLast?_tooMany) (getLast?_of_error rfl).2
    | _ => simp [head] at hhead
  | tooLarge size =>
    rw [getLast?_tooLarge] at hlast
    cases other with
    | unknown e => exact absurd hlast.symm (getLast?_of_error rfl).1
    | tooLarge size' => rw [size_eq_of_tails h]
    | tooMany =>
      rw [getLast?_tooMany] at hlast
      cases hlast
    | _ => simp [head] at hhead
  | tooMany =>
    rw [getLast?_tooMany] at hlast
    cases other with
    | unknown e => exact absurd hlast.symm (getLast?_of_error rfl).2
    | tooLarge size =>
      rw [getLast?_tooLarge] at hlast
      cases hlast
    | tooMany => rfl
    | _ => simp [head] at hhead

/-- Whether a reason is a loop or a dangling link, for which the search just goes on. -/
def isPause : Reason → Bool
  | revisited | dangling => true
  | _ => false

/-- Of a loop or a dangling link, the warning tells by its first letters, whatever its path is. -/
theorem eq_of_text_eq {shown shown' : String} (hpause : other.isPause = true)
    (h : reason.text allowed shown = other.text allowed shown') :
    reason = other ∧ shown = shown' := by
  have hchars := congrArg String.toList h
  rw [toList_text, toList_text] at hchars
  have hreason : reason = other := by
    cases other with
    | revisited | dangling => cases reason <;> first | rfl | simp [head] at hchars
    | _ => cases hpause
  refine ⟨hreason, String.toList_inj.1 ?_⟩
  rw [hreason] at hchars
  exact List.append_cancel_left (List.append_cancel_right hchars)

end Reason

/-! ## Whole warnings -/

/-- A reason, and the text of the path that it is about. -/
structure Notice where
  shown : String
  reason : Reason
  deriving DecidableEq, Repr

namespace Notice

variable {allowed : String} {notice other : Notice}

/-- The warning that a notice is. -/
def text (allowed : String) (notice : Notice) : String :=
  notice.reason.text allowed notice.shown

/-- Whether a notice is about an absolute path. -/
def IsAbsolute (notice : Notice) : Prop :=
  ∃ rest, notice.shown.toList = '/' :: rest

/-- **A warning about an absolute path can be read in one way only.** -/
theorem text_injective (habsolute : notice.IsAbsolute) (habsolute' : other.IsAbsolute)
    (h : notice.text allowed = other.text allowed) : notice = other := by
  obtain ⟨rest, hrest⟩ := habsolute
  obtain ⟨rest', hrest'⟩ := habsolute'
  -- An absolute path begins with a slash, and no head has one, so the heads end together.
  have hchars := congrArg String.toList h
  rw [text, text, Reason.toList_text, Reason.toList_text] at hchars
  have hslash : notice.reason.head.toList ++ '/' :: (rest ++ notice.reason.tail allowed)
      = other.reason.head.toList ++ '/' :: (rest' ++ other.reason.tail allowed) := by
    simpa [hrest, hrest'] using hchars
  have hhead := Reason.head_eq_of_slash hslash
  rw [hhead, List.append_assoc, List.append_assoc] at hchars
  have hbehind := List.append_cancel_left hchars
  have hreason : notice.reason = other.reason := Reason.eq_of_tails hhead hbehind
  rw [hreason] at hbehind
  have hshown : notice.shown = other.shown :=
    String.toList_inj.1 (List.append_cancel_right hbehind)
  cases notice
  cases other
  cases hreason
  cases hshown
  rfl

end Notice

/-- Whether some notices, about absolute paths, are what warnings tell. -/
structure Tells (allowed : String) (warnings : List String) (notices : List Notice) : Prop where
  texts : warnings = notices.map (Notice.text allowed)
  absolute : ∀ notice ∈ notices, notice.IsAbsolute

/-- What warnings tell leaves no choice. -/
theorem Tells.unique {allowed : String} {warnings : List String} {notices others : List Notice}
    (h : Tells allowed warnings notices) (h' : Tells allowed warnings others) :
    notices = others := by
  induction notices generalizing warnings others with
  | nil =>
    have hnone : others.map (Notice.text allowed) = [] := by rw [← h'.texts, h.texts, List.map_nil]
    exact (List.map_eq_nil_iff.1 hnone).symm
  | cons notice notices ih =>
    have htexts := h.texts.symm.trans h'.texts
    cases others with
    | nil => cases htexts
    | cons other others =>
      obtain ⟨hfirst, hrest⟩ := List.cons.inj htexts
      obtain ⟨habsolute, hrest'⟩ := List.forall_mem_cons.1 h.absolute
      obtain ⟨habsolute', hrest''⟩ := List.forall_mem_cons.1 h'.absolute
      rw [Notice.text_injective habsolute habsolute' hfirst, ih ⟨rfl, hrest'⟩ ⟨hrest, hrest''⟩]

end ScriptAudit
