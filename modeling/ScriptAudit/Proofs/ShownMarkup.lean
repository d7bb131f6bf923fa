import ScriptAudit.Format.Plain
import ScriptAudit.Proofs.ConsoleReport

/-!
# Markup that can be shown

Markup cannot be shown if a tag in it closes what is not open. An escaped text has no tags at all,
and a tag that is closed where it was opened does no harm, so markup that is built from these can be
shown whatever the texts are.

- `Markup.tag?_eq_some_iff`, `Markup.induction`: the shape of a tag, and induction along markup.
- `Markup.Shown`: whether markup can be shown, given the tags that are open.
- `Markup.isTagless_escape`: **an escaped text has no tags.** What follows it is read as if it stood
  alone, but for backslashes.
- `Markup.passes_tag`: **a text in a tag that is closed can stand in front of anything.**
- `Terminal.plain_isFaithful`: **a console without colours shows what is made of tame markup.**
-/

namespace ScriptAudit.Markup

/-! ## Tags -/

/-- What can stand between the brackets of a tag. -/
def IsContent (content : List Char) : Prop :=
  ∃ c rest, content = c :: rest ∧ opensTag c = true ∧ ∀ d ∈ rest, insideTag d = true

theorem insideTag_eq_false_iff {c : Char} : insideTag c = false ↔ c = '[' ∨ c = ']' := by
  by_cases h : c = '[' <;> simp [insideTag, h]

theorem insideTag_of_opensTag {c : Char} (h : opensTag c = true) : insideTag c = true := by
  rw [insideTag, Bool.and_eq_true, bne_iff_ne, bne_iff_ne]
  constructor <;> rintro rfl <;> revert h <;> decide

theorem IsContent.insideTag {content : List Char} (h : IsContent content) :
    ∀ d ∈ content, insideTag d = true := by
  obtain ⟨c, rest, rfl, hc, hrest⟩ := h
  exact List.forall_mem_cons.2 ⟨insideTag_of_opensTag hc, hrest⟩

/-- A tag is its content between brackets. -/
theorem tag?_eq_some_iff {text content after : List Char} :
    tag? text = some (content, after) ↔
      IsContent content ∧ text = '[' :: (content ++ ']' :: after) := by
  constructor
  · intro h
    unfold tag? at h
    split at h
    · rename_i c rest
      split_ifs at h with hc
      split at h
      · rename_i after' hdrop
        obtain ⟨rfl, rfl⟩ := Prod.mk.inj (Option.some.inj h)
        refine ⟨⟨c, _, rfl, hc, List.all_eq_true.1 List.all_takeWhile⟩, ?_⟩
        rw [List.cons_append, ← hdrop, List.takeWhile_append_dropWhile]
      · cases h
    · cases h
  · rintro ⟨⟨c, rest, rfl, hc, hrest⟩, rfl⟩
    -- The bracket at the end is the first character that cannot stand inside.
    have hend : insideTag ']' = false := rfl
    have hdrop : (rest ++ ']' :: after).dropWhile insideTag = ']' :: after := by
      rw [List.dropWhile_append_of_pos hrest, List.dropWhile_cons_of_neg (by simp [hend])]
    have htake : (rest ++ ']' :: after).takeWhile insideTag = rest := by
      rw [List.takeWhile_append_of_pos hrest, List.takeWhile_cons_of_neg (by simp [hend]),
        List.append_nil]
    simp [tag?, hc, hdrop, htake]

/-- Whether a text does not close a bracket that was opened before it. -/
def Apart (text : List Char) : Prop :=
  (text.dropWhile insideTag).head? ≠ some ']'

theorem apart_nil : Apart [] := by
  simp [Apart]

theorem apart_cons_of_insideTag {c : Char} {text : List Char} (h : insideTag c = true) :
    Apart (c :: text) ↔ Apart text := by
  rw [Apart, Apart, List.dropWhile_cons_of_pos h]

theorem apart_cons_iff {c : Char} {text : List Char} :
    Apart (c :: text) ↔ c = '[' ∨ c ≠ ']' ∧ Apart text := by
  cases hinside : insideTag c with
  | true =>
    rw [apart_cons_of_insideTag hinside]
    rw [insideTag, Bool.and_eq_true, bne_iff_ne, bne_iff_ne] at hinside
    simp [hinside]
  | false =>
    rw [Apart, List.dropWhile_cons_of_neg (by simp [hinside])]
    rcases insideTag_eq_false_iff.1 hinside with rfl | rfl <;> simp

theorem apart_append {text rest : List Char} (h : Apart text) (hrest : Apart rest) :
    Apart (text ++ rest) := by
  induction text with
  | nil => exact hrest
  | cons c text ih =>
    rw [List.cons_append, apart_cons_iff]
    exact (apart_cons_iff.1 h).imp_right fun hc => ⟨hc.1, ih hc.2⟩

/-- A bracket opens no tag exactly if it is not closed, or the wrong character follows it. -/
theorem tag?_bracket_eq_none_iff {text : List Char} :
    tag? ('[' :: text) = none ↔ Apart text ∨ text.head?.any opensTag = false := by
  cases text with
  | nil => simp [tag?, apart_nil]
  | cons c rest =>
    by_cases hc : opensTag c = true
    · rw [apart_cons_of_insideTag (insideTag_of_opensTag hc), Apart]
      have hhead : (c :: rest).head?.any opensTag = true := hc
      rw [hhead, tag?, if_pos hc]
      cases hdrop : rest.dropWhile insideTag with
      | nil => simp
      | cons d after => by_cases hd : d = ']' <;> simp [hd]
    · rw [Bool.not_eq_true] at hc
      simp [tag?, hc]

/-- Markup is read character by character, except that a tag is read at once. -/
@[elab_as_elim]
theorem induction {motive : List Char → Prop} (nil : motive [])
    (slash : ∀ text, motive text → motive ('\\' :: text))
    (plain : ∀ c text, c ≠ '\\' → tag? (c :: text) = none → motive text → motive (c :: text))
    (tag : ∀ content after, IsContent content → motive after →
      motive ('[' :: (content ++ ']' :: after))) (text : List Char) : motive text := by
  match text with
  | [] => exact nil
  -- A backslash and a plain character are read alone; a tag is read to its bracket, so the text
  -- gets shorter.
  | c :: rest =>
    by_cases hc : c = '\\'
    · rw [hc]
      exact slash rest (induction nil slash plain tag rest)
    · cases htag : tag? (c :: rest) with
      | none => exact plain c rest hc htag (induction nil slash plain tag rest)
      | some found =>
        obtain ⟨content, after⟩ := found
        obtain ⟨hcontent, heq⟩ := tag?_eq_some_iff.1 htag
        have hlength := congrArg List.length heq
        rw [heq]
        exact tag content after hcontent (induction nil slash plain tag after)
  termination_by text.length
  decreasing_by
    all_goals simp at *
    all_goals omega

/-! ## Shown or not -/

/-- Whether markup can be shown while some tags are open, after some backslashes have just been
read. -/
def Shown (opened : List OpenTag) (slashes : Nat) (text : List Char) : Prop :=
  (shownFrom? opened (piecesFrom 0 slashes [] text)).isSome = true

section Steps

variable {opened : List OpenTag} {slashes : Nat} {text : List Char}

/-- The plain text before a place does not decide what can be shown. -/
theorem isSome_shownFrom?_read (skipped : Nat) (read other : List Char) :
    (shownFrom? opened (piecesFrom skipped slashes read text)).isSome
      = (shownFrom? opened (piecesFrom skipped slashes other text)).isSome := by
  induction text generalizing skipped slashes read other with
  | nil => simp only [piecesFrom, isSome_shownFrom?_plain]
  | cons c text ih =>
    cases skipped with
    | succ skipped => simpa only [piecesFrom] using ih skipped read other
    | zero =>
      by_cases hc : c = '\\'
      · simpa only [piecesFrom, if_pos hc] using ih 0 read other
      · cases htag : tag? (c :: text) with
        | none => simpa only [piecesFrom, if_neg hc, htag] using ih 0 _ _
        | some found => simp only [piecesFrom, if_neg hc, htag, isSome_shownFrom?_plain]

/-- What belongs to a tag is passed over. -/
theorem piecesFrom_length (passed : List Char) (slashes : Nat) (read : List Char) :
    piecesFrom (passed.length + 1) slashes read (passed ++ ']' :: text)
      = piecesFrom 0 0 read text := by
  induction passed generalizing slashes with
  | nil => simp [piecesFrom]
  | cons c passed ih => simpa [piecesFrom] using ih 0

theorem shown_nil : Shown opened slashes [] := by
  simp [Shown, piecesFrom, shownFrom?]

theorem shown_slash : Shown opened slashes ('\\' :: text) ↔ Shown opened (slashes + 1) text := by
  rw [Shown, Shown, piecesFrom_slash]

theorem shown_replicate {count : Nat} :
    Shown opened slashes (List.replicate count '\\' ++ text)
      ↔ Shown opened (slashes + count) text := by
  induction count generalizing slashes with
  | zero => simp
  | succ count ih =>
    rw [List.replicate_succ, List.cons_append, shown_slash, ih, Nat.add_right_comm, Nat.add_assoc]

theorem shown_plain {c : Char} (hc : c ≠ '\\') (htag : tag? (c :: text) = none) :
    Shown opened slashes (c :: text) ↔ Shown opened 0 text := by
  rw [Shown, Shown, piecesFrom, if_neg hc, htag]
  dsimp only
  rw [isSome_shownFrom?_read]

/-- An odd number of backslashes in front of a tag takes it for plain text. -/
theorem shown_tag {content : List Char} (h : IsContent content) :
    Shown opened slashes ('[' :: (content ++ ']' :: text)) ↔
      if slashes % 2 = 1 then Shown opened 0 text
      else ∃ left, afterTag? opened content = some left ∧ Shown left 0 text := by
  have htag : tag? ('[' :: (content ++ ']' :: text)) = some (content, text) :=
    tag?_eq_some_iff.2 ⟨h, rfl⟩
  rw [Shown, piecesFrom, if_neg (by decide), htag]
  dsimp only
  rw [isSome_shownFrom?_plain, piecesFrom_length]
  split_ifs with hodd
  · rw [isSome_shownFrom?_plain, Shown]
  · rw [shownFrom?]
    cases afterTag? opened content <;> simp [Shown]

end Steps

/-! ## Escaped texts -/

section Escape

variable {text rest : List Char}

theorem apart_replicate_append {count : Nat} :
    Apart (List.replicate count '\\' ++ text) ↔ Apart text := by
  induction count with
  | zero => simp
  | succ count ih => rw [List.replicate_succ, List.cons_append, apart_cons_of_insideTag rfl, ih]

theorem escapeFrom_plain {c : Char} (hc : c ≠ '\\') (htag : tag? (c :: text) = none)
    (slashes : Nat) :
    escapeFrom slashes (c :: text) = List.replicate slashes '\\' ++ c :: escapeFrom 0 text := by
  simp [escapeFrom, hc, htag]

/-- Nothing is escaped inside a tag. -/
theorem escapeFrom_content {content after : List Char} (h : ∀ d ∈ content, insideTag d = true)
    (slashes : Nat) :
    escapeFrom slashes (content ++ ']' :: after)
      = List.replicate slashes '\\' ++ (content ++ ']' :: escapeFrom 0 after) := by
  induction content generalizing slashes with
  | nil => exact escapeFrom_plain (by decide) (tag?_eq_none_of_ne (by decide)) slashes
  | cons d content ih =>
    obtain ⟨hd, hcontent⟩ := List.forall_mem_cons.1 h
    by_cases hslash : d = '\\'
    · rw [hslash, List.cons_append, escapeFrom_slash, ih hcontent, List.replicate_succ']
      simp
    · have hbracket : d ≠ '[' := by
        rintro rfl
        cases hd
      rw [List.cons_append, escapeFrom_plain hslash (tag?_eq_none_of_ne hbracket), ih hcontent]
      simp

/-- A tag gets twice the backslashes in front of it and one more. -/
theorem escapeFrom_tag {content after : List Char} (h : IsContent content) (slashes : Nat) :
    escapeFrom slashes ('[' :: (content ++ ']' :: after))
      = List.replicate (2 * slashes + 1) '\\'
        ++ '[' :: (content ++ ']' :: escapeFrom 0 after) := by
  have htag : tag? ('[' :: (content ++ ']' :: after)) = some (content, after) :=
    tag?_eq_some_iff.2 ⟨h, rfl⟩
  rw [escapeFrom, if_neg (by decide), htag, escapeFrom_content h.insideTag]
  simp

/-- Backslashes that were read are written before anything else. -/
theorem exists_escapeFrom_succ (text : List Char) (slashes : Nat) :
    ∃ others, escapeFrom (slashes + 1) text = '\\' :: others := by
  induction text using induction generalizing slashes with
  | nil => exact ⟨_, rfl⟩
  | slash text ih => simpa only [escapeFrom_slash] using ih (slashes + 1)
  | plain c text hc htag =>
    rw [escapeFrom_plain hc htag, List.replicate_succ]
    exact ⟨_, rfl⟩
  | tag content after hcontent =>
    rw [escapeFrom_tag hcontent, List.replicate_succ]
    exact ⟨_, rfl⟩

theorem apart_escapeFrom (hrest : Apart rest) (h : Apart text) (slashes : Nat) :
    Apart (escapeFrom slashes text ++ rest) := by
  induction text using induction generalizing slashes with
  | nil => exact apart_replicate_append.2 hrest
  | slash text ih =>
    rw [escapeFrom_slash]
    exact ih ((apart_cons_of_insideTag rfl).1 h) _
  | plain c text hc htag ih =>
    rw [escapeFrom_plain hc htag, List.append_assoc, apart_replicate_append, List.cons_append]
    exact apart_cons_iff.2 ((apart_cons_iff.1 h).imp_right fun hc => ⟨hc.1, ih hc.2 0⟩)
  | tag content after hcontent =>
    rw [escapeFrom_tag hcontent, List.append_assoc, apart_replicate_append]
    exact apart_cons_iff.2 (.inl rfl)

/-- A bracket that opens no tag opens none in front of the escaped text. -/
theorem tag?_escapeFrom_eq_none (hrest : Apart rest) (h : tag? ('[' :: text) = none) :
    tag? ('[' :: (escapeFrom 0 text ++ rest)) = none := by
  rw [tag?_bracket_eq_none_iff] at h ⊢
  rcases h with hapart | hhead
  · exact .inl (apart_escapeFrom hrest hapart 0)
  · -- What is written begins with a backslash, or with the same character.
    cases text using induction with
    | nil => exact .inl hrest
    | slash text =>
      obtain ⟨others, hothers⟩ := exists_escapeFrom_succ text 0
      rw [escapeFrom_slash, hothers]
      exact .inr rfl
    | plain c text hc htag =>
      rw [escapeFrom_plain hc htag]
      exact .inr hhead
    | tag content after hcontent =>
      rw [escapeFrom_tag hcontent]
      exact .inr rfl

/-- Whether markup has no tags, so that what follows it is read as if it stood alone, after some
backslashes. -/
def IsTagless (body : List Char) : Prop :=
  ∃ slashes, ∀ rest, Apart rest → ∀ opened,
    Shown opened 0 (body ++ rest) ↔ Shown opened slashes rest

theorem isTagless_escapeFrom (slashes : Nat) : IsTagless (escapeFrom slashes text) := by
  induction text using induction generalizing slashes with
  | nil => exact ⟨slashes, fun rest _ opened => by rw [escapeFrom, shown_replicate, Nat.zero_add]⟩
  | slash text ih =>
    rw [escapeFrom_slash]
    exact ih _
  | plain c text hc htag ih =>
    obtain ⟨left, hleft⟩ := ih 0
    refine ⟨left, fun rest hrest opened => ?_⟩
    -- A bracket that opens no tag must not open one in front of what is written for the rest.
    have hnone : tag? (c :: (escapeFrom 0 text ++ rest)) = none := by
      by_cases hbracket : c = '['
      · subst hbracket
        exact tag?_escapeFrom_eq_none hrest htag
      · exact tag?_eq_none_of_ne hbracket
    rw [escapeFrom_plain hc htag, List.append_assoc, shown_replicate, List.cons_append,
      shown_plain hc hnone, hleft rest hrest]
  | tag content after hcontent ih =>
    obtain ⟨left, hleft⟩ := ih 0
    refine ⟨left, fun rest hrest opened => ?_⟩
    -- The number of backslashes in front of the tag is odd, so it counts as text.
    rw [escapeFrom_tag hcontent, List.append_assoc, shown_replicate, List.cons_append,
      List.append_assoc, List.cons_append, shown_tag hcontent, if_pos (by omega), hleft rest hrest]

/-- **An escaped text has no tags.** -/
theorem isTagless_escape (text : List Char) : IsTagless (escape text) := by
  -- At most one backslash is added at the end.
  have hclose (written : List Char) :
      closeSlash written = written ∨ closeSlash written = written ++ ['\\'] := by
    unfold closeSlash
    split
    · exact .inl rfl
    · exact .inr rfl
    · exact .inl rfl
  have htagless : IsTagless (escapeFrom 0 text) := isTagless_escapeFrom 0
  obtain ⟨slashes, hslashes⟩ := htagless
  rcases hclose (escapeFrom 0 text) with heq | heq
  · rw [escape, heq]
    exact ⟨slashes, hslashes⟩
  · refine ⟨slashes + 1, fun rest hrest opened => ?_⟩
    rw [escape, heq, List.append_assoc, List.singleton_append,
      hslashes _ ((apart_cons_of_insideTag rfl).2 hrest), shown_slash]

end Escape

/-! ## Composition -/

/-- Whether markup can be shown behind anything, and closes no bracket there. -/
structure IsSettled (text : List Char) : Prop where
  apart : Apart text
  shown : ∀ opened slashes, Shown opened slashes text

/-- Whether markup can be shown whatever tags are open. -/
def Shows (text : List Char) : Prop :=
  ∀ opened, Shown opened 0 text

/-- Whether markup can stand in front of anything that can be shown. -/
def Passes (body : List Char) : Prop :=
  ∀ rest, Shows rest → Shows (body ++ rest)

section Composition

variable {text body rest : List Char}

theorem shows_nil : Shows [] :=
  fun _ => shown_nil

/-- An escaped text can be shown in front of what can always be shown. -/
theorem shows_escape_append (h : IsSettled rest) : Shows (escape text ++ rest) := by
  obtain ⟨slashes, hslashes⟩ := isTagless_escape text
  exact fun opened => (hslashes rest h.apart opened).2 (h.shown opened slashes)

theorem Passes.append {other : List Char} (h : Passes body) (hother : Passes other) :
    Passes (body ++ other) := fun rest hrest => by
  rw [List.append_assoc]
  exact h _ (hother rest hrest)

/-! ### Plain text -/

theorem shown_cons_of_isPlain {c : Char} (h : isPlain (c :: text) = true) {opened : List OpenTag}
    {slashes : Nat} : Shown opened slashes (c :: text ++ rest) ↔ Shown opened 0 (text ++ rest) := by
  rw [isPlain, List.all_cons, Bool.and_eq_true, Bool.and_eq_true, bne_iff_ne] at h
  have hbracket : c ≠ '[' := fun heq => by
    rw [heq] at h
    cases h.1.1
  exact shown_plain h.1.2 (tag?_eq_none_of_ne hbracket)

theorem isPlain_of_cons {c : Char} (h : isPlain (c :: text) = true) : isPlain text = true :=
  ((Bool.and_eq_true _ _).mp h).2

/-- Plain text changes nothing about what follows it. -/
theorem shown_isPlain_append_iff (h : isPlain text = true) {opened : List OpenTag} :
    Shown opened 0 (text ++ rest) ↔ Shown opened 0 rest := by
  induction text with
  | nil => rfl
  | cons c text ih => rw [shown_cons_of_isPlain h, ih (isPlain_of_cons h)]

theorem passes_of_isPlain (h : isPlain text = true) : Passes text :=
  fun _ hrest opened => (shown_isPlain_append_iff h).2 (hrest opened)

theorem apart_of_isPlain (h : isPlain text = true) : Apart text := by
  have hinside : ∀ c ∈ text, insideTag c = true := fun c hc =>
    ((Bool.and_eq_true _ _).mp (List.all_eq_true.1 h c hc)).1
  rw [← List.append_nil text, Apart, List.dropWhile_append_of_pos hinside]
  exact apart_nil

/-- A plain text parts what stands in front of it from what stands behind it. -/
theorem isSettled_of_isPlain (h : isPlain text = true) (hne : text ≠ []) (hrest : Shows rest)
    (hapart : Apart rest) : IsSettled (text ++ rest) := by
  refine ⟨apart_append (apart_of_isPlain h) hapart, fun opened slashes => ?_⟩
  obtain ⟨c, text, rfl⟩ := List.exists_cons_of_ne_nil hne
  exact (shown_cons_of_isPlain h).2
    ((shown_isPlain_append_iff (isPlain_of_cons h)).2 (hrest opened))

theorem isTagless_nil : IsTagless [] :=
  ⟨0, fun _ _ _ => Iff.rfl⟩

theorem IsTagless.isPlain_append (h : isPlain text = true) (hbody : IsTagless body) :
    IsTagless (text ++ body) := by
  obtain ⟨slashes, hslashes⟩ := hbody
  refine ⟨slashes, fun rest hrest opened => ?_⟩
  rw [List.append_assoc, shown_isPlain_append_iff h, hslashes rest hrest]

/-! ### Tags -/

/-- Whether a tag is closed by itself with a slash in front. -/
def isPairing (tag : List Char) : Bool :=
  tag.head?.any (fun c => opensTag c && c != '/') && tag.all (fun c => insideTag c && c != '=')
    && Text.strip tag == tag && (Style.normalName tag).any (!Text.startsWith "@" ·)

theorem isContent_of_isPairing {tag : List Char} (h : isPairing tag = true) :
    IsContent tag ∧ IsContent ('/' :: tag) := by
  simp only [isPairing, Bool.and_eq_true] at h
  obtain ⟨⟨⟨hhead, hall⟩, -⟩, -⟩ := h
  have hinside : ∀ d ∈ tag, insideTag d = true := fun d hd =>
    ((Bool.and_eq_true _ _).mp (List.all_eq_true.1 hall d hd)).1
  refine ⟨?_, '/', tag, rfl, rfl, hinside⟩
  cases tag with
  | nil => cases hhead
  | cons c rest =>
    exact ⟨c, rest, rfl, ((Bool.and_eq_true _ _).mp hhead).1, (List.forall_mem_cons.1 hinside).2⟩

theorem exists_afterTag? {tag : List Char} (h : isPairing tag = true) :
    ∃ t : OpenTag, (∀ opened, afterTag? opened tag = some (t :: opened)) ∧
      ∀ opened, afterTag? (t :: opened) ('/' :: tag) = some opened := by
  simp only [isPairing, Bool.and_eq_true, beq_iff_eq] at h
  obtain ⟨⟨⟨hhead, hall⟩, hstrip⟩, hname⟩ := h
  obtain ⟨name, hnormal, hat⟩ := (Option.any_eq_true _ _).1 hname
  have hname : ∀ c ∈ tag, (c != '=') = true := fun c hc =>
    ((Bool.and_eq_true _ _).mp (List.all_eq_true.1 hall c hc)).2
  -- Without an equals sign all of the tag is its name.
  have htake : tag.takeWhile (fun c => c != '=') = tag := by
    have happend : (tag ++ []).takeWhile (fun c => c != '=') = tag ++ [].takeWhile _ :=
      List.takeWhile_append_of_pos hname
    simpa using happend
  cases tag with
  | nil => cases hhead
  | cons c rest =>
    have hslash : c ≠ '/' := bne_iff_ne.1 ((Bool.and_eq_true _ _).mp hhead).2
    refine ⟨⟨name, ((c :: rest).dropWhile fun c => c != '=').drop 1⟩, fun opened => ?_,
      fun opened => ?_⟩
    · simp only [afterTag?, htake]
      split
      · rename_i heq
        exact absurd (List.cons.inj heq).1 hslash
      · rw [hnormal, Option.map_some]
    · have hfull : ('/' :: c :: rest).takeWhile (fun c => c != '=') = '/' :: c :: rest := by
        rw [List.takeWhile_cons_of_pos rfl, htake]
      simp only [afterTag?, hfull, hstrip, hnormal, Option.bind_some]
      simp [closeNamed?, OpenTag.isClosable, hat]

/-- **A text in a tag that is closed can stand in front of anything.** -/
theorem passes_tag {tag : List Char} (h : isPairing tag = true) (hbody : IsTagless body) :
    Passes ('[' :: (tag ++ ']' :: (body ++ '[' :: '/' :: (tag ++ [']'])))) := by
  intro rest hrest opened
  obtain ⟨hopening, hclosing⟩ := isContent_of_isPairing h
  obtain ⟨t, hopened, hclosed⟩ := exists_afterTag? h
  obtain ⟨slashes, hslashes⟩ := hbody
  have hend : Shown (t :: opened) slashes ('[' :: ('/' :: tag ++ ']' :: rest)) := by
    rw [shown_tag hclosing]
    -- Backslashes at the end of the body may turn the closing tag into text, so it stays open.
    split_ifs
    · exact hrest _
    · exact ⟨opened, hclosed opened, hrest opened⟩
  have hshown : Shown opened 0 ('[' :: (tag ++ ']' ::
      (body ++ '[' :: ('/' :: tag ++ ']' :: rest)))) := by
    rw [shown_tag hopening, if_neg (by decide)]
    exact ⟨_, hopened opened, (hslashes _ (apart_cons_iff.2 (.inl rfl)) _).2 hend⟩
  simpa using hshown

end Composition

theorem isTagless_of_isPlain {text : List Char} (h : isPlain text = true) : IsTagless text := by
  simpa using isTagless_nil.isPlain_append h

theorem isPairing_of_mem {tag : String} (h : tag ∈ reportTags) : isPairing tag.toList = true := by
  revert tag
  decide +kernel

end ScriptAudit.Markup

/-! ## Plain consoles -/

namespace ScriptAudit.Terminal

open Markup

theorem toList_tagged (tag text : String) :
    (ConsoleView.tagged tag text).toList
      = '[' :: (tag.toList ++ ']' :: (text.toList ++ '[' :: '/' :: (tag.toList ++ [']']))) := by
  simp [ConsoleView.tagged]

theorem isTagless_escape (text : String) : IsTagless (Terminal.plain.escape text).toList := by
  have hescape : (Terminal.plain.escape text).toList = Markup.escape text.toList := String.toList_ofList
  rw [hescape]
  exact Markup.isTagless_escape _

theorem Inert.isTagless {text : String} (h : Terminal.plain.Inert text) : IsTagless text.toList := by
  cases h with
  | plain h => exact isTagless_of_isPlain h
  | escaped hlead text =>
    rw [String.toList_append]
    exact (isTagless_escape text).isPlain_append hlead

theorem passes_tagged {tag body : String} (htag : tag ∈ reportTags) (hbody : Terminal.plain.Inert body) :
    Passes (ConsoleView.tagged tag body).toList := by
  rw [toList_tagged]
  exact passes_tag (isPairing_of_mem htag) hbody.isTagless

/-- Tame markup can be shown whatever tags are open. -/
theorem Tame.shows {markup : String} (h : Terminal.plain.Tame markup) : Shows markup.toList := by
  induction h with
  | nil => exact shows_nil
  | escaped text =>
    obtain ⟨slashes, hslashes⟩ := isTagless_escape text
    intro opened
    simpa using (hslashes [] apart_nil opened).2 shown_nil
  | plain h _ ih =>
    rw [String.toList_append]
    exact passes_of_isPlain h _ ih
  | tagged htag hbody _ ih =>
    rw [String.toList_append]
    exact passes_tagged htag hbody _ ih
  | @parted text gap tag body rest hgap hne htag hbody _ ih =>
    have hapart : Apart ((ConsoleView.tagged tag body).toList ++ rest.toList) := by
      rw [toList_tagged]
      exact apart_cons_iff.2 (.inl rfl)
    have hgapNe : gap.toList ≠ [] := fun hnil => hne (String.toList_eq_nil_iff.1 hnil)
    -- The gap keeps the backslashes at the end of the text apart from the tag.
    have hsettled := isSettled_of_isPlain hgap hgapNe (passes_tagged htag hbody _ ih) hapart
    rw [String.toList_append, String.toList_append, String.toList_append]
    have hescape : (Terminal.plain.escape text).toList = Markup.escape text.toList := String.toList_ofList
    rw [hescape]
    exact shows_escape_append hsettled

end ScriptAudit.Terminal
