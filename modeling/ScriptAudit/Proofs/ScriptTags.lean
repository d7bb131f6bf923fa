import Mathlib.Data.List.Forall2
import Mathlib.Data.List.TakeWhile
import ScriptAudit.Source.Script

/-!
# Script tags

What the tags of script blocks look like, and that they are read where they stand.

- `IsOpening`, `IsClosing`: the two kinds of tags. At most one of each stands at the head of a text
  (`IsOpening.unique`, `IsClosing.unique`).
- `openTag?_append`, `isOpening_of_openTag?`, `closesHere_iff`: **a tag is read exactly where one
  stands.**
- `exists_body?`, `closesHere_of_body?`: a body is what stands before the first closing tag.
-/

namespace ScriptAudit.Script

/-! ## The pattern -/

/-- Whether characters are forms of the letters of a word. -/
def Forms (word name : List Char) : Prop :=
  List.Forall₂ (fun letter c => isForm letter c = true) word name

/-- A bracket, the name of the tag, attributes that start no longer word and have no closing bracket
in them, and a closing bracket. -/
inductive IsOpening : List Char → Prop
  | intro {name attributes : List Char} (hname : Forms tagName name)
    (hends : ∀ c ∈ attributes.head?, Text.isWord c = false) (hinside : '>' ∉ attributes) :
    IsOpening ('<' :: (name ++ attributes ++ ['>']))

/-- A bracket, a slash, the name of the tag, blanks, and a closing bracket. -/
inductive IsClosing : List Char → Prop
  | intro {name blanks : List Char} (hname : Forms tagName name)
    (hblank : ∀ c ∈ blanks, Text.isBlank c = true) :
    IsClosing ('<' :: '/' :: (name ++ blanks ++ ['>']))

/-! ## Words -/

theorem Forms.length_eq {word name : List Char} (h : Forms word name) :
    name.length = word.length :=
  (List.Forall₂.length_eq h).symm

theorem Forms.exists_letter {word name : List Char} (h : Forms word name) {c : Char}
    (hc : c ∈ name) : ∃ letter ∈ word, isForm letter c = true := by
  induction h with
  | nil => cases hc
  | @cons letter first word name hform _ ih =>
    rcases List.mem_cons.1 hc with rfl | hc
    · exact ⟨letter, List.mem_cons_self, hform⟩
    · obtain ⟨letter', hletter, hform'⟩ := ih hc
      exact ⟨letter', List.mem_cons_of_mem _ hletter, hform'⟩

/-- Neither a bracket nor a slash is a form of a letter of the tag. -/
theorem isForm_mark {letter mark : Char} (hletter : letter ∈ tagName) (hmark : mark ∈ ['<', '/']) :
    isForm letter mark = false := by
  have hall : (tagName.all fun letter => ['<', '/'].all fun mark => !isForm letter mark) = true :=
    rfl
  have hnot := List.all_eq_true.1 (List.all_eq_true.1 hall letter hletter) mark hmark
  simpa using hnot

/-- A word is read at the head of a text exactly if one of its forms stands there. -/
theorem afterWord?_eq_some_iff {word text rest : List Char} :
    afterWord? word text = some rest ↔ ∃ name, Forms word name ∧ text = name ++ rest := by
  constructor
  · intro h
    -- Letter by letter, as the word is read.
    fun_induction afterWord? word text with
    | case1 text =>
      cases h
      exact ⟨[], .nil, rfl⟩
    | case2 letter word c text hform ih =>
      obtain ⟨name, hname, rfl⟩ := ih h
      exact ⟨c :: name, .cons hform hname, rfl⟩
    | case3 => cases h
    | case4 => cases h
  · rintro ⟨name, hname, rfl⟩
    induction hname with
    | nil => rw [List.nil_append, afterWord?]
    | cons hform _ ih => rw [List.cons_append, afterWord?, if_pos hform, ih]

theorem afterWord?_append {word name : List Char} (h : Forms word name) (rest : List Char) :
    afterWord? word (name ++ rest) = some rest :=
  afterWord?_eq_some_iff.2 ⟨name, h, rfl⟩

/-! ## Reading -/

/-- Characters of a kind end where something else follows them. -/
theorem dropWhile_append_cons {p : Char → Bool} {run : List Char} {stop : Char}
    (hrun : ∀ c ∈ run, p c = true) (hstop : p stop = false) (rest : List Char) :
    (run ++ stop :: rest).dropWhile p = stop :: rest := by
  rw [List.dropWhile_append_of_pos hrun, List.dropWhile_cons_of_neg (by simp [hstop])]

theorem exists_run_of_dropWhile {p : Char → Bool} {text rest : List Char} {stop : Char}
    (h : text.dropWhile p = stop :: rest) :
    ∃ run, text = run ++ stop :: rest ∧ (∀ c ∈ run, p c = true) ∧ p stop = false := by
  refine ⟨text.takeWhile p, ?_, fun c hc => List.mem_takeWhile_imp hc, ?_⟩
  · rw [← h, List.takeWhile_append_dropWhile]
  · have hnot := List.head?_dropWhile_not p text
    rwa [h] at hnot

/-- A closing bracket does not go on with a word, so what stands before it decides. -/
theorem endsWord_append {inside rest : List Char} :
    endsWord (inside ++ '>' :: rest) = true ↔ ∀ c ∈ inside.head?, Text.isWord c = false := by
  cases inside with
  | nil =>
    have hbracket : Text.isWord '>' = false := rfl
    simp [endsWord, hbracket]
  | cons first inside => simp [endsWord]

/-- An opening tag is read as such, whatever follows it. -/
theorem openTag?_append {opening : List Char} (h : IsOpening opening) (rest : List Char) :
    ∃ attributes, openTag? (opening ++ rest) = some (opening, attributes, rest) := by
  obtain @⟨name, attributes, hname, hends, hinside⟩ := h
  have htext : '<' :: (name ++ attributes ++ ['>']) ++ rest
      = '<' :: (name ++ (attributes ++ '>' :: rest)) := by
    simp
  -- The word ends where its attributes begin, and the tag at the first bracket behind them.
  have hword : endsWord (attributes ++ '>' :: rest) = true := endsWord_append.2 hends
  have hdrop : (attributes ++ '>' :: rest).dropWhile (· != '>') = '>' :: rest := by
    refine dropWhile_append_cons (fun c hc => ?_) (by decide) rest
    have hne : c ≠ '>' := fun heq => hinside (heq ▸ hc)
    simpa using hne
  refine ⟨(attributes ++ '>' :: rest).takeWhile (· != '>'), ?_⟩
  rw [htext]
  simp only [openTag?, afterWord?_append hname, hword, hdrop, if_true]
  rw [← htext, List.take_left']
  simp only [List.length_append, List.length_cons]
  omega

/-- What is read as an opening tag is one. -/
theorem isOpening_of_openTag? {text opening attributes rest : List Char}
    (h : openTag? text = some (opening, attributes, rest)) :
    IsOpening opening ∧ text = opening ++ rest := by
  unfold openTag? at h
  split at h
  case h_2 => cases h
  case h_1 tail =>
    cases hword : afterWord? tagName tail with
    | none =>
      rw [hword] at h
      cases h
    | some after =>
      obtain ⟨name, hname, rfl⟩ := afterWord?_eq_some_iff.1 hword
      simp only [hword] at h
      by_cases hends : endsWord after = true
      · rw [if_pos hends] at h
        cases hdrop : after.dropWhile (· != '>') with
        | nil =>
          rw [hdrop] at h
          cases h
        | cons stop following =>
          obtain ⟨inside, rfl, hinside, hstop⟩ := exists_run_of_dropWhile hdrop
          obtain rfl : stop = '>' := by simpa using hstop
          rw [hdrop] at h
          cases h
          have htext : '<' :: (name ++ (inside ++ '>' :: rest))
              = '<' :: (name ++ inside ++ ['>']) ++ rest := by
            simp
          -- The tag is cut out of the text by its length.
          have hopening : ('<' :: (name ++ (inside ++ '>' :: rest))).take
                (('<' :: (name ++ (inside ++ '>' :: rest))).length - rest.length)
              = '<' :: (name ++ inside ++ ['>']) := by
            rw [htext, List.length_append, Nat.add_sub_cancel, List.take_left]
          rw [hopening]
          refine ⟨.intro hname (endsWord_append.1 hends) fun hmem => ?_, htext⟩
          simpa using hinside '>' hmem
      · rw [if_neg hends] at h
        cases h

/-- A closing tag is seen exactly where one stands. -/
theorem closesHere_iff {text : List Char} :
    closesHere text = true ↔ ∃ closing, IsClosing closing ∧ closing <+: text := by
  constructor
  · intro h
    unfold closesHere at h
    split at h
    case h_2 => cases h
    case h_1 tail =>
      cases hword : afterWord? tagName tail with
      | none =>
        rw [hword] at h
        cases h
      | some after =>
        -- The name, then blanks, then the bracket.
        obtain ⟨name, hname, rfl⟩ := afterWord?_eq_some_iff.1 hword
        simp only [hword, beq_iff_eq] at h
        obtain ⟨rest, hrest⟩ := List.head?_eq_some_iff.1 h
        obtain ⟨blanks, rfl, hblank, -⟩ := exists_run_of_dropWhile hrest
        exact ⟨_, .intro hname hblank, rest, by simp⟩
  · rintro ⟨closing, ⟨hname, hblank⟩, rest, rfl⟩
    have hdrop := dropWhile_append_cons hblank (by decide : Text.isBlank '>' = false) rest
    simp [closesHere, afterWord?_append hname, hdrop]

/-! ## Uniqueness -/

/-- At most one opening tag stands at the head of a text. -/
theorem IsOpening.unique {opening other text : List Char} (h : IsOpening opening)
    (hother : IsOpening other) (hhead : opening <+: text) (hhead' : other <+: text) :
    opening = other := by
  obtain ⟨rest, rfl⟩ := hhead
  obtain ⟨rest', heq⟩ := hhead'
  obtain ⟨attributes, hread⟩ := openTag?_append h rest
  obtain ⟨attributes', hread'⟩ := openTag?_append hother rest'
  rw [heq, hread] at hread'
  cases hread'
  rfl

/-- At most one closing tag stands at the head of a text. -/
theorem IsClosing.unique {closing other text : List Char} (h : IsClosing closing)
    (hother : IsClosing other) (hhead : closing <+: text) (hhead' : other <+: text) :
    closing = other := by
  obtain @⟨name, blanks, hname, hblank⟩ := h
  obtain @⟨name', blanks', hname', hblank'⟩ := hother
  obtain ⟨rest, rfl⟩ := hhead
  obtain ⟨rest', heq⟩ := hhead'
  simp only [List.cons_append, List.append_assoc, List.cons.injEq, true_and, List.nil_append]
    at heq
  -- The names are equally long, and the blanks end at the first bracket.
  obtain ⟨rfl, hblanks⟩ := List.append_inj heq (by rw [hname.length_eq, hname'.length_eq])
  have hstop : Text.isBlank '>' = false := by decide
  have hdrop := dropWhile_append_cons hblank hstop rest
  rw [← hblanks, dropWhile_append_cons hblank' hstop rest'] at hdrop
  cases hdrop
  rw [List.append_cancel_right hblanks]

/-- A tag begins with a bracket that a form of the first letter of its name follows. -/
theorem IsOpening.exists_head {opening : List Char} (h : IsOpening opening) :
    ∃ c rest, isForm 's' c = true ∧ opening = '<' :: c :: rest := by
  obtain @⟨name, attributes, hname, -, -⟩ := h
  obtain ⟨c, name, hform, -, rfl⟩ := List.forall₂_cons_left_iff.1 hname
  exact ⟨c, _, hform, rfl⟩

/-- A closing tag goes on with a slash and has no other opening bracket. -/
theorem IsClosing.exists_tail {closing : List Char} (h : IsClosing closing) :
    ∃ rest, closing = '<' :: '/' :: rest ∧ '<' ∉ rest := by
  obtain @⟨name, blanks, hname, hblank⟩ := h
  refine ⟨_, rfl, ?_⟩
  rw [List.mem_append, List.mem_append, not_or, not_or]
  refine ⟨⟨fun hmem => ?_, fun hmem => ?_⟩, by decide⟩
  · obtain ⟨letter, hletter, hform⟩ := hname.exists_letter hmem
    rw [isForm_mark hletter (by decide)] at hform
    cases hform
  · have hbracket := hblank '<' hmem
    revert hbracket
    decide

/-! ## Bodies -/

theorem closesHere_of_body? {text body after : List Char} (h : body? text = some (body, after)) :
    closesHere after = true := by
  fun_induction body? text generalizing body with
  | case1 text hcloses =>
    cases h
    exact hcloses
  | case2 => cases h
  | case3 hopen c rest ih =>
    obtain ⟨⟨body, after⟩, hrest, heq⟩ := Option.map_eq_some_iff.1 h
    cases heq
    exact ih hrest

/-- A text in which a closing tag stands somewhere has a body, which goes no further than that. -/
theorem exists_body? (before : List Char) {rest : List Char} (h : closesHere rest = true) :
    ∃ body after, body? (before ++ rest) = some (body, after) ∧ body.length ≤ before.length := by
  induction before with
  | nil =>
    refine ⟨[], rest, ?_, Nat.le_refl _⟩
    rw [List.nil_append, body?.eq_def, if_pos h]
  | cons c before ih =>
    rw [List.cons_append, body?.eq_def]
    by_cases hcloses : closesHere (c :: (before ++ rest)) = true
    · exact ⟨[], _, if_pos hcloses, Nat.zero_le _⟩
    · obtain ⟨body, after, hbody, hle⟩ := ih
      refine ⟨c :: body, after, ?_, Nat.succ_le_succ hle⟩
      rw [if_neg hcloses]
      simp only [hbody, Option.map_some]

end ScriptAudit.Script
