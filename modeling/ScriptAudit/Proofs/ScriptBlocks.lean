import ScriptAudit.Proofs.ScriptTags

/-!
# What is kept of a component file

A script block is an opening tag, a body and a closing tag, wherever they stand in a text.

- `Block`, `Block.Stands`: a block with what is before it, and whether it is found like that in a
  text. `Block.Stands.stop_le`: no block starts within the closing tag of another, so that it does
  not matter whether that tag is skipped or read as markup.
- `Matched`: the blocks that are met from some position on, leftmost first, with the shortest body
  that is closed, and without overlap. There is only one way to meet them (`Matched.unique`).
- `exists_matched`: reading on from a position meets the blocks from there.
- `scriptText_eq`: **what is in the body of such a block is kept where it is, and everything else is
  blanked out.**
-/

namespace ScriptAudit.Script

/-! ## Blocks -/

/-- A script block after some other text. -/
structure Block where
  before : List Char
  opening : List Char
  body : List Char
  closing : List Char
  deriving DecidableEq, Repr

namespace Block

/-- Where a block starts. -/
def start (b : Block) : Nat :=
  b.before.length

/-- Where the body of a block starts. -/
def bodyStart (b : Block) : Nat :=
  b.start + b.opening.length

/-- Where the body of a block ends. -/
def bodyStop (b : Block) : Nat :=
  b.bodyStart + b.body.length

/-- Where a block ends. -/
def stop (b : Block) : Nat :=
  b.bodyStop + b.closing.length

/-- The parts of a block stand one after the other. -/
theorem places_le (b : Block) :
    b.start ≤ b.bodyStart ∧ b.bodyStart ≤ b.bodyStop ∧ b.bodyStop ≤ b.stop :=
  ⟨Nat.le_add_right _ _, Nat.le_add_right _ _, Nat.le_add_right _ _⟩

/-- Whether a block stands in a text, with the very text before it. -/
structure Stands (b : Block) (text : List Char) : Prop where
  isOpening : IsOpening b.opening
  isClosing : IsClosing b.closing
  isPrefix : b.before ++ (b.opening ++ (b.body ++ b.closing)) <+: text

variable {b other : Block} {text : List Char}

/-- A block is given by the text, its start and the length of its body. -/
theorem Stands.unique (h : b.Stands text) (hother : other.Stands text)
    (hstart : b.start = other.start) (hbody : b.body.length = other.body.length) : b = other := by
  obtain ⟨before, opening, body, closing⟩ := b
  obtain ⟨before', opening', body', closing'⟩ := other
  obtain ⟨rest, rfl⟩ := h.isPrefix
  obtain ⟨rest', heq⟩ := hother.isPrefix
  simp only [List.append_assoc] at heq
  -- One part after the other is the same, each because those before it are.
  obtain ⟨rfl, hopening⟩ := List.append_inj heq hstart.symm
  obtain rfl : opening = opening' := h.isOpening.unique hother.isOpening
    (List.prefix_append _ _) ⟨_, hopening⟩
  obtain ⟨rfl, hclosing⟩ := List.append_inj (List.append_cancel_left hopening) hbody.symm
  obtain rfl : closing = closing' := h.isClosing.unique hother.isClosing
    (List.prefix_append _ _) ⟨_, hclosing⟩
  rfl

/-- The opening tag of a block stands at its start. -/
theorem Stands.exists_drop_start (h : b.Stands text) :
    ∃ rest, text.drop b.start = b.opening ++ rest := by
  obtain ⟨rest, rfl⟩ := h.isPrefix
  refine ⟨b.body ++ b.closing ++ rest, ?_⟩
  simp [start]

theorem Stands.start_lt (h : b.Stands text) : b.start < text.length := by
  obtain ⟨rest, hrest⟩ := h.exists_drop_start
  obtain ⟨c, opening, -, hopening⟩ := h.isOpening.exists_head
  rw [hopening] at hrest
  by_contra hle
  rw [List.drop_eq_nil_of_le (Nat.not_lt.1 hle)] at hrest
  cases hrest

/-- The closing tag of a block stands at the end of its body. -/
theorem Stands.exists_drop_bodyStop (h : b.Stands text) :
    ∃ rest, text.drop b.bodyStop = b.closing ++ rest := by
  obtain ⟨rest, rfl⟩ := h.isPrefix
  refine ⟨rest, ?_⟩
  have hlength : b.bodyStop = (b.before ++ (b.opening ++ b.body)).length := by
    simp [bodyStop, bodyStart, start, Nat.add_assoc]
  have hsplit : b.before ++ (b.opening ++ (b.body ++ b.closing)) ++ rest
      = b.before ++ (b.opening ++ b.body) ++ (b.closing ++ rest) := by
    simp
  rw [hlength, hsplit, List.drop_left]

/-- No block starts within the closing tag of another. -/
theorem Stands.stop_le (h : b.Stands text) (hother : other.Stands text)
    (hle : b.bodyStop ≤ other.start) : b.stop ≤ other.start := by
  by_contra hlt
  obtain ⟨j, hj⟩ := Nat.exists_eq_add_of_le hle
  obtain ⟨c, opening, hform, hopening⟩ := hother.isOpening.exists_head
  obtain ⟨closing, hclosing, hbracket⟩ := h.isClosing.exists_tail
  have hinside : j < closing.length + 2 := by
    rw [stop, hclosing, hj] at hlt
    simp only [List.length_cons] at hlt
    omega
  obtain ⟨rest, hrest⟩ := hother.exists_drop_start
  obtain ⟨rest', hrest'⟩ := h.exists_drop_bodyStop
  -- The opening tag would have to start at some character of the closing tag.
  have hat : ('<' :: '/' :: (closing ++ rest')).drop j = '<' :: c :: (opening ++ rest) := by
    rw [hj, ← List.drop_drop, hrest', hclosing, hopening] at hrest
    exact hrest
  match j with
  | 0 =>
    have hslash : '/' = c := (List.cons.inj (List.cons.inj hat).2).1
    rw [← hslash, isForm_mark (by decide) (by decide)] at hform
    cases hform
  | 1 =>
    have hslash : '/' = '<' := (List.cons.inj hat).1
    exact absurd hslash (by decide)
  | j + 2 =>
    refine hbracket ?_
    have hget : (closing ++ rest')[j]? = some '<' := by
      rw [← List.head?_drop]
      exact congrArg List.head? hat
    rw [List.getElem?_append_left (by omega)] at hget
    exact List.mem_of_getElem? hget

end Block

/-- The blocks met in a text from some position on: always the leftmost one, of those with the same
start the one with the shortest body, and the next one after its end. -/
inductive Matched (text : List Char) : Nat → List Block → Prop
  | done {position : Nat} (hnone : ∀ b : Block, b.Stands text → b.start < position) :
    Matched text position []
  | next {position : Nat} {b : Block} {more : List Block} (hstands : b.Stands text)
    (hstart : position ≤ b.start)
    (hleftmost : ∀ other : Block, other.Stands text → position ≤ other.start →
      b.start ≤ other.start)
    (hshortest : ∀ other : Block, other.Stands text → other.start = b.start →
      b.body.length ≤ other.body.length)
    (hmore : Matched text b.stop more) :
    Matched text position (b :: more)

namespace Matched

variable {text : List Char} {position position' : Nat} {blocks : List Block}

/-- Only the blocks that start at or after a position matter. -/
theorem congr (h : Matched text position blocks)
    (hsame : ∀ b : Block, b.Stands text → (position ≤ b.start ↔ position' ≤ b.start)) :
    Matched text position' blocks := by
  cases h with
  | done hnone =>
    refine .done fun b hb => Nat.not_le.1 fun hle => ?_
    exact absurd (hnone b hb) (Nat.not_lt.2 ((hsame b hb).2 hle))
  | next hstands hstart hleftmost hshortest hmore =>
    exact .next hstands ((hsame _ hstands).1 hstart)
      (fun other hother hle => hleftmost other hother ((hsame other hother).2 hle)) hshortest hmore

/-- The blocks met from some position on are always the same. -/
theorem unique {others : List Block} (h : Matched text position blocks)
    (hothers : Matched text position others) : blocks = others := by
  induction h generalizing others with
  | done hnone =>
    cases hothers with
    | done => rfl
    | next hstands hstart => exact absurd (hnone _ hstands) (Nat.not_lt.2 hstart)
  | next hstands hstart hleftmost hshortest _ ih =>
    cases hothers with
    | done hnone => exact absurd (hnone _ hstands) (Nat.not_lt.2 hstart)
    | next hstands' hstart' hleftmost' hshortest' hmore' =>
      have hsame := Nat.le_antisymm (hleftmost _ hstands' hstart') (hleftmost' _ hstands hstart)
      obtain rfl := hstands.unique hstands' hsame
        (Nat.le_antisymm (hshortest _ hstands' hsame.symm) (hshortest' _ hstands hsame))
      rw [ih hmore']

/-- No block is met before the position. -/
theorem start_le (h : Matched text position blocks) : ∀ b ∈ blocks, position ≤ b.start := by
  induction h with
  | done => exact fun b hb => nomatch hb
  | @next position first more _ hstart _ _ _ ih =>
    intro b hb
    rcases List.mem_cons.1 hb with rfl | hb
    · exact hstart
    · have hle := ih b hb
      have hfirst := first.places_le
      omega

end Matched

/-! ## Reading blocks -/

/-- A block is read where one stands, and its body goes no further. -/
theorem Block.Stands.exists_block? {b : Block} {before rest : List Char}
    (h : b.Stands (before ++ rest)) (hstart : b.start = before.length) :
    ∃ attributes body after, block? rest = some (.block b.opening attributes body, after) ∧
      body.length ≤ b.body.length := by
  obtain ⟨behind, heq⟩ := h.isPrefix
  simp only [List.append_assoc] at heq
  obtain ⟨-, rfl⟩ := List.append_inj heq hstart
  obtain ⟨attributes, hopen⟩ := openTag?_append h.isOpening (b.body ++ (b.closing ++ behind))
  obtain ⟨body, after, hbody, hle⟩ := exists_body? b.body
    (closesHere_iff.2 ⟨b.closing, h.isClosing, List.prefix_append _ behind⟩)
  refine ⟨attributes, body, after, ?_, hle⟩
  simp only [block?, hopen, hbody, Option.map_some]

/-- What is read as a block stands there. -/
theorem exists_stands_of_block? {rest after : List Char} {piece : Piece}
    (h : block? rest = some (piece, after)) (before : List Char) :
    ∃ b : Block, b.Stands (before ++ rest) ∧ b.before = before ∧
      (∃ attributes, piece = .block b.opening attributes b.body) ∧
      rest = b.opening ++ (b.body ++ after) := by
  unfold block? at h
  cases hopen : openTag? rest with
  | none =>
    rw [hopen] at h
    cases h
  | some found =>
    -- The opening tag and then the body to its end are taken off the text.
    obtain ⟨opening, attributes, inside⟩ := found
    simp only [hopen] at h
    obtain ⟨⟨body, after⟩, hbody, heq⟩ := Option.map_eq_some_iff.1 h
    cases heq
    obtain ⟨hopening, rfl⟩ := isOpening_of_openTag? hopen
    obtain ⟨closing, hclosing, behind, rfl⟩ := closesHere_iff.1 (closesHere_of_body? hbody)
    obtain rfl := body?_eq_some hbody
    refine ⟨⟨before, opening, body, closing⟩, ⟨hopening, hclosing, behind, ?_⟩, rfl,
      ⟨attributes, rfl⟩, rfl⟩
    simp

theorem scriptText_of_none {c : Char} {rest : List Char} (h : block? (c :: rest) = none) :
    scriptText (c :: rest) = blankOut c :: scriptText rest := by
  rw [scriptText, pieces]
  split
  case h_1 hfound =>
    rw [h] at hfound
    cases hfound
  case h_2 => rfl

theorem scriptText_of_some {c : Char} {rest opening attributes body after : List Char}
    (h : block? (c :: rest) = some (.block opening attributes body, after)) :
    scriptText (c :: rest) = opening.map blankOut ++ (body ++ scriptText after) := by
  rw [scriptText, pieces]
  split
  case h_1 hfound =>
    rw [h] at hfound
    cases hfound
    rw [List.flatMap_cons, Piece.kept, List.append_assoc]
    rfl
  case h_2 hnone =>
    rw [h] at hnone
    cases hnone

/-! ## What is shown -/

/-- Whether a position is in the body of some block. -/
def InBody (blocks : List Block) (i : Nat) : Prop :=
  ∃ b ∈ blocks, b.bodyStart ≤ i ∧ i < b.bodyStop

instance (blocks : List Block) (i : Nat) : Decidable (InBody blocks i) :=
  inferInstanceAs (Decidable (∃ b ∈ blocks, b.bodyStart ≤ i ∧ i < b.bodyStop))

/-- What is left of the character at a position. -/
def shown (blocks : List Block) (i : Nat) (c : Char) : Char :=
  if InBody blocks i then c else blankOut c

theorem inBody_cons {b : Block} {more : List Block} {i : Nat} :
    InBody (b :: more) i ↔ (b.bodyStart ≤ i ∧ i < b.bodyStop) ∨ InBody more i := by
  simp only [InBody, List.mem_cons, exists_eq_or_imp]

/-- What is before all blocks is blanked out. -/
theorem shown_of_lt {blocks : List Block} {i : Nat} (h : ∀ b ∈ blocks, i < b.start) (c : Char) :
    shown blocks i c = blankOut c := by
  refine if_neg ?_
  rintro ⟨b, hb, hle, -⟩
  have hlt := h b hb
  have hstart := b.places_le
  omega

theorem shown_cons_of_mem {b : Block} (more : List Block) {i : Nat} (hle : b.bodyStart ≤ i)
    (hlt : i < b.bodyStop) (c : Char) : shown (b :: more) i c = c :=
  if_pos (inBody_cons.2 (.inl ⟨hle, hlt⟩))

/-- The body of a block makes no difference outside of it. -/
theorem shown_cons_of_not_mem {b : Block} (more : List Block) {i : Nat}
    (h : ¬ (b.bodyStart ≤ i ∧ i < b.bodyStop)) (c : Char) :
    shown (b :: more) i c = shown more i c := by
  simp only [shown, inBody_cons, h, false_or]

/-- A list that is changed in one way at every place is mapped. -/
theorem mapIdx_eq_map {f : Nat → Char → Char} {g : Char → Char} {text : List Char}
    (h : ∀ i < text.length, ∀ c, f i c = g c) : text.mapIdx f = text.map g := by
  refine List.ext_getElem (by simp) fun i hi _ => ?_
  rw [List.getElem_mapIdx, List.getElem_map]
  exact h i (by simpa using hi) _

/-- From the start of a block on, its opening tag is blanked out and its body is shown. -/
theorem mapIdx_shown_block {b : Block} {more : List Block}
    (hmore : ∀ other ∈ more, b.stop ≤ other.start) (after : List Char) :
    ((b.opening ++ (b.body ++ after)).mapIdx fun i => shown (b :: more) (b.start + i))
      = b.opening.map blankOut
        ++ (b.body ++ after.mapIdx fun i => shown more (b.bodyStop + i)) := by
  rw [List.mapIdx_append, List.mapIdx_append]
  -- The positions of the three parts are before, in and after the body.
  have hopening : (b.opening.mapIdx fun i => shown (b :: more) (b.start + i))
      = b.opening.map blankOut := by
    refine mapIdx_eq_map fun i hi c => ?_
    rw [shown_cons_of_not_mem, shown_of_lt]
    · intro other hother
      have hle := hmore other hother
      have hb := b.places_le
      unfold Block.bodyStart at hb
      omega
    · unfold Block.bodyStart
      omega
  have hbody : (b.body.mapIdx fun i => shown (b :: more) (b.start + (i + b.opening.length)))
      = b.body := by
    refine (mapIdx_eq_map (g := id) fun i hi c => ?_).trans (List.map_id _)
    refine shown_cons_of_mem more ?_ ?_ c
    · unfold Block.bodyStart
      omega
    · unfold Block.bodyStop Block.bodyStart
      omega
  have hafter : (fun i => shown (b :: more) (b.start + (i + b.body.length + b.opening.length)))
      = fun i => shown more (b.bodyStop + i) := by
    funext i c
    have hi : b.start + (i + b.body.length + b.opening.length) = b.bodyStop + i := by
      unfold Block.bodyStop Block.bodyStart
      omega
    rw [hi, shown_cons_of_not_mem more (by omega)]
  rw [hopening, hbody, hafter]

theorem blankOut_eq (c : Char) : blankOut c = ' ' ∨ blankOut c = '\n' := by
  unfold blankOut
  split
  · exact .inr rfl
  · exact .inl rfl

/-- Blanking out keeps the line ends and makes no new ones. -/
theorem blankOut_eq_newline {c : Char} : blankOut c = '\n' ↔ c = '\n' := by
  unfold blankOut
  split
  case isTrue h => exact ⟨fun _ => h, fun _ => rfl⟩
  case isFalse h => exact ⟨fun h' => absurd h' (by decide), fun h' => absurd h' h⟩

theorem shown_eq_newline {blocks : List Block} {i : Nat} {c : Char} :
    shown blocks i c = '\n' ↔ c = '\n' := by
  unfold shown
  split
  · exact Iff.rfl
  · exact blankOut_eq_newline

/-- A change that keeps the line ends and makes no new ones does not change their number. -/
theorem count_mapIdx {f : Nat → Char → Char} {stop : Char}
    (h : ∀ i c, f i c = stop ↔ c = stop) (text : List Char) :
    (text.mapIdx f).count stop = text.count stop := by
  induction text generalizing f with
  | nil => rfl
  | cons c text ih =>
    rw [List.mapIdx_cons, List.count_cons, List.count_cons, ih fun i c => h (i + 1) c]
    simp only [beq_iff_eq, h]

/-! ## Whole files -/

/-- The blocks from some position on are met by reading on from there, and the text that is left
shows their bodies. -/
theorem exists_matched (before rest : List Char) :
    ∃ blocks, Matched (before ++ rest) before.length blocks ∧
      scriptText rest = rest.mapIdx fun i => shown blocks (before.length + i) := by
  induction rest using pieces.induct generalizing before with
  | case1 =>
    refine ⟨[], .done fun b hb => ?_, ?_⟩
    · have hlt := hb.start_lt
      rwa [List.append_nil] at hlt
    · rw [scriptText, pieces]
      rfl
  | case2 c rest piece after hfound ih =>
    obtain ⟨b, hstands, hbefore, ⟨attributes, rfl⟩, hsplit⟩ := exists_stands_of_block? hfound before
    obtain ⟨more, hmore, htext⟩ := ih (before ++ (b.opening ++ b.body))
    have hstart : b.start = before.length := congrArg List.length hbefore
    have hposition : (before ++ (b.opening ++ b.body)).length = b.bodyStop := by
      simp [Block.bodyStop, Block.bodyStart, hstart, Nat.add_assoc]
    rw [hposition, List.append_assoc, List.append_assoc, ← hsplit] at hmore
    -- Reading goes on from the closing tag, in which no block starts.
    have hmore' : Matched (before ++ c :: rest) b.stop more :=
      hmore.congr fun other hother => ⟨hstands.stop_le hother, b.places_le.2.2.trans⟩
    refine ⟨b :: more, .next hstands hstart.ge (fun other _ hle => hstart.trans_le hle) ?_ hmore',
      ?_⟩
    -- Any other block that starts here would have been read with the same body or a shorter one.
    · intro other hother hsame
      obtain ⟨attributes', body, after', hfound', hle⟩ :=
        hother.exists_block? (hsame.trans hstart)
      rw [hfound] at hfound'
      simp only [Option.some.injEq, Prod.mk.injEq, Piece.block.injEq] at hfound'
      rw [hfound'.1.2.2]
      exact hle
    · rw [scriptText_of_some hfound, htext, hposition, hsplit, ← hstart]
      exact (mapIdx_shown_block (fun other hother => hmore'.start_le other hother) after).symm
  | case3 c rest hnone ih =>
    obtain ⟨blocks, hblocks, htext⟩ := ih (before ++ [c])
    rw [List.length_append, List.length_singleton] at hblocks htext
    rw [List.append_assoc, List.singleton_append] at hblocks
    -- No block starts here, or it would have been read.
    have hfirst : ∀ b : Block, b.Stands (before ++ c :: rest) → b.start ≠ before.length := by
      intro b hb hstart
      obtain ⟨attributes, body, after, hfound, -⟩ := hb.exists_block? hstart
      rw [hnone] at hfound
      cases hfound
    refine ⟨blocks, hblocks.congr fun b hb => ?_, ?_⟩
    · have hne := hfirst b hb
      omega
    · have hblank : shown blocks (before.length + 0) c = blankOut c :=
        shown_of_lt hblocks.start_le c
      rw [scriptText_of_none hnone, htext, List.mapIdx_cons, hblank]
      simp only [Nat.add_assoc, Nat.add_comm 1]

/-- **What stays of a component file.** The blocks of a file are met in one way. A character in the
body of one of them stays as it is, and everything else but the line ends becomes a space. So the
text keeps its length and its line ends, and nothing is left of a file without a block. -/
theorem scriptText_eq (text : List Char) :
    ∃ blocks, (∀ others, Matched text 0 others ↔ others = blocks) ∧
      scriptText text = (text.mapIdx fun i c => if InBody blocks i then c else blankOut c) ∧
      (scriptText text).length = text.length ∧
      (scriptText text).count '\n' = text.count '\n' ∧
      ((∀ b : Block, ¬ b.Stands text) → ∀ c ∈ scriptText text, c = ' ' ∨ c = '\n') := by
  obtain ⟨blocks, hblocks, htext⟩ := exists_matched [] text
  simp only [List.nil_append, List.length_nil, Nat.zero_add] at hblocks htext
  refine ⟨blocks, fun others => ⟨fun hothers => hothers.unique hblocks, ?_⟩, htext, ?_, ?_, ?_⟩
  · rintro rfl
    exact hblocks
  · rw [htext, List.length_mapIdx]
  · rw [htext]
    exact count_mapIdx (fun i c => shown_eq_newline) text
  · -- The empty list is a way to meet the blocks of such a text, and there is only one.
    intro hnone c hc
    have hempty : [] = blocks :=
      Matched.unique (.done fun b hb => absurd hb (hnone b)) hblocks
    rw [htext, ← hempty] at hc
    obtain ⟨i, hi, rfl⟩ := List.mem_mapIdx.1 hc
    have hblank : shown [] i text[i] = blankOut text[i] :=
      shown_of_lt (fun b hb => absurd hb List.not_mem_nil) _
    rw [hblank]
    exact blankOut_eq _

/-- A closing tag may have blanks in it. An opening tag that nothing closes is markup. -/
example : scriptText "<Script>x</SCRIPT\n> <script>".toList
    = "        x        \n          ".toList := by
  cbv

end ScriptAudit.Script
