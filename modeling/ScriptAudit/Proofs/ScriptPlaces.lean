import ScriptAudit.Proofs.ScriptBlocks
import ScriptAudit.Proofs.TextPlaces

/-!
# Where the code of a component file stands

What is blanked out of a component file becomes a space for every character, however many bytes the
character has. So characters keep their places as characters, and lines stay lines, but columns
are counted in bytes.

- `exists_shown`, `count_scriptText`: the text as a whole. It has the line ends of the file.
- `strayBytes`: by how many bytes the characters blanked out before a place on the same line were
  longer than the spaces in their stead.
- `place_scriptText`: **a character of a script body stays in its row, and its column is too small by
  the stray bytes before it.** It stays in its column exactly if there are none.
-/

namespace ScriptAudit.Script

open Text Utf8

variable {blocks : List Block} {text : List Char} {i : Nat}

/-! ## The text as a whole -/

/-- What is left of a file are its blocks. -/
theorem exists_shown (text : List Char) :
    ∃ blocks, Matched text 0 blocks ∧ scriptText text = text.mapIdx (shown blocks) := by
  obtain ⟨blocks, hblocks, htext⟩ := exists_matched [] text
  simp only [List.nil_append, List.length_nil, Nat.zero_add] at hblocks htext
  exact ⟨blocks, hblocks, htext⟩

/-- Blanking out keeps the line ends. -/
theorem count_scriptText (text : List Char) : (scriptText text).count '\n' = text.count '\n' := by
  obtain ⟨blocks, -, htext⟩ := exists_shown text
  rw [htext]
  exact count_mapIdx (fun _ _ => shown_eq_newline) text

/-! ## Lines -/

theorem take_mapIdx (f : Nat → Char → Char) (text : List Char) (i : Nat) :
    (text.mapIdx f).take i = (text.take i).mapIdx f := by
  refine List.ext_getElem? fun j => ?_
  rw [List.getElem?_take, List.getElem?_mapIdx, List.getElem?_mapIdx, List.getElem?_take]
  split <;> rfl

theorem zipIdx_mapIdx (f : Nat → Char → Char) (text : List Char) :
    (text.mapIdx f).zipIdx = text.zipIdx.map fun p => (f p.2 p.1, p.2) := by
  refine List.ext_getElem? fun j => ?_
  rw [List.getElem?_zipIdx, List.getElem?_mapIdx, List.getElem?_map, List.getElem?_zipIdx]
  cases text[j]? <;> simp

/-- A change that keeps the line ends and makes no new ones changes the characters of a line where
they are. -/
theorem onLine_mapIdx {f : Nat → Char → Char} (hf : ∀ j c, f j c = '\n' ↔ c = '\n')
    (text : List Char) (i : Nat) :
    onLine (text.mapIdx f) i = (onLine text i).map fun p => (f p.2 p.1, p.2) := by
  have hends : ((·.1 != '\n') ∘ fun p : Char × Nat => (f p.2 p.1, p.2)) = (·.1 != '\n') := by
    funext p
    rw [Bool.eq_iff_iff]
    simp [hf]
  rw [onLine, onLine, take_mapIdx, zipIdx_mapIdx, List.rtakeWhile, List.rtakeWhile,
    ← List.map_reverse, List.takeWhile_map, hends, List.map_reverse]

/-! ## Columns -/

/-- By how many bytes the characters blanked out before a place on the same line are longer than a
space. -/
def strayBytes (blocks : List Block) (text : List Char) (i : Nat) : Nat :=
  (((onLine text i).filter fun p => ¬InBody blocks p.2).map fun p => p.1.utf8Size - 1).sum

/-- A blank is one byte long. -/
theorem utf8Size_blankOut (c : Char) : (blankOut c).utf8Size = 1 := by
  rcases blankOut_eq c with h | h
  all_goals
    rw [h]
    rfl

/-- A character has the bytes of what is shown of it and those that go astray. -/
theorem sum_utf8Size_eq (blocks : List Block) (line : List (Char × Nat)) :
    (line.map (·.1.utf8Size)).sum
      = (line.map fun p => (shown blocks p.2 p.1).utf8Size).sum
        + ((line.filter fun p => ¬InBody blocks p.2).map fun p => p.1.utf8Size - 1).sum := by
  induction line with
  | nil => rfl
  | cons p line ih =>
    rw [List.map_cons, List.map_cons, List.sum_cons, List.sum_cons, ih]
    by_cases hbody : InBody blocks p.2
    · rw [List.filter_cons_of_neg (by simpa using hbody), shown, if_pos hbody, Nat.add_assoc]
    · have hpos := p.1.utf8Size_pos
      rw [List.filter_cons_of_pos (by simpa using hbody), shown, if_neg hbody, utf8Size_blankOut,
        List.map_cons, List.sum_cons]
      omega

/-- Nothing goes astray exactly if every character blanked out on the line is one byte long. -/
theorem strayBytes_eq_zero_iff :
    strayBytes blocks text i = 0
      ↔ ∀ p ∈ onLine text i, ¬InBody blocks p.2 → p.1.utf8Size = 1 := by
  simp only [strayBytes, List.sum_eq_zero_iff_forall_eq_nat, List.forall_mem_map, List.mem_filter,
    decide_eq_true_eq, and_imp]
  refine forall₃_congr fun p _ _ => ?_
  have hpos := p.1.utf8Size_pos
  omega

/-- **Where a character of a script body is.** It stays the character that it was and stays in its
row. Its column in the file is that in the text that is parsed, and as many more as there are stray
bytes before it. So it stays in its column exactly if every character blanked out before it on the
same line is one byte long. -/
theorem place_scriptText (text : List Char) :
    ∃ blocks, (∀ others, Matched text 0 others ↔ others = blocks) ∧
      ∀ i c, text[i]? = some c → InBody blocks i →
        (scriptText text)[i]? = some c ∧
        rowAt (scriptText text) i = rowAt text i ∧
        columnAt text i = columnAt (scriptText text) i + strayBytes blocks text i ∧
        (columnAt (scriptText text) i = columnAt text i ↔
          ∀ p ∈ onLine text i, ¬InBody blocks p.2 → p.1.utf8Size = 1) := by
  obtain ⟨blocks, hblocks, htext⟩ := exists_shown text
  refine ⟨blocks, fun others => ⟨fun hothers => hothers.unique hblocks, ?_⟩, ?_⟩
  · rintro rfl
    exact hblocks
  · intro i c hc hbody
    -- Blanking keeps the line ends, so rows are counted alike.
    have hrow : rowAt (scriptText text) i = rowAt text i := by
      rw [rowAt_eq, rowAt_eq, htext, take_mapIdx]
      exact count_mapIdx (fun _ _ => shown_eq_newline) _
    -- Columns are counted in bytes, and blanked characters have lost the bytes beyond their first.
    have hcolumn : columnAt text i = columnAt (scriptText text) i + strayBytes blocks text i := by
      rw [columnAt_eq, columnAt_eq, htext, onLine_mapIdx (fun _ _ => shown_eq_newline), List.map_map]
      exact sum_utf8Size_eq blocks (onLine text i)
    refine ⟨?_, hrow, hcolumn, ?_⟩
    · rw [htext, List.getElem?_mapIdx, hc, Option.map_some, shown, if_pos hbody]
    · rw [← strayBytes_eq_zero_iff]
      omega

/-- A script block behind a letter of two bytes. -/
def shifted : List Char := "é<script>debugger;</script>".toList

/-- The code begins in the tenth column of what is parsed, and in the eleventh of the file. -/
theorem place_shifted :
    ∃ blocks, Matched shifted 0 blocks ∧ InBody blocks 9 ∧ shifted[9]? = some 'd' ∧
      rowAt (scriptText shifted) 9 = rowAt shifted 9 ∧
      columnAt (scriptText shifted) 9 = 9 ∧ columnAt shifted 9 = 10 := by
  obtain ⟨blocks, hblocks, hplace⟩ := place_scriptText shifted
  obtain ⟨others, hothers, htext⟩ := exists_shown shifted
  obtain rfl := (hblocks others).1 hothers
  have hscript : scriptText shifted = "         debugger;         ".toList := by cbv
  -- The letter is left as it is, so it is in a body.
  have hbody : InBody others 9 := by
    by_contra hblank
    have hshown : (scriptText shifted)[9]? = some (blankOut 'd') := by
      rw [htext, List.getElem?_mapIdx, show shifted[9]? = some 'd' by rfl, Option.map_some, shown,
        if_neg hblank]
    rw [hscript] at hshown
    exact absurd hshown (by decide)
  have hletter : shifted[9]? = some 'd' := rfl
  obtain ⟨-, hrow, -, -⟩ := hplace 9 'd' hletter hbody
  refine ⟨others, hothers, hbody, hletter, hrow, ?_, ?_⟩
  · rw [columnAt_eq, hscript]
    rfl
  · rw [columnAt_eq]
    rfl

end ScriptAudit.Script
