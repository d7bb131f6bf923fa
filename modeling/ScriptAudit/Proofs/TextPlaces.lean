import Mathlib.Algebra.Ring.Nat
import Mathlib.Data.List.DropRight
import ScriptAudit.Tree.Document

/-!
# Places of characters

A place in a text is counted in characters, in its bytes it is counted in bytes, and what is reported
is a row and a column. A line feed is one byte, and it is a byte of no other character, so that both
ways of counting find the same lines.

- `Utf8.count_encode`, `Text.lineCount_eq`: there are as many line feeds among the bytes as among the
  characters, and one line more.
- `Utf8.offset`, `Utf8.rowAt`, `Utf8.columnAt`: where a character is among the bytes.
- `Text.onLine`: the characters before a place that are on the same line.
- `Utf8.rowAt_eq`, `Utf8.columnAt_eq`: **a row counts the line feeds before, and a column the bytes
  of the characters before on the same line.**
-/

namespace ScriptAudit

/-! ## Bytes of a character -/

namespace Utf8

variable {text before after : List Char} {c : Char}

theorem ne_lineFeed {n : Nat} (hbyte : n < 256) (hne : n ≠ 10) : UInt8.ofNat n ≠ lineFeed := by
  intro heq
  have hnat := congrArg UInt8.toNat heq
  rw [UInt8.toNat_ofNat', Nat.mod_eq_of_lt hbyte] at hnat
  exact hne hnat

/-- A line feed is a byte of no other character. -/
theorem lineFeed_notMem (hc : c ≠ '\n') : lineFeed ∉ String.utf8EncodeChar c := by
  have hcode : c.val.toNat ≠ 10 := by
    intro hcode
    exact hc (Char.ext (UInt32.toNat_inj.1 hcode))
  intro hmem
  -- Bytes of longer characters have a high bit, so only the first case is about the character.
  have hbyte : ∃ n < 256, n ≠ 10 ∧ UInt8.ofNat n = lineFeed := by
    rw [String.utf8EncodeChar] at hmem
    split_ifs at hmem
    all_goals
      simp only [List.mem_cons, List.not_mem_nil, or_false] at hmem
    · exact ⟨_, by omega, hcode, hmem.symm⟩
    · rcases hmem with h | h
      all_goals exact ⟨_, by omega, by omega, h.symm⟩
    · rcases hmem with h | h | h
      all_goals exact ⟨_, by omega, by omega, h.symm⟩
    · rcases hmem with h | h | h | h
      all_goals exact ⟨_, by omega, by omega, h.symm⟩
  obtain ⟨n, hlt, hne, heq⟩ := hbyte
  exact ne_lineFeed hlt hne heq

theorem utf8EncodeChar_newline : String.utf8EncodeChar '\n' = [lineFeed] := rfl

@[simp] theorem encode_nil : encode [] = [] := rfl

theorem encode_cons (c : Char) (text : List Char) :
    encode (c :: text) = String.utf8EncodeChar c ++ encode text :=
  rfl

theorem encode_append (before after : List Char) :
    encode (before ++ after) = encode before ++ encode after :=
  List.flatMap_append

/-- There are as many line feeds among the bytes of a text as among its characters. -/
theorem count_encode (text : List Char) : (encode text).count lineFeed = text.count '\n' := by
  induction text with
  | nil => rfl
  | cons c text ih =>
    rw [encode_cons, List.count_append, ih, List.count_cons]
    by_cases hc : c = '\n'
    · subst hc
      rw [utf8EncodeChar_newline]
      simp [Nat.add_comm]
    · rw [List.count_eq_zero.2 (lineFeed_notMem hc), if_neg (by simpa using hc), Nat.zero_add,
        Nat.add_zero]

theorem length_encode (text : List Char) :
    (encode text).length = (text.map Char.utf8Size).sum := by
  induction text with
  | nil => rfl
  | cons c text ih =>
    rw [encode_cons, List.length_append, String.length_utf8EncodeChar, ih, List.map_cons,
      List.sum_cons]

end Utf8

/-! ## Lines -/

/-- There is one line more than there are line feeds. -/
theorem Text.lineCount_eq (text : List Char) : lineCount text = text.count '\n' + 1 := by
  show (split '\n' text).length = _
  induction text with
  | nil => rfl
  | cons c text ih =>
    rw [split, List.count_cons]
    by_cases hc : c = '\n'
    · rw [if_pos hc, List.length_cons, ih, if_pos (by simpa using hc)]
    · rw [if_neg hc, if_neg (by simpa using hc), Nat.add_zero, ← ih]
      cases hsplit : split '\n' text with
      | nil => exact absurd hsplit (split_ne_nil '\n' text)
      | cons piece pieces => rfl

/-- No row of a text lies behind its last line. -/
theorem rowOf_le_count (bytes : List UInt8) (offset : Nat) :
    rowOf bytes offset ≤ bytes.count lineFeed :=
  (List.take_sublist offset bytes).count_le lineFeed

/-- The last line end and the bytes behind it make up all bytes. -/
theorem afterLastLineFeed_add (bytes : List UInt8) :
    afterLastLineFeed bytes + (bytes.rtakeWhile (· != lineFeed)).length = bytes.length := by
  -- The bytes behind the last line end are found from the end of the list.
  have hline : (bytes.reverse.takeWhile (· != lineFeed)).length
      = bytes.reverse.findIdx (· == lineFeed) := by
    rw [List.takeWhile_eq_take_findIdx_not, List.length_take,
      Nat.min_eq_left List.findIdx_le_length]
    simp [bne]
  rw [afterLastLineFeed, List.rtakeWhile, List.length_reverse, hline,
    List.findIdx?_eq_guard_findIdx_lt]
  have hle : bytes.reverse.findIdx (· == lineFeed) ≤ bytes.reverse.length :=
    List.findIdx_le_length
  rw [List.length_reverse] at hle ⊢
  by_cases hlt : bytes.reverse.findIdx (· == lineFeed) < bytes.length
  · simp only [Option.guard, hlt, decide_true, if_true]
    omega
  · simp only [Option.guard, hlt, decide_false, Bool.false_eq_true, if_false]
    omega

/-- The bytes before an offset that are on the same line make up its column. -/
theorem columnOf_eq {bytes : List UInt8} {offset : Nat} (hoffset : offset ≤ bytes.length) :
    columnOf bytes offset = ((bytes.take offset).rtakeWhile (· != lineFeed)).length := by
  have hadd := afterLastLineFeed_add (bytes.take offset)
  rw [List.length_take, Nat.min_eq_left hoffset] at hadd
  rw [columnOf]
  omega

namespace Text

/-- The characters before a place that are on the same line, each with its own place. -/
def onLine (text : List Char) (i : Nat) : List (Char × Nat) :=
  (text.take i).zipIdx.rtakeWhile (·.1 != '\n')

end Text

namespace Utf8

/-- Where a character starts among the bytes of its text. -/
def offset (text : List Char) (i : Nat) : Nat :=
  (encode (text.take i)).length

/-- The zero-based row of a character among the bytes of its text. -/
def rowAt (text : List Char) (i : Nat) : Nat :=
  rowOf (encode text) (offset text i)

/-- The zero-based column of a character among the bytes of its text. -/
def columnAt (text : List Char) (i : Nat) : Nat :=
  columnOf (encode text) (offset text i)

theorem offset_le (text : List Char) (i : Nat) : offset text i ≤ (encode text).length := by
  conv_rhs => rw [← List.take_append_drop i text, encode_append, List.length_append]
  exact Nat.le_add_right _ _

/-- The bytes before a character are those of the characters before it. -/
theorem take_offset (text : List Char) (i : Nat) :
    (encode text).take (offset text i) = encode (text.take i) := by
  conv_lhs => rw [← List.take_append_drop i text, encode_append]
  rw [List.take_append_of_le_length, List.take_of_length_le]
  all_goals simp [offset]

/-- **A row counts the line feeds before a character.** -/
theorem rowAt_eq (text : List Char) (i : Nat) : rowAt text i = (text.take i).count '\n' := by
  rw [rowAt, rowOf, take_offset, count_encode]

/-- The bytes at the end that are no line feeds are those of the characters there. -/
theorem rtakeWhile_encode (text : List Char) :
    (encode text).rtakeWhile (· != lineFeed) = encode (text.rtakeWhile (· != '\n')) := by
  induction text using List.reverseRecOn with
  | nil => rfl
  | append_singleton text c ih =>
    rw [encode_append, List.rtakeWhile_concat]
    by_cases hc : c = '\n'
    · subst hc
      rw [encode_cons, encode_nil, List.append_nil, utf8EncodeChar_newline,
        List.rtakeWhile_concat]
      rfl
    · -- No other character has a line feed among its bytes.
      have hbytes : ∀ byte ∈ (encode [c]).reverse, (byte != lineFeed) = true := by
        intro byte hmem
        rw [List.mem_reverse, encode_cons, encode_nil, List.append_nil] at hmem
        have hne : byte ≠ lineFeed := fun heq => lineFeed_notMem hc (heq ▸ hmem)
        simpa using hne
      rw [List.rtakeWhile, List.reverse_append, List.takeWhile_append_of_pos hbytes,
        List.reverse_append, List.reverse_reverse, if_pos (by simpa using hc), encode_append, ← ih]
      rfl

/-- **A column counts the bytes of the characters before on the same line.** -/
theorem columnAt_eq (text : List Char) (i : Nat) :
    columnAt text i = ((Text.onLine text i).map (·.1.utf8Size)).sum := by
  have hline : (text.take i).rtakeWhile (· != '\n') = (Text.onLine text i).map (·.1) := by
    rw [Text.onLine, List.rtakeWhile, List.rtakeWhile, List.map_reverse]
    congr 1
    conv_lhs => rw [← List.zipIdx_map_fst 0 (text.take i), ← List.map_reverse, List.takeWhile_map]
    rfl
  rw [columnAt, columnOf_eq (offset_le text i), take_offset, rtakeWhile_encode, length_encode,
    hline, List.map_map]
  rfl

end Utf8

end ScriptAudit
