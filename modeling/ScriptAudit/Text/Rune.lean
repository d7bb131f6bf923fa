/-!
# Runes

What the parts of a text may be when they are given by their numbers. Apart from characters these are
the halves of surrogate pairs. A half without the other one is no character, and no file holds it.

* `Rune` : a character, or half of a pair.
* `Rune.ofUnit` : the rune with a number below `0x10000`.
* `Rune.ofText`, `Rune.text` : the runes of a text, and runes as text.
* `Torn` : runes that are no text.
-/

namespace ScriptAudit

/-- A character, or half of a surrogate pair, which is given by its offset among all halves. -/
inductive Rune where
  | whole (c : Char)
  | half (offset : Fin 0x800)
  deriving DecidableEq, Repr

namespace Rune

/-- Whether a rune is no character. -/
def isHalf : Rune → Bool
  | whole _ => false
  | half _ => true

/-- The character of a rune, or the replacement character. -/
def char : Rune → Char
  | whole c => c
  | half _ => '\uFFFD'

/-- The number of the first half. -/
def firstHalf : Nat := 0xD800

/-- The rune with a number of at most four hexadecimal digits. -/
def ofUnit (unit : Nat) : Rune :=
  if h : firstHalf ≤ unit ∧ unit < firstHalf + 0x800 then half ⟨unit - firstHalf, by omega⟩
  else whole (Char.ofNat unit)

/-- The runes of a text. -/
def ofText (text : String) : List Rune :=
  text.toList.map whole

/-- Runes as text, with replacement characters for halves. -/
def text (runes : List Rune) : String :=
  String.ofList (runes.map char)

theorem text_ofText (text : String) : Rune.text (ofText text) = text := by
  have hchar : char ∘ whole = id := rfl
  rw [Rune.text, ofText, List.map_map, hchar, List.map_id, String.ofList_toList]

theorem isWhole_of_mem_ofText {text : String} {rune : Rune} (h : rune ∈ ofText text) :
    rune.isHalf = false := by
  obtain ⟨c, -, rfl⟩ := List.mem_map.1 h
  rfl

/-- Runes without halves are those of a text. -/
theorem ofText_text {runes : List Rune} (h : ∀ rune ∈ runes, rune.isHalf = false) :
    ofText (Rune.text runes) = runes := by
  have hwhole : runes.map (whole ∘ char) = runes.map id := by
    refine List.map_congr_left fun rune hmem => ?_
    cases rune with
    | whole c => rfl
    | half offset => cases h _ hmem
  rw [ofText, Rune.text, String.toList_ofList, List.map_map, hwhole, List.map_id]

end Rune

/-- Runes of which at least one is no character. -/
structure Torn where
  runes : List Rune
  isTorn : runes.any Rune.isHalf = true
  deriving DecidableEq, Repr

/-- Runes as text, with replacement characters for halves. -/
def Torn.text (t : Torn) : String :=
  Rune.text t.runes

end ScriptAudit
