import ScriptAudit.Proofs.TextPlaces

/-!
# What damaged text is read as

Bytes need not be the bytes of a text. The reader takes them one at a time and never looks back, and
yet what it says can be told without it: wherever characters stand they are read, and where none
stands a stretch is damaged, up to the byte with which no character goes on.

- `Begins`, `Damaged`: the bytes that some character starts with, and the damaged stretches.
- `Reads`: what bytes are read as, by characters and damaged stretches.
- `Awaits`: the characters that are still possible inside a character, as a range of codes. A first
  byte sets it up (`awaits_two`, `awaits_three`, `awaits_four`), and each byte narrows it down
  (`Awaits.next`).
- `reads_step`, `reads_decodeFrom`: what one byte adds, and what a whole run says.
- `reads_iff`: **the characters of any bytes are what these are read as**, so that text that was
  written is read back (`decode_encode`).
-/

namespace ScriptAudit

namespace Utf8

variable {c d : Char} {bytes seen damage rest : List UInt8} {text : List Char} {byte : UInt8}
  {code bits owed low high : Nat}

/-! ## Bytes of a character, from the first -/

theorem exists_toNat_eq (h : code.isValidChar) : ∃ c : Char, c.toNat = code :=
  ⟨Char.ofNatAux code h, rfl⟩

/-- How many bytes follow the first one of a character with a given code. -/
def followers (code : Nat) : Nat :=
  if code < 0x80 then 0 else if code < 0x800 then 1 else if code < 0x10000 then 2 else 3

/-- The first byte of a character with a given code. -/
def first (code : Nat) : Nat :=
  if code < 0x80 then code
  else if code < 0x800 then 0xC0 + code / 64
  else if code < 0x10000 then 0xE0 + code / 4096
  else 0xF0 + code / 262144

/-- The last bytes of a character with a given code, six bits each. -/
def trail (code : Nat) : Nat → List UInt8
  | 0 => []
  | n + 1 => UInt8.ofNat (0x80 + code / 64 ^ n % 64) :: trail code n

/-- The bytes of a character are its first one and the bits left over, six to a byte. -/
theorem utf8EncodeChar_eq (c : Char) :
    String.utf8EncodeChar c
      = UInt8.ofNat (first c.toNat) :: trail c.toNat (followers c.toNat) := by
  have hvalid : c.val.toNat.isValidChar := c.valid
  rw [String.utf8EncodeChar]
  show _ = UInt8.ofNat (first c.val.toNat) :: trail c.val.toNat (followers c.val.toNat)
  generalize c.val.toNat = code at hvalid ⊢
  simp only [Nat.isValidChar] at hvalid
  unfold first followers
  -- One case for each number of bytes that a character takes.
  by_cases h1 : code < 0x80
  · rw [if_pos (by omega), if_pos h1, if_pos h1]
    rfl
  rw [if_neg (by omega), if_neg h1, if_neg h1]
  by_cases h2 : code < 0x800
  · rw [if_pos (by omega), if_pos h2, if_pos h2,
      show code / 64 % 32 + 192 = 0xC0 + code / 64 by omega]
    simp [trail, Nat.add_comm]
  rw [if_neg (by omega), if_neg h2, if_neg h2]
  by_cases h3 : code < 0x10000
  · rw [if_pos (by omega), if_pos h3, if_pos h3,
      show code / 4096 % 16 + 224 = 0xE0 + code / 4096 by omega]
    simp [trail, Nat.add_comm]
  · rw [if_neg (by omega), if_neg h3, if_neg h3,
      show code / 262144 % 8 + 240 = 0xF0 + code / 262144 by omega]
    simp [trail, Nat.add_comm]

theorem toNat_first (c : Char) : (UInt8.ofNat (first c.toNat)).toNat = first c.toNat := by
  have hvalid : c.toNat.isValidChar := c.valid
  rw [UInt8.toNat_ofNat', Nat.mod_eq_of_lt]
  simp only [Nat.isValidChar] at hvalid
  unfold first
  split_ifs <;> omega

/-- The first byte of a character, as a number. -/
theorem singleton_prefix_iff : [byte] <+: String.utf8EncodeChar c ↔ first c.toNat = byte.toNat := by
  rw [utf8EncodeChar_eq, List.cons_prefix_cons, ← UInt8.toNat_inj, toNat_first]
  simp [eq_comm]

/-- What follows a character tells nothing about it. -/
theorem utf8EncodeChar_append_inj {after after' : List UInt8}
    (h : String.utf8EncodeChar c ++ after = String.utf8EncodeChar d ++ after') :
    c = d ∧ after = after' := by
  have hread : some c = some d := by
    rw [← ByteArray.utf8DecodeChar?_utf8EncodeChar_append (b := after.toByteArray) (c := c),
      ← ByteArray.utf8DecodeChar?_utf8EncodeChar_append (b := after'.toByteArray) (c := d),
      ← List.toByteArray_append, ← List.toByteArray_append, h]
  obtain rfl : c = d := Option.some.inj hread
  exact ⟨rfl, List.append_cancel_left h⟩

/-- No character starts with another one. -/
theorem eq_of_prefix (h : String.utf8EncodeChar c <+: String.utf8EncodeChar d) : c = d := by
  obtain ⟨after, hafter⟩ := h
  rw [← List.append_nil (String.utf8EncodeChar d)] at hafter
  exact (utf8EncodeChar_append_inj hafter).1

/-! ## What bytes are read as -/

/-- Whether some character starts with some bytes. -/
def Begins (bytes : List UInt8) : Prop :=
  ∃ c : Char, bytes <+: String.utf8EncodeChar c

/-- A damaged stretch, and what follows it. No character stands there, and the stretch is as long as
it can be while some character still starts with it, but at least a byte long. -/
structure Damaged (damage rest : List UInt8) : Prop where
  no_char : ∀ c : Char, ¬String.utf8EncodeChar c <+: damage ++ rest
  begins : damage ≠ [] ∧ (Begins damage ∨ damage.length = 1)
  longest : ∀ byte, rest.head? = some byte → ¬Begins (damage ++ [byte])

/-- What bytes are read as: a character as itself, and a damaged stretch as one replacement. -/
inductive Reads : List UInt8 → List Char → Prop
  | nil : Reads [] []
  | sound (c : Char) {rest : List UInt8} {text : List Char} (hrest : Reads rest text) :
    Reads (String.utf8EncodeChar c ++ rest) (c :: text)
  | damaged {damage rest : List UInt8} {text : List Char} (hdamage : Damaged damage rest)
    (hrest : Reads rest text) : Reads (damage ++ rest) (replacement :: text)

/-- A single byte that begins no character. -/
theorem Damaged.singleton (h : ¬Begins [byte]) (rest : List UInt8) : Damaged [byte] rest := by
  refine ⟨?_, ⟨by simp, .inr rfl⟩, ?_⟩
  · intro c hc
    rw [utf8EncodeChar_eq] at hc
    obtain ⟨hbyte, -⟩ := List.cons_prefix_cons.1 hc
    exact h ⟨c, by rw [utf8EncodeChar_eq, hbyte]; exact List.prefix_append [byte] _⟩
  · rintro next - ⟨c, hc⟩
    exact h ⟨c, (List.prefix_append _ _).trans hc⟩

/-! ## Inside a character -/

/-- What can be left of a code when the bits of the bytes still owed are taken away: the bits read
so far, and six more from a byte in the range. -/
def GoesOn (bits low high n : Nat) : Prop :=
  ∃ byte, low ≤ byte ∧ byte ≤ high ∧ n = bits * 64 + (byte - 0x80)

/-- Where the reader stands inside a character. The characters that start with the bytes seen are
those whose codes go on so, and all codes that do are codes of characters. -/
structure Awaits (seen : List UInt8) (bits owed low high : Nat) : Prop where
  bounds : 0x80 ≤ low ∧ low ≤ high ∧ high ≤ 0xBF
  ne_nil : seen ≠ []
  of_prefix : ∀ c : Char, seen <+: String.utf8EncodeChar c →
    GoesOn bits low high (c.toNat / 64 ^ owed)
  encode_eq : ∀ c : Char, GoesOn bits low high (c.toNat / 64 ^ owed) →
    String.utf8EncodeChar c = seen ++ trail c.toNat (owed + 1)
  isValidChar : ∀ n : Nat, GoesOn bits low high (n / 64 ^ owed) → n.isValidChar

/-- A first byte, by the codes of the characters that it begins. -/
theorem Awaits.of_first (hbounds : 0x80 ≤ low ∧ low ≤ high ∧ high ≤ 0xBF)
    (hfirst : ∀ code, code.isValidChar → first code = byte.toNat →
      GoesOn bits low high (code / 64 ^ owed))
    (hcode : ∀ code, GoesOn bits low high (code / 64 ^ owed) →
      code.isValidChar ∧ first code = byte.toNat ∧ followers code = owed + 1) :
    Awaits [byte] bits owed low high := by
  refine ⟨hbounds, by simp, ?_, ?_, ?_⟩
  · intro c hc
    exact hfirst _ c.valid (singleton_prefix_iff.1 hc)
  · intro c hgoes
    obtain ⟨-, hbyte, hfollow⟩ := hcode _ hgoes
    rw [utf8EncodeChar_eq, hfollow, hbyte, UInt8.ofNat_toNat, List.singleton_append]
  · intro n hgoes
    exact (hcode n hgoes).1

/-- Two bytes: none of the first ones that one byte would do for. -/
theorem awaits_two (hle : 0xC2 ≤ byte.toNat) (hlt : byte.toNat < 0xE0) :
    Awaits [byte] (byte.toNat - 0xC0) 0 0x80 0xBF := by
  refine .of_first (by omega) ?_ ?_
  · intro code hvalid hfirst
    refine ⟨0x80 + code % 64, ?_⟩
    unfold first at hfirst
    split_ifs at hfirst <;> omega
  · rintro code ⟨next, hlow, hhigh, hnext⟩
    unfold Nat.isValidChar first followers
    split_ifs <;> omega

/-- Three bytes: none that two bytes would do for, and no surrogates. -/
theorem awaits_three (hle : 0xE0 ≤ byte.toNat) (hlt : byte.toNat < 0xF0) :
    Awaits [byte] (byte.toNat - 0xE0) 1 (if byte.toNat = 0xE0 then 0xA0 else 0x80)
      (if byte.toNat = 0xED then 0x9F else 0xBF) := by
  refine .of_first (by split_ifs <;> omega) ?_ ?_
  · intro code hvalid hfirst
    refine ⟨0x80 + code / 64 % 64, ?_⟩
    unfold Nat.isValidChar at hvalid
    unfold first at hfirst
    split_ifs at hfirst ⊢ <;> omega
  · rintro code ⟨next, hlow, hhigh, hnext⟩
    unfold Nat.isValidChar first followers
    split_ifs at hlow hhigh ⊢ <;> omega

/-- Four bytes: none that three bytes would do for, and no codes that are too large. -/
theorem awaits_four (hle : 0xF0 ≤ byte.toNat) (hlt : byte.toNat < 0xF5) :
    Awaits [byte] (byte.toNat - 0xF0) 2 (if byte.toNat = 0xF0 then 0x90 else 0x80)
      (if byte.toNat = 0xF4 then 0x8F else 0xBF) := by
  refine .of_first (by split_ifs <;> omega) ?_ ?_
  · intro code hvalid hfirst
    refine ⟨0x80 + code / 4096 % 64, ?_⟩
    unfold Nat.isValidChar at hvalid
    unfold first at hfirst
    split_ifs at hfirst ⊢ <;> omega
  · rintro code ⟨next, hlow, hhigh, hnext⟩
    unfold Nat.isValidChar first followers
    split_ifs at hlow hhigh ⊢ <;> omega

/-- The first bytes of no character are those that only go on with one, those that only begin what
fewer bytes would do for, and those that only begin codes that are too large. -/
theorem not_begins (h : 0x80 ≤ byte.toNat ∧ byte.toNat < 0xC2 ∨ 0xF5 ≤ byte.toNat) :
    ¬Begins [byte] := by
  rintro ⟨c, hc⟩
  have hfirst := singleton_prefix_iff.1 hc
  have hvalid : c.toNat.isValidChar := c.valid
  unfold Nat.isValidChar at hvalid
  unfold first at hfirst
  split_ifs at hfirst <;> omega

theorem utf8EncodeChar_ofNat (hlt : byte.toNat < 0x80) :
    String.utf8EncodeChar (Char.ofNat byte.toNat) = [byte] := by
  have hvalid : byte.toNat.isValidChar := .inl (by omega)
  obtain ⟨c, hcode⟩ := exists_toNat_eq hvalid
  rw [← hcode, Char.ofNat_toNat, utf8EncodeChar_eq, hcode, first, if_pos hlt, followers, if_pos hlt,
    UInt8.ofNat_toNat]
  rfl

/-- What reading a byte between two characters can come to. -/
theorem begin_cases (byte : UInt8) :
    (byte.toNat < 0x80 ∧ begin byte.toNat = ([Char.ofNat byte.toNat], .start)) ∨
    (¬Begins [byte] ∧ begin byte.toNat = ([replacement], .start)) ∨
    ∃ bits owed low high, Awaits [byte] bits owed low high ∧
      begin byte.toNat = ([], .inside bits owed low high) := by
  unfold begin
  -- The bounds on the first byte are tried in ascending order; those between them begin a character
  -- of two, three or four bytes.
  by_cases h1 : byte.toNat < 0x80
  · exact .inl ⟨h1, if_pos h1⟩
  rw [if_neg h1]
  by_cases h2 : byte.toNat < 0xC2
  · exact .inr (.inl ⟨not_begins (by omega), if_pos h2⟩)
  rw [if_neg h2]
  by_cases h3 : byte.toNat < 0xE0
  · exact .inr (.inr ⟨_, _, _, _, awaits_two (by omega) h3, if_pos h3⟩)
  rw [if_neg h3]
  by_cases h4 : byte.toNat < 0xF0
  · exact .inr (.inr ⟨_, _, _, _, awaits_three (by omega) h4, if_pos h4⟩)
  rw [if_neg h4]
  by_cases h5 : byte.toNat < 0xF5
  · exact .inr (.inr ⟨_, _, _, _, awaits_four (by omega) h5, if_pos h5⟩)
  · exact .inr (.inl ⟨not_begins (by omega), if_neg h5⟩)

namespace Awaits

/-- A byte in the range, from a code that ends in its bits. -/
theorem ofNat_six (hle : 0x80 ≤ low ∧ low ≤ high ∧ high ≤ 0xBF) {next : Nat} (hlow : low ≤ next)
    (hhigh : next ≤ high) :
    (UInt8.ofNat (0x80 + (bits * 64 + (next - 0x80)) % 64)).toNat = next := by
  rw [UInt8.toNat_ofNat']
  omega

/-- What was seen goes on with every byte in the range. -/
theorem exists_char (h : Awaits seen bits owed low high) (hlow : low ≤ byte.toNat)
    (hhigh : byte.toNat ≤ high) :
    ∃ c : Char, c.toNat = (bits * 64 + (byte.toNat - 0x80)) * 64 ^ owed ∧
      String.utf8EncodeChar c = seen ++ byte :: trail c.toNat owed := by
  have hdiv : (bits * 64 + (byte.toNat - 0x80)) * 64 ^ owed / 64 ^ owed
      = bits * 64 + (byte.toNat - 0x80) :=
    Nat.mul_div_cancel _ (Nat.pow_pos (by decide))
  have hgoes : GoesOn bits low high ((bits * 64 + (byte.toNat - 0x80)) * 64 ^ owed / 64 ^ owed) :=
    ⟨byte.toNat, hlow, hhigh, hdiv⟩
  obtain ⟨c, hcode⟩ := exists_toNat_eq (h.isValidChar _ hgoes)
  rw [← hcode] at hdiv hgoes
  refine ⟨c, hcode, ?_⟩
  rw [h.encode_eq c hgoes, trail, hdiv, UInt8.toNat_inj.1 (ofNat_six h.bounds hlow hhigh)]

/-- A character that starts with what was seen and one more byte has the bits of that byte. -/
theorem div_eq_of_prefix (h : Awaits seen bits owed low high)
    (hc : seen ++ [byte] <+: String.utf8EncodeChar c) :
    low ≤ byte.toNat ∧ byte.toNat ≤ high ∧
      c.toNat / 64 ^ owed = bits * 64 + (byte.toNat - 0x80) := by
  have hgoes := h.of_prefix c ((List.prefix_append _ _).trans hc)
  rw [h.encode_eq c hgoes, List.prefix_append_right_inj, trail, List.cons_prefix_cons] at hc
  obtain ⟨next, hlow, hhigh, hnext⟩ := hgoes
  rw [hc.1, hnext, ofNat_six h.bounds hlow hhigh]
  exact ⟨hlow, hhigh, rfl⟩

/-- What was seen goes on with the bytes in the range and with no others. -/
theorem begins_append_iff (h : Awaits seen bits owed low high) :
    Begins (seen ++ [byte]) ↔ low ≤ byte.toNat ∧ byte.toNat ≤ high := by
  constructor
  · rintro ⟨c, hc⟩
    obtain ⟨hlow, hhigh, -⟩ := h.div_eq_of_prefix hc
    exact ⟨hlow, hhigh⟩
  · rintro ⟨hlow, hhigh⟩
    obtain ⟨c, -, hc⟩ := h.exists_char hlow hhigh
    exact ⟨c, trail c.toNat owed, by rw [hc, List.append_assoc, List.singleton_append]⟩

/-- A byte in the range completes a character, if none is owed after it. -/
theorem encode_last (h : Awaits seen bits 0 low high) (hlow : low ≤ byte.toNat)
    (hhigh : byte.toNat ≤ high) :
    String.utf8EncodeChar (Char.ofNat (bits * 64 + (byte.toNat - 0x80))) = seen ++ [byte] := by
  obtain ⟨c, hcode, hc⟩ := h.exists_char hlow hhigh
  rw [pow_zero, Nat.mul_one] at hcode
  rw [← hcode, Char.ofNat_toNat]
  exact hc

/-- A byte in the range leaves one byte less to wait for. -/
theorem next (h : Awaits seen bits (owed + 1) low high) (hlow : low ≤ byte.toNat)
    (hhigh : byte.toNat ≤ high) :
    Awaits (seen ++ [byte]) (bits * 64 + (byte.toNat - 0x80)) owed 0x80 0xBF := by
  have hdiv (n : Nat) : n / 64 ^ (owed + 1) = n / 64 ^ owed / 64 := by
    rw [pow_succ, Nat.div_div_eq_div_mul]
  -- A code that goes on from here went on with the byte just read.
  have hgoes {n : Nat} (hn : GoesOn (bits * 64 + (byte.toNat - 0x80)) 0x80 0xBF (n / 64 ^ owed)) :
      n / 64 ^ (owed + 1) = bits * 64 + (byte.toNat - 0x80) := by
    obtain ⟨next, hnlow, hnhigh, hnext⟩ := hn
    rw [hdiv, hnext]
    omega
  refine ⟨by omega, by simp, ?_, ?_, ?_⟩
  · intro c hc
    obtain ⟨-, -, hcode⟩ := h.div_eq_of_prefix hc
    rw [hdiv] at hcode
    generalize c.toNat / 64 ^ owed = n at hcode ⊢
    exact ⟨0x80 + n % 64, by omega, by omega, by omega⟩
  · intro c hc
    rw [h.encode_eq c ⟨_, hlow, hhigh, hgoes hc⟩, trail, hgoes hc,
      UInt8.toNat_inj.1 (ofNat_six h.bounds hlow hhigh), List.append_cons]
  · intro n hn
    exact h.isValidChar n ⟨_, hlow, hhigh, hgoes hn⟩

/-- What was seen begins a character. -/
theorem begins (h : Awaits seen bits owed low high) : Begins seen := by
  obtain ⟨hle, hlt, hle'⟩ := h.bounds
  have hlow : (UInt8.ofNat low).toNat = low := by
    rw [UInt8.toNat_ofNat']
    omega
  obtain ⟨c, hc⟩ := h.begins_append_iff.2 ⟨hlow.ge, hlow.trans_le hlt⟩
  exact ⟨c, (List.prefix_append _ _).trans hc⟩

/-- What was seen is damaged, if it does not go on with a byte in the range. -/
theorem damaged (h : Awaits seen bits owed low high)
    (hrest : ∀ byte, rest.head? = some byte → ¬(low ≤ byte.toNat ∧ byte.toNat ≤ high)) :
    Damaged seen rest := by
  have hlongest : ∀ byte, rest.head? = some byte → ¬Begins (seen ++ [byte]) := by
    intro byte hbyte
    rw [h.begins_append_iff]
    exact hrest byte hbyte
  refine ⟨?_, ⟨h.ne_nil, .inl h.begins⟩, hlongest⟩
  intro c hc
  have hseen : seen <+: String.utf8EncodeChar c := by
    rcases List.prefix_or_prefix_of_prefix hc (List.prefix_append seen rest) with hle | hle
    · obtain ⟨d, hd⟩ := h.begins
      obtain rfl := eq_of_prefix (hle.trans hd)
      exact hd
    · exact hle
  -- The character needs one more byte, which would have to be the next one.
  have hencode := h.encode_eq c (h.of_prefix c hseen)
  rw [hencode, List.prefix_append_right_inj, trail] at hc
  obtain ⟨after, rfl⟩ := hc
  refine hlongest _ rfl ⟨c, ?_⟩
  rw [hencode, List.prefix_append_right_inj, trail]
  exact List.prefix_append [_] _

end Awaits

/-! ## A whole run -/

/-- Where the reader stands after the bytes of a character that it has seen. -/
inductive Stands : List UInt8 → State → Prop
  | start : Stands [] .start
  | inside {seen : List UInt8} {bits owed low high : Nat} (h : Awaits seen bits owed low high) :
    Stands seen (.inside bits owed low high)

/-- A byte between two characters: whatever the bytes that are kept and those to come are read as,
it comes behind what the step says. -/
theorem reads_begin (byte : UInt8) :
    ∃ seen, Stands seen (begin byte.toNat).2 ∧ ∀ rest text, Reads (seen ++ rest) text →
      Reads (byte :: rest) ((begin byte.toNat).1 ++ text) := by
  rcases begin_cases byte with ⟨hlt, hbegin⟩ | ⟨hnone, hbegin⟩ | ⟨bits, owed, low, high, h, hbegin⟩
  all_goals rw [hbegin]
  · refine ⟨[], .start, ?_⟩
    intro rest text hrest
    have hsound := Reads.sound (Char.ofNat byte.toNat) hrest
    rwa [utf8EncodeChar_ofNat hlt] at hsound
  · refine ⟨[], .start, ?_⟩
    intro rest text hrest
    exact .damaged (.singleton hnone rest) hrest
  · refine ⟨[byte], .inside h, ?_⟩
    intro rest text hrest
    exact hrest

/-- The same for a byte anywhere. -/
theorem reads_step {state : State} (h : Stands seen state) (byte : UInt8) :
    ∃ seen', Stands seen' (step state byte.toNat).2 ∧ ∀ rest text, Reads (seen' ++ rest) text →
      Reads (seen ++ byte :: rest) ((step state byte.toNat).1 ++ text) := by
  cases h with
  | start => exact reads_begin byte
  | @inside _ bits owed low high h =>
    -- A byte in range goes on with the character, and may complete it. Any other ends it as damage
    -- and is looked at again.
    by_cases hrange : low ≤ byte.toNat ∧ byte.toNat ≤ high
    · obtain ⟨hlow, hhigh⟩ := hrange
      rw [step, if_pos ⟨hlow, hhigh⟩]
      cases owed with
      | zero =>
        refine ⟨[], .start, ?_⟩
        intro rest text hrest
        have hsound := Reads.sound (Char.ofNat (bits * 64 + (byte.toNat - 0x80))) hrest
        rwa [h.encode_last hlow hhigh, List.append_assoc] at hsound
      | succ owed =>
        refine ⟨seen ++ [byte], .inside (h.next hlow hhigh), ?_⟩
        intro rest text hrest
        rwa [List.append_assoc] at hrest
    · obtain ⟨seen', hstands, hreads⟩ := reads_begin byte
      rw [step, if_neg hrange]
      refine ⟨seen', hstands, ?_⟩
      intro rest text hrest
      refine .damaged (h.damaged ?_) (hreads rest text hrest)
      rintro next ⟨⟩
      exact hrange

/-- What the reader says of the bytes to come is what these are read as, with those it has seen in
front of them. -/
theorem reads_decodeFrom {state : State} (h : Stands seen state) (bytes : List UInt8) :
    Reads (seen ++ bytes) (decodeFrom state bytes) := by
  induction bytes generalizing seen state with
  | nil =>
    cases h with
    | start => exact .nil
    | inside h => exact .damaged (h.damaged (by simp)) .nil
  | cons byte bytes ih =>
    obtain ⟨seen', hstands, hreads⟩ := reads_step h byte
    exact hreads bytes _ (ih hstands)

/-! ## One reading only -/

/-- Of two damaged stretches at one place, none is longer. -/
theorem Damaged.eq_of_prefix {damage' rest' : List UInt8} (h : Damaged damage rest)
    (h' : Damaged damage' rest') (heq : damage ++ rest = damage' ++ rest')
    (hle : damage <+: damage') : damage = damage' := by
  obtain ⟨more, rfl⟩ := hle
  cases more with
  | nil => simp
  | cons byte more =>
    rw [List.append_assoc, List.append_cancel_left_eq] at heq
    subst heq
    rcases h'.begins with ⟨-, ⟨c, hc⟩ | hlength⟩
    · rw [List.append_cons] at hc
      exact absurd ⟨c, (List.prefix_append _ _).trans hc⟩ (h.longest byte rfl)
    · have hpos := List.length_pos_iff.2 h.begins.1
      rw [List.length_append, List.length_cons] at hlength
      omega

/-- Bytes are read in one way only. -/
theorem Reads.unique {text' : List Char} (h : Reads bytes text) (h' : Reads bytes text') :
    text = text' := by
  induction h generalizing text' with
  -- Whichever rule was used first, the other reading has to have used the same, on the same bytes.
  | nil =>
    generalize hbytes : [] = bytes at h'
    cases h' with
    | nil => rfl
    | sound c hrest => simp at hbytes
    | damaged hdamage hrest =>
      exact absurd (List.append_eq_nil_iff.1 hbytes.symm).1 hdamage.begins.1
  | @sound c rest text hrest ih =>
    generalize hbytes : String.utf8EncodeChar c ++ rest = bytes at h'
    cases h' with
    | nil => simp at hbytes
    | sound d hrest' =>
      obtain ⟨rfl, rfl⟩ := utf8EncodeChar_append_inj hbytes
      rw [ih hrest']
    | damaged hdamage hrest' => exact absurd ⟨rest, hbytes⟩ (hdamage.no_char c)
  | @damaged damage rest text hdamage hrest ih =>
    generalize hbytes : damage ++ rest = bytes at h'
    cases h' with
    | nil => exact absurd (List.append_eq_nil_iff.1 hbytes).1 hdamage.begins.1
    | sound c hrest' => exact absurd ⟨_, hbytes.symm⟩ (hdamage.no_char c)
    | @damaged damage' rest' text' hdamage' hrest' =>
      -- Of two damaged beginnings of the same bytes one goes on with the other, and damage cannot
      -- go on.
      have hprefix : damage' <+: damage ++ rest := ⟨rest', hbytes.symm⟩
      obtain rfl : damage = damage' := by
        rcases List.prefix_or_prefix_of_prefix (List.prefix_append damage rest) hprefix
          with hle | hle
        · exact hdamage.eq_of_prefix hdamage' hbytes hle
        · exact (hdamage'.eq_of_prefix hdamage hbytes.symm hle).symm
      obtain rfl := List.append_cancel_left hbytes
      rw [ih hrest']

/-- **The characters of any bytes are what these are read as**, and there is no other way to read
them. -/
theorem reads_iff : Reads bytes text ↔ decode bytes = text := by
  have hreads : Reads bytes (decode bytes) := reads_decodeFrom .start bytes
  constructor
  · intro h
    exact hreads.unique h
  · rintro rfl
    exact hreads

/-- A line feed breaks off a character, and a surrogate is as many stretches as it has bytes. -/
example : decode [0xE2, 0x82, 0x0A, 0xED, 0xA0, 0x80]
    = [replacement, '\n', replacement, replacement, replacement] := by
  decide

theorem reads_encode (text : List Char) : Reads (encode text) text := by
  induction text with
  | nil => exact .nil
  | cons c text ih => exact .sound c ih

/-- Text that was written is read back. -/
theorem decode_encode (text : List Char) : decode (encode text) = text :=
  reads_iff.1 (reads_encode text)

end Utf8

end ScriptAudit
