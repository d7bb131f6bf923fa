import ScriptAudit.Proofs.DamagedText
import ScriptAudit.Proofs.FileShape
import ScriptAudit.Proofs.LookUp

/-!
# Lines of a file

The lines of a file are counted in the text that its bytes are read as, and where these are damaged
the text is not made of them. No damage takes a line feed away, though, or brings one in: a line feed
is complete by itself, and no other character goes on with one.

- `Utf8.Damaged.lineFeed_notMem`: no damaged stretch has a line feed in it.
- `Utf8.Reads.count_lineFeed`: as many line feeds are read as there are.
- `FileAuditor.audit_lines`: **a file has one line more than its bytes have line feeds**, whatever
  else they are, and whether or not it can be parsed.
-/

namespace ScriptAudit

namespace Utf8

variable {damage rest bytes : List UInt8} {text : List Char}

theorem Damaged.lineFeed_notMem (h : Damaged damage rest) : lineFeed ∉ damage := by
  intro hmem
  -- Of characters only the line feed starts with one, and there is nothing more to it.
  have honly : damage = [lineFeed] := by
    obtain ⟨hne, ⟨c, hc⟩ | hlength⟩ := h.begins
    · obtain rfl : c = '\n' := by
        by_contra hother
        exact Utf8.lineFeed_notMem hother (hc.subset hmem)
      obtain ⟨byte, damage, rfl⟩ := List.exists_cons_of_ne_nil hne
      rw [utf8EncodeChar_newline, List.cons_prefix_cons, List.prefix_nil] at hc
      rw [hc.1, hc.2]
    · obtain ⟨byte, rfl⟩ := List.length_eq_one_iff.1 hlength
      rw [List.mem_singleton.1 hmem]
  refine h.no_char '\n' ?_
  rw [honly, utf8EncodeChar_newline]
  exact List.prefix_append _ _

/-- There are as many line feeds among bytes as among the characters that they are read as. -/
theorem Reads.count_lineFeed (h : Reads bytes text) : bytes.count lineFeed = text.count '\n' := by
  induction h with
  | nil => rfl
  | @sound c rest text hrest ih =>
    have hc : (String.utf8EncodeChar c).count lineFeed = [c].count '\n' := by
      rw [← count_encode, encode_cons, encode_nil, List.append_nil]
    rw [List.count_append, ih, hc, ← List.count_append, List.singleton_append]
  | damaged hdamage hrest ih =>
    have hnone := List.count_eq_zero.2 hdamage.lineFeed_notMem
    rw [List.count_append, ih, hnone, Nat.zero_add, List.count_cons_of_ne (by decide)]

/-- The text that bytes are read as has one line more than they have line feeds. -/
theorem lineCount_decode (bytes : List UInt8) :
    Text.lineCount (decode bytes) = 1 + bytes.count lineFeed := by
  have hreads : Reads bytes (decode bytes) := reads_iff.2 rfl
  rw [Text.lineCount_eq, hreads.count_lineFeed, Nat.add_comm]

end Utf8

namespace FileAuditor

/-- **A file has one line more than its bytes have line feeds.** Every file that can be read gives a
report that says so, whatever its bytes are, and whether they were parsed or refused. -/
theorem audit_lines (a : FileAuditor) {fs : FileSystem} {root file : Path} {bytes : List UInt8}
    (hpath : file.isBroken = false) (hread : fs.read file = .ok bytes) :
    ∃ r, a.audit fs root file = .ok r ∧
      (a.Came fs root file .parsed r ∨ a.Came fs root file .unparsed r) ∧
      r.metrics.lines = .whole (1 + bytes.count lineFeed : Nat) := by
  have haudit : a.audit fs root file = .ok (a.report fs root file) := by
    simp [audit, hpath]
  refine ⟨_, haudit, ?_⟩
  obtain ⟨shape, hcame⟩ := a.exists_came fs root file
  -- The lines are those of the decoded text in either shape of the report.
  rw [← Utf8.lineCount_decode]
  generalize a.report fs root file = r at hcame
  cases hcame with
  | unreadable hfailed =>
    rw [hread] at hfailed
    cases hfailed
  | unparsed hread' hparse =>
    obtain rfl := Except.ok.inj (hread.symm.trans hread')
    exact ⟨.inr (.unparsed hread' hparse), rfl⟩
  | parsed hread' hparse hlint hcomplexity =>
    obtain rfl := Except.ok.inj (hread.symm.trans hread')
    exact ⟨.inl (.parsed hread' hparse hlint hcomplexity), rfl⟩

/-- A character that a line feed breaks off, a surrogate, a byte that begins nothing, and a character
that the end breaks off. -/
def brokenBytes : List UInt8 :=
  [0x61, 0xE2, 0x82, 0x0A, 0xED, 0xA0, 0x80, 0x0A, 0xFF, 0x0A, 0xF0, 0x9F]

def brokenFile : FileSystem where
  entries := [("a.js", .file brokenBytes)]
  room := 8

theorem read_brokenFile : brokenFile.read ⟨true, ["a.js"]⟩ = .ok brokenBytes := rfl

/-- The faulty auditor without a grammar. -/
def refusing : FileAuditor :=
  { faulty with parser := fun _ => ⟨[], fun _ _ => none⟩ }

/-- There are three line feeds in the broken file, whether it is parsed or refused. -/
theorem audit_lines_broken :
    (∃ r, faulty.audit brokenFile ⟨true, []⟩ ⟨true, ["a.js"]⟩ = .ok r ∧
      faulty.Came brokenFile ⟨true, []⟩ ⟨true, ["a.js"]⟩ .parsed r ∧ r.metrics.lines = .whole 4) ∧
    (∃ r, refusing.audit brokenFile ⟨true, []⟩ ⟨true, ["a.js"]⟩ = .ok r ∧
      refusing.Came brokenFile ⟨true, []⟩ ⟨true, ["a.js"]⟩ .unparsed r ∧
        r.metrics.lines = .whole 4) := by
  constructor
  · obtain ⟨d, hparsed⟩ : ∃ d, parse (faulty.parser ⟨true, ["a.js"]⟩)
        (Path.relativeTo ⟨true, ["a.js"]⟩ ⟨true, []⟩) (Utf8.decode brokenBytes) = .parsed .tsx d :=
      ⟨_, rfl⟩
    obtain ⟨r, haudit, hcame | hcame, hlines⟩ := audit_lines faulty (by decide) read_brokenFile
    · exact ⟨r, haudit, hcame, hlines⟩
    · -- The parser took the text, so the other shape is not that of this report.
      cases hcame with
      | unparsed hread hparse =>
        obtain rfl := Except.ok.inj (read_brokenFile.symm.trans hread)
        rw [hparsed] at hparse
        cases hparse
  · obtain ⟨message, hrefused⟩ : ∃ message, parse (refusing.parser ⟨true, ["a.js"]⟩)
        (Path.relativeTo ⟨true, ["a.js"]⟩ ⟨true, []⟩) (Utf8.decode brokenBytes)
          = .refused message 0 0 :=
      ⟨_, rfl⟩
    obtain ⟨r, haudit, hcame | hcame, hlines⟩ := audit_lines refusing (by decide) read_brokenFile
    · cases hcame with
      | parsed hread hparse =>
        obtain rfl := Except.ok.inj (read_brokenFile.symm.trans hread)
        rw [hrefused] at hparse
        cases hparse
    · exact ⟨r, haudit, hcame, hlines⟩

end FileAuditor

end ScriptAudit
