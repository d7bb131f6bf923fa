import Mathlib.Data.List.Basic
import ScriptAudit.Format.Workflow

/-!
# Commands read back

How a line of a workflow is read as a command: two colons, a name, a blank, properties between
commas, two colons, and a message with escapes.

- `Workflow.cutAt?`, `Workflow.cutAt?_eq_some_iff`: a text around the first occurrence of a mark.
- `Workflow.Command.read?`: the command in a line.
- `Workflow.Command.read?_eq_some_iff`: **a line is read as a command exactly if it is that command,
  written down**, and no part of the command holds a mark that ends it.
- `Workflow.unescape_escape`: a message is read as it was before it was escaped.
-/

namespace ScriptAudit.Workflow

/-! ## Cuts -/

/-- What stands in front of the first occurrence of a mark, and what follows it. -/
def cutAt? (mark : List Char) : List Char → Option (List Char × List Char)
  | [] => none
  | c :: text =>
    if mark.isPrefixOf (c :: text) then some ([], (c :: text).drop mark.length)
    else (cutAt? mark text).map fun (before, after) => (c :: before, after)

variable {mark text before after : List Char}

/-- A mark without its last character begins where the mark does. -/
theorem dropLast_prefix_append (before mark after : List Char) :
    before ++ mark.dropLast <+: before ++ mark ++ after := by
  rw [List.append_assoc, List.prefix_append_right_inj]
  exact (List.dropLast_prefix mark).trans (List.prefix_append mark after)

theorem map_cons_eq_some_iff {c d : Char} {cut : Option (List Char × List Char)} :
    cut.map (fun (front, rest) => (c :: front, rest)) = some (d :: before, after) ↔
      c = d ∧ cut = some (before, after) := by
  cases cut with
  | none => simp
  | some parts =>
    obtain ⟨front, rest⟩ := parts
    simp [and_assoc]

/-- A mark that begins in a text may be completed by what follows, so all of the mark but its last
character belongs to the text in which no mark may stand. -/
theorem cutAt?_eq_some_iff (hmark : mark ≠ []) :
    cutAt? mark text = some (before, after) ↔
      text = before ++ mark ++ after ∧ ¬mark <:+: before ++ mark.dropLast := by
  have hlength : mark.dropLast.length < mark.length := by
    have hpos := List.length_pos_iff.2 hmark
    rw [List.length_dropLast]
    omega
  induction text generalizing before with
  | nil => simp [cutAt?, hmark]
  | cons c text ih =>
    rw [cutAt?]
    split_ifs with hprefix
    · rw [List.isPrefixOf_iff_prefix] at hprefix
      constructor
      · intro h
        obtain ⟨rfl, rfl⟩ := Prod.mk.inj (Option.some.inj h)
        refine ⟨?_, fun hinfix => ?_⟩
        · rw [List.nil_append, List.prefix_iff_eq_append.1 hprefix]
        · exact absurd hinfix.length_le (by simpa using hlength)
      · rintro ⟨heq, hnone⟩
        cases before with
        | nil =>
          rw [heq]
          simp
        | cons d before =>
          -- The mark at the head would end before the occurrence at which the text was cut.
          rw [heq] at hprefix
          refine absurd (List.IsPrefix.isInfix ?_) hnone
          exact List.prefix_of_prefix_length_le hprefix (dropLast_prefix_append _ mark after)
            (by simp; omega)
    · rw [List.isPrefixOf_iff_prefix] at hprefix
      cases before with
      | nil =>
        constructor
        · intro h
          obtain ⟨⟨front, rest⟩, -, heq⟩ := Option.map_eq_some_iff.1 h
          cases heq
        · rintro ⟨heq, -⟩
          exact absurd ⟨after, by rw [heq, List.nil_append]⟩ hprefix
      | cons d before =>
        have hrest : cutAt? mark text = some (before, after) ↔
            text = before ++ mark ++ after ∧ ¬mark <:+: before ++ mark.dropLast := ih
        rw [map_cons_eq_some_iff, hrest, List.cons_append, List.cons_append, List.cons_append,
          List.cons.injEq, List.infix_cons_iff]
        constructor
        · rintro ⟨rfl, rfl, hnone⟩
          refine ⟨⟨rfl, rfl⟩, fun hsome => hsome.elim (fun hhead => hprefix ?_) hnone⟩
          exact hhead.trans (dropLast_prefix_append (c :: before) mark after)
        · rintro ⟨⟨rfl, rfl⟩, hnone⟩
          exact ⟨rfl, rfl, fun hinfix => hnone (.inr hinfix)⟩

/-- At a single character a text is cut where the character first stands. -/
theorem cutAt?_singleton {c : Char} :
    cutAt? [c] text = some (before, after) ↔ text = before ++ c :: after ∧ c ∉ before := by
  have hmem : [c] <:+: before ↔ c ∈ before :=
    ⟨fun h => h.subset (List.mem_singleton_self c), fun h => by
      obtain ⟨front, rest, rfl⟩ := List.append_of_mem h
      exact ⟨front, rest, by simp⟩⟩
  rw [cutAt?_eq_some_iff (List.cons_ne_nil c []), List.dropLast_singleton, List.append_nil,
    List.append_assoc, List.singleton_append, hmem]

/-! ## Commands -/

/-- A command: its name, its properties in order, and its message. -/
structure Command where
  name : List Char
  properties : List (List Char × List Char)
  message : List Char
  deriving DecidableEq

namespace Command

/-- A property in writing. -/
def propertyChars (p : List Char × List Char) : List Char :=
  p.1 ++ '=' :: p.2

/-- The name and the properties of a command in writing. -/
def head (c : Command) : List Char :=
  c.name ++ ' ' :: [','].intercalate (c.properties.map propertyChars)

/-- The command in a line. The name ends at the first blank, the properties end at the first pair of
colons behind the one at the beginning, and each of them has an equals sign behind its name. -/
def read? : List Char → Option Command
  | ':' :: ':' :: line => do
    let (head, message) ← cutAt? [':', ':'] line
    let (name, properties) ← cutAt? [' '] head
    let properties ← (properties.splitOn ',').mapM (cutAt? ['='])
    return ⟨name, properties, unescape message⟩
  | _ => none

/-- Whether no part of a command holds a mark that ends it. A colon at the end of the properties
would make a pair with the one that follows. -/
structure IsSound (c : Command) : Prop where
  colons : ¬[':', ':'] <:+: c.head ++ [':']
  name : ' ' ∉ c.name
  properties : c.properties ≠ []
  names : ∀ p ∈ c.properties, '=' ∉ p.1
  commas : ∀ p ∈ c.properties, ',' ∉ propertyChars p

end Command

/-! ## Properties -/

/-- No piece holds a character at which the text was cut. -/
theorem eq_false_of_mem_splitOnP {α : Type} {p : α → Bool} {items piece : List α}
    (h : piece ∈ items.splitOnP p) : ∀ a ∈ piece, p a = false := by
  induction items generalizing piece with
  | nil =>
    rw [List.splitOnP_nil, List.mem_singleton] at h
    subst h
    simp
  | cons item items ih =>
    rw [List.splitOnP_cons_eq_if_modifyHead] at h
    split_ifs at h with hitem
    · -- At a character where the text is cut a new piece begins; every other one goes into the
      -- first piece.
      rcases List.mem_cons.1 h with rfl | h
      · simp
      · exact ih h
    · obtain ⟨first, pieces, hpieces⟩ :=
        List.exists_cons_of_ne_nil (List.splitOnP_ne_nil p items)
      rw [hpieces] at h ih
      rcases List.mem_cons.1 h with rfl | h
      · exact List.forall_mem_cons.2 ⟨by simpa using hitem, ih List.mem_cons_self⟩
      · exact ih (List.mem_cons_of_mem first h)

/-- Pieces are read as properties exactly if they are these, written down. -/
theorem mapM_cutAt?_eq_some_iff {pieces : List (List Char)}
    {properties : List (List Char × List Char)} :
    pieces.mapM (cutAt? ['=']) = some properties ↔
      pieces = properties.map Command.propertyChars ∧ ∀ p ∈ properties, '=' ∉ p.1 := by
  induction pieces generalizing properties with
  | nil => cases properties <;> simp
  | cons piece pieces ih =>
    rw [List.mapM_cons]
    constructor
    · intro h
      -- The first piece and the rest are read on their own, and neither reading depends on the
      -- other.
      obtain ⟨⟨name, value⟩, hpiece, h⟩ := Option.bind_eq_some_iff.1 h
      obtain ⟨rest, hrest, heq⟩ := Option.bind_eq_some_iff.1 h
      obtain rfl := Option.some.inj heq
      obtain ⟨rfl, hname⟩ := cutAt?_singleton.1 hpiece
      obtain ⟨rfl, hnames⟩ := ih.1 hrest
      exact ⟨rfl, List.forall_mem_cons.2 ⟨hname, hnames⟩⟩
    · rintro ⟨heq, hnames⟩
      cases properties with
      | nil => cases heq
      | cons property properties =>
        obtain ⟨rfl, rfl⟩ := List.cons.inj heq
        obtain ⟨hname, hnames⟩ := List.forall_mem_cons.1 hnames
        have hpiece : cutAt? ['='] (Command.propertyChars property) = some property :=
          cutAt?_singleton.2 ⟨rfl, hname⟩
        simp [hpiece, ih.2 ⟨rfl, hnames⟩]

/-- A text between commas is read as properties exactly if it is these, written down, and none of
them holds a comma. -/
theorem mapM_splitOn_eq_some_iff {properties : List (List Char × List Char)} :
    (text.splitOn ',').mapM (cutAt? ['=']) = some properties ↔
      text = [','].intercalate (properties.map Command.propertyChars) ∧ properties ≠ [] ∧
        (∀ p ∈ properties, '=' ∉ p.1) ∧ ∀ p ∈ properties, ',' ∉ Command.propertyChars p := by
  rw [mapM_cutAt?_eq_some_iff]
  constructor
  · rintro ⟨hpieces, hnames⟩
    refine ⟨by rw [← hpieces, List.intercalate_splitOn], ?_, hnames, fun p hmem hcomma => ?_⟩
    · -- Cutting gives one piece at least, and none with a comma in it.
      rintro rfl
      exact List.splitOn_ne_nil ',' text hpieces
    · have hpiece : Command.propertyChars p ∈ text.splitOn ',' := by
        rw [hpieces]
        exact List.mem_map_of_mem hmem
      rw [List.splitOn_eq_splitOnP] at hpiece
      simpa using eq_false_of_mem_splitOnP hpiece ',' hcomma
  · rintro ⟨rfl, hne, hnames, hcommas⟩
    refine ⟨List.splitOn_intercalate ',' (fun piece hmem => ?_) (by simpa using hne), hnames⟩
    obtain ⟨p, hp, rfl⟩ := List.mem_map.1 hmem
    exact hcommas p hp

/-! ## Lines -/

/-- **A line is read as a command exactly if it is that command, written down**, and the command is
sound. -/
theorem Command.read?_eq_some_iff {line : List Char} {c : Command} :
    read? line = some c ↔
      c.IsSound ∧ ∃ escaped, line = ':' :: ':' :: (c.head ++ ':' :: ':' :: escaped) ∧
        unescape escaped = c.message := by
  constructor
  · intro h
    unfold read? at h
    split at h
    · rename_i line
      -- Each cut tells what was cut, and that no mark stood in front of it.
      obtain ⟨⟨head, escaped⟩, hhead, h⟩ := Option.bind_eq_some_iff.1 h
      obtain ⟨⟨name, list⟩, hname, h⟩ := Option.bind_eq_some_iff.1 h
      obtain ⟨properties, hproperties, heq⟩ := Option.bind_eq_some_iff.1 h
      obtain rfl := Option.some.inj heq
      obtain ⟨rfl, hcolons⟩ := (cutAt?_eq_some_iff (by decide)).1 hhead
      obtain ⟨rfl, hblank⟩ := cutAt?_singleton.1 hname
      obtain ⟨rfl, hne, hnames, hcommas⟩ := mapM_splitOn_eq_some_iff.1 hproperties
      exact ⟨⟨hcolons, hblank, hne, hnames, hcommas⟩, escaped, by simp [Command.head], rfl⟩
    · cases h
  · rintro ⟨hsound, escaped, rfl, hmessage⟩
    have hhead : cutAt? [':', ':'] (c.head ++ ':' :: ':' :: escaped) = some (c.head, escaped) :=
      (cutAt?_eq_some_iff (by decide)).2 ⟨by simp, hsound.colons⟩
    have hname : cutAt? [' '] c.head
        = some (c.name, [','].intercalate (c.properties.map propertyChars)) :=
      cutAt?_singleton.2 ⟨rfl, hsound.name⟩
    have hproperties := mapM_splitOn_eq_some_iff.2
      ⟨rfl, hsound.properties, hsound.names, hsound.commas⟩
    simp [read?, hhead, hname, hproperties, hmessage]

/-! ## Messages -/

theorem unescape_cons {c : Char} (h : c ≠ '%') (rest : List Char) :
    unescape (c :: rest) = c :: unescape rest := by
  rw [unescape] <;> simp_all

/-- What one character is escaped to is read as that character. -/
theorem unescape_escapeChar_append (c : Char) (rest : List Char) :
    unescape (escapeChar c ++ rest) = c :: unescape rest := by
  unfold escapeChar
  split_ifs with hpercent hreturn hline
  · simp [unescape, hpercent]
  · simp [unescape, hreturn]
  · simp [unescape, hline]
  · rw [List.singleton_append, unescape_cons hpercent]

/-- A message is read as it was before it was escaped. -/
theorem unescape_escape (message : List Char) : unescape (escape message) = message := by
  induction message with
  | nil => rfl
  | cons c message ih =>
    rw [escape] at ih
    rw [escape, List.flatMap_cons, unescape_escapeChar_append, ih]

end ScriptAudit.Workflow
