import ScriptAudit.Proofs.DamagedBytes
import ScriptAudit.Source.Outcome

/-!
# When a file is refused

A file is refused for one of three reasons: there is no grammar for it, the grammar gives no tree,
or the tree is hopeless. Only the last one has a place in the text.

- `Document.IsHopeless`: at least half of what is not blank is damaged.
- `Document.PointsAt`: the node that a diagnosis is about.
- `Document.exists_firstDamage?`: **a hopeless document has such a node**, so that no diagnosis of
  damage is without a place.
- `parse_refused_iff`: **a file is refused for one of these reasons**, with the place that goes with
  it, and else its tree is kept as it is.
-/

namespace ScriptAudit

/-! ## Hopeless documents -/

namespace Document

/-- The positions of solid bytes that are damaged. A root that is an error node damages all. -/
def spoiledPositions (d : Document) : Set Nat :=
  {i | IsSolidAt d.bytes i ∧ (d.tree.label.isError = true ∨ i ∈ d.damagedPositions)}

/-- Whether there are solid bytes, and at least half of them are damaged. -/
def IsHopeless (d : Document) : Prop :=
  0 < {i | IsSolidAt d.bytes i}.ncard ∧
    {i | IsSolidAt d.bytes i}.ncard ≤ 2 * d.spoiledPositions.ncard

/-- The node that a diagnosis is about: the first damaged one other than the root, or the root if
there is no other. -/
inductive PointsAt (d : Document) : Node → Prop
  | below {n : Node} {before after : List Node} (hdamage : d.root.damage = before ++ n :: after)
    (hbefore : ∀ m ∈ before, m = d.root) (hbelow : n ≠ d.root) : PointsAt d n
  | root (hdamage : ∀ m ∈ d.root.damage, m = d.root) : PointsAt d d.root

variable {d : Document}

theorem damaged_eq_ncard (d : Document) : (damageOf d).damaged = d.spoiledPositions.ncard := by
  cases hroot : d.tree.label.isError with
  | true =>
    have hall : d.spoiledPositions = {i | IsSolidAt d.bytes i} := by
      simp [spoiledPositions, hroot]
    rw [hall, ← solidBytes_eq_ncard, damageOf, if_pos hroot]
  | false =>
    have hsame : d.spoiledPositions = d.damagedPositions := by
      ext i
      simp only [spoiledPositions, hroot, Bool.false_eq_true, false_or, Set.mem_ofPred_eq]
      exact ⟨fun hi => hi.2, fun hi => ⟨hi.1, hi⟩⟩
    rw [hsame, damaged_damageOf hroot]

theorem isHopeless_iff : (damageOf d).isHopeless = true ↔ d.IsHopeless := by
  rw [DamageShare.isHopeless, damaged_eq_ncard, total_damageOf, IsHopeless]
  simp [Nat.pos_iff_ne_zero]

/-- A document is hopeless exactly if its share, as a float, reaches one half. -/
theorem isHopeless_iff_half_le_fraction (hshort : d.bytes.length < 2 ^ 52) :
    d.IsHopeless ↔ 1 / 2 ≤ (damageOf d).fraction.value := by
  have htotal : (damageOf d).total < 2 ^ 52 := by
    rw [total_damageOf, ← solidBytes_eq_ncard]
    exact List.countP_le_length.trans_lt hshort
  rw [← isHopeless_iff, DamageShare.isHopeless_iff_half_le (damaged_le_total d) htotal]

end Document

/-- What is placed below a node is not at the top. -/
theorem Node.path_ne_nil_of_mem_children {n m : Node} (h : m ∈ n.children) : m.path ≠ [] := by
  have hplace : ∀ index trees, ∀ m ∈ place n index trees, m.path ≠ [] := by
    intro index trees
    induction trees generalizing index with
    | nil => simp [place]
    | cons tree trees ih =>
      rw [place, List.forall_mem_cons]
      exact ⟨by simp [path], ih (index + 1)⟩
  exact hplace 0 n.tree.children m h

namespace Document

variable {d : Document}

/-- A damaged node that is at the top is the root. -/
theorem isSame_root_iff {n : Node} (h : n ∈ d.root.damage) :
    n.isSame d.root = true ↔ n = d.root := by
  have hplaced : n = d.root ∨ n.path ≠ [] := by
    refine (Node.damageFrom_forall (P := fun n => n = d.root ∨ n.path ≠ []) ?_ ?_ n h).1
    · exact fun n _ m hmem => .inr (Node.path_ne_nil_of_mem_children hmem)
    · simp
  constructor
  · intro hsame
    refine hplaced.resolve_right fun hpath => hpath ?_
    simpa [Node.isSame, Document.root, Node.path] using hsame
  · rintro rfl
    simp [Node.isSame]

/-- Without damaged nodes, and without an error node at the root, there is no hope lost. -/
theorem damage_ne_nil_of_isHopeless (h : d.IsHopeless) (hroot : d.tree.label.isError = false) :
    d.root.damage ≠ [] := by
  intro hnone
  have hspoiled : d.spoiledPositions = ∅ := by
    refine Set.eq_empty_of_forall_notMem ?_
    rintro i ⟨-, herror | ⟨-, n, hmem, -⟩⟩
    · rw [hroot] at herror
      cases herror
    · rw [hnone] at hmem
      cases hmem
  obtain ⟨hpos, hhalf⟩ := h
  rw [hspoiled, Set.ncard_empty] at hhalf
  omega

/-- **A hopeless document has a node to point at.** -/
theorem exists_firstDamage? (h : d.IsHopeless) :
    ∃ n, d.root.firstDamage? = some n ∧ d.PointsAt n := by
  unfold Node.firstDamage?
  cases hfind : d.root.damage.find? fun damaged => !damaged.isSame d.root with
  | some n =>
    obtain ⟨hne, before, after, hdamage, hbefore⟩ := List.find?_eq_some_iff_append.1 hfind
    have hmem : ∀ m ∈ before, m ∈ d.root.damage := by
      intro m hm
      rw [hdamage]
      exact List.mem_append_left _ hm
    refine ⟨n, rfl, .below hdamage (fun m hm => ?_) ?_⟩
    · exact (isSame_root_iff (hmem m hm)).1 (by simpa using hbefore m hm)
    · rintro rfl
      simp [Node.isSame] at hne
  | none =>
    have hall : ∀ m ∈ d.root.damage, m = d.root := by
      intro m hm
      exact (isSame_root_iff hm).1 (by simpa using List.find?_eq_none.1 hfind m hm)
    -- The root is damaged itself, or else there would be no damaged node at all.
    have hroot : (d.root.label.isError || d.root.label.isMissing) = true := by
      cases herror : d.root.label.isError with
      | true => rfl
      | false =>
        obtain ⟨m, hm⟩ := List.exists_mem_of_ne_nil _ (damage_ne_nil_of_isHopeless h herror)
        obtain rfl := hall m hm
        exact (Node.isError_or_isMissing hm).resolve_left (by simp [herror])
    exact ⟨d.root, if_pos hroot, .root hall⟩

end Document

/-! ## Outcomes -/

/-- The grammar that is chosen for a file. -/
def chosenGrammar (path : String) (source : List Char) : Grammar :=
  (Source.prepared path source).2

/-- The document that the chosen grammar makes of a file, if it gives a tree. -/
def Parser.document? (parser : Parser) (path : String) (source : List Char) : Option Document :=
  let bytes := Utf8.encode (Source.prepared path source).1
  (parser.tree? bytes (chosenGrammar path source)).map (⟨bytes, ·⟩)

variable {parser : Parser} {path : String} {source : List Char} {d : Document}

/-- Without a grammar or without a tree there is no place to point at. -/
theorem exists_parse_of_lacking
    (h : chosenGrammar path source ∉ parser.grammars ∨ parser.document? path source = none) :
    ∃ message, parse parser path source = .refused message 0 0 := by
  unfold chosenGrammar Parser.document? chosenGrammar at h
  by_cases hgrammar : (Source.prepared path source).2 ∈ parser.grammars
  · have hnone := Option.map_eq_none_iff.1 (h.resolve_left (not_not_intro hgrammar))
    refine ⟨"Unable to parse " ++ path ++ " as " ++ (Source.prepared path source).2.name, ?_⟩
    unfold parse
    dsimp only
    rw [if_neg (by simpa using hgrammar), hnone]
  · refine ⟨"No " ++ (Source.prepared path source).2.name ++ " grammar available for " ++ path, ?_⟩
    unfold parse
    dsimp only
    rw [if_pos (by simpa using hgrammar)]

/-- With a tree the outcome is the verdict on it. -/
theorem parse_of_document (hgrammar : chosenGrammar path source ∈ parser.grammars)
    (hdocument : parser.document? path source = some d) :
    parse parser path source = judge (chosenGrammar path source) d := by
  unfold chosenGrammar Parser.document? at *
  obtain ⟨tree, htree, rfl⟩ := Option.map_eq_some_iff.1 hdocument
  rw [chosenGrammar] at htree
  unfold parse
  dsimp only
  rw [if_neg (by simpa using hgrammar), htree]

/-- A hopeless tree is refused, with the place of the node that the diagnosis is about. -/
theorem exists_judge_eq_refused (grammar : Grammar) (herror : d.tree.label.hasError = true)
    (hhopeless : d.IsHopeless) :
    ∃ message n, d.PointsAt n ∧ judge grammar d = .refused message (d.line n) (d.column n) := by
  obtain ⟨n, hfirst, hpoints⟩ := Document.exists_firstDamage? hhopeless
  refine ⟨diagnosis d (some n), n, hpoints, ?_⟩
  rw [judge, if_pos (by simp [herror, Document.isHopeless_iff.2 hhopeless]), hfirst]
  rfl

/-- Every other tree is kept. -/
theorem judge_eq_parsed (grammar : Grammar) (h : ¬(d.tree.label.hasError = true ∧ d.IsHopeless)) :
    judge grammar d = .parsed grammar d := by
  rw [judge, if_neg]
  rwa [Bool.and_eq_true, Document.isHopeless_iff]

/-- **When a file is refused.** It is refused exactly if the grammar chosen for it is not at hand, or
gives no tree, or gives one that is marked as damaged and hopeless. In the first two cases there is
no place, in the third it is that of the node the diagnosis is about, with line and column counted
from one. In every other case the tree is kept as it is. A tree is hopeless if its damaged share, in
floating point, reaches one half, as far as texts have fewer than `2 ^ 52` bytes. -/
theorem parse_refused_iff (parser : Parser) (path : String) (source : List Char) :
    ((∃ message line column, parse parser path source = .refused message line column) ↔
      chosenGrammar path source ∉ parser.grammars ∨ parser.document? path source = none ∨
        ∃ d, parser.document? path source = some d ∧ d.tree.label.hasError = true ∧
          d.IsHopeless) ∧
    (∀ message line column, parse parser path source = .refused message line column →
      (chosenGrammar path source ∉ parser.grammars ∨ parser.document? path source = none →
        line = 0 ∧ column = 0) ∧
      (∀ d, chosenGrammar path source ∈ parser.grammars → parser.document? path source = some d →
        1 ≤ line ∧ 1 ≤ column ∧ ∃ n, d.PointsAt n ∧ line = d.line n ∧ column = d.column n)) ∧
    (∀ d, chosenGrammar path source ∈ parser.grammars → parser.document? path source = some d →
      ¬(d.tree.label.hasError = true ∧ d.IsHopeless) →
        parse parser path source = .parsed (chosenGrammar path source) d) ∧
    (∀ d, parser.document? path source = some d → d.bytes.length < 2 ^ 52 →
      (d.IsHopeless ↔ 1 / 2 ≤ (damageOf d).fraction.value)) := by
  -- Whatever is not among the reasons keeps the tree, which also says that there are no other
  -- reasons.
  have hkept : ∀ d, chosenGrammar path source ∈ parser.grammars →
      parser.document? path source = some d → ¬(d.tree.label.hasError = true ∧ d.IsHopeless) →
        parse parser path source = .parsed (chosenGrammar path source) d := by
    intro d hgrammar hdocument hsound
    rw [parse_of_document hgrammar hdocument]
    exact judge_eq_parsed _ hsound
  refine ⟨⟨?_, ?_⟩, ?_, hkept, fun d _ hshort => Document.isHopeless_iff_half_le_fraction hshort⟩
  · rintro ⟨message, line, column, hrefused⟩
    by_contra hnone
    push Not at hnone
    obtain ⟨hgrammar, htree, hsound⟩ := hnone
    obtain ⟨d, hdocument⟩ := Option.ne_none_iff_exists'.1 htree
    rw [hkept d hgrammar hdocument fun h => hsound d hdocument h.1 h.2] at hrefused
    cases hrefused
  · intro hreason
    by_cases hlacking :
        chosenGrammar path source ∉ parser.grammars ∨ parser.document? path source = none
    · obtain ⟨message, hparse⟩ := exists_parse_of_lacking hlacking
      exact ⟨message, 0, 0, hparse⟩
    · -- With a grammar and a tree only the damage is left as a reason.
      push Not at hlacking
      obtain ⟨d, hdocument, herror, hhopeless⟩ :=
        (hreason.resolve_left (not_not_intro hlacking.1)).resolve_left hlacking.2
      obtain ⟨message, n, -, hjudge⟩ :=
        exists_judge_eq_refused (chosenGrammar path source) herror hhopeless
      exact ⟨message, _, _, (parse_of_document hlacking.1 hdocument).trans hjudge⟩
  · intro message line column hrefused
    constructor
    · intro hlacking
      obtain ⟨message', hparse⟩ := exists_parse_of_lacking hlacking
      rw [hparse] at hrefused
      cases hrefused
      exact ⟨rfl, rfl⟩
    · intro d hgrammar hdocument
      -- The text was refused, so its tree is hopeless, and the refusal is that of the diagnosis.
      have hdamaged : d.tree.label.hasError = true ∧ d.IsHopeless := by
        by_contra hsound
        rw [hkept d hgrammar hdocument hsound] at hrefused
        cases hrefused
      obtain ⟨message', n, hpoints, hjudge⟩ :=
        exists_judge_eq_refused (chosenGrammar path source) hdamaged.1 hdamaged.2
      rw [parse_of_document hgrammar hdocument, hjudge] at hrefused
      cases hrefused
      exact ⟨Nat.le_add_left 1 _, Nat.le_add_left 1 _, n, hpoints, rfl, rfl⟩

/-- A grammar that makes the same damaged tree of everything. -/
def damaging : Parser where
  grammars := [.tsx]
  tree? _ _ := some overlapping.tree

/-- The text of the document whose stretches overlap. -/
def overlappingText : List Char := ['a', ' ', 'b', ' ', 'c', ' ', 'd']

/-- Three of four bytes are damaged, so the file is refused, and the diagnosis has a place. -/
theorem parse_refused_overlapping :
    chosenGrammar "a.js" overlappingText ∈ damaging.grammars ∧
      damaging.document? "a.js" overlappingText = some overlapping ∧
      overlapping.tree.label.hasError = true ∧ overlapping.IsHopeless ∧
      ∃ message line column, 1 ≤ line ∧ 1 ≤ column ∧
        parse damaging "a.js" overlappingText = .refused message line column := by
  have hprepared : Source.prepared "a.js" overlappingText = (overlappingText, .tsx) := by
    have htemplate : isTemplate "a.js" = false := by decide
    have hgrammar : Grammar.ofPath "a.js" = .tsx := by decide
    rw [Source.prepared, htemplate, hgrammar]
    rfl
  have hgrammar : chosenGrammar "a.js" overlappingText ∈ damaging.grammars := by
    rw [chosenGrammar, hprepared]
    decide
  have hdocument : damaging.document? "a.js" overlappingText = some overlapping := by
    rw [Parser.document?, hprepared]
    rfl
  have hhopeless : overlapping.IsHopeless := by
    rw [← Document.isHopeless_iff, damageOf_overlapping]
    rfl
  obtain ⟨hrefused, hplace, -⟩ := parse_refused_iff damaging "a.js" overlappingText
  obtain ⟨message, line, column, hparse⟩ :=
    hrefused.2 (.inr (.inr ⟨overlapping, hdocument, rfl, hhopeless⟩))
  obtain ⟨hline, hcolumn, -⟩ := (hplace message line column hparse).2 _ hgrammar hdocument
  exact ⟨hgrammar, hdocument, rfl, hhopeless, message, line, column, hline, hcolumn, hparse⟩

end ScriptAudit
