import Mathlib.Data.Set.Card
import ScriptAudit.Proofs.NearestRatio
import ScriptAudit.Tree.Damage

/-!
# Every damaged byte counts once

Damaged stretches may overlap, nest, coincide, be empty or go past the end of the text. They are
swept in the order of their starts, and what was swept before is not counted again.

- `IsSolidAt`, `Span.Holds`: a byte that is not blank, and a position in a stretch.
- `solidBytes_eq_ncard`, `solidBytes_byteRange`: the solid bytes of a text and of a stretch, as sets
  of positions.
- `sweep_eq_ncard`: what a sweep counts are the positions behind the offset that it has reached.
- `coveredBytes_eq_ncard`: **the bytes covered by stretches are those of their union**.
- `Node.Damages`: the stretches that count as damaged, each with its reason.
- `DamageShare.isHopeless_iff_half_le`: **half of a text is damaged if the share reaches one half**.
- `damageOf_nearest`: **the damaged share is the share of the solid bytes in some damaged stretch**, as
  closely as floating point can tell it.
-/

namespace ScriptAudit

/-- Whether there is a byte at a position, and not a blank one. -/
def IsSolidAt (bytes : List UInt8) (position : Nat) : Prop :=
  ∃ byte, bytes[position]? = some byte ∧ Text.isBlankByte byte = false

/-- Whether a position is in a stretch. -/
def Span.Holds (span : Span) (position : Nat) : Prop :=
  span.1 ≤ position ∧ position < span.2

variable {bytes : List UInt8} {spans : List Span}

/-! ## Counting positions -/

/-- There are no bytes from the end on, so the positions of bytes are finitely many. -/
theorem finite_isSolidAt (bytes : List UInt8) (p : Nat → Prop) :
    {i | IsSolidAt bytes i ∧ p i}.Finite := by
  refine (Set.finite_lt_nat bytes.length).subset ?_
  rintro i ⟨⟨byte, hbyte, -⟩, -⟩
  exact (List.getElem?_eq_some_iff.1 hbyte).1

/-- The positions of a text are the first one and those of the rest, moved on by one. -/
theorem isSolidAt_cons (byte : UInt8) (bytes : List UInt8) :
    {i | IsSolidAt (byte :: bytes) i}
      = {i | i = 0 ∧ Text.isBlankByte byte = false} ∪ Nat.succ '' {i | IsSolidAt bytes i} := by
  ext i
  cases i <;> simp [IsSolidAt]

/-- The solid bytes of a text, as positions. -/
theorem solidBytes_eq_ncard (bytes : List UInt8) :
    solidBytes bytes = {i | IsSolidAt bytes i}.ncard := by
  induction bytes with
  | nil => simp [solidBytes, IsSolidAt]
  | cons byte bytes ih =>
    -- The first byte has position zero, and the positions of the rest are moved on by one.
    have hdisjoint : Disjoint {i | i = 0 ∧ Text.isBlankByte byte = false}
        (Nat.succ '' {i | IsSolidAt bytes i}) := by
      rw [Set.disjoint_left]
      rintro i ⟨rfl, -⟩ ⟨j, -, hj⟩
      exact Nat.succ_ne_zero j hj
    have hfinite : {i | IsSolidAt bytes i}.Finite := by
      simpa using finite_isSolidAt bytes fun _ => True
    rw [isSolidAt_cons, Set.ncard_union_eq hdisjoint
      ((Set.finite_singleton 0).subset fun i hi => hi.1) (hfinite.image _),
      Set.ncard_image_of_injective _ Nat.succ_injective, ← ih, solidBytes, List.countP_cons,
      Nat.add_comm, solidBytes]
    cases hblank : Text.isBlankByte byte <;> simp

/-- The solid bytes of a stretch, as positions in the whole text. -/
theorem solidBytes_byteRange (bytes : List UInt8) (start stop : Nat) :
    solidBytes (byteRange bytes start stop)
      = {i | IsSolidAt bytes i ∧ Span.Holds (start, stop) i}.ncard := by
  -- The positions in the stretch are moved on by its start.
  have hmoved : {i | IsSolidAt bytes i ∧ Span.Holds (start, stop) i}
      = (start + ·) '' {i | IsSolidAt (byteRange bytes start stop) i} := by
    ext i
    simp only [Set.mem_ofPred_eq, Set.mem_image, IsSolidAt, byteRange, Span.Holds,
      List.getElem?_take, List.getElem?_drop]
    constructor
    · rintro ⟨hsolid, hstart, hstop⟩
      refine ⟨i - start, ?_, by omega⟩
      rwa [if_pos (by omega), show start + (i - start) = i by omega]
    · rintro ⟨j, hsolid, rfl⟩
      by_cases hj : j < stop - start
      · rw [if_pos hj] at hsolid
        exact ⟨hsolid, by omega, by omega⟩
      · rw [if_neg hj] at hsolid
        obtain ⟨byte, hbyte, -⟩ := hsolid
        cases hbyte
  rw [hmoved, Set.ncard_image_of_injective _ (add_right_injective start), solidBytes_eq_ncard]

/-! ## The sweep -/

/-- A stretch that goes on behind what was swept adds itself from there, and leaves what is behind its
stop to the others. -/
theorem swept_cons_of_lt {start stop reached : Nat} (hfirst : ∀ span ∈ spans, start ≤ span.1)
    (hlt : max start reached < stop) :
    {i | IsSolidAt bytes i ∧ reached ≤ i ∧ ∃ span ∈ (start, stop) :: spans, Span.Holds span i}
      = {i | IsSolidAt bytes i ∧ Span.Holds (max start reached, stop) i} ∪
        {i | IsSolidAt bytes i ∧ stop ≤ i ∧ ∃ span ∈ spans, span.Holds i} := by
  ext i
  simp only [Set.mem_ofPred_eq, Set.mem_union, List.exists_mem_cons_iff]
  constructor
  · rintro ⟨hsolid, hreached, hheld⟩
    by_cases hbehind : stop ≤ i
    · rcases hheld with ⟨-, hstop⟩ | hheld
      · exact absurd hbehind (Nat.not_le.2 hstop)
      · exact .inr ⟨hsolid, hbehind, hheld⟩
    · -- The others start behind the start of this one, so what they hold before its stop it holds too.
      have hstart : start ≤ i := by
        rcases hheld with ⟨hstart, -⟩ | ⟨span, hmem, hspan, -⟩
        · exact hstart
        · exact Nat.le_trans (hfirst span hmem) hspan
      exact .inl ⟨hsolid, Nat.max_le.2 ⟨hstart, hreached⟩, Nat.not_le.1 hbehind⟩
  · rintro (⟨hsolid, hmax, hstop⟩ | ⟨hsolid, hbehind, hheld⟩)
    · obtain ⟨hstart, hreached⟩ := Nat.max_le.1 hmax
      exact ⟨hsolid, hreached, .inl ⟨hstart, hstop⟩⟩
    · exact ⟨hsolid, by omega, .inr hheld⟩

/-- A stretch that was swept before adds nothing. -/
theorem swept_cons_of_le {start stop reached : Nat} (hle : ¬max start reached < stop) :
    {i | IsSolidAt bytes i ∧ reached ≤ i ∧ ∃ span ∈ (start, stop) :: spans, Span.Holds span i}
      = {i | IsSolidAt bytes i ∧ reached ≤ i ∧ ∃ span ∈ spans, span.Holds i} := by
  ext i
  simp only [Set.mem_ofPred_eq, List.exists_mem_cons_iff]
  constructor
  · rintro ⟨hsolid, hreached, ⟨hstart, hstop⟩ | hheld⟩
    · exact absurd (Nat.lt_of_le_of_lt (Nat.max_le.2 ⟨hstart, hreached⟩) hstop) hle
    · exact ⟨hsolid, hreached, hheld⟩
  · rintro ⟨hsolid, hreached, hheld⟩
    exact ⟨hsolid, hreached, .inr hheld⟩

/-- What a sweep counts: the solid positions from some offset on that are in one of the stretches. It
takes the stretches in the order of their starts, so that none of those to come goes back behind the
start of the one at hand. -/
theorem sweep_eq_ncard (hsorted : spans.Pairwise fun a b => a.1 ≤ b.1) (reached : Nat) :
    sweep bytes reached spans
      = {i | IsSolidAt bytes i ∧ reached ≤ i ∧ ∃ span ∈ spans, span.Holds i}.ncard := by
  induction spans generalizing reached with
  | nil => simp [sweep]
  | cons span spans ih =>
    obtain ⟨start, stop⟩ := span
    obtain ⟨hfirst, hsorted⟩ := List.pairwise_cons.1 hsorted
    simp only [sweep]
    split
    case isTrue hlt =>
      have hdisjoint : Disjoint {i | IsSolidAt bytes i ∧ Span.Holds (max start reached, stop) i}
          {i | IsSolidAt bytes i ∧ stop ≤ i ∧ ∃ span ∈ spans, span.Holds i} := by
        rw [Set.disjoint_left]
        rintro i ⟨-, -, hstop⟩ ⟨-, hbehind, -⟩
        exact absurd hbehind (Nat.not_le.2 hstop)
      rw [swept_cons_of_lt hfirst hlt, Set.ncard_union_eq hdisjoint (finite_isSolidAt _ _)
        (finite_isSolidAt _ _), solidBytes_byteRange, ih hsorted]
    case isFalse hle => rw [swept_cons_of_le hle, ih hsorted]

/-- Stretches in the order in which they are swept are in the order of their starts. -/
theorem pairwise_mergeSort_spanOrder (spans : List Span) :
    (spans.mergeSort spanOrder).Pairwise fun a b => a.1 ≤ b.1 := by
  refine (List.pairwise_mergeSort ?_ ?_ spans).imp ?_
  · intro a b c hab hbc
    simp only [spanOrder, Bool.or_eq_true, Bool.and_eq_true, decide_eq_true_eq, beq_iff_eq]
      at hab hbc ⊢
    omega
  · intro a b
    simp only [spanOrder, Bool.or_eq_true, Bool.and_eq_true, decide_eq_true_eq, beq_iff_eq]
    omega
  · intro a b hab
    simp only [spanOrder, Bool.or_eq_true, Bool.and_eq_true, decide_eq_true_eq, beq_iff_eq] at hab
    omega

/-- **The bytes covered by stretches are those of their union**, each counted once however the
stretches overlap, nest or coincide, and whether or not they are empty or go past the end. -/
theorem coveredBytes_eq_ncard (bytes : List UInt8) (spans : List Span) :
    coveredBytes bytes spans
      = {i | IsSolidAt bytes i ∧ ∃ span ∈ spans, span.Holds i}.ncard := by
  rw [coveredBytes, sweep_eq_ncard (pairwise_mergeSort_spanOrder spans)]
  simp only [List.mem_mergeSort, Nat.zero_le, true_and]

/-! ## Damaged stretches -/

namespace Node

/-- A node on an agenda makes way for its children, if it is opened. -/
theorem forall_mem_opened {P : Node → Prop} (hchildren : ∀ n, P n → ∀ m ∈ n.children, P m)
    {n : Node} {agenda : List Node} (hn : P n) (hagenda : ∀ m ∈ agenda, P m) :
    ∀ m ∈ (if n.label.hasError then n.children else []) ++ agenda, P m := by
  refine List.forall_mem_append.2 ⟨?_, hagenda⟩
  split
  · exact hchildren n hn
  · simp

/-- What holds of the nodes on an agenda, and of the children of every node of which it holds, holds
of all damaged nodes that are found. These are error nodes or missing nodes. -/
theorem damageFrom_forall {P : Node → Prop} (hchildren : ∀ n, P n → ∀ m ∈ n.children, P m)
    {agenda : List Node} (hagenda : ∀ n ∈ agenda, P n) :
    ∀ n ∈ damageFrom agenda, P n ∧ (n.label.isError = true ∨ n.label.isMissing = true) := by
  induction agenda using damageFrom.induct with
  | case1 => simp [damageFrom]
  | case2 n agenda herror ih =>
    obtain ⟨hn, hagenda⟩ := List.forall_mem_cons.1 hagenda
    rw [damageFrom, if_pos herror]
    exact List.forall_mem_cons.2 ⟨⟨hn, .inl herror⟩, ih hagenda⟩
  | case3 n agenda herror opened hmissing ih =>
    obtain ⟨hn, hagenda⟩ := List.forall_mem_cons.1 hagenda
    rw [damageFrom, if_neg herror, if_pos hmissing]
    exact List.forall_mem_cons.2 ⟨⟨hn, .inr hmissing⟩, ih (forall_mem_opened hchildren hn hagenda)⟩
  | case4 n agenda herror opened hmissing ih =>
    obtain ⟨hn, hagenda⟩ := List.forall_mem_cons.1 hagenda
    rw [damageFrom, if_neg herror, if_neg hmissing]
    exact ih (forall_mem_opened hchildren hn hagenda)

theorem isError_or_isMissing {root n : Node} (h : n ∈ root.damage) :
    n.label.isError = true ∨ n.label.isMissing = true :=
  (damageFrom_forall (P := fun _ => True) (fun _ _ _ _ => trivial) (fun _ _ => trivial) n h).2

/-- Whether a kind is that of a block, a statement or a declaration. -/
def IsStatement (kind : String) : Prop :=
  kind = "statement_block" ∨ "_statement".toList <:+ kind.toList ∨
    "_declaration".toList <:+ kind.toList

theorem isStatementKind_iff {kind : String} : isStatementKind kind = true ↔ IsStatement kind := by
  simp [isStatementKind, IsStatement, Text.endsWith, List.isSuffixOf_iff_suffix, or_assoc]

/-- The stretch that a damaged node stands for. An error node covers itself. A missing node spoils
the nearest block, statement or declaration above it, which has to be below the root; without one it
stands for nothing. -/
inductive Damages (n : Node) : Span → Prop
  | error (herror : n.label.isError = true) : Damages n (n.label.start, n.label.stop)
  | missing {above : Node} {inner outer : List Node} (herror : n.label.isError = false)
    (hmissing : n.label.isMissing = true) (habove : n.ancestors = inner ++ above :: outer)
    (hbelow : outer ≠ []) (hkind : IsStatement above.kind)
    (hnearest : ∀ other ∈ inner, ¬IsStatement other.kind) :
    Damages n (above.label.start, above.label.stop)

theorem enclosingStatement?_eq_some_iff {n above : Node} :
    n.enclosingStatement? = some above ↔
      ∃ inner outer, n.ancestors = inner ++ above :: outer ∧ outer ≠ [] ∧
        IsStatement above.kind ∧ ∀ other ∈ inner, ¬IsStatement other.kind := by
  rw [enclosingStatement?, List.find?_eq_some_iff_append]
  simp only [Bool.not_eq_true', ← isStatementKind_iff, Bool.not_eq_true]
  constructor
  · rintro ⟨hkind, inner, outer, heq, hnearest⟩
    -- The ancestors end in the root, which is left out of the search.
    cases hlast : n.ancestors.getLast? with
    | none => simp_all
    | some last =>
      have hancestors := List.dropLast_append_getLast? last hlast
      rw [heq, List.append_assoc, List.cons_append] at hancestors
      exact ⟨inner, outer ++ [last], hancestors.symm, by simp, hkind, hnearest⟩
  · rintro ⟨inner, outer, heq, hbelow, hkind, hnearest⟩
    refine ⟨hkind, inner, outer.dropLast, ?_, hnearest⟩
    rw [heq, List.dropLast_append_of_ne_nil (by simp), List.dropLast_cons_of_ne_nil hbelow]

end Node

theorem mem_damagedSpans {root : Node} {span : Span} :
    span ∈ damagedSpans root ↔ ∃ n ∈ root.damage, n.Damages span := by
  rw [damagedSpans, List.mem_filterMap]
  refine exists_congr fun n => and_congr_right fun hmem => ?_
  -- An error node is damaged where it stands, a missing one where the statement around it stands.
  cases herror : n.label.isError with
  | true =>
    rw [damagedSpan?, if_pos herror]
    constructor
    · intro h
      cases h
      exact .error herror
    · intro h
      cases h with
      | error => rfl
      | missing herror' => rw [herror] at herror'; cases herror'
  | false =>
    rw [damagedSpan?, if_neg (by simp [herror]), Option.map_eq_some_iff]
    constructor
    · rintro ⟨above, habove, rfl⟩
      obtain ⟨inner, outer, hancestors, hbelow, hkind, hnearest⟩ :=
        Node.enclosingStatement?_eq_some_iff.1 habove
      have hmissing := (Node.isError_or_isMissing hmem).resolve_left (by simp [herror])
      exact .missing herror hmissing hancestors hbelow hkind hnearest
    · intro h
      cases h with
      | error herror' => rw [herror] at herror'; cases herror'
      | missing _ hmissing hancestors hbelow hkind hnearest =>
        exact ⟨_, Node.enclosingStatement?_eq_some_iff.2
          ⟨_, _, hancestors, hbelow, hkind, hnearest⟩, rfl⟩

/-! ## The damaged share -/

/-- The positions of the solid bytes of a document that are in some damaged stretch. -/
def Document.damagedPositions (d : Document) : Set Nat :=
  {i | IsSolidAt d.bytes i ∧ ∃ n ∈ d.root.damage, ∃ span, n.Damages span ∧ span.Holds i}

theorem total_damageOf (d : Document) :
    (damageOf d).total = {i | IsSolidAt d.bytes i}.ncard := by
  rw [← solidBytes_eq_ncard, damageOf]
  split <;> rfl

theorem damaged_damageOf {d : Document} (hroot : d.tree.label.isError = false) :
    (damageOf d).damaged = d.damagedPositions.ncard := by
  rw [damageOf, if_neg (by simp [hroot])]
  show coveredBytes d.bytes (damagedSpans d.root) = _
  rw [coveredBytes_eq_ncard]
  congr 1
  ext i
  simp only [Document.damagedPositions, Set.mem_ofPred_eq, mem_damagedSpans]
  constructor
  · rintro ⟨hsolid, span, ⟨n, hmem, hdamages⟩, hholds⟩
    exact ⟨hsolid, n, hmem, span, hdamages, hholds⟩
  · rintro ⟨hsolid, n, hmem, span, hdamages, hholds⟩
    exact ⟨hsolid, span, ⟨n, hmem, hdamages⟩, hholds⟩

/-- No more is damaged than there is. -/
theorem damaged_le_total (d : Document) : (damageOf d).damaged ≤ (damageOf d).total := by
  cases hroot : d.tree.label.isError with
  | true => simp [damageOf, hroot]
  | false =>
    rw [damaged_damageOf hroot, total_damageOf]
    refine Set.ncard_le_ncard (fun i hi => hi.1) ?_
    simpa using finite_isSolidAt d.bytes fun _ => True

/-- **Whether one half is reached**: at least half of a text is damaged exactly if the share in floating
point is one half or more. The rounding would only matter in texts of more bytes than fit into fifty-two
bits. -/
theorem DamageShare.isHopeless_iff_half_le {share : DamageShare}
    (hle : share.damaged ≤ share.total) (hshort : share.total < 2 ^ 52) :
    share.isHopeless = true ↔ 1 / 2 ≤ share.fraction.value := by
  rw [isHopeless, fraction]
  by_cases htotal : share.total = 0
  · rw [if_pos htotal, Binary.value_finite_false]
    norm_num [htotal]
  · rw [if_neg htotal, Binary.half_le_iff (Nat.pos_of_ne_zero htotal) hle hshort]
    simp [htotal]

/-- **The damaged share is the share of the solid bytes in some damaged stretch**, as closely as
floating point can tell it, unless the root is an error node, which damages everything. However the
stretches lie, each byte counts once, and the share is between zero and one. -/
theorem damageOf_nearest (d : Document) (hsolid : ∃ i, IsSolidAt d.bytes i) :
    (d.tree.label.isError = false →
      (damageOf d).fraction.IsNearest
        (d.damagedPositions.ncard / {i | IsSolidAt d.bytes i}.ncard)) ∧
    (d.tree.label.isError = true → (damageOf d).fraction.IsNearest 1) ∧
    (damageOf d).fraction.value ∈ Set.Icc (0 : ℚ) 1 := by
  have htotal : 0 < (damageOf d).total := by
    rw [total_damageOf, Set.ncard_pos (by simpa using finite_isSolidAt d.bytes fun _ => True)]
    exact hsolid
  have hle := damaged_le_total d
  rw [DamageShare.fraction, if_neg htotal.ne']
  refine ⟨fun hroot => ?_, fun hroot => ?_, Binary.value_ofRatio_mem htotal hle⟩
  · rw [← total_damageOf, ← damaged_damageOf hroot]
    exact Binary.isNearest_ofRatio_of_le htotal hle
  · -- Everything is damaged if the root is an error node, so the ratio is one.
    have hall : (damageOf d).damaged = (damageOf d).total := by
      rw [damageOf, if_pos hroot]
    rw [hall, ← div_self (Nat.cast_ne_zero.2 htotal.ne' : ((damageOf d).total : ℚ) ≠ 0)]
    exact Binary.isNearest_ofRatio_of_le htotal le_rfl

/-- An error node, and a statement with a missing node that overlaps it and goes past the end. -/
def overlapping : Document where
  bytes := [97, 32, 98, 32, 99, 32, 100]
  tree :=
    .node ⟨"program", true, false, false, true, 0, 7, none⟩
      [.node ⟨"ERROR", true, true, false, true, 2, 5, none⟩ [],
        .node ⟨"expression_statement", true, false, false, true, 4, 9, none⟩
          [.node ⟨"identifier", true, false, true, true, 9, 9, none⟩ []]]

theorem damageOf_overlapping : damageOf overlapping = ⟨3, 4⟩ := by
  have hdamage : damagedSpans overlapping.root = [(2, 5), (4, 9)] := by
    simp [damagedSpans, Node.damage, Node.damageFrom, Document.root, overlapping, Node.label,
      Node.tree, Tree.label, Node.children, Tree.children, Node.place, damagedSpan?,
      Node.enclosingStatement?, Node.kind]
    decide
  have hsorted : [(2, 5), (4, 9)].mergeSort spanOrder = [(2, 5), (4, 9)] :=
    List.mergeSort_of_pairwise (by decide)
  rw [damageOf, hdamage, coveredBytes, hsorted]
  rfl

/-- One byte is in both stretches, and it counts once. -/
theorem damageOf_nearest_overlapping :
    (∃ i, IsSolidAt overlapping.bytes i) ∧ overlapping.tree.label.isError = false ∧
      {i | IsSolidAt overlapping.bytes i}.ncard = 4 ∧ overlapping.damagedPositions.ncard = 3 ∧
      (damageOf overlapping).fraction.value = 3 / 4 := by
  have hsolid : ∃ i, IsSolidAt overlapping.bytes i := ⟨0, 97, rfl, rfl⟩
  have htotal : {i | IsSolidAt overlapping.bytes i}.ncard = 4 := by
    rw [← total_damageOf, damageOf_overlapping]
  have hdamaged : overlapping.damagedPositions.ncard = 3 := by
    rw [← damaged_damageOf rfl, damageOf_overlapping]
  have hnearest := (damageOf_nearest overlapping hsolid).1 rfl
  rw [htotal, hdamaged] at hnearest
  -- Three quarters are a value of floating point, so nothing else is as close.
  have hexact := hnearest.closest (3 / 4) ⟨3, -2, by norm_num, by norm_num, by norm_num, by norm_num⟩
  norm_num at hexact
  exact ⟨hsolid, rfl, htotal, hdamaged, by linarith⟩

/-- One letter that is damaged and forty-eight that are not. -/
def sparse : Document where
  bytes := List.replicate 49 97
  tree :=
    .node ⟨"program", true, false, false, true, 0, 49, none⟩
      [.node ⟨"ERROR", true, true, false, true, 0, 1, none⟩ []]

theorem damageOf_sparse : damageOf sparse = ⟨1, 49⟩ := by
  have hdamage : damagedSpans sparse.root = [(0, 1)] := by
    simp [damagedSpans, Node.damage, Node.damageFrom, Document.root, sparse, Node.label, Node.tree,
      Tree.label, Node.children, Tree.children, Node.place, damagedSpan?]
  rw [damageOf, hdamage, coveredBytes, List.mergeSort_singleton]
  decide

/-- The share times the number of solid bytes need not be the number of damaged ones: it is less than
one here, and one is not even the value of floating point that is nearest to it. -/
theorem not_fraction_mul_ncard :
    sparse.tree.label.isError = false ∧ {i | IsSolidAt sparse.bytes i}.ncard = 49 ∧
      sparse.damagedPositions.ncard = 1 ∧ (damageOf sparse).fraction.value * 49 < 1 ∧
      ∃ y, IsDouble y ∧ |y - (damageOf sparse).fraction.value * 49|
        < |1 - (damageOf sparse).fraction.value * 49| := by
  have htotal : {i | IsSolidAt sparse.bytes i}.ncard = 49 := by
    rw [← total_damageOf, damageOf_sparse]
  have hdamaged : sparse.damagedPositions.ncard = 1 := by
    rw [← damaged_damageOf rfl, damageOf_sparse]
  -- The value nearest to one part in forty-nine lies below it.
  have hfraction : (damageOf sparse).fraction = .finite false 5882252574524729 (-58) := by
    have hexponent : Binary.ratioExponent 1 49 = -58 := by decide
    have hunits : Binary.units 1 49 = 5882252574524729 := by
      rw [Binary.units, hexponent]
      decide
    have hproper : 1 ≤ 49 * Nat.pow 2 0 := by decide
    rw [damageOf_sparse, DamageShare.fraction, if_neg (by decide),
      Binary.ofRatio_eq (by decide) hproper (Nat.zero_le 52), hunits, hexponent]
  rw [hfraction, Binary.value_finite_false]
  refine ⟨rfl, htotal, hdamaged, by norm_num, 1 - 1 / 2 ^ 53, ?_, ?_⟩
  · exact ⟨2 ^ 53 - 1, -53, by norm_num, by norm_num, by norm_num, by norm_num⟩
  · rw [abs_of_neg (by norm_num), abs_of_pos (by norm_num)]
    norm_num

end ScriptAudit
