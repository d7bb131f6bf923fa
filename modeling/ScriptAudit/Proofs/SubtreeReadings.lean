import ScriptAudit.Proofs.ReplacedSubtree

/-!
# What subtrees say

Where a node stands in a text makes no difference to most rules. They go by kinds, roles and texts. So two
subtrees of two documents, at other offsets and under other parents, are the same to them if they say the
same. And two nodes are in the same surroundings if all that is beside the way to them says the same, and
what is above them is of the same kind, even though it may cover another text.

- `Tree.reading`: what a subtree says. `Node.child?_reading`, `Node.exists_reaches_congr`: **what is in a
  role, and what is found below, depends on that only**, and so do the parts of calls
  (`Document.callMethod_congr`, `Document.receiverName_congr`).
- `Node.SameAround`: all around two nodes is the same. `Node.SameAround.reaches`: **what is reached is reached
  there too**; `Node.SameAround.reading_child?`, `Node.SameAround.text?_child?`: what the others among the
  children say.
- `Node.SameAround.exists_above`: above two nodes in the same surroundings there are such nodes again.
-/

namespace ScriptAudit

/-- How a node stands in its parent: whether the grammar names it, and its role. -/
structure Standing where
  named : Bool
  field : Option String
deriving DecidableEq

/-- How a label says that its node stands. -/
def Label.standing (label : Label) : Standing :=
  ⟨label.named, label.field⟩

/-- What a subtree says: its kind, its text, and what is below it, each subtree with how it stands. -/
inductive Reading where
  | node (kind text : String) (parts : List (Standing × Reading))

namespace Reading

/-- The kind of the root. -/
def kind : Reading → String
  | node kind _ _ => kind

/-- The text of the root. -/
def text : Reading → String
  | node _ text _ => text

/-- What is directly below the root. -/
def parts : Reading → List (Standing × Reading)
  | node _ _ parts => parts

/-- What the first one with a given role says. -/
def child? (reading : Reading) (field : String) : Option Reading :=
  (reading.parts.find? (·.1.field == some field)).map (·.2)

/-- What the named ones directly below say. -/
def namedChildren (reading : Reading) : List Reading :=
  (reading.parts.filter (·.1.named)).map (·.2)

end Reading

mutual

/-- What a subtree of a document says. -/
def Tree.reading (d : Document) : Tree → Reading
  | .node label trees => .node label.kind (d.text (.root (.node label trees))) (Tree.readings d trees)

/-- What subtrees of a document say, each with how it stands. -/
def Tree.readings (d : Document) : List Tree → List (Standing × Reading)
  | [] => []
  | tree :: trees => (tree.label.standing, Tree.reading d tree) :: Tree.readings d trees

end

theorem Tree.readings_eq_map (d : Document) (trees : List Tree) :
    Tree.readings d trees = trees.map fun tree => (tree.label.standing, tree.reading d) := by
  induction trees with
  | nil => rfl
  | cons tree trees ih => exact congrArg (_ :: ·) ih

section Leaf

variable {d d' : Document} {label label' : Label}

/-- A leaf says no more than its kind and its text. -/
theorem Tree.reading_leaf (hkind : label.kind = label'.kind)
    (htext : d.text (.root (.node label [])) = d'.text (.root (.node label' []))) :
    (Tree.node label []).reading d = (Tree.node label' []).reading d' := by
  rw [Tree.reading, Tree.reading, hkind, htext, Tree.readings, Tree.readings]

theorem Tree.readings_leaf (hstanding : label.standing = label'.standing) (hkind : label.kind = label'.kind)
    (htext : d.text (.root (.node label [])) = d'.text (.root (.node label' []))) :
    Tree.readings d [.node label []] = Tree.readings d' [.node label' []] := by
  rw [Tree.readings_eq_map, Tree.readings_eq_map, List.map_singleton, List.map_singleton,
    Tree.reading_leaf hkind htext, Tree.label, Tree.label, hstanding]

end Leaf

/-- What a node of a document says. -/
def Node.reading (d : Document) (n : Node) : Reading :=
  n.tree.reading d

variable {d d' : Document} {n n' m m' : Node}

namespace Node

/-! ## What depends on readings only -/

theorem kind_reading (d : Document) (n : Node) : (n.reading d).kind = n.kind := by
  rw [reading, kind, label]
  cases n.tree
  rfl

theorem text_reading (d : Document) (n : Node) : (n.reading d).text = d.text n := by
  have htext : d.text n = d.text (root n.tree) := rfl
  rw [htext, reading]
  cases n.tree
  rfl

theorem parts_reading (d : Document) (n : Node) :
    (n.reading d).parts = n.children.map fun m => (m.label.standing, m.reading d) := by
  have hparts : (n.reading d).parts = Tree.readings d n.tree.children := by
    rw [reading]
    cases n.tree
    rfl
  rw [hparts, Tree.readings_eq_map, ← map_tree_place n 0 n.tree.children, List.map_map]
  rfl

theorem child?_reading (d : Document) (n : Node) (field : String) :
    (n.child? field).map (reading d) = (n.reading d).child? field := by
  rw [Reading.child?, parts_reading, List.find?_map, Option.map_map]
  rfl

theorem namedChildren_reading (d : Document) (n : Node) :
    n.namedChildren.map (reading d) = (n.reading d).namedChildren := by
  rw [Reading.namedChildren, parts_reading, List.filter_map, List.map_map]
  rfl

theorem kind_congr (h : n.reading d = n'.reading d') : n.kind = n'.kind := by
  rw [← kind_reading d, h, kind_reading]

theorem text_congr (h : n.reading d = n'.reading d') : d.text n = d'.text n' := by
  rw [← text_reading, h, text_reading]

theorem child?_congr (h : n.reading d = n'.reading d') (field : String) :
    (n.child? field).map (reading d) = (n'.child? field).map (reading d') := by
  rw [child?_reading, h, child?_reading]

theorem namedChildren_congr (h : n.reading d = n'.reading d') :
    n.namedChildren.map (reading d) = n'.namedChildren.map (reading d') := by
  rw [namedChildren_reading, h, namedChildren_reading]

/-- What is found from a node on is found from every node on that says the same. -/
theorem exists_reaches_of_reading_eq (h : n.reading d = n'.reading d') (hm : n.Reaches m) :
    ∃ m', n'.Reaches m' ∧ m.reading d = m'.reading d' := by
  induction hm with
  | refl => exact ⟨n', .refl, h⟩
  | tail _ hchild ih =>
    obtain ⟨above, habove, hreading⟩ := ih
    have hmem := List.mem_map_of_mem (f := reading d) hchild
    rw [namedChildren_congr hreading] at hmem
    obtain ⟨child, hchild, hsame⟩ := List.mem_map.1 hmem
    exact ⟨child, habove.tail hchild, hsame.symm⟩

section Found

variable {P P' : Node → Prop} (hP : ∀ m m' : Node, m.reading d = m'.reading d' → (P m ↔ P' m'))
include hP

/-- **Whether something is found from a node on depends on what the node says.** -/
theorem exists_reaches_congr (h : n.reading d = n'.reading d') :
    (∃ m, n.Reaches m ∧ P m) ↔ ∃ m', n'.Reaches m' ∧ P' m' := by
  constructor
  · rintro ⟨m, hm, hfound⟩
    obtain ⟨m', hm', hsame⟩ := exists_reaches_of_reading_eq h hm
    exact ⟨m', hm', (hP m m' hsame).1 hfound⟩
  · rintro ⟨m', hm', hfound⟩
    obtain ⟨m, hm, hsame⟩ := exists_reaches_of_reading_eq h.symm hm'
    exact ⟨m, hm, (hP m m' hsame.symm).2 hfound⟩

theorem exists_isAbove_congr (h : n.reading d = n'.reading d') :
    (∃ m, n.IsAbove m ∧ P m) ↔ ∃ m', n'.IsAbove m' ∧ P' m' := by
  -- What is above a node reaches it through one of its named children.
  have hsplit (n : Node) (Q : Node → Prop) :
      (∃ m, n.IsAbove m ∧ Q m) ↔ ∃ child ∈ n.namedChildren, ∃ m, child.Reaches m ∧ Q m := by
    constructor
    · rintro ⟨m, ⟨child, hchild, hm⟩, hfound⟩
      exact ⟨child, hchild, m, hm, hfound⟩
    · rintro ⟨child, hchild, m, hm, hfound⟩
      exact ⟨m, ⟨child, hchild, hm⟩, hfound⟩
  have hchildren := namedChildren_congr h
  rw [hsplit, hsplit]
  constructor
  · rintro ⟨child, hchild, hfound⟩
    -- Children with the same reading stand in both, so one is found where the other is.
    have hmem := List.mem_map_of_mem (f := reading d) hchild
    rw [hchildren] at hmem
    obtain ⟨child', hchild', hsame⟩ := List.mem_map.1 hmem
    exact ⟨child', hchild', (exists_reaches_congr hP hsame.symm).1 hfound⟩
  · rintro ⟨child', hchild', hfound⟩
    have hmem := List.mem_map_of_mem (f := reading d') hchild'
    rw [← hchildren] at hmem
    obtain ⟨child, hchild, hsame⟩ := List.mem_map.1 hmem
    exact ⟨child, hchild, (exists_reaches_congr hP hsame).2 hfound⟩

end Found

theorem memberObject?_congr (h : n.reading d = n'.reading d') :
    n.memberObject?.map (reading d) = n'.memberObject?.map (reading d') := by
  rw [memberObject?, memberObject?, kind_congr h]
  split
  · exact child?_congr h "object"
  · rfl

end Node

namespace Document

open Node

variable {part part' : Option Node}

/-- The text of what may be absent is in its reading. -/
theorem text?_eq (d : Document) (part : Option Node) :
    d.text? part = ((part.map (Node.reading d)).map Reading.text).getD "" := by
  rw [text?, Option.map_map]
  exact congrArg (Option.getD · "") (Option.map_congr fun n _ => (text_reading d n).symm)

theorem text?_congr (h : part.map (Node.reading d) = part'.map (Node.reading d')) :
    d.text? part = d'.text? part' := by
  rw [text?_eq, h, ← text?_eq]

/-- Where two nodes that may be absent say the same, both are absent or both are there. -/
theorem absent_or_same (h : part.map (Node.reading d) = part'.map (Node.reading d')) :
    (part = none ∧ part' = none) ∨
      ∃ n n', part = some n ∧ part' = some n' ∧ n.reading d = n'.reading d' := by
  cases part with
  | none => exact .inl ⟨rfl, Option.map_eq_none_iff.1 h.symm⟩
  | some n =>
    obtain ⟨n', hn', hsame⟩ := Option.map_eq_some_iff.1 h.symm
    exact .inr ⟨n, n', rfl, hn', hsame.symm⟩

theorem memberProperty_congr (h : part.map (Node.reading d) = part'.map (Node.reading d')) :
    d.memberProperty part = d'.memberProperty part' := by
  rcases absent_or_same h with ⟨rfl, rfl⟩ | ⟨n, n', rfl, rfl, hsame⟩
  · rfl
  · show (if n.kind = "member_expression" then d.text? (n.child? "property") else "") = _
    rw [kind_congr hsame, text?_congr (child?_congr hsame "property")]
    rfl

theorem identifierText_congr (h : part.map (Node.reading d) = part'.map (Node.reading d')) :
    d.identifierText part = d'.identifierText part' := by
  rcases absent_or_same h with ⟨rfl, rfl⟩ | ⟨n, n', rfl, rfl, hsame⟩
  · rfl
  · show (if n.isIdentifier then d.text n else "") = if n'.isIdentifier then d'.text n' else ""
    rw [isIdentifier, isIdentifier, kind_congr hsame, text_congr hsame]

theorem callMethod_congr (h : n.reading d = n'.reading d') : d.callMethod n = d'.callMethod n' :=
  memberProperty_congr (child?_congr h "function")

/-- The object that a call calls a method on. -/
theorem receiver_congr (h : n.reading d = n'.reading d') :
    (n.callee?.bind memberObject?).map (Node.reading d)
      = (n'.callee?.bind memberObject?).map (Node.reading d') := by
  rcases absent_or_same (child?_congr h "function") with ⟨hn, hn'⟩ | ⟨callee, callee', hn, hn', hsame⟩
  · rw [callee?, callee?, hn, hn']
    rfl
  · rw [callee?, callee?, hn, hn']
    exact memberObject?_congr hsame

theorem receiverName_congr (h : n.reading d = n'.reading d') : d.receiverName n = d'.receiverName n' :=
  identifierText_congr (receiver_congr h)

end Document

namespace Node

/-! ## Surroundings -/

/-- Whether all around two nodes is the same: what is beside the way from the root to them says the same, and
what is on it is of the same kind and stands in the same way. -/
inductive SameAround (d d' : Document) : Node → Node → Prop
  | start : SameAround d d' (root d.tree) (root d'.tree)
  | step {n n' : Node} {index : Nat} {tree tree' : Tree} (above : SameAround d d' n n')
      (kind : n.kind = n'.kind) (here : n.tree.children[index]? = some tree)
      (here' : n'.tree.children[index]? = some tree')
      (standing : tree.label.standing = tree'.label.standing)
      (earlier : Tree.readings d (n.tree.children.take index)
        = Tree.readings d' (n'.tree.children.take index))
      (later : Tree.readings d (n.tree.children.drop (index + 1))
        = Tree.readings d' (n'.tree.children.drop (index + 1))) :
    SameAround d d' (child n index tree) (child n' index tree')

theorem SameAround.path_eq (h : SameAround d d' n n') : n.path = n'.path := by
  induction h with
  | start => rfl
  | @step _ _ index _ _ _ _ _ _ _ _ _ ih => exact congrArg (index :: ·) ih

/-- Beside an only child there is nothing. -/
theorem SameAround.of_only_child {tree tree' : Tree} (h : SameAround d d' n n') (kind : n.kind = n'.kind)
    (here : n.tree.children = [tree]) (here' : n'.tree.children = [tree'])
    (standing : tree.label.standing = tree'.label.standing) :
    SameAround d d' (child n 0 tree) (child n' 0 tree') := by
  refine .step h kind ?_ ?_ standing ?_ ?_
  · rw [here]
    rfl
  · rw [here']
    rfl
  · rfl
  · rw [here, here']
    rfl

/-- **What is reached is reached in the other document as well.** -/
theorem SameAround.reaches (h : SameAround d d' n n') (hn : d.root.Reaches n) : d'.root.Reaches n' := by
  induction h with
  | start => exact .refl
  | @step n n' index tree tree' _ _ _ here' standing _ _ ih =>
    obtain ⟨habove, hmem⟩ := hn.parent rfl
    have hnamed : tree'.label.named = true :=
      (congrArg Standing.named standing).symm.trans (List.mem_filter.1 hmem).2
    refine (ih habove).tail (List.mem_filter.2 ⟨?_, hnamed⟩)
    exact mem_children_iff.2 ⟨index, tree', here', rfl⟩

/-- Above two nodes in the same surroundings there are two such nodes again. -/
theorem SameAround.exists_above (h : SameAround d d' n n') (hm : m.Reaches n) :
    ∃ m', SameAround d d' m m' ∧ m'.Reaches n' := by
  induction hm generalizing n' with
  | refl => exact ⟨n', h, .refl⟩
  | tail _ hchild ih =>
    obtain ⟨hmem, hnamed⟩ := List.mem_filter.1 hchild
    obtain ⟨index, tree, -, rfl⟩ := mem_children_iff.1 hmem
    cases h with
    | @step _ above' _ _ tree' above _ _ here' standing _ _ =>
      obtain ⟨m', hm', hreaches⟩ := ih above
      refine ⟨m', hm', hreaches.tail (List.mem_filter.2 ⟨?_, ?_⟩)⟩
      · exact mem_children_iff.2 ⟨index, tree', here', rfl⟩
      · exact (congrArg Standing.named standing).symm.trans hnamed

/-! ## Beside the way -/

/-- What the first one with a given role says, among subtrees. -/
theorem find?_readings (d : Document) (trees : List Tree) (field : String) :
    (trees.find? (·.label.field == some field)).map (Tree.reading d)
      = ((Tree.readings d trees).find? (·.1.field == some field)).map (·.2) := by
  rw [Tree.readings_eq_map, List.find?_map, Option.map_map]
  rfl

/-- A child in a role is in front of a given child, is that child, or is behind it. -/
theorem reading_child?_eq {index : Nat} {tree : Tree} (here : n.tree.children[index]? = some tree)
    (field : String) : (n.child? field).map (reading d)
      = (((n.tree.children.take index).find? (·.label.field == some field)).map (Tree.reading d)).or
        (if tree.label.field = some field then some (tree.reading d)
          else ((n.tree.children.drop (index + 1)).find? (·.label.field == some field)).map
            (Tree.reading d)) := by
  obtain ⟨hlt, rfl⟩ := List.getElem?_eq_some_iff.1 here
  have hreading : (n.child? field).map (reading d)
      = (n.tree.children.find? (·.label.field == some field)).map (Tree.reading d) := by
    rw [← map_tree_find?_children, Option.map_map]
    rfl
  have hsplit : n.tree.children = n.tree.children.take index
      ++ n.tree.children[index] :: n.tree.children.drop (index + 1) := by
    rw [List.getElem_cons_drop, List.take_append_drop]
  rw [hreading]
  conv => lhs; rw [hsplit, List.find?_append, List.find?_cons, Option.map_or]
  by_cases hfield : n.tree.children[index].label.field = some field
  · simp [hfield]
  · have hne : (n.tree.children[index].label.field == some field) = false := beq_false_of_ne hfield
    simp only [hne, hfield, if_false]

variable {index : Nat} {tree tree' : Tree} {field : String}

/-- What another child in a role says is the same. -/
theorem SameAround.reading_child? (h : SameAround d d' (child n index tree) (child n' index tree'))
    (hne : tree.label.field ≠ some field) :
    (n.child? field).map (reading d) = (n'.child? field).map (reading d') := by
  cases h with
  | step above kind here here' standing earlier later =>
    have hne' : tree'.label.field ≠ some field :=
      fun hfield => hne ((congrArg Standing.field standing).trans hfield)
    rw [reading_child?_eq here, reading_child?_eq here', if_neg hne, if_neg hne', find?_readings,
      find?_readings, find?_readings, find?_readings, earlier, later]

/-- The text in a role is the same, if the child on the way has another role or has the same text. -/
theorem SameAround.text?_child? (h : SameAround d d' (child n index tree) (child n' index tree'))
    (hsame : tree.label.field = some field →
      d.text (child n index tree) = d'.text (child n' index tree')) :
    d.text? (n.child? field) = d'.text? (n'.child? field) := by
  by_cases hfield : tree.label.field = some field
  · cases h with
    | step above kind here here' standing earlier later =>
      have hfield' : tree'.label.field = some field :=
        (congrArg Standing.field standing).symm.trans hfield
      have htext : (tree.reading d).text = (tree'.reading d').text :=
        (text_reading d (child n index tree)).trans
          ((hsame hfield).trans (text_reading d' (child n' index tree')).symm)
      rw [Document.text?_eq, Document.text?_eq, reading_child?_eq here, reading_child?_eq here',
        if_pos hfield, if_pos hfield', find?_readings, find?_readings, earlier, Option.map_or,
        Option.map_or, Option.map_some, Option.map_some, htext]
  · exact Document.text?_congr (h.reading_child? hfield)

theorem place_append (parent : Node) (index : Nat) (trees others : List Tree) :
    place parent index (trees ++ others)
      = place parent index trees ++ place parent (index + trees.length) others := by
  induction trees generalizing index with
  | nil => rfl
  | cons tree trees ih =>
    rw [List.cons_append, place, place, ih, List.length_cons, List.cons_append, Nat.add_right_comm,
      Nat.add_assoc]

/-- A child is the one in its role if there is none with that role in front of it. -/
theorem child?_eq_some_iff (here : n.tree.children[index]? = some tree) :
    n.child? field = some (child n index tree) ↔ tree.label.field = some field ∧
      (n.tree.children.take index).find? (·.label.field == some field) = none := by
  obtain ⟨hlt, rfl⟩ := List.getElem?_eq_some_iff.1 here
  have hlength : (n.tree.children.take index).length = index := List.length_take_of_le (Nat.le_of_lt hlt)
  have hsplit : n.children = place n 0 (n.tree.children.take index)
      ++ child n index n.tree.children[index]
        :: place n (index + 1) (n.tree.children.drop (index + 1)) := by
    have hplace : child n index n.tree.children[index] :: place n (index + 1) (n.tree.children.drop (index + 1))
        = place n (0 + (n.tree.children.take index).length) (n.tree.children.drop index) := by
      rw [hlength, Nat.zero_add, ← List.getElem_cons_drop hlt, place]
    rw [hplace, ← place_append, List.take_append_drop]
    rfl
  have hnone : (place n 0 (n.tree.children.take index)).find? (·.label.field == some field) = none ↔
      (n.tree.children.take index).find? (·.label.field == some field) = none := by
    conv => rhs; rw [← map_tree_place n 0 (n.tree.children.take index), List.find?_map]
    rw [Option.map_eq_none_iff]
    rfl
  rw [child?, hsplit, List.find?_append, ← hnone]
  constructor
  · intro hfound
    cases hearlier : (place n 0 (n.tree.children.take index)).find? (·.label.field == some field) with
    | some found =>
      -- What is found in front has a smaller index.
      rw [hearlier, Option.some_or, Option.some.injEq] at hfound
      obtain ⟨i, subtree, hi, heq⟩ := mem_place_iff.1 (List.mem_of_find?_eq_some hearlier)
      rw [hfound] at heq
      have hindex : index = 0 + i := (Node.child.inj heq).2.1
      have hlt' := (List.getElem?_eq_some_iff.1 hi).1
      omega
    | none =>
      rw [hearlier, Option.none_or] at hfound
      refine ⟨?_, rfl⟩
      by_contra hfield
      have hne : ((child n index n.tree.children[index]).label.field == some field) = false :=
        beq_false_of_ne hfield
      rw [List.find?_cons_of_neg (by simp [hne])] at hfound
      obtain ⟨i, subtree, -, heq⟩ := mem_place_iff.1 (List.mem_of_find?_eq_some hfound)
      have hindex : index = index + 1 + i := (Node.child.inj heq).2.1
      omega
  · rintro ⟨hfield, hearlier⟩
    rw [hearlier, Option.none_or, List.find?_cons_of_pos]
    exact beq_iff_eq.2 hfield

/-- The child on the way has a role in one document if it has it in the other one. -/
theorem SameAround.child?_eq (h : SameAround d d' (child n index tree) (child n' index tree'))
    (hchild : n.child? field = some (child n index tree)) :
    n'.child? field = some (child n' index tree') := by
  cases h with
  | step above kind here here' standing earlier later =>
    obtain ⟨hfield, hnone⟩ := (child?_eq_some_iff here).1 hchild
    refine (child?_eq_some_iff here').2 ⟨(congrArg Standing.field standing).symm.trans hfield, ?_⟩
    have hnone' := find?_readings d (n.tree.children.take index) field
    rw [hnone, earlier, ← find?_readings, Option.map_none] at hnone'
    exact Option.map_eq_none_iff.1 hnone'.symm

end Node

end ScriptAudit
