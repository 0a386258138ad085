import SceneAudit.CSharp.Syntax
import Mathlib.Data.List.Basic

/-!
# The nodes of a syntax tree

A node at or below another is found by the way to it: each number picks a child (`Node.at?`).  All of
them with their ways make one list (`Node.placed`), which has each way once and in order
(`pairwise_placed`, `mem_placed_iff`).  What is gathered by walking through a tree is a part of that list:
the nodes of a kind (`ofKind_eq`), and the first node that is wrong, in a tree that says correctly where
there are such nodes (`firstError?_eq`).
-/

namespace SceneAudit.CSharp

/-- The way from a node down to another, child by child. -/
abbrev Way := List Nat

namespace Node

@[simp] theorem label_mk (label : Label) (children : List Node) : (mk label children).label = label := rfl

@[simp] theorem children_mk (label : Label) (children : List Node) :
    (mk label children).children = children := rfl

@[simp] theorem kind_mk (label : Label) (children : List Node) : (mk label children).kind = label.kind := rfl

/-- Proves something of a node from its children. -/
theorem induct {P : Node → Prop} (h : ∀ label children, (∀ child ∈ children, P child) → P (mk label children))
    (node : Node) : P node :=
  Node.rec (motive_1 := P) (motive_2 := fun children => ∀ child ∈ children, P child) h
    (fun _ hchild => absurd hchild List.not_mem_nil)
    (fun _ _ hnode hrest => List.forall_mem_cons.mpr ⟨hnode, hrest⟩) node

/-! ## Ways -/

/-- The node that a way leads to. -/
def at? (node : Node) : Way → Option Node
  | [] => some node
  | index :: way => node.children[index]?.bind (·.at? way)

variable {node root : Node} {kind : String}

theorem at?_cons_eq_some_iff {index : Nat} {way : Way} :
    root.at? (index :: way) = some node ↔
      ∃ child, root.children[index]? = some child ∧ child.at? way = some node := by
  rw [at?, Option.bind_eq_some_iff]

theorem at?_append (root : Node) (front back : Way) :
    root.at? (front ++ back) = (root.at? front).bind (·.at? back) := by
  induction front generalizing root with
  | nil => rfl
  | cons index front ih =>
      rw [List.cons_append, at?, at?, Option.bind_assoc]
      congr 1
      funext child
      exact ih child

theorem at?_append_of_at? {front : Way} (h : root.at? front = some node) (back : Way) :
    root.at? (front ++ back) = node.at? back := by
  rw [at?_append, h, Option.bind_some]

/-! ## All nodes with their ways -/

mutual

/-- A node and all below it, in the order of the tree. -/
def placed : Node → List (Way × Node)
  | mk label children => ([], mk label children) :: placedIn 0 children

/-- Some nodes and all below them, where the first of the nodes is the child with the index. -/
def placedIn (index : Nat) : List Node → List (Way × Node)
  | [] => []
  | node :: rest => node.placed.map (fun (way, inner) => (index :: way, inner)) ++ placedIn (index + 1) rest

end

theorem mem_placedIn_iff {index : Nat} {nodes : List Node} {way : Way} :
    (way, node) ∈ placedIn index nodes ↔
      ∃ offset rest child, way = (index + offset) :: rest ∧ nodes[offset]? = some child ∧
        (rest, node) ∈ child.placed := by
  induction nodes generalizing index with
  | nil => simp [placedIn]
  | cons first nodes ih =>
      rw [placedIn, List.mem_append, ih]
      constructor
      · rintro (hfirst | ⟨offset, rest, child, rfl, hchild, hmem⟩)
        · obtain ⟨⟨rest, inner⟩, hmem, heq⟩ := List.mem_map.mp hfirst
          obtain ⟨rfl, rfl⟩ := Prod.mk.inj heq
          exact ⟨0, rest, first, rfl, rfl, hmem⟩
        · exact ⟨offset + 1, rest, child, by rw [Nat.add_right_comm]; rfl, hchild, hmem⟩
      · rintro ⟨offset, rest, child, rfl, hchild, hmem⟩
        cases offset with
        | zero =>
            obtain rfl := Option.some.inj hchild
            exact .inl (List.mem_map.mpr ⟨(rest, node), hmem, rfl⟩)
        | succ offset => exact .inr ⟨offset, rest, child, by rw [Nat.add_right_comm]; rfl, hchild, hmem⟩

theorem mem_placed_iff {way : Way} : (way, node) ∈ root.placed ↔ root.at? way = some node := by
  induction root using induct generalizing way with
  | h label children ih =>
      rw [placed, List.mem_cons, mem_placedIn_iff]
      cases way with
      | nil => simp [at?, eq_comm]
      | cons index way =>
          rw [at?_cons_eq_some_iff]
          constructor
          · rintro (heq | ⟨offset, rest, child, heq, hchild, hmem⟩)
            · simp at heq
            · obtain ⟨rfl, rfl⟩ := List.cons.inj heq
              rw [Nat.zero_add]
              exact ⟨child, hchild, (ih child (List.mem_of_getElem? hchild)).mp hmem⟩
          · rintro ⟨child, hchild, hway⟩
            refine .inr ⟨index, way, child, by rw [Nat.zero_add], hchild, ?_⟩
            exact (ih child (List.mem_of_getElem? hchild)).mpr hway

theorem pairwise_placedIn {nodes : List Node} (index : Nat)
    (h : ∀ node ∈ nodes, node.placed.Pairwise fun first second => first.1 < second.1) :
    (placedIn index nodes).Pairwise fun first second => first.1 < second.1 := by
  induction nodes generalizing index with
  | nil => exact .nil
  | cons node nodes ih =>
      rw [List.forall_mem_cons] at h
      rw [placedIn, List.pairwise_append, List.pairwise_map]
      refine ⟨?_, ih (index + 1) h.2, ?_⟩
      · exact h.1.imp fun hlt => List.cons_lt_cons_iff.mpr (.inr ⟨rfl, hlt⟩)
      · -- what is below the first child comes before what is below the others
        intro first hfirst second hsecond
        obtain ⟨inner, -, rfl⟩ := List.mem_map.mp hfirst
        obtain ⟨offset, rest, child, hway, -, -⟩ := mem_placedIn_iff.mp hsecond
        rw [hway]
        exact List.cons_lt_cons_iff.mpr (.inl (by omega))

theorem pairwise_placed (root : Node) :
    root.placed.Pairwise fun first second => first.1 < second.1 := by
  induction root using induct with
  | h label children ih =>
      rw [placed, List.pairwise_cons]
      refine ⟨fun second hsecond => ?_, pairwise_placedIn 0 ih⟩
      obtain ⟨offset, rest, child, hway, -, -⟩ := mem_placedIn_iff.mp hsecond
      rw [hway]
      exact List.nil_lt_cons _ _

/-- Something holds of all nodes at and below this one. -/
theorem forall_placed_iff {P : Way → Node → Prop} :
    (∀ place ∈ root.placed, P place.1 place.2) ↔ ∀ way node, root.at? way = some node → P way node := by
  constructor
  · intro h way node hway
    exact h (way, node) (mem_placed_iff.mpr hway)
  · intro h place hplace
    exact h place.1 place.2 (mem_placed_iff.mp hplace)

/-! ## The nodes of a kind -/

theorem map_snd_filter_placedIn (P : Node → Bool) (index : Nat) (nodes : List Node) :
    ((placedIn index nodes).filter fun place => P place.2).map Prod.snd =
      nodes.flatMap fun node => (node.placed.filter fun place => P place.2).map Prod.snd := by
  induction nodes generalizing index with
  | nil => rfl
  | cons node nodes ih =>
      rw [placedIn, List.filter_append, List.map_append, ih, List.flatMap_cons, List.filter_map,
        List.map_map]
      rfl

theorem ofKindIn_eq (kind : String) (nodes : List Node) : ofKindIn kind nodes = nodes.flatMap (ofKind kind) := by
  induction nodes with
  | nil => rfl
  | cons node nodes ih => rw [ofKindIn, ih, List.flatMap_cons]

theorem ofKind_eq (kind : String) (root : Node) :
    root.ofKind kind = (root.placed.filter fun place => place.2.kind = kind).map Prod.snd := by
  induction root using induct with
  | h label children ih =>
      have hin : ofKindIn kind children =
          ((placedIn 0 children).filter fun place => place.2.kind = kind).map Prod.snd := by
        rw [ofKindIn_eq, map_snd_filter_placedIn (fun node => node.kind = kind)]
        exact List.flatMap_congr ih
      rw [ofKind, placed, List.filter_cons, hin]
      by_cases hkind : label.kind = kind
      · simp [hkind]
      · simp [hkind]

/-- The node itself comes first, if it is of the kind. -/
theorem ofKind_eq_append (kind : String) (node : Node) :
    node.ofKind kind = [node].filter (·.kind = kind) ++ node.children.flatMap (ofKind kind) := by
  cases node with
  | mk label children =>
      rw [ofKind, ofKindIn_eq]
      by_cases hkind : label.kind = kind <;> simp [hkind]

theorem ofKind_of_kind_ne (h : node.kind ≠ kind) : node.ofKind kind = node.children.flatMap (ofKind kind) := by
  simp [ofKind_eq_append kind node, h]

/-- There is no node of the kind at or below this one. -/
def HasNone (kind : String) (node : Node) : Prop :=
  ∀ way inner, node.at? way = some inner → inner.kind ≠ kind

theorem hasNone_iff : node.HasNone kind ↔ node.ofKind kind = [] := by
  rw [HasNone, ← forall_placed_iff (P := fun _ inner => inner.kind ≠ kind), ofKind_eq, List.map_eq_nil_iff,
    List.filter_eq_nil_iff]
  simp

/-- Only the node itself is found where none below it is of the kind. -/
theorem ofKind_eq_filter (h : ∀ way inner, node.at? way = some inner → inner.kind = kind → way = []) :
    node.ofKind kind = [node].filter (·.kind = kind) := by
  have hbelow : node.children.flatMap (ofKind kind) = [] := by
    rw [List.flatMap_eq_nil_iff]
    intro child hchild
    obtain ⟨index, hindex⟩ := List.mem_iff_getElem?.mp hchild
    refine hasNone_iff.mp fun way inner hway hkind => ?_
    exact List.cons_ne_nil _ _ (h (index :: way) inner (at?_cons_eq_some_iff.mpr ⟨child, hindex, hway⟩) hkind)
  rw [ofKind_eq_append, hbelow, List.append_nil]

theorem flatMap_filter_singleton (P : Node → Bool) (nodes : List Node) :
    (nodes.flatMap fun node => [node].filter P) = nodes.filter P := by
  rw [← List.filter_flatMap, List.flatMap_singleton']

/-- Only children are found where the node itself and what is below its children are not of the kind. -/
theorem ofKind_eq_filter_children
    (h : ∀ way inner, node.at? way = some inner → inner.kind = kind → way.length = 1) :
    node.ofKind kind = node.children.filter (·.kind = kind) := by
  have hchild : ∀ child ∈ node.children, child.ofKind kind = [child].filter (·.kind = kind) := by
    intro child hmem
    obtain ⟨index, hindex⟩ := List.mem_iff_getElem?.mp hmem
    refine ofKind_eq_filter fun way inner hway hkind => ?_
    have hlength := h (index :: way) inner (at?_cons_eq_some_iff.mpr ⟨child, hindex, hway⟩) hkind
    simpa using hlength
  have hself : node.kind ≠ kind := fun heq => absurd (h [] node rfl heq) (by simp)
  rw [ofKind_of_kind_ne hself, List.flatMap_congr hchild, flatMap_filter_singleton]

instance (kind : String) (node : Node) : Decidable (node.HasNone kind) :=
  decidable_of_iff (node.ofKind kind = []) hasNone_iff.symm

/-! ## The first node that is wrong -/

/-- The node is an error, or stands for something that is missing. -/
def IsFaulty (node : Node) : Prop :=
  node.label.isError = true ∨ node.label.isMissing = true

instance (node : Node) : Decidable node.IsFaulty :=
  inferInstanceAs (Decidable (_ ∨ _))

/-- Each node says whether one at or below it is wrong. -/
def TellsErrors (root : Node) : Prop :=
  ∀ way node, root.at? way = some node →
    (node.label.hasError = true ↔ ∃ below inner, node.at? below = some inner ∧ inner.IsFaulty)

theorem TellsErrors.child (h : root.TellsErrors) {child : Node} (hchild : child ∈ root.children) :
    child.TellsErrors := by
  obtain ⟨index, hindex⟩ := List.mem_iff_getElem?.mp hchild
  intro way node hway
  exact h (index :: way) node (at?_cons_eq_some_iff.mpr ⟨child, hindex, hway⟩)

/-- A tree in which nothing is wrong says so if no node says otherwise. -/
theorem TellsErrors.of_forall
    (h : ∀ way node, root.at? way = some node → node.label.hasError = false ∧ ¬ node.IsFaulty) :
    root.TellsErrors := by
  intro way node hway
  rw [(h way node hway).1]
  refine iff_of_false Bool.false_ne_true ?_
  rintro ⟨below, inner, hbelow, hfaulty⟩
  exact (h (way ++ below) inner ((at?_append_of_at? hway below).trans hbelow)).2 hfaulty

theorem exists_faulty_iff :
    (∃ way node, root.at? way = some node ∧ node.IsFaulty) ↔
      ((root.placed.map Prod.snd).find? fun node => node.IsFaulty).isSome := by
  rw [List.find?_isSome]
  constructor
  · rintro ⟨way, node, hway, hfaulty⟩
    exact ⟨node, List.mem_map_of_mem (mem_placed_iff.mpr hway), by simpa using hfaulty⟩
  · rintro ⟨node, hmem, hfaulty⟩
    obtain ⟨⟨way, inner⟩, hplace, rfl⟩ := List.mem_map.mp hmem
    exact ⟨way, inner, mem_placed_iff.mp hplace, by simpa using hfaulty⟩

theorem firstErrorIn?_eq {nodes : List Node} (index : Nat)
    (h : ∀ node ∈ nodes, node.firstError? =
      (node.placed.map Prod.snd).find? fun inner => inner.IsFaulty) :
    firstErrorIn? nodes = ((placedIn index nodes).map Prod.snd).find? fun inner => inner.IsFaulty := by
  induction nodes generalizing index with
  | nil => rfl
  | cons node nodes ih =>
      rw [List.forall_mem_cons] at h
      rw [firstErrorIn?, placedIn, List.map_append, List.find?_append, h.1, ih (index + 1) h.2, List.map_map]
      rfl

/-- The first node that is wrong is found. -/
theorem firstError?_eq (h : root.TellsErrors) :
    root.firstError? = (root.placed.map Prod.snd).find? fun node => node.IsFaulty := by
  induction root using induct with
  | h label children ih =>
      have hin := firstErrorIn?_eq 0 fun child hchild => ih child hchild (h.child hchild)
      have htells := (h [] _ rfl).trans exists_faulty_iff
      rw [placed, List.map_cons, List.find?_cons] at htells ⊢
      rw [firstError?, hin]
      by_cases hfaulty : (mk label children).IsFaulty
      · have hroot : (label.isError || label.isMissing) = true := by simpa [IsFaulty] using hfaulty
        rw [if_pos hroot, decide_eq_true hfaulty]
      · have hroot : ¬ (label.isError || label.isMissing) = true := by simpa [IsFaulty] using hfaulty
        simp only [decide_eq_false hfaulty] at htells ⊢
        rw [if_neg hroot]
        -- the node says whether one of those below is wrong, and answers for itself only where none is
        by_cases hhas : label.hasError = true
        · obtain ⟨found, hfound⟩ := Option.isSome_iff_exists.mp (htells.mp hhas)
          rw [if_pos hhas, hfound, Option.some_or]
        · rw [if_neg hhas]
          exact (Option.not_isSome_iff_eq_none.mp fun hsome => hhas (htells.mpr hsome)).symm

/-- Where nothing is wrong there is no error to be found. -/
theorem firstError?_eq_none (h : root.TellsErrors)
    (hnone : ∀ way node, root.at? way = some node → ¬ node.IsFaulty) : root.firstError? = none := by
  rw [firstError?_eq h, ← Option.not_isSome_iff_eq_none, ← exists_faulty_iff]
  rintro ⟨way, node, hway, hfaulty⟩
  exact hnone way node hway hfaulty

/-! ## Trees written by hand -/

/-- A token that is its own kind. -/
def token (text : String) (start : Nat) : Node :=
  mk { kind := text, isNamed := false, row := 0, start, stop := start + text.utf8ByteSize } []

/-- A node without children. -/
def leaf (kind : String) (fields : List String) (start stop : Nat) : Node :=
  mk { kind, fields, row := 0, start, stop } []

/-- A node that reaches from its first child to its last one. -/
def rule (kind : String) (fields : List String) (children : List Node) : Node :=
  let start := children.head?.map (·.label.start)
  let stop := children.getLast?.map (·.label.stop)
  mk { kind, fields, row := 0, start := start.getD 0, stop := stop.getD 0 } children

/-- Some nodes between braces at these offsets. -/
def braced (kind : String) (fields : List String) (opening : Nat) (children : List Node) (closing : Nat) : Node :=
  rule kind fields (token "\x7b" opening :: (children ++ [token "\x7d" closing]))

end Node

/-- The parser that knows the tree of one source and gives up on all others. -/
def Parser.knowing (source : String) (root : Node) : Parser where
  grammar := .ok ()
  tree? other := if other = source then some root else none

end SceneAudit.CSharp
