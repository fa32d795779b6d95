import DeclGen.Declaration

/-!
The nodes of a forest, one after the other in depth-first order, each with the nodes around it. A
node is told from others by its number, since equal declarations may occur in several places. Nodes
of different parts of a forest have different numbers, and what stands around a node is numbered
below it. The same nodes are read off the events of the forest by keeping what is open.
-/
namespace DeclGen

/-- A declaration and its number in depth-first order. -/
structure Placed where
  number : Nat
  decl : Declaration
  deriving DecidableEq

/-- A node, and the nodes around it, innermost first. -/
structure Occurrence where
  node : Placed
  around : List Placed
  deriving DecidableEq

def Occurrence.decl (o : Occurrence) : Declaration := o.node.decl

mutual

/-- The nodes of a tree that stands inside `around`, numbered from `first` on. -/
def outlineTree (around : List Placed) (first : Nat) : DeclTree → List Occurrence
  | .node d children =>
    ⟨⟨first, d⟩, around⟩ :: outlineFrom (⟨first, d⟩ :: around) (first + 1) children

def outlineFrom (around : List Placed) (first : Nat) : List DeclTree → List Occurrence
  | [] => []
  | tree :: rest =>
    outlineTree around first tree
      ++ outlineFrom around (first + (outlineTree around first tree).length) rest

end

def Forest.outline (forest : Forest) : List Occurrence := outlineFrom [] 0 forest

/-- The node and those around it, up to `around`, are numbered from `first` to before `last`. -/
structure Occurrence.LiesIn (around : List Placed) (first last : Nat) (o : Occurrence) : Prop where
  number : first ≤ o.node.number ∧ o.node.number < last
  inner : ∃ inner, o.around = inner ++ around ∧
    ∀ p ∈ inner, first ≤ p.number ∧ p.number < last

theorem Occurrence.LiesIn.mono {around : List Placed} {first last low high : Nat} {o : Occurrence}
    (lies : o.LiesIn around first last) (lower : low ≤ first) (upper : last ≤ high) :
    o.LiesIn around low high := by
  obtain ⟨inner, parts, bounds⟩ := lies.inner
  have number := lies.number
  refine ⟨by omega, inner, parts, ?_⟩
  intro p member
  have := bounds p member
  omega

/-- Seen from further out, the node that closes the inner ones counts as one of them. -/
theorem Occurrence.LiesIn.outward {around : List Placed} {p : Placed} {last : Nat} {o : Occurrence}
    (lies : o.LiesIn (p :: around) (p.number + 1) last) : o.LiesIn around p.number last := by
  obtain ⟨inner, parts, bounds⟩ := lies.inner
  have number := lies.number
  refine ⟨by omega, inner ++ [p], by simp [parts], ?_⟩
  intro q member
  rcases List.mem_append.mp member with deep | top
  · have := bounds q deep
    omega
  · rw [List.mem_singleton.mp top]
    omega

mutual

theorem outlineTree_lies (around : List Placed) (first : Nat) :
    (tree : DeclTree) → ∀ o ∈ outlineTree around first tree,
      o.LiesIn around first (first + (outlineTree around first tree).length)
  | .node d children => by
    intro o member
    rw [outlineTree] at member ⊢
    rcases List.mem_cons.mp member with rfl | below
    · refine ⟨?_, [], rfl, by simp⟩
      simp only [List.length_cons]
      omega
    · have lies := outlineFrom_lies (⟨first, d⟩ :: around) (first + 1) children o below
      refine lies.outward.mono (Nat.le_refl _) ?_
      simp only [List.length_cons]
      omega

theorem outlineFrom_lies (around : List Placed) (first : Nat) :
    (forest : List DeclTree) → ∀ o ∈ outlineFrom around first forest,
      o.LiesIn around first (first + (outlineFrom around first forest).length)
  | [] => by simp [outlineFrom]
  | tree :: rest => by
    intro o member
    rw [outlineFrom] at member ⊢
    rw [List.length_append]
    rcases List.mem_append.mp member with inTree | later
    · exact (outlineTree_lies around first tree o inTree).mono (Nat.le_refl _) (by omega)
    · exact (outlineFrom_lies around _ rest o later).mono (by omega) (by omega)

end

theorem mem_outlineFrom {around : List Placed} {first : Nat} {forest : List DeclTree} {o : Occurrence}
    (member : o ∈ outlineFrom around first forest) :
    ∃ tree ∈ forest, ∃ number, o ∈ outlineTree around number tree := by
  induction forest generalizing first with
  | nil => simp [outlineFrom] at member
  | cons tree rest ih =>
    rw [outlineFrom] at member
    rcases List.mem_append.mp member with here | later
    · exact ⟨tree, List.mem_cons_self, first, here⟩
    · obtain ⟨other, inside, number, found⟩ := ih later
      exact ⟨other, List.mem_cons_of_mem _ inside, number, found⟩

/-- The innermost record of those that stand around something. -/
def recordIn (around : List Placed) : Option Placed := around.find? fun p => p.decl.kind = .record

def functionIn (around : List Placed) : Option Placed :=
  around.find? fun p => p.decl.kind.isFunctionKind

/-- A declaration whose extent begins, and those that are open there, innermost first. -/
structure Opening where
  decl : Declaration
  around : List Declaration

/-- The openings of a stream; an end closes the innermost declaration. -/
def openings (around : List Declaration) : List Event → List Opening
  | [] => []
  | .enter d :: rest => ⟨d, around⟩ :: openings (d :: around) rest
  | .exit _ :: rest => openings around.tail rest

def Occurrence.opening (o : Occurrence) : Opening := ⟨o.decl, o.around.map fun p => p.decl⟩

mutual

theorem openings_tree (around : List Placed) (first : Nat) (later : List Event) :
    (tree : DeclTree) → openings (around.map fun p => p.decl) (tree.events ++ later) =
      (outlineTree around first tree).map Occurrence.opening
        ++ openings (around.map fun p => p.decl) later
  | .node d children => by
    have inside := openings_forest (⟨first, d⟩ :: around) (first + 1) (.exit d :: later) children
    rw [List.map_cons] at inside
    simp only [DeclTree.events, outlineTree, List.cons_append, List.append_assoc, List.nil_append,
      openings, List.map_cons, inside, List.tail_cons]
    rfl

theorem openings_forest (around : List Placed) (first : Nat) (later : List Event) :
    (forest : List DeclTree) →
      openings (around.map fun p => p.decl) (DeclTree.eventsOf forest ++ later) =
        (outlineFrom around first forest).map Occurrence.opening
          ++ openings (around.map fun p => p.decl) later
  | [] => rfl
  | tree :: rest => by
    rw [DeclTree.eventsOf, List.append_assoc, openings_tree around first _ tree,
      openings_forest around _ later rest, outlineFrom, List.map_append, List.append_assoc]

end

theorem openings_events (forest : Forest) :
    openings [] forest.events = forest.outline.map Occurrence.opening := by
  have whole := openings_forest [] 0 [] forest
  simpa [openings, Forest.events, Forest.outline] using whole

end DeclGen
