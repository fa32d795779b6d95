import DeclGen.Proofs.SyntaxTree.Masking

/-!
The nodes that the reader visits, with the names around them and the owner that it has there. The
events of a node that is visited stand together in the stream of the whole tree.
-/
namespace DeclGen.SyntaxTree

/-- Reading the tree, the reader comes to a node with these names around it and this owner. -/
inductive Visits (src : SourceText) (root : Node) : List Text → Option Text → Node → Prop
  | top {n : Node} (member : n ∈ root.namedChildren) : Visits src root [] none n
  | namespaceBody {scope : List Text} {owner : Option Text} {n body c : Node}
      (above : Visits src root scope owner n) (type : n.type = .namespaceDefinition)
      (found : n.child? .body = some body) (member : c ∈ body.namedChildren) :
      Visits src root (src.namespaceScope n scope) none c
  | linkageList {scope : List Text} {owner : Option Text} {n body c : Node}
      (above : Visits src root scope owner n) (type : n.type = .linkageSpecification)
      (found : n.child? .body = some body) (list : body.type = .declarationList)
      (member : c ∈ body.namedChildren) : Visits src root scope owner c
  | linkageBody {scope : List Text} {owner : Option Text} {n body : Node}
      (above : Visits src root scope owner n) (type : n.type = .linkageSpecification)
      (found : n.child? .body = some body) (single : body.type ≠ .declarationList) :
      Visits src root scope owner body
  | transparent {scope : List Text} {owner : Option Text} {n c : Node}
      (above : Visits src root scope owner n) (role : n.type.role = .transparent)
      (member : c ∈ n.namedChildren) : Visits src root scope owner c
  | recordBody {scope : List Text} {owner : Option Text} {n body c : Node}
      (above : Visits src root scope owner n) (role : n.type.role = .record)
      (found : n.child? .body = some body) (member : c ∈ body.namedChildren) :
      Visits src root (src.recordScope n scope) (some (src.recordName n)) c
  | typeBody {scope : List Text} {owner : Option Text} {n type body c : Node}
      (above : Visits src root scope owner n)
      (role : n.type.role = .declaration ∨ n.type.role = .typeDefinition)
      (typed : n.child? .type = some type) (isRecord : type.type.isRecord = true)
      (found : type.child? .body = some body) (member : c ∈ body.namedChildren) :
      Visits src root (src.recordScope type scope) (some (src.recordName type)) c

namespace SourceText

variable (src : SourceText)

theorem walk_eq_flatMap (scope : List Text) (owner : Option Text) (nodes : List Node) :
    src.walk scope owner nodes = nodes.flatMap (src.visit scope owner) := by
  induction nodes with
  | nil => rw [walk]; rfl
  | cons n rest ih => rw [walk, ih, List.flatMap_cons]

theorem visit_linkageList (scope : List Text) (owner : Option Text) {n body : Node}
    (type : n.type = .linkageSpecification) (found : n.child? .body = some body)
    (list : body.type = .declarationList) :
    src.visit scope owner n = src.walk scope owner body.namedChildren := by
  rw [src.visit_eq, type]
  simp only [NodeType.role, found, list, if_true]

theorem visit_linkageBody (scope : List Text) (owner : Option Text) {n body : Node}
    (type : n.type = .linkageSpecification) (found : n.child? .body = some body)
    (single : body.type ≠ .declarationList) :
    src.visit scope owner n = src.visit scope owner body := by
  rw [src.visit_eq, type]
  simp only [NodeType.role, found, single, if_false]

section Events

theorem events_visit_infix {scope : List Text} {owner : Option Text} {n : Node} {nodes : List Node}
    (member : n ∈ nodes) :
    Forest.events (src.visit scope owner n) <:+: Forest.events (src.walk scope owner nodes) := by
  obtain ⟨before, after, rfl⟩ := List.append_of_mem member
  rw [src.walk_eq_flatMap, List.flatMap_append, List.flatMap_cons, events_append, events_append]
  exact ⟨_, _, List.append_assoc ..⟩

theorem events_node_infix (d : Declaration) (body : Forest) :
    body.events <:+: Forest.events [.node d body] :=
  ⟨[.enter d], [.exit d], (List.append_nil _).symm⟩

theorem events_record_infix {scope : List Text} {n body : Node}
    (found : n.child? .body = some body) :
    Forest.events (src.walk (src.recordScope n scope) (some (src.recordName n)) body.namedChildren) <:+:
      Forest.events (src.record scope n) := by
  rw [src.record_eq, found]
  exact events_node_infix _ _

theorem events_typeRecord_infix {scope : List Text} {n type body : Node}
    (typed : n.child? .type = some type) (isRecord : type.type.isRecord = true)
    (found : type.child? .body = some body) :
    Forest.events (src.walk (src.recordScope type scope) (some (src.recordName type))
        body.namedChildren) <:+: Forest.events (src.typeRecord scope n) := by
  have whole : src.typeRecord scope n = src.record scope type := by
    rw [src.typeRecord_eq, typed]
    exact if_pos isRecord
  rw [whole]
  exact src.events_record_infix found

end Events

end SourceText

theorem Visits.events_infix {src : SourceText} {root n : Node} {scope : List Text}
    {owner : Option Text} (visits : Visits src root scope owner n) :
    Forest.events (src.visit scope owner n) <:+:
      Forest.events (src.walk [] none root.namedChildren) := by
  induction visits with
  | top member => exact src.events_visit_infix member
  | namespaceBody _ type found member ih =>
    refine (src.events_visit_infix member).trans ?_
    rwa [src.visit_eq, type, found] at ih
  | linkageList _ type found list member ih =>
    refine (src.events_visit_infix member).trans ?_
    rwa [src.visit_linkageList _ _ type found list] at ih
  | linkageBody _ type found single ih =>
    rwa [src.visit_linkageBody _ _ type found single] at ih
  | transparent _ role member ih =>
    refine (src.events_visit_infix member).trans ?_
    rwa [src.visit_eq, role] at ih
  | recordBody _ role found member ih =>
    rw [src.visit_eq, role] at ih
    exact ((src.events_visit_infix member).trans (src.events_record_infix found)).trans ih
  | typeBody _ role typed isRecord found member ih =>
    refine ((src.events_visit_infix member).trans
      (src.events_typeRecord_infix typed isRecord found)).trans ?_
    rw [src.visit_eq] at ih
    rcases role with role | role
    · rw [role] at ih
      dsimp only at ih
      rw [events_append] at ih
      exact (List.prefix_append _ _).isInfix.trans ih
    · rwa [role] at ih

end DeclGen.SyntaxTree
