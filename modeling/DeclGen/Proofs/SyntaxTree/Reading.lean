import DeclGen.SyntaxTree.Reader

/-!
Induction over what the reader does. The reader finds functions, variables and records, and all else
is putting forests together; so a property of forests that holds of these and is kept by appending
holds of whatever the reader finds. Two things are followed on the way down: whether a record is open,
and whether the reader has an owner. An owner means that a record is open; the converse fails only
below a namespace inside a record.

The induction is made once for two readings of the same tree, which share the masked source and
differ in the lines above. A property of one reading is the case in which the lines are the same.
-/
namespace DeclGen.SyntaxTree

inductive Node.All (p : Node → Prop) : Node → Prop
  | intro {n : Node} (here : p n) (children : ∀ c ∈ n.children, All p c) : All p n

section All

variable {p : Node → Prop} {n c : Node}

theorem Node.All.here (all : n.All p) : p n := by
  cases all with
  | intro here _ => exact here

theorem Node.All.child (all : n.All p) (member : c ∈ n.children) : c.All p := by
  cases all with
  | intro _ children => exact children c member

end All

namespace Node

def FreeOfNamespaces (n : Node) : Prop := n.All fun m => m.type ≠ .namespaceDefinition

def RecordsFreeOfNamespaces (n : Node) : Prop :=
  n.All fun m => m.type.isRecord = true → ∀ body, m.child? .body = some body → body.FreeOfNamespaces

/-- No namespace lies inside a record, where the node itself may lie inside one. -/
structure Orderly (inside : Bool) (n : Node) : Prop where
  free : inside = true → n.FreeOfNamespaces
  records : n.RecordsFreeOfNamespaces

section Orderly

variable {inside : Bool} {n c : Node}

theorem mem_of_child? {field : Field} (found : n.child? field = some c) : c ∈ n.children :=
  List.mem_of_find?_eq_some found

theorem mem_of_mem_namedChildren (named : c ∈ n.namedChildren) : c ∈ n.children :=
  (List.mem_filter.mp named).1

theorem Orderly.child (orderly : n.Orderly inside) (member : c ∈ n.children) : c.Orderly inside where
  free := fun opened => (orderly.free opened).child member
  records := orderly.records.child member

theorem Orderly.body (orderly : n.Orderly inside) (isRecord : n.type.isRecord = true)
    (found : n.child? .body = some c) : c.Orderly true where
  free := fun _ => orderly.records.here isRecord c found
  records := orderly.records.child (mem_of_child? found)

end Orderly

inductive Below (root : Node) : Node → Prop
  | root : Below root root
  | child {n c : Node} (above : Below root n) (member : c ∈ n.children) : Below root c

section Below

variable {root n c : Node}

theorem Below.child? (above : root.Below n) {field : Field} (found : n.child? field = some c) :
    root.Below c :=
  .child above (mem_of_child? found)

theorem Below.inner (above : root.Below n) (found : n.innerDeclarator? = some c) : root.Below c := by
  unfold innerDeclarator? at found
  rcases Option.or_eq_some_iff.mp found with named | ⟨_, last⟩
  · exact above.child? named
  · exact .child above (mem_of_mem_namedChildren (List.mem_of_getLast? last))

theorem Below.functionDeclarator (above : root.Below n) (found : n.functionDeclarator? = some c) :
    root.Below c := by
  fun_induction functionDeclarator? n with
  | case1 => cases found
  | case2 n => exact Option.some.inj found ▸ above
  | case3 n _ _ inner down ih => exact ih (above.inner down) found
  | case4 => cases found
  | case5 => cases found

theorem Below.pointedFunction (above : root.Below n) (found : n.pointedFunction? = some c) :
    root.Below c := by
  fun_induction pointedFunction? n with
  | case1 n => exact Option.some.inj found ▸ above
  | case2 n _ _ inner down ih => exact ih (above.inner down) found
  | case3 => cases found
  | case4 => cases found

theorem Below.nameNode (above : root.Below n) (found : n.nameNode? = some c) : root.Below c := by
  fun_induction nameNode? n with
  | case1 n => exact Option.some.inj found ▸ above
  | case2 n _ _ inner down ih => exact ih (above.inner down) found
  | case3 => cases found
  | case4 => cases found

end Below

/-- A node of the tree at which the reader may stand. -/
structure Visitable (root : Node) (orderly inside : Bool) (n : Node) : Prop where
  below : root.Below n
  neat : orderly = true → n.Orderly inside

section Visitable

variable {root n c : Node} {orderly inside : Bool}

theorem Visitable.child? (visitable : Visitable root orderly inside n) {field : Field}
    (found : n.child? field = some c) : Visitable root orderly inside c where
  below := visitable.below.child? found
  neat := fun strict => (visitable.neat strict).child (mem_of_child? found)

theorem Visitable.named (visitable : Visitable root orderly inside n) :
    ∀ c ∈ n.namedChildren, Visitable root orderly inside c := by
  intro c member
  have inner := mem_of_mem_namedChildren member
  exact ⟨.child visitable.below inner, fun strict => (visitable.neat strict).child inner⟩

theorem Visitable.body (visitable : Visitable root orderly inside n)
    (isRecord : n.type.isRecord = true) (found : n.child? .body = some c) :
    Visitable root orderly true c where
  below := visitable.below.child? found
  neat := fun strict => (visitable.neat strict).body isRecord found

end Visitable

end Node

/-- The owner that the reader may have where a record is open or not. -/
structure Fitting (orderly inside : Bool) (owner : Option Text) : Prop where
  opened : owner.isSome = true → inside = true
  owned : orderly = true → inside = true → owner.isSome = true

/-- What has to be shown of a property of forests, open record or not, for it to hold of all that the
reader finds. -/
structure Reading (src : SourceText) (orderly : Bool) (P : Bool → Forest → Prop) : Prop where
  nil : ∀ {inside}, P inside []
  append : ∀ {inside first second}, P inside first → P inside second → P inside (first ++ second)
  ofFunction : ∀ {inside owner} (outer declarator scope hasType), Fitting orderly inside owner →
    P inside (src.functionTree outer declarator scope owner hasType)
  ofVariable : ∀ {inside owner} (outer declarator scope), Fitting orderly inside owner →
    P inside (src.variableTree outer declarator scope owner)
  ofRecord : ∀ {inside body} (n scope), P true body →
    P inside [.node (src.recordDeclaration n scope) body]

inductive Role where
  | namespaceBlock
  | linkageBlock
  | transparent
  | record
  | declaration
  | functionDefinition
  | typeDefinition
  | silent

def NodeType.role : NodeType → Role
  | .namespaceDefinition => .namespaceBlock
  | .linkageSpecification => .linkageBlock
  | .templateDeclaration | .preprocIf | .preprocIfdef | .preprocElse | .preprocElif
  | .preprocElifdef => .transparent
  | .classSpecifier | .structSpecifier | .unionSpecifier => .record
  | .declaration | .fieldDeclaration => .declaration
  | .functionDefinition => .functionDefinition
  | .typeDefinition => .typeDefinition
  | _ => .silent

namespace SourceText

variable (src : SourceText) (scope : List Text) (owner : Option Text) (n : Node)

theorem visit_eq : src.visit scope owner n =
    match n.type.role with
    | .namespaceBlock =>
      match n.child? .body with
      | some body => src.walk (src.namespaceScope n scope) none body.namedChildren
      | none => []
    | .linkageBlock =>
      match n.child? .body with
      | some body =>
        if body.type = .declarationList then src.walk scope owner body.namedChildren
        else src.visit scope owner body
      | none => []
    | .transparent => src.walk scope owner n.namedChildren
    | .record => src.record scope n
    | .declaration => src.typeRecord scope n ++ src.declarators n scope owner
    | .functionDefinition => src.functionDefinition n scope owner
    | .typeDefinition => src.typeRecord scope n
    | .silent => [] := by
  rw [visit]
  cases n.type with
  | namespaceDefinition => dsimp only [NodeType.role]; split <;> simp only [*]
  | linkageSpecification => dsimp only [NodeType.role]; split <;> simp only [*]
  | _ => rfl

theorem record_eq : src.record scope n =
    match n.child? .body with
    | none => []
    | some body =>
      [.node (src.recordDeclaration n scope)
        (src.walk (src.recordScope n scope) (some (src.recordName n)) body.namedChildren)] := by
  rw [record]
  split <;> simp only [*]

theorem typeRecord_eq : src.typeRecord scope n =
    match n.child? .type with
    | none => []
    | some type => if type.type.isRecord then src.record scope type else [] := by
  rw [typeRecord]
  split <;> simp only [*]

end SourceText

theorem isRecord_of_role {type : NodeType} (role : type.role = .record) : type.isRecord = true := by
  cases type <;> first | rfl | cases role

theorem namespace_of_role {type : NodeType} (role : type.role = .namespaceBlock) :
    type = .namespaceDefinition := by
  cases type <;> first | rfl | cases role

/-- The same masked source with other lines above. -/
def SourceText.withLines (src : SourceText) (lines : List Text) : SourceText :=
  { src with lines := lines }

section Lines

variable (src : SourceText) (lines : List Text) (n : Node)

theorem simpleName_withLines : (src.withLines lines).simpleName n = src.simpleName n := by
  fun_induction SourceText.simpleName src n with
  | case1 n compound inner found ih =>
    rw [SourceText.simpleName, if_pos compound]
    split
    · next other there =>
      rw [found] at there
      rw [← Option.some.inj there, ih]
    · next missing => rw [found] at missing; cases missing
  | case2 n compound missing =>
    rw [SourceText.simpleName, if_pos compound]
    split
    · next other there => rw [missing] at there; cases there
    · rfl
  | case3 n simple =>
    rw [SourceText.simpleName, if_neg simple]
    rfl

theorem map_simpleName_withLines (name : Option Node) :
    name.map (src.withLines lines).simpleName = name.map src.simpleName := by
  cases name with
  | none => rfl
  | some n => exact congrArg some (simpleName_withLines src lines n)

theorem recordName_withLines : (src.withLines lines).recordName n = src.recordName n := by
  rw [SourceText.recordName, map_simpleName_withLines]
  rfl

theorem recordScope_withLines (scope : List Text) :
    (src.withLines lines).recordScope n scope = src.recordScope n scope := by
  rw [SourceText.recordScope, recordName_withLines]
  rfl

end Lines

/-- What has to be shown of a relation between forests for it to hold of the two readings of a tree. -/
structure Pairing (src : SourceText) (lines : List Text) (root : Node) (orderly : Bool)
    (P : Bool → Forest → Forest → Prop) : Prop where
  nil : ∀ {inside}, P inside [] []
  append : ∀ {inside first other second another}, P inside first other → P inside second another →
    P inside (first ++ second) (other ++ another)
  ofFunction : ∀ {inside owner} (outer declarator scope hasType), root.Below declarator →
    Fitting orderly inside owner →
      P inside (src.functionTree outer declarator scope owner hasType)
        ((src.withLines lines).functionTree outer declarator scope owner hasType)
  ofVariable : ∀ {inside owner} (outer declarator scope), root.Below declarator →
    Fitting orderly inside owner →
      P inside (src.variableTree outer declarator scope owner)
        ((src.withLines lines).variableTree outer declarator scope owner)
  ofRecord : ∀ {inside body other} (n scope), root.Below n → P true body other →
    P inside [.node (src.recordDeclaration n scope) body]
      [.node ((src.withLines lines).recordDeclaration n scope) other]

namespace Pairing

variable {src : SourceText} {lines : List Text} {root : Node} {orderly : Bool}
  {P : Bool → Forest → Forest → Prop}

theorem flatMap (pairing : Pairing src lines root orderly P) {inside : Bool} {nodes : List Node}
    {f g : Node → Forest} (each : ∀ n ∈ nodes, P inside (f n) (g n)) :
    P inside (nodes.flatMap f) (nodes.flatMap g) := by
  induction nodes with
  | nil => exact pairing.nil
  | cons n rest ih =>
    rw [List.flatMap_cons, List.flatMap_cons]
    exact pairing.append (each n List.mem_cons_self)
      (ih fun m member => each m (List.mem_cons_of_mem _ member))

theorem declarators (pairing : Pairing src lines root orderly P) {inside : Bool}
    {owner : Option Text} (fitting : Fitting orderly inside owner) (scope : List Text) {n : Node}
    (below : root.Below n) :
    P inside (src.declarators n scope owner) ((src.withLines lines).declarators n scope owner) := by
  refine pairing.flatMap fun part member => ?_
  have part_below : root.Below part := .child below (List.mem_filter.mp member).1
  unfold SourceText.declarator
  cases found : part.functionDeclarator? with
  | some function =>
    exact pairing.ofFunction _ _ _ _ (part_below.functionDeclarator found) fitting
  | none => exact pairing.ofVariable _ _ _ part_below fitting

theorem functionDefinition (pairing : Pairing src lines root orderly P) {inside : Bool}
    {owner : Option Text} (fitting : Fitting orderly inside owner) (scope : List Text) {n : Node}
    (below : root.Below n) :
    P inside (src.functionDefinition n scope owner)
      ((src.withLines lines).functionDefinition n scope owner) := by
  unfold SourceText.functionDefinition
  cases found : (n.child? .declarator).bind Node.functionDeclarator? with
  | some function =>
    obtain ⟨declarator, filled, inner⟩ := Option.bind_eq_some_iff.mp found
    exact pairing.ofFunction _ _ _ _ ((below.child? filled).functionDeclarator inner) fitting
  | none => exact pairing.nil

mutual

theorem visit (pairing : Pairing src lines root orderly P) {inside : Bool} {owner : Option Text}
    (fitting : Fitting orderly inside owner) (scope : List Text) (n : Node)
    (visitable : root.Visitable orderly inside n) :
    P inside (src.visit scope owner n) ((src.withLines lines).visit scope owner n) := by
  have shorter := n.sizeOf_namedChildren
  rw [src.visit_eq, (src.withLines lines).visit_eq]
  cases role : n.type.role with
  | namespaceBlock =>
    cases found : n.child? .body with
    | none => exact pairing.nil
    | some body =>
      have inner := Nat.lt_trans body.sizeOf_namedChildren (Node.sizeOf_child found)
      -- the owner is gone, which does no harm unless a record is open
      have outside : Fitting orderly inside none := by
        refine ⟨fun some => Bool.noConfusion some, fun strict opened => ?_⟩
        exact absurd (namespace_of_role role) ((visitable.neat strict).free opened).here
      exact walk pairing outside _ body.namedChildren (visitable.child? found).named
  | linkageBlock =>
    cases found : n.child? .body with
    | none => exact pairing.nil
    | some body =>
      have smaller := Node.sizeOf_child found
      have inner := Nat.lt_trans body.sizeOf_namedChildren smaller
      dsimp only
      split
      · exact walk pairing fitting scope body.namedChildren (visitable.child? found).named
      · exact visit pairing fitting scope body (visitable.child? found)
  | transparent => exact walk pairing fitting scope n.namedChildren visitable.named
  | record => exact record pairing inside scope n (isRecord_of_role role) visitable
  | declaration =>
    exact pairing.append (typeRecord pairing inside scope n visitable)
      (pairing.declarators fitting scope visitable.below)
  | functionDefinition => exact pairing.functionDefinition fitting scope visitable.below
  | typeDefinition => exact typeRecord pairing inside scope n visitable
  | silent => exact pairing.nil
termination_by (sizeOf n, 2)
decreasing_by
  all_goals first
    | exact Prod.Lex.left _ _ (by assumption)
    | exact Prod.Lex.right _ (by decide)

theorem record (pairing : Pairing src lines root orderly P) (inside : Bool) (scope : List Text)
    (n : Node) (isRecord : n.type.isRecord = true) (visitable : root.Visitable orderly inside n) :
    P inside (src.record scope n) ((src.withLines lines).record scope n) := by
  rw [src.record_eq, (src.withLines lines).record_eq, recordScope_withLines, recordName_withLines]
  cases found : n.child? .body with
  | none => exact pairing.nil
  | some body =>
    have inner := Nat.lt_trans body.sizeOf_namedChildren (Node.sizeOf_child found)
    have owned : Fitting orderly true (some (src.recordName n)) := ⟨fun _ => rfl, fun _ _ => rfl⟩
    have members := walk pairing owned (src.recordScope n scope) body.namedChildren
      (visitable.body isRecord found).named
    exact pairing.ofRecord n scope visitable.below members
termination_by (sizeOf n, 0)
decreasing_by exact Prod.Lex.left _ _ (by assumption)

theorem typeRecord (pairing : Pairing src lines root orderly P) (inside : Bool) (scope : List Text)
    (n : Node) (visitable : root.Visitable orderly inside n) :
    P inside (src.typeRecord scope n) ((src.withLines lines).typeRecord scope n) := by
  rw [src.typeRecord_eq, (src.withLines lines).typeRecord_eq]
  cases found : n.child? .type with
  | none => exact pairing.nil
  | some type =>
    have smaller := Node.sizeOf_child found
    dsimp only
    split
    · next isRecord => exact record pairing inside scope type isRecord (visitable.child? found)
    · exact pairing.nil
termination_by (sizeOf n, 1)
decreasing_by exact Prod.Lex.left _ _ (by assumption)

theorem walk (pairing : Pairing src lines root orderly P) {inside : Bool} {owner : Option Text}
    (fitting : Fitting orderly inside owner) (scope : List Text) :
    (nodes : List Node) → (∀ n ∈ nodes, root.Visitable orderly inside n) →
      P inside (src.walk scope owner nodes) ((src.withLines lines).walk scope owner nodes)
  | [], _ => by
    rw [SourceText.walk, SourceText.walk]
    exact pairing.nil
  | n :: rest, visitable => by
    rw [SourceText.walk, SourceText.walk]
    exact pairing.append (visit pairing fitting scope n (visitable n List.mem_cons_self))
      (walk pairing fitting scope rest fun m member => visitable m (List.mem_cons_of_mem _ member))
termination_by nodes => (sizeOf nodes, 0)
decreasing_by
  · exact Prod.Lex.left _ _ (by simp only [List.cons.sizeOf_spec]; omega)
  · exact Prod.Lex.left _ _ (by simp only [List.cons.sizeOf_spec]; omega)

end

end Pairing

theorem walk_of_pairing {src : SourceText} {lines : List Text} {root : Node} {orderly : Bool}
    {P : Bool → Forest → Forest → Prop} (pairing : Pairing src lines root orderly P)
    (neat : orderly = true → root.RecordsFreeOfNamespaces) :
    P false (src.walk [] none root.namedChildren)
      ((src.withLines lines).walk [] none root.namedChildren) := by
  have outside : Fitting orderly false none :=
    ⟨fun some => Bool.noConfusion some, fun _ opened => Bool.noConfusion opened⟩
  have whole : root.Visitable orderly false root :=
    ⟨.root, fun strict => ⟨fun opened => Bool.noConfusion opened, neat strict⟩⟩
  exact pairing.walk outside [] root.namedChildren whole.named

theorem Reading.pairing {src : SourceText} {orderly : Bool} {P : Bool → Forest → Prop}
    (reading : Reading src orderly P) (root : Node) :
    Pairing src src.lines root orderly fun inside first second => first = second ∧ P inside first where
  nil := ⟨rfl, reading.nil⟩
  append := by
    rintro inside first _ second _ ⟨rfl, front⟩ ⟨rfl, back⟩
    exact ⟨rfl, reading.append front back⟩
  ofFunction := fun outer declarator scope hasType _ fitting =>
    ⟨rfl, reading.ofFunction outer declarator scope hasType fitting⟩
  ofVariable := fun outer declarator scope _ fitting =>
    ⟨rfl, reading.ofVariable outer declarator scope fitting⟩
  ofRecord := by
    rintro inside body _ n scope _ ⟨rfl, members⟩
    exact ⟨rfl, reading.ofRecord n scope members⟩

theorem declarations_of_reading {path : Path} {source : Utf8.Bytes} {orderly : Bool}
    {P : Bool → Forest → Prop} (reading : Reading (SourceText.ofBytes path source) orderly P)
    (root : Node) (neat : orderly = true → root.RecordsFreeOfNamespaces) :
    P false (declarations path source root) :=
  (walk_of_pairing (reading.pairing root) neat).2

end DeclGen.SyntaxTree
