import DeclGen.Proofs.SyntaxTree.QualifiedName
import Mathlib.Logic.Relation

/-!
Blocks that leave no trace. A template, a preprocessor block or a linkage block may be opened and its
contents put in its place, and the body of a function may be exchanged, and the reader finds the same
declarations. The changes are made among the children that the reader goes through; what lies between
such a list of children and the one around it is a frame, and no frame looks at the children that it
holds.
-/
namespace DeclGen.SyntaxTree

open Utf8 (Bytes)

namespace Node

def withChildren (n : Node) (children : List Node) : Node := { n with children := children }

/-- The children with another one in place of the first that fills the field. -/
def putFirst (field : Field) (c : Node) : List Node → List Node
  | [] => []
  | d :: rest => if d.field = some field then c :: rest else d :: putFirst field c rest

def putChild (n : Node) (field : Field) (c : Node) : Node :=
  n.withChildren (putFirst field c n.children)

section PutChild

variable {n c old : Node} {field other : Field}

theorem type_withChildren (n : Node) (children : List Node) :
    (n.withChildren children).type = n.type := rfl

theorem type_putChild (n : Node) (field : Field) (c : Node) : (n.putChild field c).type = n.type := rfl

theorem field_withChildren (found : n.child? field = some c) (children : List Node) :
    (c.withChildren children).field = some field := by
  change n.children.find? (fun d => d.field == some field) = some c at found
  have fills := List.find?_some found
  exact beq_iff_eq.mp fills

theorem child?_putChild (filled : n.child? field = some old) (fits : c.field = some field) :
    (n.putChild field c).child? field = some c := by
  change n.children.find? _ = some old at filled
  change (putFirst field c n.children).find? _ = some c
  generalize n.children = children at filled
  induction children with
  | nil => cases filled
  | cons d rest ih =>
    rw [putFirst]
    split
    · simp [fits]
    · next empty =>
      have later : rest.find? (fun e => e.field == some field) = some old := by
        simpa [empty] using filled
      simpa [empty] using ih later

theorem fieldChildren_putChild (fits : c.field = some field) (apart : field ≠ other) :
    (n.putChild field c).fieldChildren other = n.fieldChildren other := by
  change (putFirst field c n.children).filter _ = n.children.filter _
  induction n.children with
  | nil => rfl
  | cons d rest ih =>
    rw [putFirst]
    split
    · next filled => simp [fits, filled, apart]
    · rw [List.filter_cons, List.filter_cons, ih]

theorem child?_putChild_of_ne (fits : c.field = some field) (apart : field ≠ other) :
    (n.putChild field c).child? other = n.child? other := by
  have first : ∀ m : Node, m.child? other = (m.fieldChildren other).head? :=
    fun m => (List.head?_filter ..).symm
  rw [first, first, fieldChildren_putChild fits apart]

end PutChild

end Node

/-- Visiting the node, the reader goes through the children `inner`; with others in their place the
node is `around` these. -/
inductive Frame : (n : Node) → (inner : List Node) → (around : List Node → Node) → Prop
  | block {n : Node} (role : n.type.role = .transparent) : Frame n n.children n.withChildren
  | body {n body : Node} (role : n.type.role = .namespaceBlock ∨ n.type.role = .record)
      (found : n.child? .body = some body) :
      Frame n body.children fun children => n.putChild .body (body.withChildren children)
  | linkageList {n body : Node} (type : n.type = .linkageSpecification)
      (found : n.child? .body = some body) (list : body.type = .declarationList) :
      Frame n body.children fun children => n.putChild .body (body.withChildren children)
  | linkageBody {n body : Node} {inner : List Node} {around : List Node → Node}
      (type : n.type = .linkageSpecification) (found : n.child? .body = some body)
      (single : body.type ≠ .declarationList) (frame : Frame body inner around) :
      Frame n inner fun children => n.putChild .body (around children)
  | typeRecord {n type : Node} {inner : List Node} {around : List Node → Node}
      (role : n.type.role = .declaration ∨ n.type.role = .typeDefinition)
      (found : n.child? .type = some type) (isRecord : type.type.isRecord = true)
      (frame : Frame type inner around) :
      Frame n inner fun children => n.putChild .type (around children)

/-- A change among the children that the reader goes through, or inside one of them. -/
inductive Change : (children changed : List Node) → Prop
  /-- A transparent block is replaced by its own children. -/
  | unwrap {before after : List Node} {n : Node} (named : n.isNamed = true)
      (role : n.type.role = .transparent) :
      Change (before ++ n :: after) (before ++ (n.namedChildren ++ after))
  /-- A linkage block is replaced by the children of its list. -/
  | unwrapLinkage {before after : List Node} {n body : Node} (named : n.isNamed = true)
      (type : n.type = .linkageSpecification) (found : n.child? .body = some body)
      (list : body.type = .declarationList) :
      Change (before ++ n :: after) (before ++ (body.namedChildren ++ after))
  /-- A function definition keeps its declarator and whether it has a type. -/
  | redefine {before after : List Node} {n : Node} (children : List Node) (named : n.isNamed = true)
      (type : n.type = .functionDefinition)
      (declarator : (n.withChildren children).child? .declarator = n.child? .declarator)
      (typed : ((n.withChildren children).child? .type).isSome = (n.child? .type).isSome) :
      Change (before ++ n :: after) (before ++ n.withChildren children :: after)
  | inside {before after inner changed : List Node} {n : Node} {around : List Node → Node}
      (named : n.isNamed = true) (frame : Frame n inner around) (change : Change inner changed) :
      Change (before ++ n :: after) (before ++ around changed :: after)

/-- The reader finds the same in both lists, whatever the source and wherever the lists stand. -/
def ReadAlike (children changed : List Node) : Prop :=
  ∀ (src : SourceText) scope owner,
    src.walk scope owner (changed.filter fun c => c.isNamed) =
      src.walk scope owner (children.filter fun c => c.isNamed)

section Frames

variable {n : Node} {inner : List Node} {around : List Node → Node}

theorem Frame.heading (frame : Frame n inner around) (children : List Node) :
    ∃ others, around children = n.withChildren others := by
  cases frame with
  | block _ => exact ⟨_, rfl⟩
  | body _ _ => exact ⟨_, rfl⟩
  | linkageList _ _ _ => exact ⟨_, rfl⟩
  | linkageBody _ _ _ _ => exact ⟨_, rfl⟩
  | typeRecord _ _ _ _ => exact ⟨_, rfl⟩

theorem role_of_isRecord {type : NodeType} (isRecord : type.isRecord = true) : type.role = .record := by
  cases type <;> first | rfl | cases isRecord

end Frames

namespace SourceText

variable (src : SourceText) (scope : List Text) (owner : Option Text)

section Put

variable {n c : Node}

theorem namespaceScope_putBody (fits : c.field = some .body) :
    src.namespaceScope (n.putChild .body c) scope = src.namespaceScope n scope := by
  rw [namespaceScope, Node.child?_putChild_of_ne fits (by decide)]
  rfl

theorem recordName_putBody (fits : c.field = some .body) :
    src.recordName (n.putChild .body c) = src.recordName n := by
  rw [recordName, Node.child?_putChild_of_ne fits (by decide)]
  rfl

theorem recordScope_putBody (fits : c.field = some .body) :
    src.recordScope (n.putChild .body c) scope = src.recordScope n scope := by
  rw [recordScope, src.recordName_putBody fits]
  rfl

theorem recordDeclaration_putBody (fits : c.field = some .body) :
    src.recordDeclaration (n.putChild .body c) scope = src.recordDeclaration n scope := by
  have named : src.lineAbove (((n.putChild .body c).child? .name).getD (n.putChild .body c)) =
      src.lineAbove ((n.child? .name).getD n) := by
    rw [Node.child?_putChild_of_ne fits (by decide)]
    cases n.child? .name <;> rfl
  simp only [recordDeclaration, src.recordScope_putBody scope fits, src.recordName_putBody fits, named]

theorem declarators_putType (filled : (n.child? .type).isSome = true) (fits : c.field = some .type) :
    src.declarators (n.putChild .type c) scope owner = src.declarators n scope owner := by
  obtain ⟨old, found⟩ := Option.isSome_iff_exists.mp filled
  rw [declarators, Node.fieldChildren_putChild fits (by decide), Node.child?_putChild found fits,
    declarators, found]
  rfl

end Put

section Visit

variable {inner changed : List Node} {around : List Node → Node} {n : Node}

theorem visit_body {body : Node} (role : n.type.role = .namespaceBlock ∨ n.type.role = .record)
    (found : n.child? .body = some body) (alike : ReadAlike body.children changed) :
    src.visit scope owner (n.putChild .body (body.withChildren changed)) = src.visit scope owner n := by
  have fits := Node.field_withChildren found changed
  have kept := Node.child?_putChild found fits
  rw [src.visit_eq, src.visit_eq, Node.type_putChild]
  rcases role with role | role
  · rw [role, kept, found, src.namespaceScope_putBody scope fits]
    exact alike src _ none
  · rw [role]
    dsimp only
    rw [src.record_eq, src.record_eq, kept, found, src.recordDeclaration_putBody scope fits,
      src.recordScope_putBody scope fits, src.recordName_putBody fits]
    exact congrArg (fun members => [DeclTree.node _ members]) (alike src _ _)

theorem record_eq_visit (isRecord : n.type.isRecord = true) :
    src.record scope n = src.visit scope owner n := by
  rw [src.visit_eq, role_of_isRecord isRecord]

theorem visit_typeRecord {type changedType : Node}
    (role : n.type.role = .declaration ∨ n.type.role = .typeDefinition)
    (found : n.child? .type = some type) (isRecord : type.type.isRecord = true)
    (sameType : changedType.type = type.type) (fits : changedType.field = some .type)
    (alike : src.visit scope owner changedType = src.visit scope owner type) :
    src.visit scope owner (n.putChild .type changedType) = src.visit scope owner n := by
  have kept := Node.child?_putChild found fits
  have records : src.typeRecord scope (n.putChild .type changedType) = src.typeRecord scope n := by
    rw [src.typeRecord_eq, src.typeRecord_eq, kept, found]
    dsimp only
    rw [sameType, if_pos isRecord, if_pos isRecord, src.record_eq_visit scope owner isRecord,
      src.record_eq_visit scope owner (sameType ▸ isRecord), alike]
  rw [src.visit_eq, src.visit_eq, Node.type_putChild]
  rcases role with role | role
  · rw [role]
    dsimp only
    rw [records, src.declarators_putType scope owner (by rw [found]; rfl) fits]
  · rw [role]
    exact records

theorem visit_around (frame : Frame n inner around) (alike : ReadAlike inner changed) :
    src.visit scope owner (around changed) = src.visit scope owner n := by
  induction frame with
  | block role =>
    rw [src.visit_eq, src.visit_eq, Node.type_withChildren, role]
    exact alike src scope owner
  | body role found => exact src.visit_body scope owner role found alike
  | @linkageList n body type found list =>
    have kept := Node.child?_putChild found (Node.field_withChildren found changed)
    rw [src.visit_linkageList scope owner type found list, src.visit_linkageList scope owner
      (n := n.putChild .body (body.withChildren changed)) type kept list]
    exact alike src scope owner
  | @linkageBody n body _ around type found single frame ih =>
    obtain ⟨others, same⟩ := frame.heading changed
    have fits : (around changed).field = some .body := by
      rw [same]
      exact Node.field_withChildren found others
    have kept := Node.child?_putChild found fits
    have stillSingle : (around changed).type ≠ .declarationList := by
      rw [same]
      exact single
    rw [src.visit_linkageBody scope owner type found single, src.visit_linkageBody scope owner
      (n := n.putChild .body (around changed)) type kept stillSingle]
    exact ih alike
  | @typeRecord n type _ around role found isRecord frame ih =>
    obtain ⟨others, same⟩ := frame.heading changed
    have sameType : (around changed).type = type.type := by
      rw [same]
      rfl
    have fits : (around changed).field = some .type := by
      rw [same]
      exact Node.field_withChildren found others
    exact src.visit_typeRecord scope owner role found isRecord sameType fits (ih alike)

theorem visit_redefined {children : List Node} (type : n.type = .functionDefinition)
    (declarator : (n.withChildren children).child? .declarator = n.child? .declarator)
    (typed : ((n.withChildren children).child? .type).isSome = (n.child? .type).isSome) :
    src.visit scope owner (n.withChildren children) = src.visit scope owner n := by
  rw [src.visit_eq, src.visit_eq, Node.type_withChildren, type]
  dsimp only [NodeType.role]
  rw [functionDefinition, declarator, typed]
  rfl

end Visit

section Walk

variable {before after : List Node} {n : Node}

theorem walk_around (named : n.isNamed = true) :
    src.walk scope owner ((before ++ n :: after).filter fun c => c.isNamed) =
      src.walk scope owner (before.filter fun c => c.isNamed) ++
        (src.visit scope owner n ++ src.walk scope owner (after.filter fun c => c.isNamed)) := by
  rw [List.filter_append, List.filter_cons_of_pos named]
  simp only [src.walk_eq_flatMap, List.flatMap_append, List.flatMap_cons]

theorem walk_unwrapped (block : Node) :
    src.walk scope owner ((before ++ (block.namedChildren ++ after)).filter fun c => c.isNamed) =
      src.walk scope owner (before.filter fun c => c.isNamed) ++
        (src.walk scope owner block.namedChildren ++
          src.walk scope owner (after.filter fun c => c.isNamed)) := by
  have named : block.namedChildren.filter (fun c => c.isNamed) = block.namedChildren := by
    simp [Node.namedChildren]
  rw [List.filter_append, List.filter_append, named]
  simp only [src.walk_eq_flatMap, List.flatMap_append]

end Walk

end SourceText

theorem Change.readAlike {children changed : List Node} (change : Change children changed) :
    ReadAlike children changed := by
  induction change with
  | @unwrap before after n named role =>
    intro src scope owner
    rw [src.walk_around scope owner named, src.walk_unwrapped scope owner n, src.visit_eq, role]
  | @unwrapLinkage before after n body named type found list =>
    intro src scope owner
    rw [src.walk_around scope owner named, src.walk_unwrapped scope owner body,
      src.visit_linkageList scope owner type found list]
  | @redefine before after n children named type declarator typed =>
    intro src scope owner
    have still : (n.withChildren children).isNamed = true := named
    rw [src.walk_around scope owner named, src.walk_around scope owner still,
      src.visit_redefined scope owner type declarator typed]
  | @inside before after inner changed n around named frame change ih =>
    intro src scope owner
    obtain ⟨others, same⟩ := frame.heading changed
    have still : (around changed).isNamed = true := by
      rw [same]
      exact named
    rw [src.walk_around scope owner named, src.walk_around scope owner still,
      src.visit_around scope owner frame ih]

theorem readAlike_of_changes {children changed : List Node}
    (changes : Relation.ReflTransGen Change children changed) : ReadAlike children changed := by
  induction changes with
  | refl =>
    intro src scope owner
    rfl
  | tail _ change ih =>
    intro src scope owner
    exact (change.readAlike src scope owner).trans (ih src scope owner)

/-- Opening transparent blocks and exchanging the bodies of functions, any number of times and at any
depth that the reader reaches, does not change the event stream of a source. -/
theorem transparent_changes_keep_events (path : Path) (source : Bytes) {root : Node}
    {changed : List Node} (changes : Relation.ReflTransGen Change root.children changed) :
    events path source (root.withChildren changed) = events path source root :=
  congrArg Forest.events (readAlike_of_changes changes (.ofBytes path source) [] none)

namespace Sample

def filledBlock : Node :=
  { emptyBlock with children := [⟨.declaration, 18, 18, 0, none, true, []⟩] }

def filledDefinition (name : Node) : Node :=
  (definitionOf name).withChildren [declaratorOf name, filledBlock]

def templateOf (n : Node) : Node := ⟨.templateDeclaration, 0, 19, 0, none, true, [n]⟩

def listOf (n : Node) : Node := ⟨.declarationList, 0, 19, 0, some .body, true, [n]⟩

def linkageOf (n : Node) : Node := ⟨.linkageSpecification, 0, 19, 0, none, true, [listOf n]⟩

/-- Inside the template the body of the function is emptied, then both blocks are opened. -/
theorem changes_wrapped (name : Node) :
    Relation.ReflTransGen Change [linkageOf (templateOf (filledDefinition name))]
      [definitionOf name] := by
  have emptied : Change [filledDefinition name] [definitionOf name] :=
    @Change.redefine [] [] _ [declaratorOf name, emptyBlock] rfl rfl rfl rfl
  have inTemplate : Change [templateOf (filledDefinition name)] [templateOf (definitionOf name)] :=
    @Change.inside [] [] _ _ _ _ rfl (.block rfl) emptied
  have opened : Change [templateOf (definitionOf name)] [definitionOf name] :=
    @Change.unwrap [] [] _ rfl rfl
  have inLinkage : ∀ n m, Change [n] [m] → Change [linkageOf n] [linkageOf m] := by
    intro n m change
    have frame := @Frame.linkageList (linkageOf n) (listOf n) rfl rfl rfl
    exact @Change.inside [] [] [n] [m] _ _ rfl frame change
  have last : Change [linkageOf (definitionOf name)] [definitionOf name] :=
    @Change.unwrapLinkage [] [] _ (listOf (definitionOf name)) rfl rfl rfl rfl
  exact ((Relation.ReflTransGen.single (inLinkage _ _ inTemplate)).tail (inLinkage _ _ opened)).tail last

end Sample

/-- A function in a template in a linkage block, and the same function alone with an empty body. -/
theorem transparent_changes_keep_events_sample :
    let source := Sample.constructorBehind "      "
    let name := Sample.memberName .declarator
    let wrapped := Node.emptyRoot.withChildren
      [Sample.linkageOf (Sample.templateOf (Sample.filledDefinition name))]
    Relation.ReflTransGen Change wrapped.children [Sample.definitionOf name] ∧
      events Path.here source (wrapped.withChildren [Sample.definitionOf name]) =
        events Path.here source wrapped ∧
      ∃ d, events Path.here source wrapped = [.enter d, .exit d] := by
  intro source name wrapped
  have changes : Relation.ReflTransGen Change wrapped.children [Sample.definitionOf name] :=
    Sample.changes_wrapped name
  have same := transparent_changes_keep_events Path.here source changes
  have outOfLine : (SourceText.ofBytes Path.here source).OutOfLine (Sample.definitionOf name)
      (Sample.declaratorOf name) name (Sample.qualifier 6 9) (Sample.qualifier 6 9) Sample.ownName :=
    Sample.outOfLine_definition rfl (Sample.chain_member _) (by decide +kernel)
  exact ⟨changes, same, _, same.symm.trans (Sample.events_definition Path.here source rfl outOfLine)⟩

end DeclGen.SyntaxTree
