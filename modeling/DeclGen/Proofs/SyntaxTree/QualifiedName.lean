import DeclGen.Proofs.SyntaxTree.Visiting

/-!
Functions that are defined outside of their class. Such a function is named by a chain of qualified
names, one inside the other. The reader takes the name from the end of the chain and the owner from
its beginning, and it compares the two to tell a constructor from a method. The class is the last
qualifier of the chain and not the first one; so a constructor is recognised if both qualifiers agree on
the name, as they do in a chain of one, and in general only then.
-/
namespace DeclGen.SyntaxTree

open CodePoint (char)
open Utf8 (Bytes)

/-- A chain of qualified names with its first and its last qualifier and the name at its end. -/
inductive QualifiedName : (name outermost innermost last : Node) → Prop
  | single {name qualifier last : Node} (type : name.type = .qualifiedIdentifier)
      (scope : name.child? .scope = some qualifier) (inner : name.child? .name = some last)
      (plain : last.type = .identifier) : QualifiedName name qualifier qualifier last
  | nested {name qualifier inner outermost innermost last : Node}
      (type : name.type = .qualifiedIdentifier) (scope : name.child? .scope = some qualifier)
      (inside : name.child? .name = some inner)
      (chain : QualifiedName inner outermost innermost last) :
      QualifiedName name qualifier innermost last

inductive Declares : (n function : Node) → Prop
  | declaration {n part function : Node} (type : n.type = .declaration ∨ n.type = .fieldDeclaration)
      (listed : part ∈ n.fieldChildren .declarator)
      (found : part.functionDeclarator? = some function) : Declares n function
  | definition {n function : Node} (type : n.type = .functionDefinition)
      (found : (n.child? .declarator).bind Node.functionDeclarator? = some function) :
      Declares n function

namespace SourceText

variable (src : SourceText)

/-- The kind of a function without a type that is named `last` and belongs to `qualifier`. -/
def kindWithin (qualifier last : Node) : DeclKind :=
  if src.simpleName qualifier = src.textOf last then .constructor else .method

/-- A function without a type, named by a chain of qualified names. -/
structure OutOfLine (n function name outermost innermost last : Node) : Prop where
  declares : Declares n function
  untyped : n.child? .type = none
  named : (function.child? .declarator).bind Node.nameNode? = some name
  chain : QualifiedName name outermost innermost last
  plain : (src.textOf last).head? ≠ some (char '~')

theorem simpleName_of_child {n inner : Node} (compound : n.type.isCompoundName = true)
    (found : n.child? .name = some inner) : src.simpleName n = src.simpleName inner := by
  rw [simpleName, if_pos compound]
  split
  · next other there => rw [Option.some.inj (there.symm.trans found)]
  · next missing => cases missing.symm.trans found

theorem simpleName_of_plain {n : Node} (plain : n.type.isCompoundName = false) :
    src.simpleName n = src.textOf n := by
  rw [simpleName, if_neg (by rw [plain]; exact Bool.false_ne_true)]

theorem simpleName_of_chain {name outermost innermost last : Node}
    (chain : QualifiedName name outermost innermost last) :
    src.simpleName name = src.textOf last := by
  induction chain with
  | single type _ inner plain =>
    have whole := src.simpleName_of_child (by rw [type]; rfl) inner
    exact whole.trans (src.simpleName_of_plain (by rw [plain]; rfl))
  | nested type _ inside _ ih =>
    exact (src.simpleName_of_child (by rw [type]; rfl) inside).trans ih

/-- The owner is the qualifier at the beginning of the chain, whatever is open around the function. -/
theorem functionKind_of_chain {name outermost innermost last : Node}
    (chain : QualifiedName name outermost innermost last) (owner : Option Text) :
    src.functionKind name owner false = src.kindWithin outermost last := by
  have beginning : name.type = .qualifiedIdentifier ∧ name.child? .scope = some outermost := by
    cases chain with
    | single type scope _ _ => exact ⟨type, scope⟩
    | nested type scope _ _ => exact ⟨type, scope⟩
  have same : src.simpleName name = src.simpleName outermost ↔
      src.simpleName outermost = src.textOf last := by
    rw [src.simpleName_of_chain chain]
    exact eq_comm
  simp only [functionKind, beginning.1, beginning.2, if_true, Option.map_some, Option.getD_some,
    Bool.not_false, Bool.true_and, beq_iff_eq, same]
  rfl

section OutOfLine

variable {src : SourceText} {n function name outermost innermost last : Node}

theorem OutOfLine.functionTree (outOfLine : src.OutOfLine n function name outermost innermost last)
    (scope : List Text) (owner : Option Text) :
    src.functionTree n function scope owner false =
      [.node (src.functionDeclaration n function name scope owner false)
        (src.parameters function)] := by
  have notDestructor : name.type ≠ .destructorName := by
    cases outOfLine.chain with
    | single type _ _ _ => rw [type]; decide
    | nested type _ _ _ => rw [type]; decide
  have notTilde : (src.simpleName name).head? ≠ some (char '~') := by
    rw [src.simpleName_of_chain outOfLine.chain]
    exact outOfLine.plain
  rw [src.functionTree_eq, outOfLine.named]
  exact if_neg (not_or.mpr ⟨notDestructor, notTilde⟩)

theorem OutOfLine.functionTree_infix
    (outOfLine : src.OutOfLine n function name outermost innermost last) (scope : List Text)
    (owner : Option Text) :
    Forest.events (src.functionTree n function scope owner false) <:+:
      Forest.events (src.visit scope owner n) := by
  have untyped := outOfLine.untyped
  cases outOfLine.declares with
  | @declaration part _ type listed found =>
    have role : n.type.role = .declaration := by
      rcases type with type | type <;> rw [type] <;> rfl
    have bare : src.typeRecord scope n = [] := by
      rw [src.typeRecord_eq, untyped]
    have here : src.declarator n scope owner false part =
        src.functionTree n function scope owner false := by
      rw [SourceText.declarator, found]
    obtain ⟨before, after, parts⟩ := List.append_of_mem listed
    rw [src.visit_eq, role]
    dsimp only
    rw [bare, List.nil_append, declarators, parts, untyped, List.flatMap_append, List.flatMap_cons,
      Option.isSome_none, here, events_append, events_append]
    exact ⟨_, _, List.append_assoc ..⟩
  | definition type found =>
    rw [src.visit_eq, type]
    dsimp only [NodeType.role]
    rw [functionDefinition, found, untyped]
    exact List.infix_rfl

end OutOfLine

end SourceText

/-- A function without a type that is named by a chain of qualified names has one event where it
begins, and it is a constructor exactly if it is named like the first qualifier. So it is of the kind
that its class demands, which is the last qualifier, exactly if the two qualifiers are both named
like the function or both named otherwise. -/
theorem qualified_kind_iff {path : Path} {source : Bytes} {root : Node} {scope : List Text}
    {owner : Option Text} {n function name outermost innermost last : Node}
    (visits : Visits (.ofBytes path source) root scope owner n)
    (outOfLine : (SourceText.ofBytes path source).OutOfLine n function name outermost innermost last) :
    let src := SourceText.ofBytes path source
    let d := src.functionDeclaration n function name scope owner false
    .enter d :: ((src.parameters function).events ++ [.exit d]) <:+: events path source root ∧
      d.name = src.textOf last ∧ d.kind = src.kindWithin outermost last ∧
      (d.kind = src.kindWithin innermost last ↔
        (src.simpleName outermost = src.textOf last ↔ src.simpleName innermost = src.textOf last)) := by
  intro src d
  have kind : d.kind = src.kindWithin outermost last := src.functionKind_of_chain outOfLine.chain owner
  refine ⟨?_, src.simpleName_of_chain outOfLine.chain, kind, ?_⟩
  · have inside := (outOfLine.functionTree_infix scope owner).trans visits.events_infix
    rw [outOfLine.functionTree scope owner] at inside
    simp only [Forest.events, DeclTree.eventsOf, DeclTree.events, List.append_nil] at inside
    exact inside
  · rw [kind]
    unfold SourceText.kindWithin
    split <;> split <;> simp [*]

namespace Sample

def constructorBehind (before : String) : Bytes := Utf8.bytes (before.text ++ "Foo::Foo() {}".text)

def qualifier (first last : Nat) : Node :=
  ⟨.other "namespace_identifier".text, first, last, 0, some .scope, true, []⟩

def ownName : Node := ⟨.identifier, 11, 14, 0, some .name, true, []⟩

def memberName (field : Field) : Node :=
  ⟨.qualifiedIdentifier, 6, 14, 0, some field, true, [qualifier 6 9, ownName]⟩

/-- The name together with the namespace in front of it. -/
def globalName : Node :=
  ⟨.qualifiedIdentifier, 0, 14, 0, some .declarator, true, [qualifier 0 4, memberName .name]⟩

def noParameters : Node := ⟨.other "parameter_list".text, 14, 16, 0, some .parameters, true, []⟩

def emptyBlock : Node := ⟨.other "compound_statement".text, 17, 19, 0, some .body, true, []⟩

def declaratorOf (name : Node) : Node :=
  ⟨.functionDeclarator, name.firstByte, 16, 0, some .declarator, true, [name, noParameters]⟩

def definitionOf (name : Node) : Node :=
  ⟨.functionDefinition, name.firstByte, 19, 0, none, true, [declaratorOf name, emptyBlock]⟩

def definitionTree (name : Node) : Node := { Node.emptyRoot with children := [definitionOf name] }

theorem definition_visited (src : SourceText) (name : Node) :
    Visits src (definitionTree name) [] none (definitionOf name) :=
  .top List.mem_cons_self

theorem chain_member (field : Field) :
    QualifiedName (memberName field) (qualifier 6 9) (qualifier 6 9) ownName :=
  .single rfl rfl rfl rfl

theorem chain_global : QualifiedName globalName (qualifier 0 4) (qualifier 6 9) ownName :=
  .nested rfl rfl rfl (chain_member .name)

theorem outOfLine_definition {src : SourceText} {name outermost innermost last : Node}
    (filled : name.field = some .declarator) (chain : QualifiedName name outermost innermost last)
    (plain : (src.textOf last).head? ≠ some (char '~')) :
    src.OutOfLine (definitionOf name) (declaratorOf name) name outermost innermost last := by
  have type : name.type = .qualifiedIdentifier := by
    cases chain with
    | single type _ _ _ => exact type
    | nested type _ _ _ => exact type
  have inner : (declaratorOf name).child? .declarator = some name := by
    simp [Node.child?, declaratorOf, filled]
  have found : (declaratorOf name).functionDeclarator? = some (declaratorOf name) := by
    rw [Node.functionDeclarator?, inner]
    simp [declaratorOf, type]
  have named : name.nameNode? = some name := by
    rw [Node.nameNode?, type]
    rfl
  refine ⟨.definition rfl found, rfl, ?_, chain, plain⟩
  rw [inner]
  exact named

theorem parameters_declaratorOf (src : SourceText) {name : Node}
    (filled : name.field = some .declarator) : src.parameters (declaratorOf name) = [] := by
  have found : (declaratorOf name).child? .parameters = some noParameters := by
    simp [Node.child?, declaratorOf, filled, noParameters]
  rw [SourceText.parameters, found]
  rfl

theorem events_definition (path : Path) (source : Bytes) {name outermost innermost last : Node}
    (filled : name.field = some .declarator)
    (outOfLine : (SourceText.ofBytes path source).OutOfLine (definitionOf name) (declaratorOf name) name
      outermost innermost last) :
    let d := (SourceText.ofBytes path source).functionDeclaration (definitionOf name)
      (declaratorOf name) name [] none false
    events path source (definitionTree name) = [.enter d, .exit d] := by
  intro d
  have found : ((definitionOf name).child? .declarator).bind Node.functionDeclarator? =
      some (declaratorOf name) := by
    cases outOfLine.declares with
    | declaration type _ _ => simp [definitionOf] at type
    | definition _ found => exact found
  change Forest.events (SourceText.walk _ [] none [definitionOf name]) = _
  rw [SourceText.walk_eq_flatMap, List.flatMap_singleton, SourceText.visit_eq]
  change Forest.events (SourceText.functionDefinition _ (definitionOf name) [] none) = _
  rw [SourceText.functionDefinition, found]
  change Forest.events (SourceText.functionTree _ _ _ [] none false) = _
  rw [outOfLine.functionTree, parameters_declaratorOf _ filled]
  rfl

theorem simpleName_qualifier (src : SourceText) (first last : Nat) :
    src.simpleName (qualifier first last) = src.between first last := by
  rw [src.simpleName_of_plain rfl]
  rfl

end Sample

/-- With one qualifier the constructor is recognised. -/
theorem qualified_kind_iff_sample :
    let source := Sample.constructorBehind "      "
    let name := Sample.memberName .declarator
    let src := SourceText.ofBytes Path.here source
    let d := src.functionDeclaration (Sample.definitionOf name) (Sample.declaratorOf name) name []
      none false
    Visits src (Sample.definitionTree name) [] none (Sample.definitionOf name) ∧
      src.OutOfLine (Sample.definitionOf name) (Sample.declaratorOf name) name (Sample.qualifier 6 9)
        (Sample.qualifier 6 9) Sample.ownName ∧
      .enter d :: ([] ++ [.exit d]) <:+: events Path.here source (Sample.definitionTree name) ∧
      d.name = "Foo".text ∧ d.kind = .constructor := by
  intro source name src d
  have visits := Sample.definition_visited src name
  have outOfLine : src.OutOfLine (Sample.definitionOf name) (Sample.declaratorOf name) name
      (Sample.qualifier 6 9) (Sample.qualifier 6 9) Sample.ownName :=
    Sample.outOfLine_definition rfl (Sample.chain_member _) (by decide +kernel)
  obtain ⟨inside, called, kind, _⟩ := qualified_kind_iff visits outOfLine
  have own : src.textOf Sample.ownName = "Foo".text := by decide +kernel
  refine ⟨visits, outOfLine, inside, called.trans own, kind.trans (if_pos ?_)⟩
  rw [Sample.simpleName_qualifier]
  decide +kernel

/-- With a namespace in front of it, the same constructor is read as a method: its name is that of the
last qualifier and not that of the first one. -/
theorem nested_constructor_read_as_method :
    let source := Sample.constructorBehind "game::"
    let src := SourceText.ofBytes Path.here source
    let d := src.functionDeclaration (Sample.definitionOf Sample.globalName)
      (Sample.declaratorOf Sample.globalName) Sample.globalName [] none false
    src.OutOfLine (Sample.definitionOf Sample.globalName) (Sample.declaratorOf Sample.globalName)
        Sample.globalName (Sample.qualifier 0 4) (Sample.qualifier 6 9) Sample.ownName ∧
      src.simpleName (Sample.qualifier 6 9) = src.textOf Sample.ownName ∧
      events Path.here source (Sample.definitionTree Sample.globalName) = [.enter d, .exit d] ∧
      d.name = "Foo".text ∧ d.kind = .method := by
  intro source src d
  have chain := Sample.chain_global
  have outOfLine : src.OutOfLine (Sample.definitionOf Sample.globalName)
      (Sample.declaratorOf Sample.globalName) Sample.globalName (Sample.qualifier 0 4)
      (Sample.qualifier 6 9) Sample.ownName :=
    Sample.outOfLine_definition rfl chain (by decide +kernel)
  refine ⟨outOfLine, ?_, Sample.events_definition Path.here source rfl outOfLine,
    (src.simpleName_of_chain chain).trans (by decide +kernel), ?_⟩
  · rw [Sample.simpleName_qualifier]
    decide +kernel
  · refine (src.functionKind_of_chain chain none).trans (if_neg ?_)
    rw [Sample.simpleName_qualifier]
    decide +kernel

end DeclGen.SyntaxTree
