import DeclGen.Declaration
import DeclGen.Directive.Mask
import DeclGen.SyntaxTree.Declarator

/-!
Reading the declarations of a source off its syntax tree. The result is a forest: records contain
what their bodies declare, functions and variables contain their parameters only. Namespaces, linkage
blocks, templates and preprocessor blocks leave no trace but the names they add. Text is cut from the
masked source, and the line above a name from the source as it was written.
-/
namespace DeclGen.SyntaxTree

open Utf8 (Bytes)

structure SourceText where
  path : Path
  masked : Bytes
  lines : List Text

def SourceText.ofBytes (path : Path) (source : Bytes) : SourceText where
  path := path
  masked := Directive.mask source
  lines := pieces (.char '\n') (Utf8.decode source)

def scopeNames : Text → List Text
  | [] => [[]]
  | ':' :: ':' :: rest => [] :: scopeNames rest
  | c :: rest => extendFirst c (scopeNames rest)

def qualify (names : List Text) : Text := joinWith "::".text names

namespace SourceText

def between (src : SourceText) (first last : Nat) : Text :=
  Utf8.decode (Utf8.slice src.masked first last)

def textOf (src : SourceText) (n : Node) : Text := src.between n.firstByte n.endByte

def lineAbove (src : SourceText) (n : Node) : Text :=
  if n.row = 0 then [] else (src.lines[n.row - 1]?).getD []

def simpleName (src : SourceText) (n : Node) : Text :=
  if n.type.isCompoundName then
    match _found : n.child? .name with
    | some inner => simpleName src inner
    | none => src.textOf n
  else src.textOf n
termination_by sizeOf n
decreasing_by exact Node.sizeOf_child _found

/-- One parameter; an unnamed one has an empty name and keeps its text. -/
def parameterTree (src : SourceText) (n : Node) : DeclTree :=
  let declarator := n.child? .declarator
  let nameNode := declarator.bind Node.nameNode?
  let name := (nameNode.map src.simpleName).getD []
  .leaf
    { kind := .parameter
      qualifiedName := name
      name := name
      lineAbove := src.lineAbove (nameNode.getD n)
      file := src.path
      sourceText := src.between n.firstByte (declarator.getD n).endByte }

def parameters (src : SourceText) (function : Node) : Forest :=
  match function.child? .parameters with
  | none => []
  | some list => (list.namedChildren.filter fun n => n.type.isParameter).map src.parameterTree

/-- What kind of function a name declares. An out-of-line definition takes its owner from the
qualifier; a function without a type that is named like its owner constructs it. -/
def functionKind (src : SourceText) (nameNode : Node) (owner : Option Text) (hasType : Bool) :
    DeclKind :=
  let owner :=
    if nameNode.type = .qualifiedIdentifier then
      some (((nameNode.child? .scope).map src.simpleName).getD [])
    else owner
  match owner with
  | none => .function
  | some name => if !hasType && src.simpleName nameNode == name then .constructor else .method

/-- A function with its parameters. Destructors are not read. -/
def functionTree (src : SourceText) (outer declarator : Node) (scope : List Text)
    (owner : Option Text) (hasType : Bool) : Forest :=
  match (declarator.child? .declarator).bind Node.nameNode? with
  | none => []
  | some nameNode =>
    let name := src.simpleName nameNode
    if nameNode.type = .destructorName ∨ name.head? = some (CodePoint.char '~') then []
    else
      [.node
        { kind := src.functionKind nameNode owner hasType
          qualifiedName := qualify (scope ++ [src.textOf nameNode])
          name := name
          lineAbove := src.lineAbove nameNode
          file := src.path
          sourceText := src.between outer.firstByte declarator.endByte }
        (src.parameters declarator)]

/-- A variable, or a field where there is an owner. The parameters of a function pointer lie inside. -/
def variableTree (src : SourceText) (outer declarator : Node) (scope : List Text)
    (owner : Option Text) : Forest :=
  match declarator.nameNode? with
  | none => []
  | some nameNode =>
    [.node
      { kind := if owner.isSome then .field else .variable
        qualifiedName := qualify (scope ++ [src.textOf nameNode])
        name := src.simpleName nameNode
        lineAbove := src.lineAbove nameNode
        file := src.path
        sourceText := src.between outer.firstByte declarator.endByte }
      ((declarator.pointedFunction?.map src.parameters).getD [])]

def declarator (src : SourceText) (outer : Node) (scope : List Text) (owner : Option Text)
    (hasType : Bool) (n : Node) : Forest :=
  match n.functionDeclarator? with
  | some function => src.functionTree outer function scope owner hasType
  | none => src.variableTree outer n scope owner

def declarators (src : SourceText) (n : Node) (scope : List Text) (owner : Option Text) : Forest :=
  (n.fieldChildren .declarator).flatMap
    (src.declarator n scope owner (n.child? .type).isSome)

def functionDefinition (src : SourceText) (n : Node) (scope : List Text) (owner : Option Text) :
    Forest :=
  match (n.child? .declarator).bind Node.functionDeclarator? with
  | some declarator => src.functionTree n declarator scope owner (n.child? .type).isSome
  | none => []

/-- The name of a record; an anonymous one has the empty name. -/
def recordName (src : SourceText) (n : Node) : Text :=
  ((n.child? .name).map src.simpleName).getD []

def recordScope (src : SourceText) (n : Node) (scope : List Text) : List Text :=
  if (src.recordName n).isEmpty then scope else scope ++ [src.recordName n]

def recordDeclaration (src : SourceText) (n : Node) (scope : List Text) : Declaration where
  kind := .record
  qualifiedName := qualify (src.recordScope n scope)
  name := src.recordName n
  lineAbove := src.lineAbove ((n.child? .name).getD n)
  file := src.path
  sourceText := []

/-- The scope inside a namespace; `a::b` opens two. -/
def namespaceScope (src : SourceText) (n : Node) (scope : List Text) : List Text :=
  match n.child? .name with
  | some name => scope ++ scopeNames (src.textOf name)
  | none => scope

mutual

def visit (src : SourceText) (scope : List Text) (owner : Option Text) (n : Node) : Forest :=
  match n.type with
  | .namespaceDefinition =>
    match _body : n.child? .body with
    | some body => walk src (src.namespaceScope n scope) none body.namedChildren
    | none => []
  | .linkageSpecification =>
    match _body : n.child? .body with
    | some body =>
      if body.type = .declarationList then walk src scope owner body.namedChildren
      else visit src scope owner body
    | none => []
  | .templateDeclaration | .preprocIf | .preprocIfdef | .preprocElse | .preprocElif
  | .preprocElifdef => walk src scope owner n.namedChildren
  | .classSpecifier | .structSpecifier | .unionSpecifier => record src scope n
  | .declaration | .fieldDeclaration =>
    typeRecord src scope n ++ src.declarators n scope owner
  | .functionDefinition => src.functionDefinition n scope owner
  | .typeDefinition => typeRecord src scope n
  | _ => []
termination_by (sizeOf n, 2)
decreasing_by
  · exact Prod.Lex.left _ _ (Nat.lt_trans body.sizeOf_namedChildren (Node.sizeOf_child _body))
  · exact Prod.Lex.left _ _ (Nat.lt_trans body.sizeOf_namedChildren (Node.sizeOf_child _body))
  · exact Prod.Lex.left _ _ (Node.sizeOf_child _body)
  · exact Prod.Lex.left _ _ n.sizeOf_namedChildren
  all_goals exact Prod.Lex.right _ (by decide)

/-- A record with the declarations of its body. A record without a body declares nothing. -/
def record (src : SourceText) (scope : List Text) (n : Node) : Forest :=
  match _body : n.child? .body with
  | none => []
  | some body =>
    [.node (src.recordDeclaration n scope)
      (walk src (src.recordScope n scope) (some (src.recordName n)) body.namedChildren)]
termination_by (sizeOf n, 0)
decreasing_by
  exact Prod.Lex.left _ _ (Nat.lt_trans body.sizeOf_namedChildren (Node.sizeOf_child _body))

def typeRecord (src : SourceText) (scope : List Text) (n : Node) : Forest :=
  match _type : n.child? .type with
  | none => []
  | some type => if type.type.isRecord then record src scope type else []
termination_by (sizeOf n, 1)
decreasing_by exact Prod.Lex.left _ _ (Node.sizeOf_child _type)

def walk (src : SourceText) (scope : List Text) (owner : Option Text) : List Node → Forest
  | [] => []
  | n :: rest => visit src scope owner n ++ walk src scope owner rest
termination_by nodes => (sizeOf nodes, 0)
decreasing_by
  · exact Prod.Lex.left _ _ (by simp only [List.cons.sizeOf_spec]; omega)
  · exact Prod.Lex.left _ _ (by simp only [List.cons.sizeOf_spec]; omega)

end

end SourceText

def declarations (path : Path) (source : Bytes) (root : Node) : Forest :=
  (SourceText.ofBytes path source).walk [] none root.namedChildren

def events (path : Path) (source : Bytes) (root : Node) : List Event :=
  (declarations path source root).events

end DeclGen.SyntaxTree
