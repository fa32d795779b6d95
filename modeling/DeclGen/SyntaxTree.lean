import DeclGen.Text.Basic

/-!
Syntax trees of C++ sources as a parser delivers them. Only what a reader of declarations looks at is
kept: the type of a node, the bytes it covers, its row, the field it fills in its parent, and whether
it is named. Nothing is assumed of a tree beyond being finite.
-/
namespace DeclGen.SyntaxTree

inductive NodeType where
  | namespaceDefinition
  | linkageSpecification
  | declarationList
  | templateDeclaration
  | preprocIf
  | preprocIfdef
  | preprocElse
  | preprocElif
  | preprocElifdef
  | classSpecifier
  | structSpecifier
  | unionSpecifier
  | declaration
  | fieldDeclaration
  | functionDefinition
  | typeDefinition
  | attributedDeclarator
  | arrayDeclarator
  | functionDeclarator
  | initDeclarator
  | parenthesizedDeclarator
  | pointerDeclarator
  | referenceDeclarator
  | destructorName
  | fieldIdentifier
  | identifier
  | operatorCast
  | operatorName
  | qualifiedIdentifier
  | templateFunction
  | templateMethod
  | typeIdentifier
  | templateType
  | parameterDeclaration
  | optionalParameterDeclaration
  | other (name : Text)
  deriving DecidableEq, Repr

namespace NodeType

def names : List (String × NodeType) :=
  [("namespace_definition", .namespaceDefinition), ("linkage_specification", .linkageSpecification),
   ("declaration_list", .declarationList), ("template_declaration", .templateDeclaration),
   ("preproc_if", .preprocIf), ("preproc_ifdef", .preprocIfdef), ("preproc_else", .preprocElse),
   ("preproc_elif", .preprocElif), ("preproc_elifdef", .preprocElifdef),
   ("class_specifier", .classSpecifier), ("struct_specifier", .structSpecifier),
   ("union_specifier", .unionSpecifier), ("declaration", .declaration),
   ("field_declaration", .fieldDeclaration), ("function_definition", .functionDefinition),
   ("type_definition", .typeDefinition), ("attributed_declarator", .attributedDeclarator),
   ("array_declarator", .arrayDeclarator), ("function_declarator", .functionDeclarator),
   ("init_declarator", .initDeclarator), ("parenthesized_declarator", .parenthesizedDeclarator),
   ("pointer_declarator", .pointerDeclarator), ("reference_declarator", .referenceDeclarator),
   ("destructor_name", .destructorName), ("field_identifier", .fieldIdentifier),
   ("identifier", .identifier), ("operator_cast", .operatorCast), ("operator_name", .operatorName),
   ("qualified_identifier", .qualifiedIdentifier), ("template_function", .templateFunction),
   ("template_method", .templateMethod), ("type_identifier", .typeIdentifier),
   ("template_type", .templateType), ("parameter_declaration", .parameterDeclaration),
   ("optional_parameter_declaration", .optionalParameterDeclaration)]

def ofName (name : String) : NodeType := (names.lookup name).getD (.other name.text)

def isRecord : NodeType → Bool
  | .classSpecifier | .structSpecifier | .unionSpecifier => true
  | _ => false

def isDeclarator : NodeType → Bool
  | .attributedDeclarator | .arrayDeclarator | .functionDeclarator | .initDeclarator
  | .parenthesizedDeclarator | .pointerDeclarator | .referenceDeclarator => true
  | _ => false

def isName : NodeType → Bool
  | .destructorName | .fieldIdentifier | .identifier | .operatorCast | .operatorName
  | .qualifiedIdentifier | .templateFunction | .templateMethod | .typeIdentifier => true
  | _ => false

def isCompoundName : NodeType → Bool
  | .qualifiedIdentifier | .templateFunction | .templateMethod | .templateType => true
  | _ => false

def isParameter : NodeType → Bool
  | .parameterDeclaration | .optionalParameterDeclaration => true
  | _ => false

end NodeType

inductive Field where
  | body
  | name
  | type
  | declarator
  | parameters
  | scope
  | other (name : Text)
  deriving DecidableEq, Repr

def Field.ofName (name : String) : Field :=
  ([("body", Field.body), ("name", .name), ("type", .type), ("declarator", .declarator),
    ("parameters", .parameters), ("scope", .scope)].lookup name).getD (.other name.text)

structure Node where
  type : NodeType
  firstByte : Nat
  endByte : Nat
  row : Nat
  field : Option Field
  isNamed : Bool
  children : List Node
  deriving Repr

namespace Node

def emptyRoot : Node := ⟨.other "root".text, 0, 0, 0, none, true, []⟩

instance : Inhabited Node := ⟨emptyRoot⟩

def namedChildren (n : Node) : List Node := n.children.filter fun c => c.isNamed

def fieldChildren (n : Node) (field : Field) : List Node :=
  n.children.filter fun c => c.field == some field

def child? (n : Node) (field : Field) : Option Node :=
  n.children.find? fun c => c.field == some field

theorem sizeOf_children (n : Node) : sizeOf n.children < sizeOf n := by
  cases n
  simp only [mk.sizeOf_spec]
  omega

theorem sizeOf_lt_of_mem {n c : Node} (h : c ∈ n.children) : sizeOf c < sizeOf n :=
  Nat.lt_trans (List.sizeOf_lt_of_mem h) n.sizeOf_children

theorem sizeOf_child {n c : Node} {field : Field} (h : n.child? field = some c) :
    sizeOf c < sizeOf n :=
  sizeOf_lt_of_mem (List.mem_of_find?_eq_some h)

theorem sizeOf_filter (p : Node → Bool) (ns : List Node) : sizeOf (ns.filter p) ≤ sizeOf ns := by
  induction ns with
  | nil => simp
  | cons n rest ih =>
    rw [List.filter_cons]
    split
    · simp only [List.cons.sizeOf_spec]; omega
    · simp only [List.cons.sizeOf_spec]; omega

theorem sizeOf_namedChildren (n : Node) : sizeOf n.namedChildren < sizeOf n :=
  Nat.lt_of_le_of_lt (sizeOf_filter _ _) n.sizeOf_children

end Node
end DeclGen.SyntaxTree
