import DeclGen.SyntaxTree

/-!
Descents from a declarator. A declared name is wrapped in pointer, reference, array and function
declarators; each descent follows the declarator field, or the last named child where that field is
missing, and stops at what it looks for.
-/
namespace DeclGen.SyntaxTree.Node

def innerDeclarator? (n : Node) : Option Node :=
  (n.child? .declarator).or n.namedChildren.getLast?

theorem sizeOf_innerDeclarator {n c : Node} (h : n.innerDeclarator? = some c) :
    sizeOf c < sizeOf n := by
  unfold innerDeclarator? at h
  cases found : n.child? .declarator with
  | some d =>
    rw [found] at h
    exact Option.some.inj h ▸ sizeOf_child found
  | none =>
    rw [found] at h
    have member : c ∈ n.namedChildren := List.mem_of_getLast? h
    exact sizeOf_lt_of_mem (List.mem_filter.1 member).1

def nameNode? (n : Node) : Option Node :=
  if n.type.isName then some n
  else if n.type.isDeclarator then
    match _inner : n.innerDeclarator? with
    | some c => nameNode? c
    | none => none
  else none
termination_by sizeOf n
decreasing_by exact sizeOf_innerDeclarator _inner

def wrapsFunction : NodeType → Bool
  | .attributedDeclarator | .pointerDeclarator | .referenceDeclarator => true
  | _ => false

/-- The function declarator of a function declaration. A pointer to a function declares none. -/
def functionDeclarator? (n : Node) : Option Node :=
  if n.type = .functionDeclarator then
    if (n.child? .declarator).any fun target => target.type = .parenthesizedDeclarator then none
    else some n
  else if wrapsFunction n.type then
    match _inner : n.innerDeclarator? with
    | some c => functionDeclarator? c
    | none => none
  else none
termination_by sizeOf n
decreasing_by exact sizeOf_innerDeclarator _inner

def pointedFunction? (n : Node) : Option Node :=
  if n.type = .functionDeclarator then some n
  else if n.type.isDeclarator then
    match _inner : n.innerDeclarator? with
    | some c => pointedFunction? c
    | none => none
  else none
termination_by sizeOf n
decreasing_by exact sizeOf_innerDeclarator _inner

end DeclGen.SyntaxTree.Node
