import DeclGen.Proofs.SyntaxTree.Reading

/-!
The shape of what the reader finds in a syntax tree, whatever the tree. Only records contain more than
parameters, and a parameter contains nothing.
-/
namespace DeclGen.SyntaxTree

structure IsParameter (path : Path) (tree : DeclTree) : Prop where
  kind : tree.decl.kind = .parameter
  file : tree.decl.file = path
  empty : tree.children = []

def takesParameters (kind : DeclKind) : Bool :=
  kind.isFunctionKind || kind = .field || kind = .variable

/-- A declaration of the file that stands at the top or inside records. -/
inductive IsItem (path : Path) : DeclTree → Prop
  | record {d : Declaration} {body : List DeclTree} (kind : d.kind = .record) (file : d.file = path)
      (items : ∀ tree ∈ body, IsItem path tree) : IsItem path (.node d body)
  | declared {d : Declaration} {parameters : List DeclTree} (kind : takesParameters d.kind = true)
      (file : d.file = path) (inside : ∀ tree ∈ parameters, IsParameter path tree) :
      IsItem path (.node d parameters)

def IsBody (path : Path) (forest : Forest) : Prop := ∀ tree ∈ forest, IsItem path tree

theorem IsBody.nil (path : Path) : IsBody path [] := by
  intro tree member
  simp at member

theorem IsBody.single {path : Path} {tree : DeclTree} (item : IsItem path tree) :
    IsBody path [tree] := by
  intro other member
  rw [List.mem_singleton.mp member]
  exact item

theorem IsBody.append {path : Path} {first second : Forest} (front : IsBody path first)
    (back : IsBody path second) : IsBody path (first ++ second) :=
  List.forall_mem_append.mpr ⟨front, back⟩

namespace SourceText

variable (src : SourceText)

theorem parameters_shape (function : Node) :
    ∀ tree ∈ src.parameters function, IsParameter src.path tree := by
  intro tree member
  unfold parameters at member
  split at member
  · simp at member
  · obtain ⟨n, _, rfl⟩ := List.mem_map.mp member
    exact ⟨rfl, rfl, rfl⟩

theorem functionKind_isFunctionKind (nameNode : Node) (owner : Option Text) (hasType : Bool) :
    (src.functionKind nameNode owner hasType).isFunctionKind = true := by
  unfold functionKind
  generalize (if nameNode.type = .qualifiedIdentifier then
    some (((nameNode.child? .scope).map src.simpleName).getD []) else owner) = around
  cases around with
  | none => rfl
  | some name =>
    dsimp only
    split <;> rfl

theorem functionTree_shape (outer declarator : Node) (scope : List Text) (owner : Option Text)
    (hasType : Bool) : IsBody src.path (src.functionTree outer declarator scope owner hasType) := by
  unfold functionTree
  split
  · exact .nil _
  · next nameNode _ =>
    dsimp only
    split
    · exact .nil _
    · refine .single (.declared ?_ rfl (src.parameters_shape declarator))
      simp [takesParameters, src.functionKind_isFunctionKind nameNode owner hasType]

theorem variableTree_shape (outer declarator : Node) (scope : List Text) (owner : Option Text) :
    IsBody src.path (src.variableTree outer declarator scope owner) := by
  unfold variableTree
  split
  · exact .nil _
  · refine .single (.declared ?_ rfl ?_)
    · cases owner <;> rfl
    · cases found : declarator.pointedFunction? with
      | none => simp
      | some function => exact src.parameters_shape function

theorem reading_shape : Reading src false fun _ forest => IsBody src.path forest where
  nil := .nil _
  append := .append
  ofFunction := fun outer declarator scope hasType _ =>
    src.functionTree_shape outer declarator scope _ hasType
  ofVariable := fun outer declarator scope _ => src.variableTree_shape outer declarator scope _
  ofRecord := fun _ _ items => .single (.record rfl rfl items)

end SourceText

theorem declarations_shape (path : Path) (source : Utf8.Bytes) (root : Node) :
    IsBody path (declarations path source root) :=
  declarations_of_reading (SourceText.ofBytes path source).reading_shape root
    fun strict => Bool.noConfusion strict

end DeclGen.SyntaxTree
