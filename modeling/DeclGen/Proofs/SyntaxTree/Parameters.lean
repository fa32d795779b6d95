import DeclGen.Proofs.Generation.Isolation
import DeclGen.Proofs.Output.Log
import DeclGen.Proofs.SyntaxTree.Tracking

/-!
The parameters of the functions in a parsed file. The reader announces every parameter inside the
extent of its function and gives the empty name to one that has none; the tracker keeps the first
parameter of each name, and the empty name counts as a name there. So a function keeps all its
parameters exactly if their names differ and at most one of them is unnamed.
-/
namespace DeclGen

/-- The functions of a unit, those outside of classes first. -/
def SourceUnit.allFunctions (unit : SourceUnit) : List Function :=
  unit.functions ++ unit.classes.flatMap fun c => c.methods

section Names

variable {kept vs : List Variable}

theorem addNamed_eq (kept : List Variable) (v : Variable) :
    addNamed kept v =
      if v.name ∈ kept.map (fun p => p.name) then kept else kept ++ [v] := by
  have taken : (kept.any fun p => p.name == v.name) = true ↔ v.name ∈ kept.map fun p => p.name := by
    simp
  simp only [addNamed, taken]

theorem nodup_addNamed (distinct : (kept.map fun p => p.name).Nodup) (v : Variable) :
    ((addNamed kept v).map fun p => p.name).Nodup := by
  rw [addNamed_eq]
  split
  · exact distinct
  · next new =>
    rw [List.map_append, List.map_singleton, List.nodup_append]
    refine ⟨distinct, by simp, ?_⟩
    intro name member other single same
    rw [List.mem_singleton.mp single] at same
    exact new (same ▸ member)

theorem nodup_foldl_addNamed (distinct : (kept.map fun p => p.name).Nodup) (vs : List Variable) :
    ((vs.foldl addNamed kept).map fun p => p.name).Nodup := by
  induction vs generalizing kept with
  | nil => exact distinct
  | cons v rest ih => exact ih (nodup_addNamed distinct v)

theorem foldl_addNamed_of_nodup (distinct : ((kept ++ vs).map fun p => p.name).Nodup) :
    vs.foldl addNamed kept = kept ++ vs := by
  induction vs generalizing kept with
  | nil => simp
  | cons v rest ih =>
    have whole : kept ++ v :: rest = (kept ++ [v]) ++ rest := by simp
    have new : v.name ∉ kept.map fun p => p.name := by
      rw [List.map_append, List.nodup_append] at distinct
      intro known
      exact distinct.2.2 v.name known v.name (by simp) rfl
    rw [whole] at distinct ⊢
    rw [List.foldl_cons, addNamed_eq, if_neg new, ih distinct]

theorem names_firstOfEachName_iff (vs : List Variable) :
    ((firstOfEachName vs).map fun p => p.name) = vs.map (fun p => p.name) ↔
      (vs.map fun p => p.name).Nodup := by
  rw [← foldl_addNamed_nil]
  constructor
  · intro same
    have none : (([] : List Variable).map fun p => p.name).Nodup := List.nodup_nil
    rw [← same]
    exact nodup_foldl_addNamed none vs
  · intro distinct
    rw [foldl_addNamed_of_nodup (by simpa using distinct), List.nil_append]

theorem nodup_iff_unnamed {names : List Text} (apart : (names.filter fun name => name ≠ []).Nodup) :
    names.Nodup ↔ names.count [] ≤ 1 := by
  rw [List.nodup_iff_count]
  constructor
  · intro single
    exact single []
  · intro unnamed name
    by_cases empty : name = []
    · rw [empty]
      exact unnamed
    · -- leaving out the empty names does not change how often another one occurs
      have counted := List.nodup_iff_count.mp apart name
      rwa [List.count_filter (by simpa using empty)] at counted

end Names

namespace SyntaxTree

open Scope
open Utf8 (Bytes)

def parametersInside (nodes : List Occurrence) (o : Occurrence) : List Declaration :=
  (nodes.filter fun q => q.decl.kind = .parameter ∧ o.node ∈ q.around).map Occurrence.decl

/-- The names that are not empty differ from each other. -/
def NamedApart (declared : List Declaration) : Prop :=
  ((declared.map fun d => d.name).filter fun name => name ≠ []).Nodup

def OneForOne (f : Function) (declared : List Declaration) : Prop :=
  (f.parameters.map fun p => p.name) = declared.map fun d => d.name

/-- The function that the unit has for a node of the stream. -/
structure StandsFor (path : Path) (nodes : List Occurrence) (f : Function) (o : Occurrence) :
    Prop where
  listed : o ∈ nodes
  kind : o.decl.kind.isFunctionKind = true
  annotated : attached o.decl ≠ []
  same : f = functionAt path nodes o

section Parameters

variable {path : Path} {nodes : List Occurrence} {o : Occurrence} {f : Function}

theorem Regular.given_iff {q : Occurrence} (regular : Regular path q)
    (kind : o.decl.kind.isFunctionKind = true) (annotated : attached o.decl ≠ []) :
    (Live path q ∧ q.decl.kind = .parameter ∧ functionIn q.around = some o.node) ↔
      (q.decl.kind = .parameter ∧ o.node ∈ q.around) := by
  constructor
  · rintro ⟨_, parameter, found⟩
    exact ⟨parameter, List.mem_of_find?_eq_some found⟩
  · rintro ⟨parameter, inside⟩
    rcases regular with ⟨other, _, _⟩ | ⟨_, file, owner, outer, around, _, ownerFile, records⟩
    · simp [parameter, takesParameters, DeclKind.isFunctionKind] at other
    · -- only the innermost node around a parameter can be a function
      have owns : o.node = owner := by
        rw [around] at inside
        rcases List.mem_cons.mp inside with here | further
        · exact here
        · have plain := records.not_function o.node further
          exact absurd (plain.symm.trans kind) Bool.false_ne_true
      subst owns
      have clear : Clear path q.around := by
        rw [around]
        exact records.clear.cons ownerFile (fun _ => annotated) o.node.number
      refine ⟨(live_iff clear).mpr file, parameter, ?_⟩
      rw [around, functionIn]
      exact List.find?_cons_of_pos kind

theorem parametersOf_inside (regular : ∀ q ∈ nodes, Regular path q)
    (kind : o.decl.kind.isFunctionKind = true) (annotated : attached o.decl ≠ []) :
    parametersOf path (some o.node) nodes =
      (parametersInside nodes o).map fun d => variableOf path d [] := by
  rw [parametersOf, parametersInside, List.map_map]
  congr 1
  refine List.filter_congr ?_
  intro q member
  exact decide_eq_decide.mpr ((regular q member).given_iff kind annotated)

theorem StandsFor.parameters (stands : StandsFor path nodes f o)
    (regular : ∀ q ∈ nodes, Regular path q) :
    f.parameters = firstOfEachName ((parametersInside nodes o).map fun d => variableOf path d []) := by
  rw [stands.same, functionAt, parametersOf_inside regular stands.kind stands.annotated]

theorem names_variableOf (declared : List Declaration) :
    ((declared.map fun d => variableOf path d []).map fun p => p.name) =
      declared.map fun d => d.name := by
  rw [List.map_map]
  rfl

theorem StandsFor.oneForOne_iff (stands : StandsFor path nodes f o)
    (regular : ∀ q ∈ nodes, Regular path q) :
    OneForOne f (parametersInside nodes o) ↔
      ((parametersInside nodes o).map fun d => d.name).Nodup := by
  rw [OneForOne, stands.parameters regular, ← names_variableOf, names_firstOfEachName_iff]

theorem standsFor_of_mem (member : f ∈ (describedUnit path nodes).allFunctions) :
    ∃ o, StandsFor path nodes f o := by
  rcases List.mem_append.mp member with free | method
  · obtain ⟨o, chosen, rfl⟩ := List.mem_map.mp free
    obtain ⟨listed, _, kind, annotated⟩ := mem_selected chosen
    refine ⟨o, listed, ?_, annotated, rfl⟩
    rw [List.mem_singleton.mp kind]
    rfl
  · obtain ⟨c, found, inside⟩ := List.mem_flatMap.mp method
    obtain ⟨record, _, rfl⟩ := List.mem_map.mp found
    obtain ⟨o, owned, rfl⟩ := List.mem_map.mp inside
    obtain ⟨listed, _, kind, annotated⟩ := mem_selected (mem_ownedBy owned).1
    refine ⟨o, listed, ?_, annotated, rfl⟩
    rcases List.mem_pair.mp kind with same | same <;> rw [same] <;> rfl

end Parameters

def streamOf (source : Bytes) (root : Node) : DeclarationSource :=
  fun path => ⟨events path source root, none⟩

theorem parseUnit_streamOf (path : Path) (source : Bytes) (root : Node) :
    (parseUnit (streamOf source root) path).2 =
      .ok (describedUnit path (declarations path source root).outline) := by
  have regular := regular_outline (declarations_shape path source root)
  have known : KnownKinds (declarations path source root).outline :=
    fun o member => (regular o member).known
  have unnested : Unnested path (declarations path source root).outline :=
    fun o member _ function => (regular o member).not_nested function
  refine parseUnit_ok_iff.mpr ⟨rfl, ?_⟩
  change track path (declarations path source root).events = _
  rw [track_of_fits (fits_outline known unnested), unitOf_meaningOf known unnested]

/-- Every source is parsed into the unit that its declarations describe. A function in it has the
parameters that are declared inside it, the first of each name; and if those that have a name differ
in it, then no parameter is lost exactly if at most one of them is unnamed. -/
theorem parameters_kept_iff (path : Path) (source : Bytes) (root : Node) :
    let nodes := (declarations path source root).outline
    ∃ unit, (parseUnit (streamOf source root) path).2 = .ok unit ∧
      unit = describedUnit path nodes ∧
      ∀ f ∈ unit.allFunctions, ∃ o, StandsFor path nodes f o ∧
        f.parameters =
          firstOfEachName ((parametersInside nodes o).map fun d => variableOf path d []) ∧
        (NamedApart (parametersInside nodes o) →
          (OneForOne f (parametersInside nodes o) ↔
            ((parametersInside nodes o).map fun d => d.name).count [] ≤ 1)) := by
  intro nodes
  have regular := regular_outline (declarations_shape path source root)
  refine ⟨describedUnit path nodes, parseUnit_streamOf path source root, rfl, ?_⟩
  intro f member
  obtain ⟨o, stands⟩ := standsFor_of_mem member
  refine ⟨o, stands, stands.parameters regular, ?_⟩
  intro apart
  exact (stands.oneForOne_iff regular).trans (nodup_iff_unnamed apart)

namespace Sample

def header : Path := Path.ofText "a.h".text

def unnamedSource : Bytes := Utf8.bytes "CGFUNCTION()\nvoid f(int, float);".text

def primitiveType (first last : Nat) : Node :=
  ⟨.other "primitive_type".text, first, last, 1, some .type, true, []⟩

def unnamedParameter (first last : Nat) : Node :=
  ⟨.parameterDeclaration, first, last, 1, none, true, [primitiveType first last]⟩

def parameterList : Node :=
  ⟨.other "parameter_list".text, 19, 31, 1, some .parameters, true,
    [unnamedParameter 20 23, unnamedParameter 25 30]⟩

def functionName : Node := ⟨.identifier, 18, 19, 1, some .declarator, true, []⟩

def functionDeclarator : Node :=
  ⟨.functionDeclarator, 18, 31, 1, some .declarator, true, [functionName, parameterList]⟩

def functionDeclaration : Node :=
  ⟨.declaration, 13, 32, 1, none, true, [primitiveType 13 17, functionDeclarator]⟩

def unnamedTree : Node := { Node.emptyRoot with children := [functionDeclaration] }

def declared (kind : DeclKind) (name text : String) : Declaration where
  kind := kind
  qualifiedName := name.text
  name := name.text
  lineAbove := "CGFUNCTION()".text
  file := header
  sourceText := text.text

def function : Declaration := declared .function "f" "void f(int, float)"

def unnamedForest : Forest :=
  [.node function [.leaf (declared .parameter "" "int"), .leaf (declared .parameter "" "float")]]

theorem parameters_unnamed :
    (SourceText.ofBytes header unnamedSource).parameters functionDeclarator =
      [.leaf (declared .parameter "" "int"), .leaf (declared .parameter "" "float")] := by
  have first : (SourceText.ofBytes header unnamedSource).parameterTree (unnamedParameter 20 23) =
      .leaf (declared .parameter "" "int") := congrArg DeclTree.leaf (by decide +kernel)
  have second : (SourceText.ofBytes header unnamedSource).parameterTree (unnamedParameter 25 30) =
      .leaf (declared .parameter "" "float") := congrArg DeclTree.leaf (by decide +kernel)
  rw [← first, ← second]
  rfl

theorem declarations_unnamed :
    declarations header unnamedSource unnamedTree = unnamedForest := by
  have typed : (SourceText.ofBytes header unnamedSource).typeRecord [] functionDeclaration = [] := by
    rw [SourceText.typeRecord_eq]
    rfl
  have found : functionDeclarator.functionDeclarator? = some functionDeclarator := by
    rw [Node.functionDeclarator?]
    rfl
  have named : (functionDeclarator.child? .declarator).bind Node.nameNode? = some functionName := by
    change functionName.nameNode? = _
    rw [Node.nameNode?]
    rfl
  have simple : (SourceText.ofBytes header unnamedSource).simpleName functionName = "f".text := by
    rw [SourceText.simpleName]
    decide +kernel
  have nodes : unnamedTree.namedChildren = [functionDeclaration] := rfl
  rw [declarations, nodes, SourceText.walk, SourceText.walk, List.append_nil, SourceText.visit_eq]
  change SourceText.typeRecord _ [] functionDeclaration ++
    (SourceText.declarator _ functionDeclaration [] none true functionDeclarator ++ []) = _
  rw [typed, List.nil_append, List.append_nil, SourceText.declarator, found]
  simp only [SourceText.functionTree, named, simple]
  rw [if_neg (by decide), parameters_unnamed, unnamedForest]
  refine congrArg (fun d => [DeclTree.node d _]) ?_
  decide +kernel

end Sample

/-- Two parameters without a name are declared, and the function has one of them. -/
theorem unnamed_parameters_lost :
    let nodes := (declarations Sample.header Sample.unnamedSource Sample.unnamedTree).outline
    ∃ unit f o,
      (parseUnit (streamOf Sample.unnamedSource Sample.unnamedTree) Sample.header).2 = .ok unit ∧
      unit.allFunctions = [f] ∧ StandsFor Sample.header nodes f o ∧
      (parametersInside nodes o).map (fun d => d.sourceText) = ["int".text, "float".text] ∧
      NamedApart (parametersInside nodes o) ∧
      f.parameters.map (fun p => p.type) = ["int".text] ∧
      ¬ OneForOne f (parametersInside nodes o) := by
  intro nodes
  have parsed := parseUnit_streamOf Sample.header Sample.unnamedSource Sample.unnamedTree
  have listed : nodes = Sample.unnamedForest.outline :=
    congrArg Forest.outline Sample.declarations_unnamed
  refine ⟨describedUnit Sample.header nodes, functionAt Sample.header nodes ⟨⟨0, Sample.function⟩, []⟩,
    ⟨⟨0, Sample.function⟩, []⟩, parsed, ?_⟩
  rw [listed]
  refine ⟨by decide +kernel, ⟨by decide +kernel, rfl, by decide +kernel, rfl⟩, by decide +kernel, ?_,
    by decide +kernel, ?_⟩
  · unfold NamedApart
    decide +kernel
  · unfold OneForOne
    decide +kernel

end SyntaxTree
end DeclGen
