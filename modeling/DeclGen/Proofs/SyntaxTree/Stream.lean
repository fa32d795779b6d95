import DeclGen.Proofs.Outline
import DeclGen.Proofs.SyntaxTree.Shape

/-!
The event streams that the reader produces, whatever the syntax tree. They are the words of a small
grammar of nested blocks, in which a block ends with the declaration that it began with. Where a
declaration may stand is told by the blocks that are open around it: fields stand directly in records,
destructors nowhere, and variables and functions stay out of records unless a namespace inside one lets
them in.
-/
namespace DeclGen.SyntaxTree

def block (d : Declaration) (inner : List Event) : List Event := .enter d :: (inner ++ [.exit d])

inductive ParameterWord : List Event → Prop
  | nil : ParameterWord []
  | cons {d : Declaration} {rest : List Event} (kind : d.kind = .parameter)
      (later : ParameterWord rest) : ParameterWord (block d [] ++ rest)

mutual

inductive ItemWord : List Event → Prop
  | record {d : Declaration} {inner : List Event} (kind : d.kind = .record)
      (body : StreamWord inner) : ItemWord (block d inner)
  | declared {d : Declaration} {inner : List Event} (kind : takesParameters d.kind = true)
      (parameters : ParameterWord inner) : ItemWord (block d inner)

inductive StreamWord : List Event → Prop
  | nil : StreamWord []
  | cons {item rest : List Event} (first : ItemWord item) (later : StreamWord rest) :
      StreamWord (item ++ rest)

end

section Words

variable {path : Path}

theorem events_node (d : Declaration) (children : List DeclTree) :
    (DeclTree.node d children).events = block d (DeclTree.eventsOf children) := by
  rw [DeclTree.events]
  rfl

theorem parameterWord_eventsOf {parameters : List DeclTree}
    (each : ∀ tree ∈ parameters, IsParameter path tree) :
    ParameterWord (DeclTree.eventsOf parameters) := by
  induction parameters with
  | nil => exact .nil
  | cons tree rest ih =>
    obtain ⟨d, children⟩ := tree
    obtain ⟨kind, _, empty⟩ := each _ List.mem_cons_self
    have none : children = [] := empty
    rw [DeclTree.eventsOf, events_node, none]
    exact .cons kind (ih fun tree member => each tree (List.mem_cons_of_mem _ member))

theorem streamWord_eventsOf {forest : List DeclTree}
    (each : ∀ tree ∈ forest, ItemWord tree.events) : StreamWord (DeclTree.eventsOf forest) := by
  induction forest with
  | nil => exact .nil
  | cons tree rest ih =>
    rw [DeclTree.eventsOf]
    exact .cons (each tree List.mem_cons_self)
      (ih fun tree member => each tree (List.mem_cons_of_mem _ member))

theorem itemWord_events {tree : DeclTree} (item : IsItem path tree) : ItemWord tree.events := by
  induction item with
  | record kind _ _ ih =>
    rw [events_node]
    exact .record kind (streamWord_eventsOf ih)
  | declared kind _ inside =>
    rw [events_node]
    exact .declared kind (parameterWord_eventsOf inside)

end Words

/-- What may be declared where a record is open or not. If no namespace lies inside a record, then a
record keeps variables and functions out. -/
structure Admitted (orderly inside : Bool) (d : Declaration) : Prop where
  field : d.kind = .field → inside = true
  free : orderly = true → inside = true → d.kind ≠ .variable ∧ d.kind ≠ .function
  name : d.kind.isFunctionKind = true → d.name.head? ≠ some (CodePoint.char '~')

inductive InPlace (path : Path) (orderly : Bool) : Bool → DeclTree → Prop
  | record {inside : Bool} {d : Declaration} {body : List DeclTree} (kind : d.kind = .record)
      (file : d.file = path) (members : ∀ tree ∈ body, InPlace path orderly true tree) :
      InPlace path orderly inside (.node d body)
  | declared {inside : Bool} {d : Declaration} {parameters : List DeclTree} (file : d.file = path)
      (admitted : Admitted orderly inside d) (only : ∀ tree ∈ parameters, IsParameter path tree) :
      InPlace path orderly inside (.node d parameters)

namespace SourceText

variable (src : SourceText)

theorem functionKind_ne_function {owner : Option Text} (owned : owner.isSome = true)
    (nameNode : Node) (hasType : Bool) : src.functionKind nameNode owner hasType ≠ .function := by
  obtain ⟨name, rfl⟩ := Option.isSome_iff_exists.mp owned
  unfold functionKind
  dsimp only
  split
  · next missing => split at missing <;> cases missing
  · split <;> exact DeclKind.noConfusion

theorem functionTree_inPlace {orderly inside : Bool} {owner : Option Text} (outer declarator : Node)
    (scope : List Text) (hasType : Bool) (fitting : Fitting orderly inside owner) :
    ∀ tree ∈ src.functionTree outer declarator scope owner hasType,
      InPlace src.path orderly inside tree := by
  intro tree member
  unfold functionTree at member
  split at member
  · cases member
  · next nameNode _ =>
    dsimp only at member
    split at member
    · cases member
    · next kept =>
      rw [List.mem_singleton.mp member]
      have other : ∀ kind, kind.isFunctionKind = false →
          src.functionKind nameNode owner hasType ≠ kind := by
        intro kind different same
        have function := src.functionKind_isFunctionKind nameNode owner hasType
        rw [same, different] at function
        exact Bool.noConfusion function
      refine .declared rfl ⟨?_, ?_, ?_⟩ (src.parameters_shape declarator)
      · intro field
        exact absurd field (other .field rfl)
      · intro strict opened
        have owned : owner.isSome = true := fitting.owned strict opened
        exact ⟨other .variable rfl, src.functionKind_ne_function owned nameNode hasType⟩
      · intro _ destructor
        exact kept (.inr destructor)

theorem variableTree_inPlace {orderly inside : Bool} {owner : Option Text} (outer declarator : Node)
    (scope : List Text) (fitting : Fitting orderly inside owner) :
    ∀ tree ∈ src.variableTree outer declarator scope owner,
      InPlace src.path orderly inside tree := by
  intro tree member
  unfold variableTree at member
  split at member
  · cases member
  · next nameNode _ =>
    rw [List.mem_singleton.mp member]
    have parameters : ∀ tree ∈ (declarator.pointedFunction?.map src.parameters).getD [],
        IsParameter src.path tree := by
      cases declarator.pointedFunction? with
      | none => simp
      | some function => exact src.parameters_shape function
    cases owner with
    | none =>
      refine .declared rfl ⟨fun field => DeclKind.noConfusion field, ?_, ?_⟩ parameters
      · intro strict opened
        exact Bool.noConfusion (fitting.owned strict opened)
      · exact fun function => Bool.noConfusion function
    | some name =>
      refine .declared rfl ⟨fun _ => fitting.opened rfl, ?_, ?_⟩ parameters
      · exact fun _ _ => ⟨DeclKind.noConfusion, DeclKind.noConfusion⟩
      · exact fun function => Bool.noConfusion function

theorem reading_inPlace (orderly : Bool) :
    Reading src orderly fun inside forest => ∀ tree ∈ forest, InPlace src.path orderly inside tree where
  nil := by simp
  append := fun front back => List.forall_mem_append.mpr ⟨front, back⟩
  ofFunction := src.functionTree_inPlace
  ofVariable := src.variableTree_inPlace
  ofRecord := by
    intro inside body n scope members tree member
    rw [List.mem_singleton.mp member]
    exact .record rfl rfl members

end SourceText

structure WellPlaced (path : Path) (o : Opening) : Prop where
  file : o.decl.file = path
  field : o.decl.kind = .field → ∃ d outer, o.around = d :: outer ∧ d.kind = .record
  name : o.decl.kind.isFunctionKind = true → o.decl.name.head? ≠ some (CodePoint.char '~')

def OutOfRecords (o : Opening) : Prop :=
  o.decl.kind = .variable ∨ o.decl.kind = .function → ∀ d ∈ o.around, d.kind ≠ .record

/-- A record is directly around a place, or nothing is. -/
structure Surrounds (inside : Bool) (around : List Placed) : Prop where
  record : inside = true → ∃ p outer, around = p :: outer ∧ p.decl.kind = .record
  outermost : inside = false → around = []

section Places

variable {path : Path} {orderly inside : Bool} {around : List Placed}

theorem Admitted.wellPlaced {d : Declaration} (admitted : Admitted orderly inside d)
    (file : d.file = path) (surrounds : Surrounds inside around) (number : Nat) :
    WellPlaced path (Occurrence.opening ⟨⟨number, d⟩, around⟩) ∧
      (orderly = true → OutOfRecords (Occurrence.opening ⟨⟨number, d⟩, around⟩)) := by
  refine ⟨⟨file, ?_, admitted.name⟩, ?_⟩
  · intro field
    obtain ⟨p, outer, rfl, record⟩ := surrounds.record (admitted.field field)
    exact ⟨p.decl, outer.map fun q => q.decl, rfl, record⟩
  · intro strict free
    cases inside with
    | false =>
      rw [surrounds.outermost rfl]
      simp [Occurrence.opening]
    | true =>
      have kept := admitted.free strict rfl
      exact (free.elim kept.1 kept.2).elim

theorem IsParameter.wellPlaced {tree : DeclTree} (parameter : IsParameter path tree) {first : Nat}
    {o : Occurrence} (member : o ∈ outlineTree around first tree) :
    WellPlaced path o.opening ∧ OutOfRecords o.opening := by
  obtain ⟨d, children⟩ := tree
  obtain ⟨kind, file, rfl⟩ := parameter
  rw [outlineTree, outlineFrom] at member
  rw [List.mem_singleton.mp member]
  have isParameter : d.kind = .parameter := kind
  refine ⟨⟨file, ?_, ?_⟩, ?_⟩
  · simp [Occurrence.opening, Occurrence.decl, isParameter]
  · simp [Occurrence.opening, Occurrence.decl, isParameter, DeclKind.isFunctionKind]
  · simp [OutOfRecords, Occurrence.opening, Occurrence.decl, isParameter]

theorem InPlace.wellPlaced {tree : DeclTree} (inPlace : InPlace path orderly inside tree) :
    ∀ {around : List Placed} {first : Nat}, Surrounds inside around →
      ∀ o ∈ outlineTree around first tree,
        WellPlaced path o.opening ∧ (orderly = true → OutOfRecords o.opening) := by
  induction inPlace with
  | @record inside d body kind file members ih =>
    intro around first surrounds o member
    rw [outlineTree] at member
    rcases List.mem_cons.mp member with rfl | below
    · have admitted : Admitted orderly inside d := by
        refine ⟨?_, ?_, ?_⟩ <;> simp [kind, DeclKind.isFunctionKind]
      exact admitted.wellPlaced file surrounds first
    · obtain ⟨tree, listed, number, found⟩ := mem_outlineFrom below
      have within : Surrounds true (⟨first, d⟩ :: around) :=
        ⟨fun _ => ⟨⟨first, d⟩, around, rfl, kind⟩, fun closed => Bool.noConfusion closed⟩
      exact ih tree listed within o found
  | @declared inside d parameters file admitted only =>
    intro around first surrounds o member
    rw [outlineTree] at member
    rcases List.mem_cons.mp member with rfl | below
    · exact admitted.wellPlaced file surrounds first
    · obtain ⟨tree, listed, number, found⟩ := mem_outlineFrom below
      obtain ⟨placed, out⟩ := (only tree listed).wellPlaced found
      exact ⟨placed, fun _ => out⟩

end Places

theorem openings_wellPlaced (path : Path) (source : Utf8.Bytes) (root : Node) (orderly : Bool)
    (neat : orderly = true → root.RecordsFreeOfNamespaces) :
    ∀ o ∈ openings [] (events path source root),
      WellPlaced path o ∧ (orderly = true → OutOfRecords o) := by
  have inPlace := declarations_of_reading
    ((SourceText.ofBytes path source).reading_inPlace orderly) root neat
  intro o member
  rw [events, openings_events] at member
  obtain ⟨node, inside, rfl⟩ := List.mem_map.mp member
  obtain ⟨tree, listed, number, found⟩ := mem_outlineFrom inside
  have outermost : Surrounds false [] := ⟨fun opened => Bool.noConfusion opened, fun _ => rfl⟩
  exact (inPlace tree listed).wellPlaced outermost node found

/-- The stream of every source is a word of the grammar, whatever its syntax tree. All declarations
belong to the file, every field stands directly in a record, no function is named like a destructor,
and, if no namespace lies inside the body of a record, neither do variables and functions. -/
theorem reader_stream_grammar (path : Path) (source : Utf8.Bytes) (root : Node) :
    StreamWord (events path source root) ∧
      (∀ o ∈ openings [] (events path source root), WellPlaced path o) ∧
      (root.RecordsFreeOfNamespaces →
        ∀ o ∈ openings [] (events path source root), OutOfRecords o) := by
  refine ⟨?_, ?_, ?_⟩
  · exact streamWord_eventsOf fun tree member =>
      itemWord_events (declarations_shape path source root tree member)
  · intro o member
    exact (openings_wellPlaced path source root false (fun strict => Bool.noConfusion strict)
      o member).1
  · intro neat o member
    exact (openings_wellPlaced path source root true (fun _ => neat) o member).2 rfl

end DeclGen.SyntaxTree
