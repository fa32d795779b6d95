import DeclGen.Proofs.Scope.TrackForest
import DeclGen.Proofs.SyntaxTree.Shape

/-!
The tracker never refuses what the reader finds in a syntax tree. Around every node the reader finds
there are only records, and around a parameter one function, field or variable inside them. What the
tracker counts is therefore seen from the stream alone.
-/
namespace DeclGen.SyntaxTree

open Scope

/-- A parameter inside a field or a variable, as that of a function pointer. -/
def pointerParameter (o : Opening) : Bool :=
  o.decl.kind = .parameter && o.around.any fun d => d.kind = .field || d.kind = .variable

/-- An annotated member or method whose innermost record is missing or not annotated. -/
def lacksClass (o : Opening) : Bool :=
  o.decl.kind ∈ [DeclKind.field, .method, .constructor] && !(attached o.decl).isEmpty &&
    (o.around.find? fun d => d.kind = .record).all fun d => (attached d).isEmpty

/-- Around a part there are only records of the file. -/
def InRecords (path : Path) (around : List Placed) : Prop :=
  ∀ p ∈ around, p.decl.kind = .record ∧ p.decl.file = path

inductive Regular (path : Path) (o : Occurrence) : Prop
  | item (kind : o.decl.kind = .record ∨ takesParameters o.decl.kind = true)
      (file : o.decl.file = path) (records : InRecords path o.around)
  | parameter (kind : o.decl.kind = .parameter) (file : o.decl.file = path) (owner : Placed)
      (outer : List Placed) (around : o.around = owner :: outer)
      (ownerKind : takesParameters owner.decl.kind = true) (ownerFile : owner.decl.file = path)
      (records : InRecords path outer)

theorem InRecords.cons {path : Path} {around : List Placed} {p : Placed}
    (records : InRecords path around) (kind : p.decl.kind = .record) (file : p.decl.file = path) :
    InRecords path (p :: around) := by
  intro q member
  rcases List.mem_cons.mp member with rfl | outer
  · exact ⟨kind, file⟩
  · exact records q outer

theorem regular_tree {path : Path} {tree : DeclTree} (item : IsItem path tree) :
    ∀ {around : List Placed} {first : Nat}, InRecords path around →
      ∀ o ∈ outlineTree around first tree, Regular path o := by
  induction item with
  | @record d body kind file _ ih =>
    intro around first records o member
    rw [outlineTree] at member
    rcases List.mem_cons.mp member with rfl | below
    · exact .item (.inl kind) file records
    · obtain ⟨tree, inside, number, found⟩ := mem_outlineFrom below
      exact ih tree inside (records.cons kind file) o found
  | @declared d parameters kind file inside =>
    intro around first records o member
    rw [outlineTree] at member
    rcases List.mem_cons.mp member with rfl | below
    · exact .item (.inr kind) file records
    · obtain ⟨⟨p, none⟩, listed, number, found⟩ := mem_outlineFrom below
      obtain ⟨role, own, rfl⟩ := inside _ listed
      rw [outlineTree, outlineFrom] at found
      rw [List.mem_singleton.mp found]
      exact .parameter role own ⟨first, d⟩ around rfl kind file records

theorem regular_outline {path : Path} {forest : Forest} (body : IsBody path forest) :
    ∀ o ∈ forest.outline, Regular path o := by
  intro o member
  obtain ⟨tree, inside, number, found⟩ := mem_outlineFrom member
  exact regular_tree (body tree inside) (by intro p none; simp at none) o found

theorem takesParameters_cases {kind : DeclKind} (takes : takesParameters kind = true) :
    kind.isFunctionKind = true ∨ kind = .field ∨ kind = .variable := by
  simpa [takesParameters, or_assoc] using takes

section Regular

variable {path : Path} {o : Occurrence}

theorem Regular.known (regular : Regular path o) : o.decl.kind ∈ DeclKind.known := by
  rcases regular with ⟨kind | kind, _, _⟩ | ⟨kind, _, _, _, _, _, _, _⟩
  · rw [kind]; decide
  · cases role : o.decl.kind with
    | unknown name =>
      rw [role] at kind
      exact Bool.noConfusion kind
    | _ => decide
  · rw [kind]; decide

theorem InRecords.not_function {around : List Placed} (records : InRecords path around) :
    ∀ p ∈ around, p.decl.kind.isFunctionKind = false := by
  intro p member
  rw [(records p member).1]
  rfl

theorem InRecords.clear {around : List Placed} (records : InRecords path around) :
    Clear path around := by
  refine ⟨fun p member => (records p member).2, ?_⟩
  intro p member function
  rw [records.not_function p member] at function
  exact Bool.noConfusion function

theorem Regular.not_nested (regular : Regular path o) (function : o.decl.kind.isFunctionKind = true) :
    ∀ p ∈ o.around, p.decl.kind.isFunctionKind = false := by
  rcases regular with ⟨_, _, records⟩ | ⟨kind, _, _, _, _, _, _, _⟩
  · exact records.not_function
  · rw [kind] at function
    exact Bool.noConfusion function

theorem Regular.skipped_iff (regular : Regular path o) :
    (Live path o ∧ o.decl.kind = .parameter ∧ functionIn o.around = none) ↔
      pointerParameter o.opening = true := by
  rcases regular with ⟨kind, _, _⟩ | ⟨kind, file, owner, outer, around, takes, ownerFile, records⟩
  · have other : o.decl.kind ≠ .parameter := by
      intro same
      simp [same, takesParameters, DeclKind.isFunctionKind] at kind
    simp [other, pointerParameter, Occurrence.opening]
  · have outside : functionIn outer = none := by
      simpa [functionIn] using records.not_function
    -- a parameter is skipped exactly if no function is open, and only its owner can be one
    rcases takesParameters_cases takes with function | free
    · have found : functionIn o.around = some owner := by
        simp [around, functionIn, function]
      have notFree : ∀ p ∈ owner :: outer, p.decl.kind ≠ .field ∧ p.decl.kind ≠ .variable := by
        intro p member
        rcases List.mem_cons.mp member with rfl | record
        · constructor <;> intro same <;> simp [same, DeclKind.isFunctionKind] at function
        · simp [(records p record).1]
      have silent : pointerParameter o.opening = false := by
        simpa [pointerParameter, Occurrence.opening, kind, around] using notFree
      simp [found, silent]
    · have notFunction : owner.decl.kind.isFunctionKind = false := by
        rcases free with same | same <;> rw [same] <;> rfl
      have missing : functionIn (owner :: outer) = none := by
        rw [← outside]
        simp [functionIn, notFunction]
      have clear : Clear path o.around := by
        rw [around]
        exact records.clear.cons ownerFile
          (fun function => absurd (notFunction.symm.trans function) Bool.false_ne_true) owner.number
      have live : Live path o := (live_iff clear).mpr file
      simp [missing, live, kind, pointerParameter, Occurrence.opening, around, free]

theorem lacksClass_opening (o : Occurrence) :
    lacksClass o.opening = true ↔
      (o.decl.kind ∈ [DeclKind.field, .method, .constructor] ∧ attached o.decl ≠ []) ∧
        (!annotatedRecord (recordIn o.around)) = true := by
  have record : (o.around.map fun p => p.decl).find? (fun d => d.kind = .record) =
      (recordIn o.around).map fun p => p.decl := by
    rw [List.find?_map]
    rfl
  simp only [lacksClass, Occurrence.opening, record]
  cases recordIn o.around <;> simp [annotatedRecord]

theorem Regular.unowned_iff (regular : Regular path o) :
    ((Live path o ∧ o.decl.kind ∈ [DeclKind.field, .method, .constructor] ∧ attached o.decl ≠ []) ∧
      (!annotatedRecord (recordIn o.around)) = true) ↔ lacksClass o.opening = true := by
  rw [lacksClass_opening]
  rcases regular with ⟨_, file, records⟩ | ⟨kind, _, _, _, _, _, _, _⟩
  · have live : Live path o := (live_iff records.clear).mpr file
    simp only [live, true_and]
  · simp [kind]

theorem Regular.pointerParameter_outside (regular : Regular path o)
    (parameter : pointerParameter o.opening = true) :
    ∀ d ∈ o.opening.around, d.kind.isFunctionKind = false := by
  have missing := (regular.skipped_iff.mpr parameter).2.2
  intro d member
  obtain ⟨p, outer, rfl⟩ := List.mem_map.mp member
  exact eq_false_of_ne_true (List.find?_eq_none.mp missing p outer)

end Regular

theorem skipped_count {path : Path} {nodes : List Occurrence}
    (regular : ∀ o ∈ nodes, Regular path o) :
    (parametersOf path none nodes).length =
      (nodes.map Occurrence.opening).countP pointerParameter := by
  rw [parametersOf, List.length_map, List.countP_map, ← List.countP_eq_length_filter]
  refine List.countP_congr ?_
  intro o member
  rw [decide_eq_true_iff]
  exact (regular o member).skipped_iff

theorem unowned_count {path : Path} {nodes : List Occurrence}
    (regular : ∀ o ∈ nodes, Regular path o) :
    (unowned path nodes).length = (nodes.map Occurrence.opening).countP lacksClass := by
  rw [unowned, selected, List.filter_filter, List.countP_map, ← List.countP_eq_length_filter]
  refine List.countP_congr ?_
  intro o member
  rw [Bool.and_eq_true, decide_eq_true_iff, and_comm]
  exact (regular o member).unowned_iff

/-- The tracker gets through the declarations of every source, whatever its syntax tree. It skips the
parameters of function pointers and no others, and it gives to no class exactly the annotated members
and methods that no annotated record directly encloses. -/
theorem track_reader_events (path : Path) (source : Utf8.Bytes) (root : Node) :
    ∃ unit, track path (events path source root) = .ok unit ∧
      unit.skippedParameters = (openings [] (events path source root)).countP pointerParameter ∧
      (∀ o ∈ openings [] (events path source root), pointerParameter o = true →
        ∀ d ∈ o.around, d.kind.isFunctionKind = false) ∧
      unit.unattributed = (openings [] (events path source root)).countP lacksClass := by
  have regular := regular_outline (declarations_shape path source root)
  have known : KnownKinds (declarations path source root).outline :=
    fun o member => (regular o member).known
  have unnested : Unnested path (declarations path source root).outline :=
    fun o member _ function => (regular o member).not_nested function
  have opened : openings [] (events path source root) =
      (declarations path source root).outline.map Occurrence.opening := openings_events _
  rw [opened]
  refine ⟨describedUnit path (declarations path source root).outline, ?_,
    congrArg _ (skipped_count regular), ?_, congrArg _ (unowned_count regular)⟩
  · rw [events, track_of_fits (fits_outline known unnested), unitOf_meaningOf known unnested]
  · intro o member parameter
    obtain ⟨node, inside, rfl⟩ := List.mem_map.mp member
    exact (regular node inside).pointerParameter_outside parameter

end DeclGen.SyntaxTree
