import DeclGen.Proofs.Directive.Rows
import DeclGen.Proofs.SyntaxTree.Reading
import Mathlib.Data.List.Forall2

/-!
What a directive says has no influence on what is declared. The reader cuts all text from the masked
source; the source as it was written gives it the line above a name and nothing else. So two sources
that are masked to the same bytes have the same declarations in the same order, up to the lines above
them, and such a line differs only if it is a directive.
-/
namespace DeclGen

def Declaration.withoutLine (d : Declaration) : Declaration := { d with lineAbove := [] }

namespace Event

def decl : Event → Declaration
  | .enter d => d
  | .exit d => d

def withoutLine : Event → Event
  | .enter d => .enter d.withoutLine
  | .exit d => .exit d.withoutLine

end Event

namespace SyntaxTree

open Utf8 (Bytes)
open Directive (byteLines isDirectiveLine)

namespace SourceText

variable (src : SourceText)

def functionDeclaration (outer declarator name : Node) (scope : List Text) (owner : Option Text)
    (hasType : Bool) : Declaration where
  kind := src.functionKind name owner hasType
  qualifiedName := qualify (scope ++ [src.textOf name])
  name := src.simpleName name
  lineAbove := src.lineAbove name
  file := src.path
  sourceText := src.between outer.firstByte declarator.endByte

theorem functionTree_eq (outer declarator : Node) (scope : List Text) (owner : Option Text)
    (hasType : Bool) : src.functionTree outer declarator scope owner hasType =
      match (declarator.child? .declarator).bind Node.nameNode? with
      | none => []
      | some name =>
        if name.type = .destructorName ∨ (src.simpleName name).head? = some (CodePoint.char '~') then []
        else
          [.node (src.functionDeclaration outer declarator name scope owner hasType)
            (src.parameters declarator)] := rfl

def variableDeclaration (outer declarator name : Node) (scope : List Text) (owner : Option Text) :
    Declaration where
  kind := if owner.isSome then .field else .variable
  qualifiedName := qualify (scope ++ [src.textOf name])
  name := src.simpleName name
  lineAbove := src.lineAbove name
  file := src.path
  sourceText := src.between outer.firstByte declarator.endByte

theorem variableTree_eq (outer declarator : Node) (scope : List Text) (owner : Option Text) :
    src.variableTree outer declarator scope owner =
      match declarator.nameNode? with
      | none => []
      | some name =>
        [.node (src.variableDeclaration outer declarator name scope owner)
          ((declarator.pointedFunction?.map src.parameters).getD [])] := rfl

end SourceText

/-- Where the name of a declaration stands that the reader finds; one without a name stands for
itself. -/
inductive NamedAt (src : SourceText) : Declaration → Node → Prop
  | record (n : Node) (scope : List Text) :
      NamedAt src (src.recordDeclaration n scope) ((n.child? .name).getD n)
  | function (outer declarator : Node) (scope : List Text) (owner : Option Text) (hasType : Bool)
      {name : Node} (named : (declarator.child? .declarator).bind Node.nameNode? = some name) :
      NamedAt src (src.functionDeclaration outer declarator name scope owner hasType) name
  | variable (outer declarator : Node) (scope : List Text) (owner : Option Text) {name : Node}
      (named : declarator.nameNode? = some name) :
      NamedAt src (src.variableDeclaration outer declarator name scope owner) name
  | parameter (n : Node) :
      NamedAt src (src.parameterTree n).decl (((n.child? .declarator).bind Node.nameNode?).getD n)

theorem NamedAt.lineAbove {src : SourceText} {d : Declaration} {n : Node} (named : NamedAt src d n) :
    d.lineAbove = src.lineAbove n := by
  cases named <;> rfl

/-- Events of two readings that differ in the line above at most, which both take from the row above
the same node. -/
structure SameEvent (src other : SourceText) (root : Node) (e f : Event) : Prop where
  erased : e.withoutLine = f.withoutLine
  named : ∃ n, root.Below n ∧ NamedAt src e.decl n ∧ NamedAt other f.decl n

def SameEvents (src other : SourceText) (root : Node) (forest another : Forest) : Prop :=
  List.Forall₂ (SameEvent src other root) forest.events another.events

section Forests

variable {src other : SourceText} {root : Node}

theorem events_append (forest another : Forest) :
    (forest ++ another : Forest).events = forest.events ++ another.events := by
  induction forest with
  | nil => rfl
  | cons tree rest ih =>
    change tree.events ++ Forest.events (rest ++ another) =
      tree.events ++ Forest.events rest ++ another.events
    rw [ih, List.append_assoc]

theorem SameEvents.append {first second third fourth : Forest}
    (front : SameEvents src other root first second) (back : SameEvents src other root third fourth) :
    SameEvents src other root (first ++ third) (second ++ fourth) := by
  unfold SameEvents
  rw [events_append, events_append]
  exact List.rel_append front back

theorem SameEvents.node {d e : Declaration} {body another : Forest}
    (erased : d.withoutLine = e.withoutLine)
    (named : ∃ n, root.Below n ∧ NamedAt src d n ∧ NamedAt other e n)
    (inner : SameEvents src other root body another) :
    SameEvents src other root [.node d body] [.node e another] := by
  have begins : SameEvent src other root (.enter d) (.enter e) := ⟨congrArg Event.enter erased, named⟩
  have ends : SameEvent src other root (.exit d) (.exit e) := ⟨congrArg Event.exit erased, named⟩
  change List.Forall₂ _ ((.enter d :: (body.events ++ [.exit d])) ++ [])
    ((.enter e :: (another.events ++ [.exit e])) ++ [])
  rw [List.append_nil, List.append_nil]
  exact .cons begins (List.rel_append inner (.cons ends .nil))

theorem sameEvents_map {nodes : List Node} {f g : Node → DeclTree}
    (each : ∀ n ∈ nodes, SameEvents src other root [f n] [g n]) :
    SameEvents src other root (nodes.map f) (nodes.map g) := by
  induction nodes with
  | nil => exact .nil
  | cons n rest ih =>
    have later := ih fun m member => each m (List.mem_cons_of_mem _ member)
    exact (each n List.mem_cons_self).append later

end Forests

section Readings

variable (src : SourceText) (lines : List Text) {root : Node}

theorem parameterTree_same {n : Node} (below : root.Below n) :
    SameEvents src (src.withLines lines) root [src.parameterTree n]
      [(src.withLines lines).parameterTree n] := by
  have names := map_simpleName_withLines src lines ((n.child? .declarator).bind Node.nameNode?)
  refine .node ?_ ⟨_, ?_, .parameter n, .parameter n⟩ .nil
  · simp only [Declaration.withoutLine, names]
    rfl
  · cases found : (n.child? .declarator).bind Node.nameNode? with
    | none => exact below
    | some name =>
      obtain ⟨declarator, filled, inner⟩ := Option.bind_eq_some_iff.mp found
      exact (below.child? filled).nameNode inner

theorem parameters_same {function : Node} (below : root.Below function) :
    SameEvents src (src.withLines lines) root (src.parameters function)
      ((src.withLines lines).parameters function) := by
  unfold SourceText.parameters
  cases found : function.child? .parameters with
  | none => exact .nil
  | some list =>
    refine sameEvents_map fun n member => ?_
    have listed := Node.mem_of_mem_namedChildren (List.mem_filter.mp member).1
    exact parameterTree_same src lines (.child (below.child? found) listed)

theorem functionKind_withLines (name : Node) (owner : Option Text) (hasType : Bool) :
    (src.withLines lines).functionKind name owner hasType = src.functionKind name owner hasType := by
  simp only [SourceText.functionKind, map_simpleName_withLines, simpleName_withLines]

theorem functionTree_same {declarator : Node} (below : root.Below declarator) (outer : Node)
    (scope : List Text) (owner : Option Text) (hasType : Bool) :
    SameEvents src (src.withLines lines) root (src.functionTree outer declarator scope owner hasType)
      ((src.withLines lines).functionTree outer declarator scope owner hasType) := by
  rw [src.functionTree_eq, (src.withLines lines).functionTree_eq]
  cases named : (declarator.child? .declarator).bind Node.nameNode? with
  | none => exact .nil
  | some name =>
    obtain ⟨inner, filled, descent⟩ := Option.bind_eq_some_iff.mp named
    dsimp only
    rw [simpleName_withLines]
    split
    · exact .nil
    · refine .node ?_ ⟨name, (below.child? filled).nameNode descent, ?_, ?_⟩
        (parameters_same src lines below)
      · simp only [SourceText.functionDeclaration, Declaration.withoutLine, functionKind_withLines,
          simpleName_withLines]
        rfl
      · exact .function outer declarator scope owner hasType named
      · exact .function outer declarator scope owner hasType named

theorem variableTree_same {declarator : Node} (below : root.Below declarator) (outer : Node)
    (scope : List Text) (owner : Option Text) :
    SameEvents src (src.withLines lines) root (src.variableTree outer declarator scope owner)
      ((src.withLines lines).variableTree outer declarator scope owner) := by
  rw [src.variableTree_eq, (src.withLines lines).variableTree_eq]
  cases named : declarator.nameNode? with
  | none => exact .nil
  | some name =>
    refine .node ?_ ⟨name, below.nameNode named, ?_, ?_⟩ ?_
    · simp only [SourceText.variableDeclaration, Declaration.withoutLine, simpleName_withLines]
      rfl
    · exact .variable outer declarator scope owner named
    · exact .variable outer declarator scope owner named
    · cases found : declarator.pointedFunction? with
      | none => exact .nil
      | some function => exact parameters_same src lines (below.pointedFunction found)

theorem recordDeclaration_same (n : Node) (scope : List Text) :
    (src.recordDeclaration n scope).withoutLine =
      ((src.withLines lines).recordDeclaration n scope).withoutLine := by
  simp only [SourceText.recordDeclaration, Declaration.withoutLine, recordScope_withLines,
    recordName_withLines]
  rfl

theorem pairing_sameEvents (root : Node) :
    Pairing src lines root false fun _ forest another =>
      SameEvents src (src.withLines lines) root forest another where
  nil := .nil
  append := .append
  ofFunction := fun outer _ scope hasType below _ =>
    functionTree_same src lines below outer scope _ hasType
  ofVariable := fun outer _ scope below _ => variableTree_same src lines below outer scope _
  ofRecord := by
    intro inside body another n scope below members
    refine .node (recordDeclaration_same src lines n scope) ⟨_, ?_, .record n scope, .record n scope⟩
      members
    cases found : n.child? .name with
    | none => exact below
    | some name => exact below.child? found

end Readings

def DirectiveAbove (source : Bytes) (n : Node) : Prop :=
  0 < n.row ∧ ∃ line, (byteLines source)[n.row - 1]? = some line ∧
    isDirectiveLine (Utf8.decode line) = true

section Sources

variable {first second : Bytes}

theorem ofBytes_of_mask_eq (path : Path) (same : Directive.mask first = Directive.mask second) :
    SourceText.ofBytes path second =
      (SourceText.ofBytes path first).withLines (SourceText.ofBytes path second).lines := by
  simp only [SourceText.ofBytes, SourceText.withLines, same]

theorem lineAbove_ofBytes (path : Path) (source : Bytes) (n : Node) :
    (SourceText.ofBytes path source).lineAbove n =
      if n.row = 0 then [] else (((byteLines source)[n.row - 1]?).map Utf8.decode).getD [] := by
  simp only [SourceText.lineAbove, SourceText.ofBytes, Directive.lines_decode, List.getElem?_map]

theorem directiveAbove_of_lineAbove_ne {path : Path} {n : Node}
    (same : Directive.mask first = Directive.mask second)
    (differ : (SourceText.ofBytes path first).lineAbove n ≠ (SourceText.ofBytes path second).lineAbove n) :
    DirectiveAbove first n ∨ DirectiveAbove second n := by
  rw [lineAbove_ofBytes, lineAbove_ofBytes] at differ
  by_cases top : n.row = 0
  · simp [top] at differ
  · rw [if_neg top, if_neg top] at differ
    have inside : 0 < n.row := Nat.pos_of_ne_zero top
    apply Classical.byContradiction
    intro neither
    have plain : ∀ source, ¬ DirectiveAbove source n → ∀ line,
        (byteLines source)[n.row - 1]? = some line → isDirectiveLine (Utf8.decode line) = false := by
      intro source absent line found
      apply Bool.eq_false_iff.mpr
      intro directive
      exact absent ⟨inside, line, found, directive⟩
    have equal := Directive.byteLine_eq_of_mask_eq same (plain first fun d => neither (.inl d))
      (plain second fun d => neither (.inr d))
    exact differ (by rw [equal])

theorem events_same (path : Path) (same : Directive.mask first = Directive.mask second) (root : Node) :
    List.Forall₂ (SameEvent (.ofBytes path first) (.ofBytes path second) root)
      (events path first root) (events path second root) := by
  have readings := walk_of_pairing
    (pairing_sameEvents (SourceText.ofBytes path first) (SourceText.ofBytes path second).lines root)
    fun strict => Bool.noConfusion strict
  rw [← ofBytes_of_mask_eq path same] at readings
  exact readings

end Sources

/-- Both declarations have their name at the same node, and the lines above them are the same unless
one is a directive. -/
def AlikeOverDirectives (path : Path) (first second : Bytes) (root : Node) (e f : Event) : Prop :=
  ∃ n, root.Below n ∧ NamedAt (.ofBytes path first) e.decl n ∧
    NamedAt (.ofBytes path second) f.decl n ∧
    (e.decl.lineAbove ≠ f.decl.lineAbove → DirectiveAbove first n ∨ DirectiveAbove second n)

/-- Sources that are masked to the same bytes have the same events, apart from the lines above; and
these differ only where a directive stands above the name in one of the sources. -/
theorem directives_leave_structure (path : Path) (root : Node) {first second : Bytes}
    (same : Directive.mask first = Directive.mask second) :
    (events path first root).map Event.withoutLine =
        (events path second root).map Event.withoutLine ∧
      List.Forall₂ (AlikeOverDirectives path first second root)
        (events path first root) (events path second root) := by
  have paired := events_same path same root
  constructor
  · rw [← List.forall₂_eq_eq_eq, List.forall₂_map_left_iff, List.forall₂_map_right_iff]
    exact paired.imp fun e f alike => alike.erased
  · refine paired.imp fun e f alike => ?_
    obtain ⟨n, below, here, there⟩ := alike.named
    refine ⟨n, below, here, there, ?_⟩
    intro differ
    rw [here.lineAbove, there.lineAbove] at differ
    exact directiveAbove_of_lineAbove_ne same differ

namespace Sample

def classBelow (line : String) : Bytes := Utf8.bytes (line.text ++ "\nclass A {};".text)

def className : Node := ⟨.typeIdentifier, 17, 18, 1, some .name, true, []⟩

def classBody : Node := ⟨.other "field_declaration_list".text, 19, 21, 1, some .body, true, []⟩

def classNode : Node := ⟨.classSpecifier, 11, 21, 1, none, true, [className, classBody]⟩

def classTree : Node := { Node.emptyRoot with children := [classNode] }

theorem events_classTree (path : Path) (source : Bytes) :
    let d := (SourceText.ofBytes path source).recordDeclaration classNode []
    events path source classTree = [.enter d, .exit d] := by
  intro d
  have inner : (SourceText.ofBytes path source).record [] classNode = [.node d []] := by
    rw [SourceText.record_eq]
    change [DeclTree.node d (SourceText.walk _ _ _ [])] = _
    rw [SourceText.walk]
  change ((SourceText.ofBytes path source).walk [] none [classNode]).events = _
  rw [SourceText.walk, SourceText.walk, SourceText.visit_eq]
  change ((SourceText.ofBytes path source).record [] classNode ++ [] : Forest).events = _
  rw [inner]
  rfl

end Sample

/-- Another directive above the class changes the line and nothing else. -/
theorem directives_leave_structure_sample :
    let first := Sample.classBelow "CGCLASS(a)"
    let second := Sample.classBelow "CGMETHOD()"
    Directive.mask first = Directive.mask second ∧
      (events Path.here first Sample.classTree).map Event.withoutLine =
        (events Path.here second Sample.classTree).map Event.withoutLine ∧
      List.Forall₂ (AlikeOverDirectives Path.here first second Sample.classTree)
        (events Path.here first Sample.classTree) (events Path.here second Sample.classTree) ∧
      (events Path.here first Sample.classTree).map (fun e => e.decl.lineAbove) =
        ["CGCLASS(a)".text, "CGCLASS(a)".text] ∧
      (events Path.here second Sample.classTree).map (fun e => e.decl.lineAbove) =
        ["CGMETHOD()".text, "CGMETHOD()".text] := by
  intro first second
  have same : Directive.mask first = Directive.mask second := by decide +kernel
  have alike := directives_leave_structure Path.here Sample.classTree same
  refine ⟨same, alike.1, alike.2, ?_, ?_⟩
  · rw [Sample.events_classTree]
    decide +kernel
  · rw [Sample.events_classTree]
    decide +kernel

end SyntaxTree
end DeclGen
