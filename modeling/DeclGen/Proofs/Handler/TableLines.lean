import DeclGen.Proofs.Handler.Bindings
import DeclGen.Scope

/-!
The tables that the bindings use. A line declares the table of a class or assigns into it, and the
lines of a class stand together with its declaration in front. A table is therefore used before it is
declared exactly where a class that does not ask for a table has a member or a method that asks to be
put into it.
-/
namespace DeclGen.Lua

open Output

inductive TableLine where
  | declaration (owner : Class)
  | assignment (owner : Class) (member : Entity)

def TableLine.text : TableLine → Text
  | .declaration owner => (classBinding owner).line
  | .assignment owner member => (memberBinding owner member).line

def boundEntities (c : Class) : List Entity :=
  (c.methods.filter isBoundMethod).map Function.toEntity
    ++ (c.members.filter isBoundMember).map Variable.toEntity

def tableLinesOfClass (c : Class) : List TableLine :=
  ([c].filter isBoundClass).map .declaration ++ (boundEntities c).map (.assignment c)

def tableLines (units : List SourceUnit) : List TableLine :=
  units.flatMap fun unit => unit.classes.flatMap tableLinesOfClass

def bindingsBody (r : Registry) : List Text :=
  ((r.file bindingsFile).function bindingsFunction).body

/-- Each assignment comes after a declaration of the table of the same class. -/
def DeclaredBeforeUse (lines : List TableLine) : Prop :=
  ∀ before owner member after, lines = before ++ .assignment owner member :: after →
    .declaration owner ∈ before

def Inspected (c : Class) : Prop :=
  (∃ f ∈ c.methods, f.isConstructor = false ∧ Carries f.properties "LuaInspect") ∨
    ∃ v ∈ c.members, Carries v.properties "LuaInspect"

section Body

theorem lines_of_class (c : Class) :
    (bindingsOfClass c).map Binding.line = (tableLinesOfClass c).map TableLine.text := by
  simp only [bindingsOfClass, tableLinesOfClass, boundEntities, List.map_append, List.map_map,
    List.append_assoc]
  rfl

theorem lines_of_units (units : List SourceUnit) :
    (bindings units).map Binding.line = (tableLines units).map TableLine.text := by
  simp only [bindings, tableLines, List.map_flatMap, lines_of_class]

theorem Collected.body {bs : List Binding} {r : Registry} (collected : Collected bs r) :
    bindingsBody r = bs.map Binding.line := by
  obtain ⟨file, entries, holds⟩ := collected
  have alone : r.files.entries = [(bindingsFile, file)] := entries
  have found : r.file bindingsFile = file := by
    simp [Registry.file, Table.getD, Table.get?, alone]
  have function : file.function bindingsFunction = bindingFunction (bs.map Binding.line) := by
    simp [GeneratedFile.function, Table.getD, Table.get?, holds.listed]
  rw [bindingsBody, found, function]
  rfl

theorem body_of_units (units : List SourceUnit) :
    bindingsBody (units.foldl (fun r unit => dispatch handlers unit r) {}) =
      (tableLines units).map TableLine.text := by
  rw [dispatchUnits_eq_foldl, ← lines_of_units]
  cases bindings units with
  | nil => rfl
  | cons b rest => exact ((collected_first rfl b).foldl rest).body

end Body

section Order

variable {first second : List TableLine}

theorem DeclaredBeforeUse.append (front : DeclaredBeforeUse first) (back : DeclaredBeforeUse second) :
    DeclaredBeforeUse (first ++ second) := by
  intro before owner member after split
  -- the assignment lies in the first part or in the second one
  rcases List.append_eq_append_iff.mp split with ⟨skipped, rfl, rest⟩ | ⟨between, rfl, rest⟩
  · exact List.mem_append_right _ (back skipped owner member after rest)
  · cases between with
    | nil =>
      have found := back [] owner member after rest.symm
      cases found
    | cons line later =>
      obtain ⟨rfl, _⟩ := List.cons.inj rest
      exact front before owner member later rfl

theorem declaredBeforeUse_flatMap {α : Type} {f : α → List TableLine} {xs : List α}
    (each : ∀ x ∈ xs, DeclaredBeforeUse (f x)) : DeclaredBeforeUse (xs.flatMap f) := by
  induction xs with
  | nil =>
    intro before owner member after split
    simp at split
  | cons x rest ih =>
    rw [List.flatMap_cons]
    exact (each x List.mem_cons_self).append
      (ih fun y member => each y (List.mem_cons_of_mem _ member))

end Order

section Classes

variable {c : Class}

theorem boundEntities_ne_nil_iff : boundEntities c ≠ [] ↔ Inspected c := by
  simp only [boundEntities, Inspected, ne_eq, List.append_eq_nil_iff, List.map_eq_nil_iff,
    List.filter_eq_nil_iff, isBoundMethod, isBoundMember, Bool.and_eq_true, Bool.not_eq_true',
    hasProperty_iff, not_and_or, not_forall, not_not, exists_prop]
  simp only [not_or, not_not]

theorem asks_of_declaration {owner : Class} (line : .declaration owner ∈ tableLinesOfClass c) :
    owner = c ∧ Carries c.properties "LuaClass" := by
  have listed : owner = c ∧ isBoundClass owner = true := by
    simpa [tableLinesOfClass, List.mem_filter] using line
  obtain ⟨rfl, asks⟩ := listed
  exact ⟨rfl, hasProperty_iff.mp asks⟩

theorem declaredBeforeUse_class (asked : Inspected c → Carries c.properties "LuaClass") :
    DeclaredBeforeUse (tableLinesOfClass c) := by
  intro before owner member after split
  have used : .assignment owner member ∈ tableLinesOfClass c := by
    rw [split]
    simp
  have entity : member ∈ boundEntities c ∧ c = owner := by
    simpa [tableLinesOfClass] using used
  obtain ⟨bound, rfl⟩ := entity
  have declared : Carries c.properties "LuaClass" :=
    asked (boundEntities_ne_nil_iff.mp (List.ne_nil_of_mem bound))
  -- the declaration is the first line, and the assignment is another one
  have lines : tableLinesOfClass c =
      .declaration c :: (boundEntities c).map (.assignment c) := by
    simp [tableLinesOfClass, isBoundClass, hasProperty_iff.mpr declared]
  rw [lines] at split
  cases before with
  | nil => simp at split
  | cons line earlier =>
    obtain ⟨rfl, _⟩ := List.cons.inj split
    exact List.mem_cons_self

end Classes

/-- The body consists of the lines of the classes, and every table in it is declared before it is used
if and only if each class with an inspected member or method asks for its table. -/
theorem tables_declared_before_use_iff (units : List SourceUnit) :
    bindingsBody (units.foldl (fun r unit => dispatch handlers unit r) {}) =
        (tableLines units).map TableLine.text ∧
      (DeclaredBeforeUse (tableLines units) ↔
        ∀ unit ∈ units, ∀ c ∈ unit.classes, Inspected c → Carries c.properties "LuaClass") := by
  refine ⟨body_of_units units, ?_, ?_⟩
  · intro declared unit listed c inside inspected
    obtain ⟨member, bound⟩ := List.exists_mem_of_ne_nil _ (boundEntities_ne_nil_iff.mpr inspected)
    have used : .assignment c member ∈ tableLines units := by
      refine List.mem_flatMap.mpr ⟨unit, listed, List.mem_flatMap.mpr ⟨c, inside, ?_⟩⟩
      exact List.mem_append_right _ (List.mem_map.mpr ⟨member, bound, rfl⟩)
    obtain ⟨before, after, split⟩ := List.append_of_mem used
    have earlier : .declaration c ∈ tableLines units := by
      rw [split]
      exact List.mem_append_left _ (declared before c member after split)
    obtain ⟨other, _, found⟩ := List.mem_flatMap.mp earlier
    obtain ⟨d, _, line⟩ := List.mem_flatMap.mp found
    obtain ⟨rfl, asked⟩ := asks_of_declaration line
    exact asked
  · intro asked
    refine declaredBeforeUse_flatMap fun unit listed => declaredBeforeUse_flatMap fun c inside => ?_
    exact declaredBeforeUse_class (asked unit listed c inside)

namespace Sample

def field : Declaration where
  kind := .field
  qualifiedName := "Foo::bar".text
  name := "bar".text
  lineAbove := "CGMEMBER(LuaInspect)".text
  file := Path.ofText "a.h".text
  sourceText := "int bar".text

def record : Declaration where
  kind := .record
  qualifiedName := "Foo".text
  name := "Foo".text
  lineAbove := "CGCLASS()".text
  file := Path.ofText "a.h".text
  sourceText := []

def events : List Event := [.enter record, .enter field, .exit field, .exit record]

/-- The class of these events, which does not ask for a table, and its member, which does. -/
def plainClass : Class :=
  { Scope.classOf record.file record [.flag "CGCLASS".text] with
    members := [Scope.variableOf field.file field
      [.flag "CGMEMBER".text, .flag "LuaInspect".text]] }

def unit : SourceUnit := { path := record.file, classes := [plainClass] }

end Sample

theorem undeclared_table_used :
    Scope.track Sample.record.file Sample.events = .ok Sample.unit ∧
      bindingsBody (dispatch handlers Sample.unit {}) =
        ["Foo_table[\"bar\"] = &Foo::bar;".text] ∧
      ¬ DeclaredBeforeUse (tableLines [Sample.unit]) := by
  refine ⟨by decide +kernel, by decide +kernel, ?_⟩
  intro declared
  have found := declared [] Sample.plainClass (Scope.entity Sample.field.file Sample.field
    [.flag "CGMEMBER".text, .flag "LuaInspect".text]) [] rfl
  cases found

end DeclGen.Lua
