import DeclGen.Handler.Lua
import DeclGen.Proofs.Output.Includes
import DeclGen.Proofs.Table

/-!
The bindings that a list of units gives rise to. They are listed here without looking at any registry:
for each class its own line, then the lines of its methods and of its members. The handlers add just
these lines, in this order, to one function of one file, and the file includes the sources of the
entities that have a line.
-/
namespace DeclGen.Lua

open Output

structure Binding where
  entity : Entity
  line : Text

def isBoundClass (c : Class) : Bool := hasProperty c.properties "LuaClass"

def isBoundMethod (f : Function) : Bool := !f.isConstructor && hasProperty f.properties "LuaInspect"

def isBoundMember (v : Variable) : Bool := hasProperty v.properties "LuaInspect"

/-- A usertype for the class, in a variable that is named after it. -/
def classBinding (c : Class) : Binding where
  entity := c.toEntity
  line := "sol::usertype<".text ++ c.fullNamespace ++ "> ".text ++ c.name ++ "_table".text
    ++ " = lua_state.new_usertype<".text ++ c.fullNamespace ++ ">(\"".text ++ c.name
    ++ "\", sol::constructors<".text ++ c.fullNamespace ++ "()>\x7b\x7d);".text

/-- An entry in the table of the class around the member. -/
def memberBinding (owner : Class) (member : Entity) : Binding where
  entity := member
  line := owner.name ++ "_table[\"".text ++ member.name ++ "\"] = &".text
    ++ member.fullNamespace ++ ";".text

def bindingsOfClass (c : Class) : List Binding :=
  ([c].filter isBoundClass).map classBinding
    ++ (c.methods.filter isBoundMethod).map (fun f => memberBinding c f.toEntity)
    ++ (c.members.filter isBoundMember).map (fun v => memberBinding c v.toEntity)

def bindings (units : List SourceUnit) : List Binding :=
  units.flatMap fun unit => unit.classes.flatMap bindingsOfClass

def Carries (properties : List Property) (name : String) : Prop :=
  ∃ p ∈ properties, p.name = name.text

def Silent (units : List SourceUnit) : Prop :=
  ∀ unit ∈ units, ∀ c ∈ unit.classes,
    ¬ Carries c.properties "LuaClass" ∧
      (∀ f ∈ c.methods, f.isConstructor = false → ¬ Carries f.properties "LuaInspect") ∧
      ∀ v ∈ c.members, ¬ Carries v.properties "LuaInspect"

theorem hasProperty_iff {properties : List Property} {name : String} :
    hasProperty properties name = true ↔ Carries properties name := by
  rw [hasProperty, Property.find?, List.find?_isSome]
  simp [Carries]

theorem bindings_eq_nil_iff (units : List SourceUnit) : bindings units = [] ↔ Silent units := by
  have ofClass : ∀ c, bindingsOfClass c = [] ↔
      ¬ Carries c.properties "LuaClass" ∧
        (∀ f ∈ c.methods, f.isConstructor = false → ¬ Carries f.properties "LuaInspect") ∧
        ∀ v ∈ c.members, ¬ Carries v.properties "LuaInspect" := by
    intro c
    simp only [bindingsOfClass, List.append_eq_nil_iff, List.map_eq_nil_iff, List.filter_eq_nil_iff,
      isBoundClass, isBoundMethod, isBoundMember, Bool.and_eq_true, Bool.not_eq_true', not_and,
      hasProperty_iff, List.mem_singleton, forall_eq, and_assoc]
  simp only [bindings, Silent, List.flatMap_eq_nil_iff, ofClass]

namespace Binding

def addTo (b : Binding) (file : GeneratedFile) : GeneratedFile :=
  (file.addInclude b.entity.path).updateFunction bindingsFunction fun f =>
    (f.addParameter stateParameter).addBody b.line

def add (r : Registry) (b : Binding) : Registry := r.updateFile bindingsFile b.addTo

end Binding

def bindingFunction (lines : List Text) : GeneratedFunction where
  header :=
    { name := "CreateBindings".text
      parameters := [{ type := "sol::state&".text, name := "lua_state".text }] }
  body := lines

/-- The file is made for these bindings and for nothing else. -/
structure Holds (bs : List Binding) (file : GeneratedFile) : Prop where
  header : file.header = []
  functions : file.functions.entries =
    [("CreateBindings".text, bindingFunction (bs.map Binding.line))]
  once : file.includes.Nodup
  includes : ∀ item, item ∈ file.includes ↔ ∃ b ∈ bs, item = .path b.entity.path.absolute

section Step

variable {bs : List Binding} {file : GeneratedFile} {r : Registry}

theorem header_addTo (b : Binding) (file : GeneratedFile) : (b.addTo file).header = file.header :=
  (insertInclude_frame file _).1

theorem functions_addTo (b : Binding) (file : GeneratedFile) :
    (b.addTo file).functions = file.functions.update bindingsFunction (.named bindingsFunction)
      fun f => (f.addParameter stateParameter).addBody b.line := by
  have kept := (insertInclude_frame file (.path b.entity.path.absolute)).2
  rw [← kept]
  rfl

theorem mem_includes_addTo (b : Binding) (file : GeneratedFile) (item : Include) :
    item ∈ (b.addTo file).includes ↔ item ∈ file.includes ∨ item = .path b.entity.path.absolute :=
  mem_includes_insertInclude

theorem holds_first (b : Binding) : Holds [b] (b.addTo {}) where
  header := header_addTo b {}
  functions := by
    rw [functions_addTo, Table.entries_update_alone (.inl ⟨rfl, rfl⟩)]
    rfl
  once := by
    have none : ({} : GeneratedFile).includes.Nodup := List.nodup_nil
    exact nodup_insertInclude none _
  includes := by
    intro item
    rw [mem_includes_addTo]
    simp

theorem Holds.listed (holds : Holds bs file) :
    file.functions.entries = [(bindingsFunction, bindingFunction (bs.map Binding.line))] :=
  holds.functions

theorem Holds.next (holds : Holds bs file) (b : Binding) : Holds (bs ++ [b]) (b.addTo file) where
  header := (header_addTo b file).trans holds.header
  functions := by
    rw [functions_addTo, Table.entries_update_alone (.inr holds.listed), List.map_append]
    rfl
  once := nodup_insertInclude holds.once _
  includes := by
    intro item
    rw [mem_includes_addTo, holds.includes item]
    simp only [List.mem_append, List.mem_singleton, or_and_right, exists_or, exists_eq_left]

def Collected (bs : List Binding) (r : Registry) : Prop :=
  ∃ file, r.files.entries = [("LuaBindings.cpp.gen".text, file)] ∧ Holds bs file

theorem collected_first (empty : r.files.entries = []) (b : Binding) : Collected [b] (b.add r) :=
  ⟨b.addTo {}, Table.entries_update_alone (.inl ⟨empty, rfl⟩) b.addTo, holds_first b⟩

theorem Collected.next (collected : Collected bs r) (b : Binding) :
    Collected (bs ++ [b]) (b.add r) := by
  obtain ⟨file, alone, holds⟩ := collected
  exact ⟨b.addTo file, Table.entries_update_alone (.inr alone) b.addTo, holds.next b⟩

theorem Collected.foldl (collected : Collected bs r) (more : List Binding) :
    Collected (bs ++ more) (more.foldl Binding.add r) := by
  induction more generalizing bs r with
  | nil =>
    rw [List.append_nil]
    exact collected
  | cons b rest ih =>
    have following := ih (collected.next b)
    rw [List.append_assoc] at following
    exact following

end Step

section Dispatch

theorem classBinding_eq (c : Class) : classBinding c = ⟨c.toEntity, classLine c⟩ := by
  have constructed : "()>\x7b\x7d);".text = "()>".text ++ [CodePoint.char '{', '}'] ++ ");".text := by
    decide +kernel
  rw [classBinding, constructed]
  unfold classLine tableName
  simp only [List.append_assoc]

theorem memberBinding_eq (owner : Class) (member : Entity) :
    memberBinding owner member = ⟨member, memberLine member owner⟩ := by
  have entry : "_table[\"".text = "_table".text ++ "[\"".text := by decide +kernel
  have closed : ";".text = [.char ';'] := rfl
  rw [memberBinding, entry, closed]
  unfold memberLine tableName
  simp only [List.append_assoc]

theorem foldl_bind {α : Type} (asks : α → Bool) (binding : α → Binding) (xs : List α) (r : Registry) :
    xs.foldl (fun r x => if asks x then (binding x).add r else r) r =
      ((xs.filter asks).map binding).foldl Binding.add r := by
  rw [List.foldl_map, List.foldl_filter]

theorem foldl_classCalls (c : Class) (r : Registry) :
    (handlers.classCalls c).foldl (fun s call => call.run s) r =
      (bindingsOfClass c).foldl Binding.add r := by
  rw [HandlerSet.classCalls, bindingsOfClass]
  simp only [List.foldl_append, List.foldl_flatMap, ← foldl_bind, classBinding_eq, memberBinding_eq]
  rfl

theorem dispatch_eq_foldl (unit : SourceUnit) (r : Registry) :
    dispatch handlers unit r = (unit.classes.flatMap bindingsOfClass).foldl Binding.add r := by
  have unitCalls : handlers.callsWith .unit unit = [] := rfl
  have functionCalls : unit.functions.flatMap (handlers.callsWith .function) = [] :=
    List.flatMap_eq_nil_iff.mpr fun _ _ => rfl
  have variableCalls : unit.globals.flatMap (handlers.callsWith .variable) = [] :=
    List.flatMap_eq_nil_iff.mpr fun _ _ => rfl
  have classCallsOnly : handlers.calls unit = unit.classes.flatMap handlers.classCalls := by
    rw [HandlerSet.calls, unitCalls, functionCalls, variableCalls]
    rfl
  rw [dispatch, classCallsOnly, List.foldl_flatMap, List.foldl_flatMap]
  simp only [foldl_classCalls]

theorem dispatchUnits_eq_foldl (units : List SourceUnit) (r : Registry) :
    units.foldl (fun r unit => dispatch handlers unit r) r = (bindings units).foldl Binding.add r := by
  rw [bindings, List.foldl_flatMap]
  simp only [dispatch_eq_foldl]

end Dispatch

/-- What the handlers make of the units: nothing if no entity asks for a binding, and otherwise one
file with one function that holds the bindings of all units in order. -/
theorem dispatch_collects_bindings (units : List SourceUnit) :
    let r := units.foldl (fun r unit => dispatch handlers unit r) {}
    Silent units ∧ r.files.entries = [] ∨ ¬ Silent units ∧ Collected (bindings units) r := by
  intro r
  have made : r = (bindings units).foldl Binding.add {} := dispatchUnits_eq_foldl units {}
  rw [made, ← bindings_eq_nil_iff]
  cases listed : bindings units with
  | nil => exact .inl ⟨rfl, rfl⟩
  | cons b rest =>
    have first : Collected [b] (b.add {}) := collected_first rfl b
    exact .inr ⟨List.cons_ne_nil b rest, first.foldl rest⟩

end DeclGen.Lua
