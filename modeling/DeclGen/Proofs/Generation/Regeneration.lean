import DeclGen.Handler.Lua
import DeclGen.Proofs.Generation.Isolation
import DeclGen.Proofs.Handler.Bindings
import DeclGen.Proofs.Output.Writing

/-!
Generating twice in a row. The bindings go to one file in a directory that is there, so the first run
changes nothing else. The name of that file has no suffix that is read, and nothing is found below a
file; so the second run reads what the first one read, comes to the same bindings, and writes the same
text over the one that is there.
-/
namespace DeclGen

open Output

/-- Names that no supported file has: none at all, the way up, and the name of the bindings. -/
theorem Language.fileName_ne {path : Path} (supported : Language.isSupported path = true) :
    path.fileName ≠ [] ∧ path.fileName ≠ "..".text ∧ path.fileName ≠ Lua.bindingsFile := by
  simp only [isSupported, isHeader, suffixOf, Path.suffix] at supported
  refine ⟨?_, ?_, ?_⟩
  all_goals
    intro same
    rw [same] at supported
    revert supported
    decide +kernel

section Source

variable {store other : FileStore} {grammar : Grammar} {path : Path} {unit : SourceUnit}

theorem readDeclarations_eq_ok_iff {written : Text} {events : List Event} :
    readDeclarations store grammar path written = .ok events ↔
      Language.isSupported path = true ∧
        ∃ content, store.read path = .ok content ∧
          SyntaxTree.events path content (grammar (Directive.mask content)) = events := by
  unfold readDeclarations Language.detect
  by_cases supported : Language.isSupported path = true
  · simp only [supported, if_true, true_and]
    cases store.read path with
    | error error => cases error <;> simp
    | ok content => simp
  · simp [supported]

theorem readDeclarations_not_fatal {written : Text} {error : SourceError}
    (failed : readDeclarations store grammar path written = .error error) :
    error.isFatal = false := by
  unfold readDeclarations at failed
  split at failed
  · obtain rfl := Except.error.inj failed
    rfl
  · split at failed
    · obtain rfl := Except.error.inj failed
      rfl
    · obtain rfl := Except.error.inj failed
      rfl
    · cases failed

theorem fileSource_recoverable (store : FileStore) (grammar : Grammar) :
    (fileSource store grammar).Recoverable := by
  intro path fault faulty
  unfold fileSource at faulty
  split at faulty
  · cases faulty
  · next failed =>
    obtain rfl := Option.some.inj faulty
    exact readDeclarations_not_fatal failed

theorem unit?_fileSource_eq_some_iff :
    unit? (fileSource store grammar) path = some unit ↔
      ∃ events, readDeclarations store grammar path path.text = .ok events ∧
        Scope.track path events = .ok unit := by
  have parsed : unit? (fileSource store grammar) path = some unit ↔
      (parseUnit (fileSource store grammar) path).2 = .ok unit := by
    unfold unit?
    cases (parseUnit (fileSource store grammar) path).2 <;> simp [Except.toOption]
  rw [parsed, parseUnit_ok_iff, fileSource]
  cases readDeclarations store grammar path path.text <;> simp

theorem unit?_of_same_reads
    (same : ∀ path content, Language.isSupported path = true →
      (store.read path = .ok content ↔ other.read path = .ok content)) :
    unit? (fileSource store grammar) = unit? (fileSource other grammar) := by
  funext path
  apply Option.ext
  intro unit
  rw [unit?_fileSource_eq_some_iff, unit?_fileSource_eq_some_iff]
  refine exists_congr fun events => and_congr_left fun _ => ?_
  rw [readDeclarations_eq_ok_iff, readDeclarations_eq_ok_iff]
  refine and_congr_right fun supported => exists_congr fun content => ?_
  rw [same path content supported]

end Source

namespace Lua

def OnlyBindings (entries : List (Text × GeneratedFile)) : Prop :=
  entries = [] ∨ ∃ file, entries = [(bindingsFile, file)]

theorem onlyBindings_dispatchAll (units : List SourceUnit) :
    OnlyBindings (dispatchAll handlers units {}).sorted := by
  rw [dispatchAll, dispatchUnits_eq_foldl]
  cases bindings (units.filter fun unit => !unit.isEmpty) with
  | nil =>
    left
    rw [List.foldl_nil, Registry.sorted]
    exact List.mergeSort_nil
  | cons b rest =>
    have first : Collected [b] (b.add {}) := collected_first rfl b
    obtain ⟨file, entries, _⟩ := first.foldl rest
    have alone : (rest.foldl Binding.add (b.add {})).files.entries = [(bindingsFile, file)] := entries
    refine .inr ⟨file, ?_⟩
    rw [List.foldl_cons, Registry.sorted, alone, List.mergeSort_singleton]

theorem OnlyBindings.name_eq {r : Registry} (only : OnlyBindings r.sorted) {key : Text}
    (listed : key ∈ r.files.keys) : key = bindingsFile := by
  have sorted := (names_sorted_perm r).mem_iff.mpr listed
  rcases only with none | ⟨file, one⟩
  · rw [none] at sorted
    cases sorted
  · rw [one] at sorted
    exact List.mem_singleton.mp sorted

theorem parts_outputPath (root : Path) :
    (outputPath root bindingsFile).parts = root.parts ++ [bindingsFile] := rfl

theorem parent_outputPath (root : Path) : (outputPath root bindingsFile).parent = root := by
  apply Path.ext
  · rfl
  · exact List.dropLast_concat

theorem fileName_outputPath (root : Path) :
    (outputPath root bindingsFile).fileName = bindingsFile := by
  rw [Path.fileName, parts_outputPath, List.getLast?_concat]
  rfl

theorem askable_outputPath {root : Path} {store : FileStore}
    (there : store.isDirectory root = true) : (outputPath root bindingsFile).Askable := by
  obtain ⟨location, leads, _⟩ := FileStore.isDirectory_iff.mp there
  have above : root.Askable := FileStore.askable_of_locate leads
  intro part member
  rw [parts_outputPath] at member
  rcases List.mem_append.mp member with inside | last
  · exact above part inside
  · rw [List.mem_singleton.mp last]
    decide +kernel

theorem writeFiles_store {r : Registry} (only : OnlyBindings r.sorted) (root : Path)
    (store : FileStore) : (writeFiles r root store).store = storeAfter root store r.sorted := by
  rw [writeFiles]
  rcases only with none | ⟨file, one⟩
  · rw [none]
    rfl
  · have wrote := writeOne_store root ⟨store, {}, [], none⟩ (bindingsFile, file)
    rw [one, WriteRun.writeAll]
    split
    · exact wrote
    · exact wrote

end Lua

section Again

variable {root : Path} {store : FileStore} {entries : List (Text × GeneratedFile)}

theorem storeAfter_again (only : Lua.OnlyBindings entries) (there : store.isDirectory root = true) :
    storeAfter root (storeAfter root store entries) entries = storeAfter root store entries := by
  rcases only with rfl | ⟨file, rfl⟩
  · rfl
  · rw [← Lua.parent_outputPath root] at there
    exact FileStore.writeWithParents_again there (Utf8.encode file.render)

theorem isDirectory_storeAfter (only : Lua.OnlyBindings entries)
    (there : store.isDirectory root = true) :
    (storeAfter root store entries).isDirectory root = true := by
  rcases only with rfl | ⟨file, rfl⟩
  · exact there
  · rw [← Lua.parent_outputPath root] at there
    have kept := FileStore.isDirectory_writeWithParents there (Utf8.encode file.render) root
    rw [Lua.parent_outputPath root] at there
    exact kept.mpr there

theorem read_storeAfter (only : Lua.OnlyBindings entries) (there : store.isDirectory root = true)
    {path : Path} (supported : Language.isSupported path = true) (content : Utf8.Bytes) :
    store.read path = .ok content ↔ (storeAfter root store entries).read path = .ok content := by
  rcases only with rfl | ⟨file, rfl⟩
  · rfl
  · obtain ⟨named, down, apart⟩ := Language.fileName_ne supported
    have target := Lua.fileName_outputPath root
    rw [← Lua.parent_outputPath root] at there
    refine (FileStore.read_writeWithParents there ?_ ⟨named, down⟩ ?_ ?_).symm
    · rw [target]
      decide +kernel
    · rw [target]
      decide +kernel
    · rw [target]
      exact apart

end Again

def bindingsRegistry (source : DeclarationSource) (inputs : List Path) : Registry :=
  dispatchAll Lua.handlers (inputs.filterMap (unit? source)) {}

theorem generate_bindings (grammar : Grammar) (inputs : List Path) {output : Path} {store : FileStore}
    (there : store.isDirectory output = true) :
    let made := generate id Lua.handlers (fileSource store grammar) inputs {} output store
    let registry := bindingsRegistry (fileSource store grammar) inputs
    made.run.fatal = none ∧ made.write.store = storeAfter output store registry.sorted ∧
      ((∀ entry ∈ registry.files.entries, Utf8.Encodable entry.2.render) →
        made.write.refused = none) := by
  intro made registry
  have recoverable := fileSource_recoverable store grammar
  have going := runGeneration_fatal Lua.handlers recoverable inputs {}
  obtain ⟨accounts, reached⟩ := faithful_runGeneration Lua.handlers recoverable inputs {}
  rw [accounts.units] at reached
  have ran : made.run = runGeneration Lua.handlers (fileSource store grammar) inputs {} := by
    simp only [made, generate, going]
    rfl
  have written : made.write = writeFiles registry output store := by
    simp only [made, generate, going]
    rw [reached]
    rfl
  have only : Lua.OnlyBindings registry.sorted := Lua.onlyBindings_dispatchAll _
  have askable : ∀ entry ∈ registry.files.entries, (outputPath output entry.1).Askable := by
    intro entry listed
    rw [only.name_eq (List.mem_map_of_mem listed)]
    exact Lua.askable_outputPath there
  rw [ran, written]
  exact ⟨going, Lua.writeFiles_store only output store,
    fun encodable => (accountsForAll_of_askable askable encodable store).returns⟩

/-- A second run over the same inputs, after the first one has written below an existing directory,
leaves the store as it is, also when the device or the text of the bindings keeps the file from being
written to its end. If the bindings are in UTF-8 both runs come to their end. -/
theorem generate_idempotent (grammar : Grammar) (inputs : List Path) (output : Path)
    (store : FileStore) (there : store.isDirectory output = true) :
    let first := generate id Lua.handlers (fileSource store grammar) inputs {} output store
    let again := generate id Lua.handlers (fileSource first.write.store grammar) inputs {} output
      first.write.store
    first.run.fatal = none ∧ again.run.fatal = none ∧
      again.write.store = first.write.store ∧
      ((∀ entry ∈ (bindingsRegistry (fileSource store grammar) inputs).files.entries,
          Utf8.Encodable entry.2.render) →
        first.write.refused = none ∧ again.write.refused = none) := by
  intro first again
  obtain ⟨firstRan, firstStore, firstWrote⟩ := generate_bindings grammar inputs there
  have only : Lua.OnlyBindings (bindingsRegistry (fileSource store grammar) inputs).sorted :=
    Lua.onlyBindings_dispatchAll _
  have stillThere : first.write.store.isDirectory output = true := by
    rw [firstStore]
    exact isDirectory_storeAfter only there
  obtain ⟨againRan, againStore, againWrote⟩ := generate_bindings grammar inputs stillThere
  -- The second run finds the same units, as no file that it reads was written.
  have sameUnits : unit? (fileSource first.write.store grammar) = unit? (fileSource store grammar) := by
    refine (unit?_of_same_reads fun path content supported => ?_).symm
    rw [firstStore]
    exact read_storeAfter only there supported content
  have sameBindings : bindingsRegistry (fileSource first.write.store grammar) inputs =
      bindingsRegistry (fileSource store grammar) inputs := by
    rw [bindingsRegistry, sameUnits, bindingsRegistry]
  refine ⟨firstRan, againRan, ?_, fun encodable => ⟨firstWrote encodable, againWrote ?_⟩⟩
  · calc again.write.store
        = storeAfter output first.write.store
            (bindingsRegistry (fileSource first.write.store grammar) inputs).sorted := againStore
      _ = storeAfter output first.write.store
            (bindingsRegistry (fileSource store grammar) inputs).sorted := by rw [sameBindings]
      _ = first.write.store := by
          rw [firstStore]
          exact storeAfter_again only there
  · rw [sameBindings]
    exact encodable

namespace Sample

open SyntaxTree

def headerText : Text := "CGCLASS(LuaClass)\nstruct Foo \x7b\x7d;\n".text

def token (text : String) (first last : Nat) : Node :=
  ⟨.other text.text, first, last, 1, none, false, []⟩

def nameNode : Node := ⟨.typeIdentifier, 25, 28, 1, some .name, true, []⟩

def bodyNode : Node :=
  ⟨.other "field_declaration_list".text, 29, 31, 1, some .body, true,
    [token "\x7b" 29 30, token "\x7d" 30 31]⟩

def structNode : Node :=
  ⟨.structSpecifier, 18, 31, 1, none, true, [token "struct" 18 24, nameNode, bodyNode]⟩

def headerTree : Node :=
  ⟨.other "translation_unit".text, 18, 33, 1, none, true, [structNode, token ";" 31 32]⟩

def headerRecord : Declaration where
  kind := .record
  qualifiedName := "Foo".text
  name := "Foo".text
  lineAbove := "CGCLASS(LuaClass)".text
  file := path "a.h"
  sourceText := []

theorem declarations_header :
    declarations (path "a.h") (Utf8.bytes headerText) headerTree = [.node headerRecord []] := by
  have named : (SourceText.ofBytes (path "a.h") (Utf8.bytes headerText)).simpleName nameNode =
      "Foo".text := by
    rw [SourceText.simpleName]
    decide +kernel
  have declared : (SourceText.ofBytes (path "a.h") (Utf8.bytes headerText)).recordDeclaration
      structNode [] = headerRecord := by
    have found : structNode.child? .name = some nameNode := rfl
    simp only [SourceText.recordDeclaration, SourceText.recordScope, SourceText.recordName, found,
      Option.map_some, Option.getD_some, named]
    decide +kernel
  have nodes : headerTree.namedChildren = [structNode] := rfl
  rw [declarations, nodes, SourceText.walk, SourceText.walk, List.append_nil, SourceText.visit]
  change SourceText.record _ _ structNode = _
  rw [SourceText.record]
  change [DeclTree.node (SourceText.recordDeclaration _ structNode []) (SourceText.walk _ _ _ [])] = _
  rw [declared, SourceText.walk]

def outputDirectory : Path := path "out"

def bindingsPath : Path := outputPath outputDirectory Lua.bindingsFile

/-- A header beside an empty directory for the output. -/
def headerStore : FileStore :=
  (FileStore.empty.put (FileStore.locationOf (path "out")) .directory).put
    (FileStore.locationOf (path "a.h"))
    (.file (Utf8.bytes headerText))

def headerSource : DeclarationSource := fileSource headerStore fun _ => headerTree

/-- The header, the file that is about to be written, and a path that goes through this file. -/
def headerInputs : List Path :=
  ["a.h", "out/LuaBindings.cpp.gen", "out/LuaBindings.cpp.gen/../../a.h"].map path

def headerUnit : SourceUnit where
  path := path "a.h"
  classes := [Scope.classOf (path "a.h") headerRecord
    [.flag "CGCLASS".text, .flag "LuaClass".text]]

theorem units_header : headerInputs.filterMap (unit? headerSource) = [headerUnit] := by
  have header : unit? headerSource (path "a.h") = some headerUnit := by
    refine unit?_fileSource_eq_some_iff.mpr ⟨[.enter headerRecord, .exit headerRecord], ?_, ?_⟩
    · refine readDeclarations_eq_ok_iff.mpr ⟨by decide +kernel, Utf8.bytes headerText, ?_, ?_⟩
      · decide +kernel
      · rw [events, declarations_header]
        rfl
    · decide +kernel
  have written : unit? headerSource (path "out/LuaBindings.cpp.gen") = none := by decide +kernel
  have through : unit? headerSource (path "out/LuaBindings.cpp.gen/../../a.h") = none := by
    decide +kernel
  simp only [headerInputs, List.map_cons, List.map_nil, List.filterMap_cons, List.filterMap_nil,
    header, written, through]

theorem sorted_header :
    (bindingsRegistry headerSource headerInputs).sorted =
      (dispatchAll Lua.handlers [headerUnit] {}).files.entries := by
  rw [bindingsRegistry, units_header, Registry.sorted]
  exact List.mergeSort_of_pairwise (by decide +kernel)

end Sample

theorem generate_idempotent_sample :
    let first := generate id Lua.handlers Sample.headerSource Sample.headerInputs {}
      Sample.outputDirectory Sample.headerStore
    let again := generate id Lua.handlers
      (fileSource first.write.store fun _ => Sample.headerTree) Sample.headerInputs {}
      Sample.outputDirectory first.write.store
    Sample.headerStore.isDirectory Sample.outputDirectory = true ∧
      Sample.headerStore.find? Sample.bindingsPath = none ∧
      (first.write.store.find? Sample.bindingsPath).isSome = true ∧
      again.write.store = first.write.store := by
  intro first again
  have there : Sample.headerStore.isDirectory Sample.outputDirectory = true := by decide +kernel
  have wrote : first.write.store = storeAfter Sample.outputDirectory Sample.headerStore
      (bindingsRegistry Sample.headerSource Sample.headerInputs).sorted :=
    (generate_bindings _ Sample.headerInputs there).2.1
  have same := generate_idempotent (fun _ => Sample.headerTree) Sample.headerInputs
    Sample.outputDirectory Sample.headerStore there
  refine ⟨there, by decide +kernel, ?_, same.2.2.1⟩
  rw [wrote, Sample.sorted_header]
  decide +kernel

end DeclGen
