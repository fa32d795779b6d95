import DeclGen.Output.Registry
import DeclGen.Proofs.Entity
import DeclGen.Proofs.Output.Includes
import DeclGen.Proofs.Table
import Mathlib.Data.List.Dedup

/-!
A registry refines the log of its steps. A flat list of steps fixes which files there are and what
each of them says: the text of a file is written down here from the steps that name it, with no
registry, file or function in between. Nothing that other steps do can get into it.
-/
namespace DeclGen.Output

namespace Step

/-- The file that a step works on. Questions work on none, also if they name one. -/
def file? : Step → Option Text
  | .contains _ | .count | .fileNames => none
  | .file name | .render name | .addInclude name _ | .rawInclude name _ | .header name _
  | .body name _ _ | .parameter name _ _ | .leading name _ _ | .returnType name _ _
  | .headerName name _ _ | .function name _ => some name

def function? : Step → Option Text
  | .body _ key _ | .parameter _ key _ | .leading _ key _ | .returnType _ key _
  | .headerName _ key _ | .function _ key => some key
  | _ => none

def included? : Step → Option Path
  | .addInclude _ path => some path.absolute
  | .rawInclude _ text => some (Path.ofText text).absolute
  | _ => none

def headerLine? : Step → Option Text
  | .header _ text => some text
  | _ => none

def bodyLine? : Step → Option Text
  | .body _ _ text => some text
  | _ => none

def parameter? : Step → Option Variable
  | .parameter _ _ v => some v
  | _ => none

def leading? : Step → Option Text
  | .leading _ _ text => some text
  | _ => none

def returnType? : Step → Option Text
  | .returnType _ _ text => some text
  | _ => none

def unnamed : Step → Step
  | .headerName name key _ => .function name key
  | step => step

end Step

def aboutFile (name : Text) (log : List Step) : List Step :=
  log.filter fun step => step.file? = some name

def aboutFunction (key : Text) (log : List Step) : List Step :=
  log.filter fun step => step.function? = some key

def written (lines : List Text) : Text := lines.flatMap fun line => line ++ [CodePoint.char '\n']

/-- The function that the steps about it describe: the last leading text and the last return type
that were set, and of the parameters the first of each name, type before name. -/
def functionText (key : Text) (log : List Step) : Text :=
  let returnType := (log.filterMap Step.returnType?).getLast?.getD "void".text
  let parameters := firstOfEachName (log.filterMap Step.parameter?)
  let listed := parameters.map fun p => p.type ++ " ".text ++ p.name
  (log.filterMap Step.leading?).getLast?.getD [] ++
    written ([returnType ++ " ".text ++ key ++ "(".text ++ ", ".text.intercalate listed
        ++ ")".text, "\x7b".text]
      ++ log.filterMap Step.bodyLine? ++ ["\x7d".text, []])

/-- The file that the steps about it describe: its includes, each once and in the order of their
path's text, the lines of its header, and its functions in order of first mention. -/
def fileText (log : List Step) : Text :=
  let included := (log.filterMap Step.included?).dedup.mergeSort fun p q => Text.le p.text q.text
  let lines := included.map fun p => "#include \"".text ++ p.text ++ "\"".text
  written (lines ++ [[]] ++ log.filterMap Step.headerLine? ++ [[]]) ++
    (Table.mentioned Step.function? log).flatMap fun key =>
      functionText key (aboutFunction key log)

section Fold

variable {σ β γ τ : Type}

/-- A part of a state to which a step adds what it brings, if it brings something. -/
theorem view_foldl {change : σ → β → β} (view : β → γ) (item? : σ → Option τ) (add : γ → τ → γ)
    (adds : ∀ step b, view (change step b) = (item? step).elim (view b) (add (view b)))
    (log : List σ) (b : β) :
    view (log.foldl (fun b step => change step b) b) = (log.filterMap item?).foldl add (view b) := by
  induction log generalizing b with
  | nil => rfl
  | cons step rest ih =>
    rw [List.foldl_cons, ih, adds]
    cases item : item? step with
    | none => rw [List.filterMap_cons_none item]; rfl
    | some value => rw [List.filterMap_cons_some item]; rfl

theorem foldl_collects (xs : List τ) : xs.foldl (fun all x => all ++ [x]) [] = xs := by
  rw [List.foldl_append_eq_append, ← List.flatMap_def, List.flatMap_singleton', List.nil_append]

theorem foldl_replaces (x : τ) (xs : List τ) :
    xs.foldl (fun _ last => last) x = xs.getLast?.getD x := by
  induction xs generalizing x with
  | nil => rfl
  | cons y rest ih => simp [ih, List.getLast?_cons]

end Fold

namespace Step

def onFunction : Step → GeneratedFunction → GeneratedFunction
  | .body _ _ text, f => f.addBody text
  | .parameter _ _ v, f => f.addParameter v
  | .leading _ _ text, f => { f with leading := text }
  | .returnType _ _ text, f => { f with header := { f.header with returnType := text } }
  | .headerName _ _ text, f => { f with header := { f.header with name := text } }
  | _, f => f

def onFile (step : Step) (file : GeneratedFile) : GeneratedFile :=
  match step with
  | .addInclude _ path => file.addInclude path
  | .rawInclude _ text => file.insertInclude (.raw text)
  | .header _ text => file.addHeader text
  | _ =>
    { file with
      functions := file.functions.record function? GeneratedFunction.named onFunction step }

end Step

theorem files_apply (r : Registry) (step : Step) :
    (step.apply r).files = r.files.record Step.file? (fun _ => {}) Step.onFile step := by
  cases step <;> rfl

theorem functions_onFile (file : GeneratedFile) (step : Step) :
    (step.onFile file).functions =
      file.functions.record Step.function? GeneratedFunction.named Step.onFunction step := by
  cases step with
  | addInclude name path => exact (insertInclude_frame file _).2
  | rawInclude name text => exact (insertInclude_frame file _).2
  | _ => rfl

def fileAfter (log : List Step) : GeneratedFile :=
  log.foldl (fun file step => step.onFile file) {}

def functionAfter (key : Text) (log : List Step) : GeneratedFunction :=
  log.foldl (fun f step => step.onFunction f) (.named key)

section Function

variable (key : Text) (log : List Step)

theorem leading_functionAfter :
    (functionAfter key log).leading = (log.filterMap Step.leading?).getLast?.getD [] := by
  refine (view_foldl GeneratedFunction.leading Step.leading? (fun _ last => last) ?_ log _).trans
    (foldl_replaces _ _)
  intro step f
  cases step <;> rfl

theorem returnType_functionAfter :
    (functionAfter key log).header.returnType =
      (log.filterMap Step.returnType?).getLast?.getD "void".text := by
  refine (view_foldl (fun f : GeneratedFunction => f.header.returnType) Step.returnType?
    (fun _ last => last) ?_ log _).trans (foldl_replaces _ _)
  intro step f
  cases step with
  | parameter name key v =>
    change (f.header.addParameter v).returnType = f.header.returnType
    rw [addParameter_eq]
  | _ => rfl

theorem parameters_functionAfter :
    (functionAfter key log).header.parameters =
      firstOfEachName (log.filterMap Step.parameter?) := by
  refine (view_foldl (fun f : GeneratedFunction => f.header.parameters) Step.parameter? addNamed ?_
    log _).trans (foldl_addNamed_nil _)
  intro step f
  cases step with
  | parameter name key v => exact congrArg Function.parameters (addParameter_eq f.header v)
  | _ => rfl

theorem body_functionAfter : (functionAfter key log).body = log.filterMap Step.bodyLine? := by
  refine (view_foldl GeneratedFunction.body Step.bodyLine? (fun all line => all ++ [line]) ?_
    log _).trans (foldl_collects _)
  intro step f
  cases step <;> rfl

end Function

section File

variable (log : List Step)

theorem header_fileAfter : (fileAfter log).header = log.filterMap Step.headerLine? := by
  refine (view_foldl GeneratedFile.header Step.headerLine? (fun all line => all ++ [line]) ?_
    log _).trans (foldl_collects _)
  intro step file
  cases step with
  | addInclude name path => exact (insertInclude_frame file _).1
  | rawInclude name text => exact (insertInclude_frame file _).1
  | _ => rfl

theorem mem_includes_onFile (file : GeneratedFile) (step : Step) (p : Path) :
    p ∈ (step.onFile file).includes.map Include.absolute ↔
      p ∈ file.includes.map Include.absolute ∨ step.included? = some p := by
  cases step with
  | addInclude name path =>
    rw [Step.onFile, mem_addInclude, Step.included?, Option.some.injEq, eq_comm]
  | rawInclude name text =>
    rw [Step.onFile, mem_insertInclude, Include.absolute, Step.included?, Option.some.injEq, eq_comm]
  | _ => simp [Step.onFile, Step.included?, GeneratedFile.addHeader]

theorem mem_includes_fileAfter (p : Path) :
    p ∈ (fileAfter log).includes.map Include.absolute ↔ p ∈ log.filterMap Step.included? := by
  induction log using List.reverseRecOn with
  | nil => simp [fileAfter]
  | append_singleton log step ih =>
    rw [fileAfter, List.foldl_append, List.foldl_cons, List.foldl_nil, mem_includes_onFile,
      List.filterMap_append, List.mem_append]
    refine or_congr ih ?_
    simp

theorem functions_fileAfter :
    (fileAfter log).functions.entries =
      (Table.mentioned Step.function? log).map fun key =>
        (key, functionAfter key (aboutFunction key log)) := by
  have table : (fileAfter log).functions =
      log.foldl (Table.record Step.function? GeneratedFunction.named Step.onFunction) {} :=
    (List.foldl_hom GeneratedFile.functions fun file step => (functions_onFile file step).symm).symm
  rw [table, Table.entries_foldl_record]
  rfl

end File

theorem joinWith_eq_intercalate (sep : Text) (parts : List Text) :
    joinWith sep parts = sep.intercalate parts := by
  fun_induction joinWith sep parts with
  | case1 => rfl
  | case2 part => simp
  | case3 part next others ih => rw [ih, List.intercalate_cons_cons]

theorem joinWith_lineBreak {lines : List Text} (nonempty : lines ≠ []) :
    joinWith lineBreak lines ++ lineBreak = written lines := by
  induction lines with
  | nil => exact absurd rfl nonempty
  | cons line rest ih =>
    cases rest with
    | nil => simp [joinWith, written, lineBreak]
    | cons next others =>
      rw [joinWith_cons _ _ (by simp), List.append_assoc, ih (by simp)]
      simp [written, lineBreak]

theorem renderFunction_functionAfter (key : Text) (log : List Step) :
    renderFunction key (functionAfter key log) = functionText key log := by
  rw [renderFunction, List.append_assoc, joinWith_lineBreak (by simp), signature, parameterList,
    joinWith_eq_intercalate, leading_functionAfter, returnType_functionAfter,
    parameters_functionAfter, body_functionAfter]
  rfl

theorem render_fileAfter (log : List Step) : (fileAfter log).render = fileText log := by
  have includes : (fileAfter log).includedPaths =
      (log.filterMap Step.included?).dedup.mergeSort byText := by
    refine includedPaths_eq (List.nodup_dedup _) ?_
    intro p
    rw [List.mem_dedup, mem_includes_fileAfter]
  rw [GeneratedFile.render, joinWith_lineBreak (by simp), includes, header_fileAfter,
    functions_fileAfter, List.flatMap_map]
  simp only [renderFunction_functionAfter]
  rfl

theorem files_run (log : List Step) :
    (Registry.run {} log).files =
      log.foldl (Table.record Step.file? (fun _ => {}) Step.onFile) {} :=
  (List.foldl_hom Registry.files fun r step => (files_apply r step).symm).symm

theorem entries_run (log : List Step) :
    (Registry.run {} log).files.entries =
      (Table.mentioned Step.file? log).map fun name => (name, fileAfter (aboutFile name log)) := by
  rw [files_run, Table.entries_foldl_record]
  rfl

theorem file_run (log : List Step) (name : Text) :
    (Registry.run {} log).file name = fileAfter (aboutFile name log) := by
  rw [Registry.file, files_run]
  exact Table.getD_foldl_record log name

theorem rendered_run (log : List Step) :
    (Registry.run {} log).rendered =
      (Table.mentioned Step.file? log).map fun name => (name, fileText (aboutFile name log)) := by
  rw [Registry.rendered, entries_run, List.map_map]
  refine List.map_congr_left fun name _ => ?_
  simp only [Function.comp, render_fileAfter]

theorem file_apply_render (r : Registry) (name : Text) :
    (Step.apply r (.render name)).file name = r.file name := by
  simp [Step.apply, Registry.updateFile, Registry.file, Table.getD, Table.get?_update]

section Unnamed

variable (log : List Step)

theorem filterMap_unnamed {τ : Type} (view : Step → Option τ)
    (blind : ∀ name key text, view (.function name key) = view (.headerName name key text)) :
    (log.map Step.unnamed).filterMap view = log.filterMap view := by
  rw [List.filterMap_map]
  congr 1
  funext step
  cases step with
  | headerName name key text => exact blind name key text
  | _ => rfl

theorem aboutFile_unnamed (name : Text) :
    aboutFile name (log.map Step.unnamed) = (aboutFile name log).map Step.unnamed := by
  rw [aboutFile, List.filter_map]
  congr 2
  funext step
  cases step <;> rfl

theorem aboutFunction_unnamed (key : Text) :
    aboutFunction key (log.map Step.unnamed) = (aboutFunction key log).map Step.unnamed := by
  rw [aboutFunction, List.filter_map]
  congr 2
  funext step
  cases step <;> rfl

theorem functionText_unnamed (key : Text) :
    functionText key (log.map Step.unnamed) = functionText key log := by
  rw [functionText, filterMap_unnamed log Step.returnType? fun _ _ _ => rfl,
    filterMap_unnamed log Step.parameter? fun _ _ _ => rfl,
    filterMap_unnamed log Step.leading? fun _ _ _ => rfl,
    filterMap_unnamed log Step.bodyLine? fun _ _ _ => rfl]
  rfl

theorem fileText_unnamed : fileText (log.map Step.unnamed) = fileText log := by
  rw [fileText, Table.mentioned, filterMap_unnamed log Step.included? fun _ _ _ => rfl,
    filterMap_unnamed log Step.headerLine? fun _ _ _ => rfl,
    filterMap_unnamed log Step.function? fun _ _ _ => rfl]
  simp only [aboutFunction_unnamed, functionText_unnamed]
  rfl

end Unnamed

/-- After any steps on an empty registry, the files are those mentioned, in order of first mention,
and each has the text that the steps about it describe; so has the answer to a step that renders it.
The names given to headers never show, and questions change nothing. -/
theorem registry_refines_log (log : List Step) :
    (Registry.run {} log).files.keys = Table.mentioned Step.file? log ∧
      (Registry.run {} log).rendered = (Table.mentioned Step.file? log).map (fun name =>
        (name, fileText (aboutFile name log))) ∧
      (∀ name, Step.answer (Registry.run {} log) (.render name) =
        .text (fileText (aboutFile name log))) ∧
      (Registry.run {} (log.map Step.unnamed)).rendered = (Registry.run {} log).rendered ∧
      ∀ r name, Step.apply r (.contains name) = r ∧ Step.apply r .count = r ∧
        Step.apply r .fileNames = r := by
  refine ⟨?_, rendered_run log, ?_, ?_, fun r name => ⟨rfl, rfl, rfl⟩⟩
  · rw [Table.keys, entries_run, List.map_map]
    exact List.map_id _
  · intro name
    rw [Step.answer, file_apply_render, file_run, render_fileAfter]
  · rw [rendered_run, rendered_run, Table.mentioned, filterMap_unnamed log Step.file? fun _ _ _ => rfl]
    simp only [aboutFile_unnamed, fileText_unnamed]
    rfl

end DeclGen.Output
