import DeclGen.Proofs.Output.Log

/-!
The include block is canonical. An include given by its path is made absolute when it is added, and once
more with all others when the file is rendered; one given as a text is made absolute only then. Either
way a file that is meant has one line, the lines go up strictly in the order of their paths' texts, and
two files that differ only in how their includes were put in have the same text.
-/
namespace DeclGen.Output

namespace GeneratedFile

/-- Puts an include in, the way it is given: a path is added, a text goes in as it is. -/
def takeIn (file : GeneratedFile) : Include → GeneratedFile
  | .path path => file.addInclude path
  | .raw text => file.insertInclude (.raw text)

def meant (file : GeneratedFile) : List Path := file.includes.map Include.absolute

def textBelow (file : GeneratedFile) : Text :=
  written ([[]] ++ file.header ++ [[]]) ++
    file.functions.entries.flatMap fun entry => renderFunction entry.1 entry.2

end GeneratedFile

section Insertion

variable (file : GeneratedFile)

theorem mem_meant_takeIn (item : Include) (p : Path) :
    p ∈ (file.takeIn item).meant ↔ p ∈ file.meant ∨ p = item.absolute := by
  cases item with
  | path path => exact mem_addInclude
  | raw text => exact mem_insertInclude

theorem takeIn_frame (item : Include) :
    (file.takeIn item).header = file.header ∧ (file.takeIn item).functions = file.functions := by
  cases item with
  | path path => exact insertInclude_frame file _
  | raw text => exact insertInclude_frame file _

theorem mem_meant_foldl (items : List Include) (p : Path) :
    p ∈ (items.foldl GeneratedFile.takeIn file).meant ↔
      p ∈ file.meant ∨ p ∈ items.map Include.absolute := by
  induction items generalizing file with
  | nil => simp
  | cons item rest ih =>
    rw [List.foldl_cons, ih, mem_meant_takeIn, List.map_cons, List.mem_cons, or_assoc]

theorem textBelow_foldl (items : List Include) :
    (items.foldl GeneratedFile.takeIn file).textBelow = file.textBelow := by
  induction items generalizing file with
  | nil => rfl
  | cons item rest ih =>
    obtain ⟨header, functions⟩ := takeIn_frame file item
    rw [List.foldl_cons, ih, GeneratedFile.textBelow, header, functions]
    rfl

end Insertion

section Block

variable (file : GeneratedFile)

theorem mem_includedPaths (p : Path) : p ∈ file.includedPaths ↔ p ∈ file.meant := by
  rw [GeneratedFile.includedPaths, List.mem_mergeSort, List.mem_eraseDups]
  rfl

theorem includedPaths_increasing :
    file.includedPaths.Pairwise fun p q => Text.le p.text q.text = true ∧ p.text ≠ q.text := by
  have once : file.includedPaths.Nodup :=
    (List.mergeSort_perm _ _).nodup_iff.mpr (nodup_eraseDups _)
  refine (pairwise_sorted _).imp₂ ?_ once
  intro p q before apart
  refine ⟨before, ?_⟩
  intro same
  exact apart (Path.text_injective same)

theorem render_eq :
    file.render = written (file.includedPaths.map includeLine) ++ file.textBelow := by
  rw [GeneratedFile.render, joinWith_lineBreak (by simp)]
  simp [GeneratedFile.textBelow, written]

theorem render_eq_of_same_meant {first second : GeneratedFile} (header : first.header = second.header)
    (functions : first.functions = second.functions) (same : ∀ p, p ∈ first.meant ↔ p ∈ second.meant) :
    first.render = second.render := by
  have paths : first.includedPaths = second.includedPaths := by
    refine sorted_eq_of_mem_iff (nodup_eraseDups _) (nodup_eraseDups _) ?_
    intro p
    rw [List.mem_eraseDups, List.mem_eraseDups]
    exact same p
  rw [GeneratedFile.render, GeneratedFile.render, paths, header, functions]

end Block

/-- However includes are put into a file, it has one line for each file that is meant, and the lines go
up strictly in the order of the paths' texts. Any file with the same header and functions that means
the same files has the same text. -/
theorem include_block_canonical (file : GeneratedFile) (items : List Include) :
    let built := items.foldl GeneratedFile.takeIn file
    (∃ paths : List Path,
      built.render =
          written (paths.map fun p => "#include \"".text ++ p.text ++ "\"".text)
            ++ file.textBelow ∧
        (paths.Pairwise fun p q => Text.le p.text q.text = true ∧ p.text ≠ q.text) ∧
        ∀ p, p ∈ paths ↔ p ∈ file.meant ∨ p ∈ items.map Include.absolute) ∧
      ∀ other : GeneratedFile, other.header = built.header → other.functions = built.functions →
        (∀ p, p ∈ other.meant ↔ p ∈ built.meant) → other.render = built.render := by
  intro built
  refine ⟨⟨built.includedPaths, ?_, includedPaths_increasing built, ?_⟩, ?_⟩
  · rw [← textBelow_foldl file items]
    exact render_eq built
  · intro p
    rw [mem_includedPaths, mem_meant_foldl]
  · intro other header functions same
    exact render_eq_of_same_meant header functions same

namespace Sample

def inner : Path := Path.ofText "/work/a/b.h".text

def outer : Path := Path.ofText "/work/B.h".text

/-- Four ways to spell one file, and another whose text comes before it. -/
def spelledIncludes : List Include :=
  [.raw "./a/b.h".text, .path (Path.ofText "a//b.h".text), .raw "/work/a/b.h/".text,
    .path (Path.ofText "B.h".text), .raw "a/b.h".text]

def withHeader : GeneratedFile := { header := ["// generated".text] }

def listedOnce : GeneratedFile :=
  { withHeader with includes := [.raw "/work/B.h".text, .path inner] }

def twoIncludes : Text :=
  "#include \"/work/B.h\"\n#include \"/work/a/b.h\"\n\n// generated\n\n".text

theorem meant_listedOnce : listedOnce.meant = [outer, inner] := by decide +kernel

theorem render_listedOnce : listedOnce.render = twoIncludes := by
  have sorted : listedOnce.includedPaths = [outer, inner] := by
    rw [GeneratedFile.includedPaths]
    exact (List.mergeSort_of_pairwise (by decide +kernel)).trans (by decide +kernel)
  rw [render_eq, sorted]
  decide +kernel

end Sample

theorem include_block_canonical_sample :
    let built := Sample.spelledIncludes.foldl GeneratedFile.takeIn Sample.withHeader
    built.includes.length = 5 ∧ Sample.listedOnce.render = built.render ∧
      built.render = Sample.twoIncludes := by
  intro built
  have meant : built.meant =
      [Sample.inner, Sample.inner, Sample.inner, Sample.outer, Sample.inner] := by decide +kernel
  have same : Sample.listedOnce.render = built.render := by
    refine (include_block_canonical Sample.withHeader Sample.spelledIncludes).2 Sample.listedOnce
      (by decide +kernel) rfl ?_
    intro p
    change p ∈ Sample.listedOnce.meant ↔ p ∈ built.meant
    rw [Sample.meant_listedOnce, meant]
    simp [or_comm]
  exact ⟨by decide +kernel, same, same.symm.trans Sample.render_listedOnce⟩

end DeclGen.Output
