import DeclGen.Output.Render

/-!
The include block of a rendered file. It depends on nothing but which files are meant: each stands
once, in the order of their texts, whatever the order in which they were added and however they were
spelled.
-/
namespace DeclGen.Output

theorem nodup_eraseDups {α : Type} [DecidableEq α] : ∀ xs : List α, xs.eraseDups.Nodup
  | [] => List.nodup_nil
  | x :: rest => by
    rw [List.eraseDups_cons, List.nodup_cons]
    refine ⟨?_, nodup_eraseDups _⟩
    simp [List.mem_eraseDups]
termination_by xs => xs.length
decreasing_by exact Nat.lt_succ_of_le (List.length_filter_le _ rest)

def byText (p q : Path) : Bool := Text.le p.text q.text

theorem byText_antisymm {p q : Path} (h : byText p q) (back : byText q p) : p = q :=
  Path.text_injective (Text.le_antisymm h back)

theorem pairwise_sorted (paths : List Path) :
    (paths.mergeSort byText).Pairwise fun p q => byText p q = true := by
  refine List.pairwise_mergeSort ?_ ?_ paths
  · intro a b c first second
    exact Text.le_trans first second
  · intro a b
    rw [Bool.or_eq_true]
    exact Text.le_total a.text b.text

theorem sorted_eq_of_mem_iff {first second : List Path} (once : first.Nodup) (other : second.Nodup)
    (same : ∀ p, p ∈ first ↔ p ∈ second) : first.mergeSort byText = second.mergeSort byText := by
  have perm : (first.mergeSort byText).Perm (second.mergeSort byText) :=
    (List.mergeSort_perm first byText).trans
      (((List.perm_ext_iff_of_nodup once other).mpr same).trans
        (List.mergeSort_perm second byText).symm)
  refine List.Perm.eq_of_pairwise ?_ (pairwise_sorted first) (pairwise_sorted second) perm
  intro p q _ _ before after
  exact byText_antisymm before after

theorem includedPaths_eq {file : GeneratedFile} {paths : List Path} (once : paths.Nodup)
    (same : ∀ p, p ∈ file.includes.map Include.absolute ↔ p ∈ paths) :
    file.includedPaths = paths.mergeSort byText := by
  refine sorted_eq_of_mem_iff (nodup_eraseDups _) once ?_
  intro p
  rw [List.mem_eraseDups]
  exact same p

theorem mem_includes_insertInclude {file : GeneratedFile} {item other : Include} :
    other ∈ (file.insertInclude item).includes ↔ other ∈ file.includes ∨ other = item := by
  unfold GeneratedFile.insertInclude
  split
  · next known =>
    constructor
    · exact .inl
    · rintro (old | rfl)
      · exact old
      · exact known
  · rw [List.mem_append, List.mem_singleton]

theorem nodup_insertInclude {file : GeneratedFile} (once : file.includes.Nodup) (item : Include) :
    (file.insertInclude item).includes.Nodup := by
  unfold GeneratedFile.insertInclude
  split
  · exact once
  · next new =>
    refine List.nodup_append.mpr ⟨once, List.pairwise_singleton _ item, ?_⟩
    intro old member added isAdded same
    rw [same, List.mem_singleton.mp isAdded] at member
    exact new member

theorem mem_insertInclude {file : GeneratedFile} {item : Include} {p : Path} :
    p ∈ (file.insertInclude item).includes.map Include.absolute ↔
      p ∈ file.includes.map Include.absolute ∨ p = item.absolute := by
  simp only [List.mem_map, mem_includes_insertInclude, or_and_right, exists_or, exists_eq_left]
  rw [eq_comm (a := p)]

/-- What is added is absolute already, and rendering leaves it so. -/
theorem mem_addInclude {file : GeneratedFile} {path p : Path} :
    p ∈ (file.addInclude path).includes.map Include.absolute ↔
      p ∈ file.includes.map Include.absolute ∨ p = path.absolute := by
  have again : (Include.path path.absolute).absolute = path.absolute := path.absolute_absolute
  rw [GeneratedFile.addInclude, mem_insertInclude, again]

theorem insertInclude_frame (file : GeneratedFile) (item : Include) :
    (file.insertInclude item).header = file.header ∧
      (file.insertInclude item).functions = file.functions := by
  unfold GeneratedFile.insertInclude
  split <;> exact ⟨rfl, rfl⟩

end DeclGen.Output
