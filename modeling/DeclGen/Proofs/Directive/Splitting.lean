import DeclGen.Proofs.Directive.Cutting

/-!
How a text is cut at its separators outside of braces, with or without a limit. A limit leaves what is
behind the last cut in one part; the parts joined are the text in either case. Where a text is cut is
said by positions: a separator counts if the text before it leaves no brace open.
-/
namespace DeclGen

theorem joinWith_append {α : Type} (sep : List α) {front back : List (List α)} (some : front ≠ [])
    (more : back ≠ []) :
    joinWith sep (front ++ back) = joinWith sep front ++ sep ++ joinWith sep back := by
  induction front with
  | nil => exact absurd rfl some
  | cons part others ih =>
    cases others with
    | nil => exact joinWith_cons sep part more
    | cons next rest =>
      have later := ih (by simp)
      have nonempty : next :: rest ++ back ≠ [] := by simp
      rw [List.cons_append, joinWith_cons _ _ nonempty, later, joinWith_cons sep part (by simp)]
      simp only [List.append_assoc]

namespace Directive

section Count

variable {sep : CodePoint} {first second t : Text}

def CutsAt (sep : CodePoint) (t : Text) (i : Nat) : Prop :=
  t[i]? = some sep ∧ depthAfter 0 (t.take i) = 0

instance (sep : CodePoint) (t : Text) (i : Nat) : Decidable (CutsAt sep t i) :=
  inferInstanceAs (Decidable (_ ∧ _))

def cutCount (sep : CodePoint) (t : Text) : Nat :=
  (List.range t.length).countP fun i => CutsAt sep t i

theorem cutsAt_front {i : Nat} (inside : i < first.length) :
    CutsAt sep (first ++ second) i ↔ CutsAt sep first i := by
  rw [CutsAt, CutsAt, List.getElem?_append_left inside, List.take_append_of_le_length (by omega)]

theorem cutsAt_behind (closed : depthAfter 0 first = 0) (i : Nat) :
    CutsAt sep (first ++ second) (first.length + i) ↔ CutsAt sep second i := by
  rw [CutsAt, CutsAt, List.getElem?_append_right (by omega), List.take_length_add_append,
    depthAfter_append, closed, Nat.add_sub_cancel_left]

theorem cutCount_append (closed : depthAfter 0 first = 0) :
    cutCount sep (first ++ second) = cutCount sep first + cutCount sep second := by
  rw [cutCount, List.length_append, List.range_add, List.countP_append, List.countP_map]
  congr 1
  · apply List.countP_congr
    intro i member
    have inside : i < first.length := List.mem_range.mp member
    simp [cutsAt_front inside]
  · apply List.countP_congr
    intro i _
    simp [cutsAt_behind closed i]

theorem cutCount_eq_zero_iff : cutCount sep t = 0 ↔ ¬ AtDepthZero sep t := by
  rw [cutCount, List.countP_eq_zero]
  constructor
  · rintro none ⟨before, after, rfl, closed⟩
    refine none before.length (by simp) ?_
    simp [CutsAt, closed]
  · intro absent i member cuts
    obtain ⟨there, closed⟩ := of_decide_eq_true cuts
    have inside : i < t.length := List.mem_range.mp member
    refine absent ⟨t.take i, t.drop (i + 1), ?_, closed⟩
    have char : t[i] = sep := by simpa [inside] using there
    rw [← char, ← List.drop_eq_getElem_cons inside, List.take_append_drop]

theorem cutCount_separator (opens : sep ≠ '{') : cutCount sep [sep] = 1 ∧ depthAfter 0 [sep] = 0 := by
  constructor
  · simp [cutCount, CutsAt, List.range_succ, depthAfter]
  · by_cases closes : sep = '}'
    · simp [depthAfter, stepDepth, closes]
    · simp [depthAfter, stepDepth, opens, closes]

theorem hasCut_eq_false_iff : hasCut sep 0 t = false ↔ ¬ AtDepthZero sep t := by
  rw [← hasCut_iff_atDepthZero, Bool.not_eq_true]

theorem Cut.length_eq (opens : sep ≠ '{') {parts : List Text} (cut : Cut sep t parts) :
    parts.length = cutCount sep t + 1 := by
  induction cut with
  | whole uncut =>
    have none := cutCount_eq_zero_iff.mpr (hasCut_eq_false_iff.mp uncut)
    rw [none]
    rfl
  | @first part rest others uncut closed _ ih =>
    have none := cutCount_eq_zero_iff.mpr (hasCut_eq_false_iff.mp uncut)
    obtain ⟨one, plain⟩ := cutCount_separator opens
    have behind : cutCount sep (sep :: rest) = 1 + cutCount sep rest := by
      rw [← List.singleton_append, cutCount_append plain, one]
    rw [cutCount_append closed, none, behind, List.length_cons, ih]
    omega

end Count

section Limit

variable {sep : CodePoint} {t : Text} {parts : List Text}

/-- With a limit the first parts are cut off as without one, and the rest stays together. -/
theorem Cut.split_within (opens : sep ≠ '{') (cut : Cut sep t parts) (most : Nat) :
    splitTopLevel sep (some most) t =
      if most < parts.length then parts.take most ++ [joinWith [sep] (parts.drop most)] else parts := by
  -- each part that is cut off takes one from the limit; a text without a cut stays whole under any
  induction cut generalizing most with
  | @whole t uncut =>
    rw [splitTopLevel, splitFrom_uncut uncut]
    cases most with
    | zero => rfl
    | succ more => simp
  | @first part rest others uncut closed later ih =>
    cases most with
    | zero =>
      rw [splitTopLevel, splitFrom_exhausted]
      simp [joinWith_cons _ _ later.ne_nil, later.join]
    | succ more =>
      have rest_eq := ih more
      rw [splitTopLevel] at rest_eq ⊢
      rw [splitFrom_cut opens (by simp) uncut closed]
      simp only [Option.map_some, Nat.add_sub_cancel, rest_eq, List.length_cons, Nat.add_lt_add_iff_right,
        List.take_succ_cons, List.drop_succ_cons]
      split <;> rfl

theorem joinWith_take_drop {most : Nat} (inside : most < parts.length) :
    joinWith [sep] (parts.take most ++ [joinWith [sep] (parts.drop most)]) = joinWith [sep] parts := by
  have rest : parts.drop most ≠ [] := by
    intro empty
    have short := List.drop_eq_nil_iff.mp empty
    omega
  cases most with
  | zero => rfl
  | succ more =>
    have front : parts.take (more + 1) ≠ [] := by
      intro empty
      have short := congrArg List.length empty
      simp only [List.length_take, List.length_nil] at short
      omega
    rw [joinWith_append _ front (by simp), joinWith, ← joinWith_append _ front rest,
      List.take_append_drop]

theorem Cut.join_within (opens : sep ≠ '{') (cut : Cut sep t parts) (most : Nat) :
    joinWith [sep] (splitTopLevel sep (some most) t) = t := by
  rw [cut.split_within opens]
  split
  · next inside => rw [joinWith_take_drop inside, cut.join]
  · exact cut.join

theorem Cut.length_within (opens : sep ≠ '{') (cut : Cut sep t parts) (most : Nat) :
    (splitTopLevel sep (some most) t).length = min (cutCount sep t) most + 1 := by
  have count := cut.length_eq opens
  rw [cut.split_within opens]
  split
  · simp only [List.length_append, List.length_take, List.length_singleton]
    omega
  · omega

theorem Cut.early_within (opens : sep ≠ '{') (cut : Cut sep t parts) {most : Nat} {part : Text}
    (member : part ∈ (splitTopLevel sep (some most) t).dropLast) : part ∈ parts.dropLast := by
  rw [cut.split_within opens] at member
  split at member
  · next inside =>
    -- the first parts, as many as the limit, are fewer than all, so the last is not among them
    rw [List.dropLast_concat] at member
    rw [List.dropLast_eq_take]
    exact List.take_subset_take_left _ (by omega) member
  · exact member

end Limit

/-- The parts of a text, joined by the separator, are the text. There is one more of them than there are
separators at depth zero, or one more than the limit if that is less. No part but the last leaves a
brace open or could be cut again, nor can the last one if there is no limit. Any list of such parts is
what its join is cut into. -/
theorem split_exact (sep : CodePoint) (opens : sep ≠ '{') (limit : Option Nat) (t : Text) :
    let parts := splitTopLevel sep limit t
    joinWith [sep] parts = t ∧
      parts.length = limit.elim (cutCount sep t + 1) (fun most => min (cutCount sep t) most + 1) ∧
      (∀ part ∈ parts.dropLast, depthAfter 0 part = 0 ∧ ¬ AtDepthZero sep part) ∧
      (limit = none → ∀ part ∈ parts, ¬ AtDepthZero sep part) ∧
      ∀ list : List Text, list ≠ [] → (∀ part ∈ list, ¬ AtDepthZero sep part) →
        (∀ part ∈ list.dropLast, depthAfter 0 part = 0) →
          splitTopLevel sep none (joinWith [sep] list) = list := by
  have cut := cut_split opens t
  have whole : ∀ part ∈ splitTopLevel sep none t, ¬ AtDepthZero sep part := by
    intro part member
    exact hasCut_eq_false_iff.mp (cut.uncut part member)
  have early : ∀ part ∈ (splitTopLevel sep none t).dropLast,
      depthAfter 0 part = 0 ∧ ¬ AtDepthZero sep part := by
    intro part member
    exact ⟨cut.closed part member, whole part (List.dropLast_subset _ member)⟩
  have back : ∀ list : List Text, list ≠ [] → (∀ part ∈ list, ¬ AtDepthZero sep part) →
      (∀ part ∈ list.dropLast, depthAfter 0 part = 0) →
        splitTopLevel sep none (joinWith [sep] list) = list := by
    intro list nonempty uncut closed
    refine (cut_joinWith nonempty ?_ closed).split_eq opens
    intro part member
    exact hasCut_eq_false_iff.mpr (uncut part member)
  cases limit with
  | none => exact ⟨cut.join, cut.length_eq opens, early, fun _ => whole, back⟩
  | some most =>
    refine ⟨cut.join_within opens most, cut.length_within opens most, ?_, nofun, back⟩
    intro part member
    exact early part (cut.early_within opens member)

/-- Braces that close or open too much, around commas inside and outside of them. -/
def Sample.strayList : Text := "\x7da,\x7bb,c\x7d,\x7bd,e".text

theorem split_exact_stray :
    let t := Sample.strayList
    CodePoint.char ',' ≠ '{' ∧ cutCount ',' t = 2 ∧
      splitTopLevel ',' none t = ["\x7da".text, "\x7bb,c\x7d".text, "\x7bd,e".text] ∧
      splitTopLevel ',' (some 1) t = ["\x7da".text, "\x7bb,c\x7d,\x7bd,e".text] ∧
      joinWith [CodePoint.char ','] (splitTopLevel ',' (some 1) t) = t ∧
      (splitTopLevel ',' (some 1) t).length = min (cutCount ',' t) 1 + 1 := by
  intro t
  have comma : CodePoint.char ',' ≠ '{' := by decide
  have facts := split_exact ',' comma (some 1) t
  exact ⟨comma, by decide, by decide, by decide, facts.1, facts.2.1⟩

end Directive
end DeclGen
