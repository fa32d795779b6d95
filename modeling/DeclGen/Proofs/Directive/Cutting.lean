import DeclGen.Proofs.Directive.Depth

/-!
Cutting at separators. `Cut` says what the parts of a text are; the cutting function finds them, and
joining them gives the text back. Blanks play no part in where a text is cut.
-/
namespace DeclGen.Directive

section Cutting

variable {sep : CodePoint} {depth : Nat} {limit : Option Nat}

theorem splitFrom_step {c : CodePoint} (uncut : ¬(c = sep ∧ depth = 0)) (rest : Text) :
    splitFrom sep depth limit (c :: rest) =
      extendFirst c (splitFrom sep (stepDepth depth c) limit rest) := by
  rw [splitFrom, stepDepth]
  split
  · rfl
  · split
    · next closes => rw [if_pos closes.1]
    · next closes =>
      rw [if_neg fun cut => uncut ⟨cut.1, cut.2.1⟩]
      split
      · next brace =>
        have zero : depth = 0 := by simpa [brace] using closes
        rw [zero]
      · rfl

theorem splitFrom_uncut {t : Text} (uncut : hasCut sep depth t = false) :
    splitFrom sep depth limit t = [t] := by
  induction t generalizing depth with
  | nil => rfl
  | cons c rest ih =>
    simp only [hasCut, Bool.or_eq_false_iff] at uncut
    rw [splitFrom_step (by simpa using uncut.1), ih uncut.2]
    rfl

theorem splitFrom_cut (opens : sep ≠ '{') (more : limit ≠ some 0) {first : Text}
    (uncut : hasCut sep depth first = false) (closed : depthAfter depth first = 0) (rest : Text) :
    splitFrom sep depth limit (first ++ sep :: rest) =
      first :: splitFrom sep 0 (limit.map (· - 1)) rest := by
  induction first generalizing depth with
  | nil =>
    have zero : depth = 0 := closed
    simp [splitFrom, zero, opens, more]
  | cons c others ih =>
    simp only [hasCut, Bool.or_eq_false_iff] at uncut
    rw [List.cons_append, splitFrom_step (by simpa using uncut.1), ih uncut.2 closed]
    rfl

theorem splitFrom_exhausted (t : Text) : splitFrom sep depth (some 0) t = [t] := by
  induction t generalizing depth with
  | nil => rfl
  | cons c rest ih => simp [splitFrom, ih, extendFirst]

theorem splitFrom_ne_nil (t : Text) : splitFrom sep depth limit t ≠ [] := by
  cases t with
  | nil => simp [splitFrom]
  | cons c rest =>
    rw [splitFrom]
    split
    · exact extendFirst_ne_nil c _
    · split
      · exact extendFirst_ne_nil c _
      · split
        · simp
        · exact extendFirst_ne_nil c _

/-- The parts of a text between all its separators at depth zero. -/
inductive Cut (sep : CodePoint) : Text → List Text → Prop
  | whole {t : Text} (uncut : hasCut sep 0 t = false) : Cut sep t [t]
  | first {part rest : Text} {parts : List Text} (uncut : hasCut sep 0 part = false)
      (closed : depthAfter 0 part = 0) (later : Cut sep rest parts) :
      Cut sep (part ++ sep :: rest) (part :: parts)

theorem Cut.split_eq (opens : sep ≠ '{') {t : Text} {parts : List Text} (cut : Cut sep t parts) :
    splitTopLevel sep none t = parts := by
  induction cut with
  | whole uncut => exact splitFrom_uncut uncut
  | first uncut closed _ ih =>
    rw [splitTopLevel, splitFrom_cut opens (by simp) uncut closed]
    exact congrArg _ ih

theorem cut_split (opens : sep ≠ '{') (t : Text) : Cut sep t (splitTopLevel sep none t) := by
  cases found : hasCut sep 0 t with
  | false =>
    rw [splitTopLevel, splitFrom_uncut found]
    exact .whole found
  | true =>
    obtain ⟨part, rest, parts, uncut, closed⟩ := first_cut found
    have shorter : rest.length < t.length := by
      rw [parts, List.length_append, List.length_cons]
      omega
    rw [parts, splitTopLevel, splitFrom_cut opens (by simp) uncut closed]
    exact .first uncut closed (cut_split opens rest)
termination_by t.length

variable {t : Text} {parts : List Text}

theorem Cut.ne_nil (cut : Cut sep t parts) : parts ≠ [] := by
  cases cut <;> simp

theorem Cut.join (cut : Cut sep t parts) : joinWith [sep] parts = t := by
  induction cut with
  | whole => rfl
  | first _ _ later ih => rw [joinWith_cons _ _ later.ne_nil, ih, List.append_assoc]; rfl

theorem Cut.uncut (cut : Cut sep t parts) : ∀ part ∈ parts, hasCut sep 0 part = false := by
  induction cut with
  | whole uncut => simpa using uncut
  | first uncut _ _ ih => simpa using ⟨uncut, ih⟩

theorem Cut.closed (cut : Cut sep t parts) : ∀ part ∈ parts.dropLast, depthAfter 0 part = 0 := by
  induction cut with
  | whole => simp
  | first _ closed later ih =>
    rw [List.dropLast_cons_of_ne_nil later.ne_nil]
    simpa using ⟨closed, ih⟩

theorem cut_joinWith (nonempty : parts ≠ []) (uncut : ∀ part ∈ parts, hasCut sep 0 part = false)
    (closed : ∀ part ∈ parts.dropLast, depthAfter 0 part = 0) :
    Cut sep (joinWith [sep] parts) parts := by
  induction parts with
  | nil => exact absurd rfl nonempty
  | cons part others ih =>
    have first := uncut part List.mem_cons_self
    cases others with
    | nil => exact .whole first
    | cons next more =>
      rw [List.dropLast_cons_of_ne_nil (by simp)] at closed
      have later := ih (by simp) (fun p inside => uncut p (List.mem_cons_of_mem _ inside))
        (fun p inside => closed p (List.mem_cons_of_mem _ inside))
      rw [joinWith_cons _ _ (by simp), List.append_assoc]
      exact .first first (closed part List.mem_cons_self) later

theorem Cut.mem (cut : Cut sep t parts) : ∀ part ∈ parts, ∀ c ∈ part, c ∈ t := by
  induction cut with
  | whole => simp
  | first _ _ _ ih =>
    intro part member c inside
    rcases List.mem_cons.mp member with rfl | later
    · exact List.mem_append_left _ inside
    · exact List.mem_append_right _ (List.mem_cons_of_mem _ (ih part later c inside))

theorem Cut.balanced (opens : sep ≠ '{') (closes : sep ≠ '}') (cut : Cut sep t parts)
    (balanced : Balanced t) : ∀ part ∈ parts, Balanced part := by
  induction cut with
  | whole => simpa using balanced
  | first _ closed _ ih =>
    obtain ⟨front, back⟩ := balanced.parts closed
    have later := ih ((matchDepth_plain opens closes 0 _).symm.trans back)
    simpa using ⟨front, later⟩

end Cutting

section Blanks

variable {sep : CodePoint}

theorem map_squeeze_extendFirst_blank {c : CodePoint} (blank : Text.isBlank c = true) {parts : List Text}
    (nonempty : parts ≠ []) :
    (extendFirst c parts).map Text.squeeze = parts.map Text.squeeze := by
  cases parts with
  | nil => exact absurd rfl nonempty
  | cons part others => simp [extendFirst, squeeze_cons_blank blank]

theorem map_squeeze_extendFirst {c : CodePoint} (visible : Text.isBlank c = false) (parts : List Text) :
    (extendFirst c parts).map Text.squeeze = extendFirst c (parts.map Text.squeeze) := by
  cases parts with
  | nil => simp [extendFirst, squeeze_cons visible]; rfl
  | cons part others => simp [extendFirst, squeeze_cons visible]

theorem splitFrom_squeeze (visible : Text.isBlank sep = false) (depth : Nat) (limit : Option Nat)
    (t : Text) :
    splitFrom sep depth limit (Text.squeeze t) =
      (splitFrom sep depth limit t).map Text.squeeze := by
  induction t generalizing depth limit with
  | nil => rfl
  | cons c rest ih =>
    cases blank : Text.isBlank c with
    | true =>
      -- a blank is neither a brace nor the separator, so it only makes the first part longer
      have other := isBlank_ne blank visible
      rw [squeeze_cons_blank blank, splitFrom_step (fun cut => other cut.1),
        map_squeeze_extendFirst_blank blank (splitFrom_ne_nil rest), stepDepth_blank blank, ih]
    | false =>
      rw [squeeze_cons blank, splitFrom, splitFrom]
      split
      · rw [map_squeeze_extendFirst blank, ih]
      · split
        · rw [map_squeeze_extendFirst blank, ih]
        · split
          · rw [List.map_cons, ih]
            rfl
          · rw [map_squeeze_extendFirst blank, ih]

end Blanks

end DeclGen.Directive
