import DeclGen.Proofs.Directive.Entries
import Mathlib.Logic.Function.Iterate

/-!
Groups inside groups. The reader goes on inside an entry only where its value is a group, and there it
reads what stands in the braces. Each level costs the text an equals sign and two braces, so a text of
`n` characters is read in no more than `n / 3 + 1` levels. The bound is on how deep the levels lie, not
on how many groups are read.
-/
namespace DeclGen.Directive

open CodePoint (char)

/-- The texts that are read on the next level: the bodies of the groups among the entries, in order. -/
def groupBodies (t : Text) : List Text :=
  (splitTopLevel ',' none t).filterMap fun entry => groupBody? (nameAndValue entry).2

/-- One level of reading, with `inside` to read the bodies of groups. -/
def entriesUsing (inside : Text → List Property) (t : Text) : List Property :=
  (splitTopLevel ',' none t).map fun entry =>
    match groupBody? (nameAndValue entry).2 with
    | some body => .group (nameAndValue entry).1 (inside body)
    | none => .text (nameAndValue entry).1 (nameAndValue entry).2

section Levels

variable {t body : Text} {inside other : Text → List Property}

theorem parseEntries_level (t : Text) : parseEntries t = entriesUsing parseEntries t :=
  parseEntries_eq t

theorem mem_groupBodies :
    body ∈ groupBodies t ↔
      ∃ entry ∈ splitTopLevel ',' none t, groupBody? (nameAndValue entry).2 = some body :=
  List.mem_filterMap

theorem entriesUsing_eq_iff :
    entriesUsing inside t = entriesUsing other t ↔
      ∀ body ∈ groupBodies t, inside body = other body := by
  rw [entriesUsing, entriesUsing, List.map_inj_left]
  constructor
  · intro same body member
    obtain ⟨entry, listed, group⟩ := mem_groupBodies.mp member
    have read := same entry listed
    simp only [group, Property.group.injEq, true_and] at read
    exact read
  · intro same entry listed
    cases group : groupBody? (nameAndValue entry).2 with
    | none => rfl
    | some body =>
      dsimp only
      rw [same body (mem_groupBodies.mpr ⟨entry, listed, group⟩)]

theorem length_body_of_entry {entry : Text} (group : groupBody? (nameAndValue entry).2 = some body) :
    body.length + 2 < entry.length := by
  rcases entry_cases entry with uncut | ⟨name, value, rfl, uncut, closed⟩
  · rw [nameAndValue_flag uncut] at group
    cases group
  · rw [nameAndValue_assignment uncut closed] at group
    have braces : Text.squeeze value = char '{' :: body ++ [char '}'] := (groupBody_eq_some group).1
    have squeezed : (Text.squeeze value).length ≤ value.length := List.length_filter_le ..
    rw [braces] at squeezed
    simp only [List.length_append, List.length_cons, List.length_nil] at squeezed ⊢
    omega

theorem length_of_mem_groupBodies (member : body ∈ groupBodies t) : body.length + 2 < t.length := by
  obtain ⟨entry, listed, group⟩ := mem_groupBodies.mp member
  exact Nat.lt_of_lt_of_le (length_body_of_entry group) (length_le_of_mem_split listed)

/-- Once the levels suffice for the length of a text, nothing is asked of what stands behind them. -/
theorem iterate_entriesUsing (start : Text → List Property) {levels : Nat}
    (enough : t.length < 3 * levels) : entriesUsing^[levels] start t = parseEntries t := by
  induction levels generalizing t with
  | zero => omega
  | succ levels ih =>
    -- the outermost level is taken off, and the levels below it are asked for the bodies only
    rw [Function.iterate_succ_apply', parseEntries_level, entriesUsing_eq_iff]
    intro body member
    have shorter := length_of_mem_groupBodies member
    exact ih (by omega)

theorem isGroup_iff_paired (v : Text) :
    isGroup v = true ↔ ∃ body, v = char '{' :: body ++ [char '}'] ∧ Paired body := by
  simp only [isGroup_iff, balanced_iff_paired]

end Levels

/-- A text is a group exactly if it is another text in braces whose own braces come in pairs. Reading a
list asks for the bodies of its groups, which are read in the same way, and for nothing else. Each of
them is shorter than the list by more than two characters; so `t.length / 3 + 1` levels read all there
is, whatever would be read on further ones. -/
theorem grouped_reading_ends :
    (∀ v, isGroup v = true ↔ ∃ body, v = char '{' :: body ++ [char '}'] ∧ Paired body) ∧
      ∀ t,
        parseEntries t = entriesUsing parseEntries t ∧
        (∀ inside other, entriesUsing inside t = entriesUsing other t ↔
          ∀ body ∈ groupBodies t, inside body = other body) ∧
        (∀ body ∈ groupBodies t, body.length + 2 < t.length) ∧
        ∀ start, entriesUsing^[t.length / 3 + 1] start t = parseEntries t := by
  refine ⟨isGroup_iff_paired, ?_⟩
  intro t
  refine ⟨parseEntries_level t, fun _ _ => entriesUsing_eq_iff,
    fun _ member => length_of_mem_groupBodies member, ?_⟩
  intro start
  exact iterate_entriesUsing start (by omega)

/-- Two groups with a third inside one of them, and braces that form no group. -/
def Sample.nestedList : Text := "a=\x7bb=\x7b\x7d, c\x7d, d = \x7be \x7d, f=\x7bg\x7d\x7bh\x7d".text

theorem grouped_reading_ends_nested :
    let t := Sample.nestedList
    groupBodies t = ["b=\x7b\x7d,c".text, "e".text] ∧
      "b=\x7b\x7d,c".text ∈ groupBodies t ∧ "b=\x7b\x7d,c".text.length + 2 < t.length ∧
      isGroup "\x7bb=\x7b\x7d,c\x7d".text = true ∧ isGroup "\x7bg\x7d\x7bh\x7d".text = false ∧
      entriesUsing^[t.length / 3 + 1] (fun _ => []) t = parseEntries t := by
  intro t
  have bodies : groupBodies t = ["b=\x7b\x7d,c".text, "e".text] := by decide +kernel
  have member : "b=\x7b\x7d,c".text ∈ groupBodies t := by
    rw [bodies]
    exact List.mem_cons_self
  obtain ⟨_, _, shorter, ends⟩ := grouped_reading_ends.2 t
  exact ⟨bodies, member, shorter _ member, by decide, by decide, ends _⟩

end DeclGen.Directive
