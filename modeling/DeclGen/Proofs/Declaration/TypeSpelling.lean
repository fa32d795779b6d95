import DeclGen.Declaration.TypeSpelling
import Mathlib.Data.List.TakeWhile

/-!
When the spelling of a type is right. If a name occurs first where it is declared, what is left of the
text in front of it is the type, without its `static` words; a text without a name is kept as a whole.
Deleting `static` is said by a relation: of the places where the word stands before a blank, the first is
taken, the word goes with all blanks behind it, and what follows is treated in the same way.
-/
namespace DeclGen

open CodePoint (char)

namespace TypeSpelling

/-- The word `static` stands at this position, and a blank behind it. -/
def StaticAt (t : Text) (i : Nat) : Prop :=
  ∃ c rest, t.drop i = staticWord ++ c :: rest ∧ Text.isBlank c = true

/-- Deleting `static` and the blanks behind it, from the first place to the last. -/
inductive Erased : Text → Text → Prop
  | free {t : Text} (none : ∀ i, ¬ StaticAt t i) : Erased t t
  | cut {before blanks after result : Text}
      (first : ∀ i < before.length, ¬ StaticAt (before ++ (staticWord ++ (blanks ++ after))) i)
      (some : blanks ≠ []) (blank : Text.allBlank blanks = true)
      (maximal : ∀ c ∈ after.head?, Text.isBlank c = false) (later : Erased after result) :
      Erased (before ++ (staticWord ++ (blanks ++ after))) (before ++ result)

section Word

variable {t rest : Text} {c : CodePoint}

theorem drop_staticWord (behind : Text) : (staticWord ++ behind).drop 6 = behind :=
  List.drop_left' rfl

theorem stripLeft_head (t : Text) : ∀ c ∈ (Text.stripLeft t).head?, Text.isBlank c = false := by
  intro c first
  have stop := List.head?_dropWhile_not Text.isBlank t
  rw [Text.stripLeft] at first
  rw [Option.mem_def.mp first] at stop
  simpa using stop

theorem afterStatic_eq_some {blanks : Text} (some : blanks ≠ []) (blank : Text.allBlank blanks = true)
    (maximal : ∀ c ∈ rest.head?, Text.isBlank c = false) :
    afterStatic? (staticWord ++ (blanks ++ rest)) = .some rest := by
  have begins : staticWord.isPrefixOf (staticWord ++ (blanks ++ rest)) = true :=
    List.isPrefixOf_iff_prefix.mpr (List.prefix_append _ _)
  have stripped : Text.stripLeft (blanks ++ rest) = rest := by
    rw [Text.stripLeft, List.dropWhile_append_of_pos (List.all_eq_true.mp blank)]
    cases rest with
    | nil => rfl
    | cons c others => exact List.dropWhile_cons_of_neg (by simp [maximal c rfl])
  obtain ⟨b, more, rfl⟩ := List.exists_cons_of_ne_nil some
  have front : Text.isBlank b = true := List.all_eq_true.mp blank b List.mem_cons_self
  rw [afterStatic?, drop_staticWord, stripped, if_pos ⟨begins, by simp [front]⟩]

theorem eq_of_afterStatic (found : afterStatic? t = some rest) :
    ∃ blanks, t = staticWord ++ (blanks ++ rest) ∧ blanks ≠ [] ∧ Text.allBlank blanks = true ∧
      ∀ c ∈ rest.head?, Text.isBlank c = false := by
  unfold afterStatic? at found
  split at found
  · next word =>
    obtain ⟨behind, rfl⟩ := List.isPrefixOf_iff_prefix.mp word.1
    rw [drop_staticWord] at word found
    obtain rfl := Option.some.inj found
    refine ⟨behind.takeWhile Text.isBlank, ?_, ?_, List.all_takeWhile, stripLeft_head behind⟩
    · rw [Text.stripLeft, List.takeWhile_append_dropWhile]
    · cases behind with
      | nil => simp at word
      | cons c others =>
        have front : Text.isBlank c = true := by simpa using word.2
        simp [front]
  · simp at found

theorem afterStatic_eq_none_iff : afterStatic? t = none ↔ ¬ StaticAt t 0 := by
  constructor
  · rintro missing ⟨c, rest, here, blank⟩
    -- the word is found with the blank and all blanks that follow it
    have blanks : Text.allBlank (c :: rest.takeWhile Text.isBlank) = true := by
      rw [Text.allBlank, List.all_cons, blank, List.all_takeWhile]
      rfl
    have parts : c :: rest = c :: rest.takeWhile Text.isBlank ++ Text.stripLeft rest := by
      rw [Text.stripLeft, List.cons_append, List.takeWhile_append_dropWhile]
    rw [List.drop_zero] at here
    rw [here, parts, afterStatic_eq_some (List.cons_ne_nil c _) blanks (stripLeft_head rest)] at missing
    cases missing
  · intro absent
    cases found : afterStatic? t with
    | none => rfl
    | some rest =>
      obtain ⟨blanks, rfl, some, blank, _⟩ := eq_of_afterStatic found
      obtain ⟨b, more, rfl⟩ := List.exists_cons_of_ne_nil some
      exact absurd ⟨b, more ++ rest, rfl, List.all_eq_true.mp blank b List.mem_cons_self⟩ absent

theorem eraseStatic_of_word (found : afterStatic? t = some rest) :
    eraseStatic t = eraseStatic rest := by
  rw [eraseStatic]
  split
  · next other same =>
    rw [found] at same
    rw [Option.some.inj same]
  · next missing => rw [found] at missing; cases missing

theorem eraseStatic_cons (absent : ¬ StaticAt (c :: rest) 0) :
    eraseStatic (c :: rest) = c :: eraseStatic rest := by
  have missing := afterStatic_eq_none_iff.mpr absent
  rw [eraseStatic]
  split
  · next found => rw [missing] at found; cases found
  · rfl

end Word

section Erasing

variable {t result : Text}

/-- Up to the first `static` nothing is deleted. -/
theorem eraseStatic_append {before tail : Text}
    (first : ∀ i < before.length, ¬ StaticAt (before ++ tail) i) :
    eraseStatic (before ++ tail) = before ++ eraseStatic tail := by
  induction before with
  | nil => rfl
  | cons c rest ih =>
    have later := ih fun i inside found => first (i + 1) (by simpa using inside) found
    have absent : ¬ StaticAt (c :: (rest ++ tail)) 0 := first 0 (by simp)
    rw [List.cons_append, eraseStatic_cons absent, later]
    rfl

theorem eraseStatic_of_free (free : ∀ i, ¬ StaticAt t i) : eraseStatic t = t := by
  have whole : ∀ i < t.length, ¬ StaticAt (t ++ []) i := by
    intro i _
    rw [List.append_nil]
    exact free i
  have kept := eraseStatic_append whole
  have nothing : eraseStatic [] = [] := by rw [eraseStatic]; rfl
  rwa [nothing, List.append_nil] at kept

theorem Erased.eq (erased : Erased t result) : eraseStatic t = result := by
  induction erased with
  | free none => exact eraseStatic_of_free none
  | cut first some blank maximal _ ih =>
    rw [eraseStatic_append first, eraseStatic_of_word (afterStatic_eq_some some blank maximal), ih]

theorem Erased.cons {c : CodePoint} (absent : ¬ StaticAt (c :: t) 0) (erased : Erased t result) :
    Erased (c :: t) (c :: result) := by
  cases erased with
  | free none =>
    refine .free fun i => ?_
    cases i with
    | zero => exact absent
    | succ j => exact none j
  | @cut before blanks after result first some blank maximal later =>
    refine @Erased.cut (c :: before) blanks after result ?_ some blank maximal later
    intro i inside
    cases i with
    | zero => exact absent
    | succ j => exact first j (by simpa using inside)

theorem erased_eraseStatic (t : Text) : Erased t (eraseStatic t) := by
  -- a character that is kept moves in front of the next cut, so the cut stays the first one
  fun_induction eraseStatic t with
  | case1 t rest found ih =>
    obtain ⟨blanks, rfl, some, blank, maximal⟩ := eq_of_afterStatic found
    exact @Erased.cut [] blanks rest _ (by simp) some blank maximal ih
  | case2 missing =>
    refine .free fun i => ?_
    rintro ⟨c, rest, here, _⟩
    have empty := congrArg List.length here
    simp at empty
  | case3 c rest missing ih => exact ih.cons (afterStatic_eq_none_iff.mp missing)

theorem erased_iff : Erased t result ↔ eraseStatic t = result := by
  constructor
  · exact Erased.eq
  · rintro rfl
    exact erased_eraseStatic t

end Erasing

section Search

theorem indexOf_eq {name t : Text} {i : Nat} (there : name <+: t.drop i)
    (first : ∀ k < i, ¬ name <+: t.drop k) (inside : i ≤ t.length) :
    Text.indexOf? name t = some i := by
  induction t generalizing i with
  | nil =>
    obtain rfl : i = 0 := by simpa using inside
    obtain rfl : name = [] := by simpa using there
    rfl
  | cons c rest ih =>
    rw [Text.indexOf?]
    cases i with
    | zero =>
      have begins : name.isPrefixOf (c :: rest) = true := List.isPrefixOf_iff_prefix.mpr there
      rw [if_pos begins]
    | succ j =>
      have absent : ¬ name.isPrefixOf (c :: rest) = true := by
        rw [List.isPrefixOf_iff_prefix]
        exact first 0 (by omega)
      have later := @ih j there (fun k before => first (k + 1) (by omega)) (by simpa using inside)
      rw [if_neg absent, later]
      rfl

theorem beforeLast_eq {mark : CodePoint} {before after : Text} (absent : mark ∉ after) :
    Text.beforeLast? mark (before ++ mark :: after) = some before := by
  have skipped : ∀ c ∈ after.reverse, (c != mark) = true := by
    intro c member
    have inside : c ∈ after := List.mem_reverse.mp member
    exact bne_iff_ne.mpr fun same => absent (same ▸ inside)
  have turned : (before ++ mark :: after).reverse = after.reverse ++ mark :: before.reverse := by simp
  rw [Text.beforeLast?, turned, List.dropWhile_append_of_pos skipped,
    List.dropWhile_cons_of_neg (by simp)]
  simp

theorem beforeLast_eq_none {mark : CodePoint} {t : Text} (absent : mark ∉ t) :
    Text.beforeLast? mark t = none := by
  have skipped : t.reverse.dropWhile (· != mark) = [] := by
    rw [List.dropWhile_eq_nil_iff]
    intro c member
    have inside : c ∈ t := List.mem_reverse.mp member
    exact bne_iff_ne.mpr fun same => absent (same ▸ inside)
  rw [Text.beforeLast?, skipped]

end Search

end TypeSpelling

open TypeSpelling

section Spelling

/-- The cut goes through the space in front of the name, because nothing but the first character of the
name is looked at behind it. -/
theorem typeSpelling_named {type name rest : Text} (named : name ≠ [])
    (visible : name.head? ≠ some (char ' '))
    (first : ∀ k ≤ type.length, ¬ name <+: (type ++ char ' ' :: (name ++ rest)).drop k) :
    typeSpelling (type ++ char ' ' :: (name ++ rest)) name = eraseStatic type := by
  obtain ⟨c, others, rfl⟩ := List.exists_cons_of_ne_nil named
  have position : Text.indexOf? (c :: others) (type ++ char ' ' :: (c :: others ++ rest)) =
      some (type.length + 1) := by
    apply indexOf_eq
    · rw [List.drop_length_add_append]
      exact List.prefix_append _ _
    · intro k before
      exact first k (by omega)
    · simp
  have scanned : (type ++ char ' ' :: (c :: others ++ rest)).take (type.length + 1 + 1) =
      type ++ char ' ' :: [c] := by
    rw [Nat.add_assoc, List.take_length_add_append]
    rfl
  have other : char ' ' ∉ [c] := by
    intro member
    exact visible (by rw [List.mem_singleton.mp member]; rfl)
  rw [typeSpelling, position]
  simp only [scanned, beforeLast_eq other, Option.getD_some]

theorem typeSpelling_unnamed {text : Text} (visible : text.head? ≠ some (char ' ')) :
    typeSpelling text [] = eraseStatic text := by
  have position : Text.indexOf? [] text = some 0 := by
    cases text <;> rfl
  have absent : char ' ' ∉ text.take (0 + 1) := by
    cases text with
    | nil => simp
    | cons c rest =>
      intro member
      exact visible (by rw [List.mem_singleton.mp member]; rfl)
  rw [typeSpelling, position]
  simp only [beforeLast_eq_none absent, Option.getD_none]

end Spelling

/-- If a name is found first where it stands behind the type and a space, the type is spelled as it is
written, without `static`; so is a text that no name is looked for in, as long as no space begins it. -/
theorem typeSpelling_erases :
    (∀ type name rest : Text, name ≠ [] → name.head? ≠ some (char ' ') →
      (∀ k ≤ type.length, ¬ name <+: (type ++ char ' ' :: (name ++ rest)).drop k) →
      (∀ result, typeSpelling (type ++ char ' ' :: (name ++ rest)) name = result ↔ Erased type result) ∧
        ((∀ i, ¬ StaticAt type i) → typeSpelling (type ++ char ' ' :: (name ++ rest)) name = type)) ∧
    ∀ text : Text, text.head? ≠ some (char ' ') →
      (∀ result, typeSpelling text [] = result ↔ Erased text result) ∧
        ((∀ i, ¬ StaticAt text i) → typeSpelling text [] = text) := by
  constructor
  · intro type name rest named visible first
    rw [typeSpelling_named named visible first]
    exact ⟨fun result => erased_iff.symm, eraseStatic_of_free⟩
  · intro text visible
    rw [typeSpelling_unnamed visible]
    exact ⟨fun result => erased_iff.symm, eraseStatic_of_free⟩

namespace Sample

/-- A type with wide blanks, `static` more than once, and once as the end of another word. -/
def staticType : Text := "static\t\u3000const static  long e_static x".text

def counter : Text := "count".text

end Sample

theorem typeSpelling_erases_sample :
    let text := Sample.staticType ++ char ' ' :: (Sample.counter ++ " = count(static 0)".text)
    (Sample.counter ≠ [] ∧ Sample.counter.head? ≠ some (char ' ') ∧
      ∀ k ≤ Sample.staticType.length, ¬ Sample.counter <+: text.drop k) ∧
      typeSpelling text Sample.counter = "const long e_x".text ∧
      Erased Sample.staticType "const long e_x".text := by
  intro text
  have first : ∀ k ≤ Sample.staticType.length, ¬ Sample.counter <+: text.drop k := by decide +kernel
  have spelled : typeSpelling text Sample.counter = "const long e_x".text := by decide +kernel
  have erases := typeSpelling_erases.1 Sample.staticType Sample.counter " = count(static 0)".text
    (by decide) (by decide) first
  exact ⟨⟨by decide, by decide, first⟩, spelled, (erases.1 _).mp spelled⟩

end DeclGen
