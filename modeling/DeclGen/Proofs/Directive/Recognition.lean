import DeclGen.Proofs.Directive.Line

/-!
Two tests tell directives from other lines. Reading looks for the keyword at the front and then for
parentheses anywhere behind it; masking wants nothing but blanks between the keyword and the opening
parenthesis. Both are put here in terms of one way to take a line apart, from which it is seen where
they agree.
-/
namespace DeclGen.Directive

open CodePoint (char)

/-- The line begins with the keyword, and `gap` stands between it and the first opening parenthesis. -/
structure Opened (keyword : Keyword) (line gap rest : Text) : Prop where
  parts : Text.stripLeft line = keyword.text ++ (gap ++ char '(' :: rest)
  first : char '(' ∉ gap

theorem eq_append_of_cutFirst {mark : CodePoint} {t before after : Text}
    (cut : Text.cutFirst? mark t = some (before, after)) : t = before ++ mark :: after := by
  induction t generalizing before with
  | nil => simp [Text.cutFirst?] at cut
  | cons c rest ih =>
    rw [Text.cutFirst?] at cut
    split at cut
    · next same =>
      obtain ⟨rfl, rfl⟩ := Prod.mk.inj (Option.some.inj cut)
      rw [same, List.nil_append]
    · obtain ⟨parts, later, same⟩ := Option.map_eq_some_iff.mp cut
      obtain ⟨rfl, rfl⟩ := Prod.mk.inj same
      rw [List.cons_append, ← ih later]

theorem cutFirst_isSome_iff {mark : CodePoint} {t : Text} :
    (∃ parts, Text.cutFirst? mark t = some parts) ↔ mark ∈ t := by
  constructor
  · rintro ⟨⟨before, after⟩, cut⟩
    rw [eq_append_of_cutFirst cut]
    simp
  · intro member
    obtain ⟨before, after, rfl, absent⟩ := List.eq_append_cons_of_mem member
    exact ⟨_, cutFirst_append absent after⟩

theorem arguments_isSome_iff {t : Text} :
    (∃ arguments, arguments? t = some arguments) ↔
      ∃ gap rest, t = gap ++ char '(' :: rest ∧ char '(' ∉ gap ∧ char ')' ∈ rest := by
  constructor
  · rintro ⟨arguments, found⟩
    obtain ⟨⟨gap, rest⟩, opens, later⟩ := Option.bind_eq_some_iff.mp found
    obtain ⟨parts, closes, _⟩ := Option.bind_eq_some_iff.mp later
    exact ⟨gap, rest, eq_append_of_cutFirst opens, cutFirst_not_mem opens,
      cutFirst_isSome_iff.mp ⟨parts, closes⟩⟩
  · rintro ⟨gap, rest, rfl, absent, closed⟩
    obtain ⟨parts, cut⟩ := cutFirst_isSome_iff.mpr closed
    refine ⟨parts.1, ?_⟩
    rw [arguments?, cutFirst_append absent]
    simp [cut]

theorem parse_eq_nil_iff {line keyword : Text} :
    parse line keyword = [] ↔
      ¬ (keyword.isPrefixOf (Text.stripLeft line) = true ∧
        ∃ arguments, arguments? ((Text.stripLeft line).drop keyword.length) = some arguments) := by
  unfold parse
  dsimp only
  split
  · next begins =>
    cases found : arguments? ((Text.stripLeft line).drop keyword.length) with
    | none => simp [begins]
    | some arguments => simp [begins]
  · next other => simp [other]

/-- A line annotates under a keyword exactly if it begins with the keyword and a closing parenthesis
comes after the first opening one behind it. -/
theorem parse_ne_nil_iff {line : Text} {keyword : Keyword} :
    parse line keyword.text ≠ [] ↔ ∃ gap rest, Opened keyword line gap rest ∧ char ')' ∈ rest := by
  rw [ne_eq, parse_eq_nil_iff, Classical.not_not, List.isPrefixOf_iff_prefix, arguments_isSome_iff]
  constructor
  · rintro ⟨⟨behind, whole⟩, gap, rest, parts, absent, closed⟩
    rw [← whole, List.drop_left] at parts
    exact ⟨gap, rest, ⟨by rw [← whole, parts], absent⟩, closed⟩
  · rintro ⟨gap, rest, opened, closed⟩
    rw [opened.parts, List.drop_left]
    exact ⟨List.prefix_append _ _, gap, rest, rfl, opened.first, closed⟩

theorem stripLeft_opens_iff {t : Text} :
    ((Text.stripLeft t).head? == some (char '(')) = true ↔
      ∃ gap rest, t = gap ++ char '(' :: rest ∧ Text.allBlank gap = true := by
  rw [beq_iff_eq, List.head?_eq_some_iff]
  constructor
  · rintro ⟨rest, stripped⟩
    refine ⟨t.takeWhile Text.isBlank, rest, ?_, ?_⟩
    · rw [← stripped]
      exact List.takeWhile_append_dropWhile.symm
    · exact List.all_takeWhile
  · rintro ⟨gap, rest, rfl, blank⟩
    refine ⟨rest, ?_⟩
    rw [Text.stripLeft, List.dropWhile_append_of_pos (List.all_eq_true.mp blank),
      List.dropWhile_cons_of_neg (by decide)]

theorem startsWith_iff {line : Text} {keyword : Keyword} :
    startsWith keyword line = true ↔
      ∃ gap rest, Opened keyword line gap rest ∧ Text.allBlank gap = true := by
  rw [startsWith, Bool.and_eq_true, List.isPrefixOf_iff_prefix, stripLeft_opens_iff]
  constructor
  · rintro ⟨⟨behind, whole⟩, gap, rest, parts, blank⟩
    rw [← whole, List.drop_left] at parts
    exact ⟨gap, rest, ⟨by rw [← whole, parts], allBlank_not_mem blank (by decide)⟩, blank⟩
  · rintro ⟨gap, rest, opened, blank⟩
    rw [opened.parts, List.drop_left]
    exact ⟨List.prefix_append _ _, gap, rest, rfl, blank⟩

theorem isDirectiveLine_iff {line : Text} :
    isDirectiveLine line = true ↔
      ∃ keyword gap rest, Opened keyword line gap rest ∧ Text.allBlank gap = true := by
  have listed : ∀ keyword, keyword ∈ Keyword.all := by
    intro keyword
    cases keyword <;> decide
  simp only [isDirectiveLine, List.any_eq_true, startsWith_iff, listed, true_and]

theorem keyword_eq_of_begins {first second : Keyword} (begins : first.text <+: second.text) :
    first = second := by
  have table : ∀ first second : Keyword, first.text.isPrefixOf second.text = true → first = second := by
    intro first second
    cases first <;> cases second <;> decide
  exact table first second (List.isPrefixOf_iff_prefix.mpr begins)

theorem keyword_eq_of_begin_alike {first second : Keyword} {t : Text} (here : first.text <+: t)
    (there : second.text <+: t) : first = second := by
  -- of two beginnings of one text the shorter begins the longer, and no keyword begins another
  rcases List.prefix_or_prefix_of_prefix here there with begins | begins
  · exact keyword_eq_of_begins begins
  · exact (keyword_eq_of_begins begins).symm

theorem Opened.unique {first second : Keyword} {line gap rest other more : Text}
    (here : Opened first line gap rest) (there : Opened second line other more) :
    first = second ∧ gap = other ∧ rest = more := by
  have same : first.text ++ (gap ++ char '(' :: rest) = second.text ++ (other ++ char '(' :: more) :=
    here.parts.symm.trans there.parts
  obtain rfl : first = second := keyword_eq_of_begin_alike ⟨_, same⟩ (List.prefix_append _ _)
  have behind := List.append_cancel_left same
  have cut := cutFirst_append here.first rest
  rw [behind, cutFirst_append there.first] at cut
  obtain ⟨rfl, rfl⟩ := Prod.mk.inj (Option.some.inj cut)
  exact ⟨rfl, rfl, rfl⟩

/-- A line with a keyword in front is masked exactly if only blanks follow up to the parenthesis. -/
theorem Opened.isDirectiveLine_iff {keyword : Keyword} {line gap rest : Text}
    (opened : Opened keyword line gap rest) :
    isDirectiveLine line = true ↔ Text.allBlank gap = true := by
  rw [Directive.isDirectiveLine_iff]
  constructor
  · rintro ⟨other, blank, more, alike, isBlank⟩
    obtain ⟨-, rfl, -⟩ := opened.unique alike
    exact isBlank
  · intro blank
    exact ⟨keyword, gap, rest, opened, blank⟩

end DeclGen.Directive
