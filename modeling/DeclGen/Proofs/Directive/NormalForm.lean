import DeclGen.Proofs.Directive.Line

/-!
What reading leaves of an argument list: names and values without blanks, a name that is closed before
its value begins, groups with at least one entry and with balanced braces inside. Only the last entry
outside of groups may leave a brace open. `Normal` is what the reader establishes entry by entry;
`NormalForm` says the same of a whole list at every depth, in terms of positions and counts.
-/
namespace DeclGen.Directive

open CodePoint (char)

def Plain (t : Text) : Prop := ∀ c ∈ t, Text.isBlank c = false ∧ c ≠ ')'

structure NormalName (name : Text) : Prop where
  plain : Plain name
  noEquals : hasCut '=' 0 name = false
  noComma : hasCut ',' 0 name = false

/-- The braces in the name and in the value are balanced; those around a group always are. -/
def BracesMatch : Property → Prop
  | .text name value => Balanced name ∧ Balanced value
  | .group name _ => Balanced name

inductive Normal : Property → Prop
  | text {name value : Text} (named : NormalName name) (plain : Plain value)
      (noComma : hasCut ',' 0 value = false) (closed : value ≠ [] → depthAfter 0 name = 0)
      (notGroup : groupBody? value = none) : Normal (.text name value)
  | group {name : Text} {entries : List Property} (named : NormalName name)
      (closed : depthAfter 0 name = 0) (nonempty : entries ≠ [])
      (inside : ∀ p ∈ entries, Normal p) (matched : ∀ p ∈ entries, BracesMatch p) :
      Normal (.group name entries)

theorem plain_squeeze {t : Text} (noParen : char ')' ∉ t) : Plain (Text.squeeze t) := by
  intro c member
  obtain ⟨inside, visible⟩ := List.mem_filter.mp member
  refine ⟨by simpa using visible, ?_⟩
  rintro rfl
  exact noParen inside

theorem squeeze_of_plain {t : Text} (plain : Plain t) : Text.squeeze t = t := by
  refine List.filter_eq_self.mpr ?_
  intro c member
  rw [(plain c member).1]
  rfl

theorem normalName_squeeze {name : Text} (noParen : char ')' ∉ name)
    (noEquals : hasCut '=' 0 name = false)
    (noComma : hasCut ',' 0 name = false) : NormalName (Text.squeeze name) :=
  ⟨plain_squeeze noParen, (hasCut_squeeze (by decide) 0 name).trans noEquals,
    (hasCut_squeeze (by decide) 0 name).trans noComma⟩

theorem balanced_squeeze {t : Text} (balanced : Balanced t) : Balanced (Text.squeeze t) :=
  (matchDepth_squeeze 0 t).trans balanced

theorem bracesMatch_entry {entry : Text} (balanced : Balanced entry) :
    BracesMatch (parseEntry entry) := by
  rcases parseEntry_cases entry with ⟨_, read⟩ | ⟨name, value, rfl, _, closed, forms⟩
  · rw [read]
    exact ⟨balanced_squeeze balanced, rfl⟩
  · obtain ⟨front, back⟩ := balanced.parts closed
    have back : Balanced value := (matchDepth_plain (by decide) (by decide) 0 value).symm.trans back
    rcases forms with ⟨_, read⟩ | ⟨body, _, _, read⟩
    · rw [read]
      exact ⟨balanced_squeeze front, balanced_squeeze back⟩
    · rw [read]
      exact balanced_squeeze front

theorem parseEntries_ne_nil (t : Text) : parseEntries t ≠ [] := by
  rw [parseEntries_eq]
  simpa [splitTopLevel] using splitFrom_ne_nil t

theorem bracesMatch_entries {t : Text} (balanced : Balanced t) :
    ∀ p ∈ parseEntries t, BracesMatch p := by
  rw [parseEntries_eq]
  intro p member
  obtain ⟨entry, inside, rfl⟩ := List.mem_map.mp member
  exact bracesMatch_entry ((cut_split (by decide) t).balanced (by decide) (by decide) balanced _ inside)

theorem noParen_body {value body : Text} (braces : Text.squeeze value = char '{' :: body ++ [char '}'])
    (noParen : char ')' ∉ value) : char ')' ∉ body := by
  intro inside
  have member : char ')' ∈ Text.squeeze value := by
    rw [braces]
    simp [inside]
  exact noParen (List.mem_filter.mp member).1

theorem normal_entry {entry : Text} (noParen : char ')' ∉ entry) (noComma : hasCut ',' 0 entry = false)
    (groups : ∀ body, body.length < entry.length → char ')' ∉ body → ∀ p ∈ parseEntries body, Normal p) :
    Normal (parseEntry entry) := by
  rcases parseEntry_cases entry with ⟨noEquals, read⟩ | ⟨name, value, rfl, noEquals, closed, forms⟩
  · rw [read]
    exact .text (normalName_squeeze noParen noEquals noComma) (by simp [Plain]) rfl (by simp) rfl
  · simp only [List.mem_append, List.mem_cons, not_or] at noParen
    rw [hasCut_append, closed, Bool.or_eq_false_iff] at noComma
    have named := normalName_squeeze noParen.1 noEquals noComma.1
    have closed' : depthAfter 0 (Text.squeeze name) = 0 := (depthAfter_squeeze 0 name).trans closed
    rcases forms with ⟨text, read⟩ | ⟨body, braces, balanced, read⟩
    · rw [read]
      refine .text named (plain_squeeze noParen.2.2) ?_ (fun _ => closed') text
      rw [hasCut_squeeze (by decide)]
      simpa [hasCut, stepDepth] using noComma.2
    · rw [read]
      have shorter : body.length < (name ++ char '=' :: value).length := by
        have short : (Text.squeeze value).length ≤ value.length := List.length_filter_le ..
        simp only [braces, List.length_append, List.length_cons] at short ⊢
        omega
      exact .group named closed' (parseEntries_ne_nil body)
        (groups body shorter (noParen_body braces noParen.2.2)) (bracesMatch_entries balanced)

theorem normal_entries (t : Text) (noParen : char ')' ∉ t) : ∀ p ∈ parseEntries t, Normal p := by
  rw [parseEntries_eq]
  intro p member
  obtain ⟨entry, inside, rfl⟩ := List.mem_map.mp member
  have cut : Cut ',' t (splitTopLevel ',' none t) := cut_split (by decide) t
  have short := length_le_of_mem_split inside
  refine normal_entry (fun found => noParen (cut.mem entry inside _ found)) (cut.uncut entry inside) ?_
  intro body shorter noParenInside
  exact normal_entries body noParenInside
termination_by t.length

section Depths

/-- A property is in a list as a member, or as part of a group that is. -/
inductive StandsIn (p : Property) : List Property → Prop
  | member {ps : List Property} (listed : p ∈ ps) : StandsIn p ps
  | inside {ps entries : List Property} {name : Text} (group : Property.group name entries ∈ ps)
      (deeper : StandsIn p entries) : StandsIn p ps

theorem Normal.entries {name : Text} {entries : List Property} (normal : Normal (.group name entries)) :
    entries ≠ [] ∧ (∀ p ∈ entries, Normal p) ∧ ∀ p ∈ entries, BracesMatch p := by
  cases normal with
  | group _ _ nonempty inside matched => exact ⟨nonempty, inside, matched⟩

theorem normal_of_standsIn {p : Property} {ps : List Property} (stands : StandsIn p ps)
    (normal : ∀ q ∈ ps, Normal q) : Normal p := by
  induction stands with
  | member listed => exact normal p listed
  | inside group _ ih => exact ih (normal _ group).entries.2.1

theorem bracesMatch_of_standsIn {p : Property} {ps : List Property} (stands : StandsIn p ps)
    (normal : ∀ q ∈ ps, Normal q) (matched : ∀ q ∈ ps, BracesMatch q) : BracesMatch p := by
  induction stands with
  | member listed => exact matched p listed
  | inside group _ ih =>
    obtain ⟨_, inner, paired⟩ := (normal _ group).entries
    exact ih inner paired

theorem Normal.named {p : Property} (normal : Normal p) : NormalName p.name := by
  cases normal with
  | text named _ _ _ _ => exact named
  | group named _ _ _ _ => exact named

theorem Normal.value {name value : Text} (normal : Normal (.text name value)) :
    Plain value ∧ groupBody? value = none := by
  cases normal with
  | text _ plain _ _ notGroup => exact ⟨plain, notGroup⟩

theorem BracesMatch.named {p : Property} (matched : BracesMatch p) : Balanced p.name := by
  cases p with
  | text name value => exact matched.1
  | group name entries => exact matched

/-- A list of properties as reading leaves it, with all its groups. -/
structure NormalForm (ps : List Property) : Prop where
  plainNames : ∀ p, StandsIn p ps → Plain p.name
  uncutNames : ∀ p, StandsIn p ps → ¬ AtDepthZero '=' p.name
  plainTexts : ∀ name value, StandsIn (.text name value) ps → Plain value
  noGroupTexts : ∀ name value, StandsIn (.text name value) ps →
    ∀ body, Paired body → value ≠ char '{' :: body ++ [char '}']
  filledGroups : ∀ name entries, StandsIn (.group name entries) ps → entries ≠ []
  pairedNames : ∀ name entries, StandsIn (.group name entries) ps →
    ∀ p, StandsIn p entries → Paired p.name
  pairedTexts : ∀ name entries, StandsIn (.group name entries) ps →
    ∀ inner value, StandsIn (.text inner value) entries → Paired value

theorem normalForm_of_normal {ps : List Property} (normal : ∀ p ∈ ps, Normal p) : NormalForm ps where
  plainNames := by
    intro p stands
    exact (normal_of_standsIn stands normal).named.plain
  uncutNames := by
    intro p stands cut
    have uncut := (normal_of_standsIn stands normal).named.noEquals
    rw [(hasCut_iff_atDepthZero p.name).mpr cut] at uncut
    exact Bool.noConfusion uncut
  plainTexts := by
    intro name value stands
    exact (normal_of_standsIn stands normal).value.1
  noGroupTexts := by
    intro name value stands body paired same
    have notGroup := (normal_of_standsIn stands normal).value.2
    rw [same, groupBody_braces (balanced_iff_paired.mpr paired)] at notGroup
    exact Option.some_ne_none body notGroup
  filledGroups := by
    intro name entries stands
    exact (normal_of_standsIn stands normal).entries.1
  pairedNames := by
    intro name entries stands p deeper
    obtain ⟨_, inner, matched⟩ := (normal_of_standsIn stands normal).entries
    exact balanced_iff_paired.mp (bracesMatch_of_standsIn deeper inner matched).named
  pairedTexts := by
    intro name entries stands inner value deeper
    obtain ⟨_, normalInside, matched⟩ := (normal_of_standsIn stands normal).entries
    exact balanced_iff_paired.mp (bracesMatch_of_standsIn deeper normalInside matched).2

end Depths

/-- What is read from a line, if anything, is the keyword followed by entries in normal form. -/
theorem parse_gives_normal_form (line keyword : Text) (found : parse line keyword ≠ []) :
    ∃ entries, parse line keyword = .flag keyword :: entries ∧ NormalForm entries := by
  obtain none | ⟨arguments, noParen, read⟩ := parse_cases line keyword
  · exact absurd none found
  · refine ⟨_, read, normalForm_of_normal ?_⟩
    split
    · simp
    · exact normal_entries arguments noParen

/-- Groups inside a group, two side by side, and braces outside of groups that close or open too much. -/
def Sample.strayBraces : Text :=
  "CGMETHOD ( \x7da b = \x7bc, d = \x7be = \x7bf\x7d\x7d\x7d, g = \x7bh\x7d\x7bi\x7d, j\x7b = k)".text

theorem parse_gives_normal_form_stray :
    parse Sample.strayBraces Keyword.method.text =
        [.flag "CGMETHOD".text,
          .group ['}', 'a', 'b']
            [.flag "c".text, .group "d".text [.group "e".text [.flag "f".text]]],
          .text "g".text ['{', 'h', '}', '{', 'i', '}'], .flag ['j', '{', '=', 'k']] ∧
      ∃ entries, parse Sample.strayBraces Keyword.method.text =
        .flag Keyword.method.text :: entries ∧ NormalForm entries := by
  have found : parse Sample.strayBraces Keyword.method.text ≠ [] := by decide +kernel
  exact ⟨by decide +kernel, parse_gives_normal_form Sample.strayBraces Keyword.method.text found⟩

end DeclGen.Directive
