import DeclGen.Proofs.Directive.Line
import DeclGen.Proofs.Directive.NormalForm

/-!
Printed properties are read back. The text of a normal property is not cut by commas, closes what it
opens inside of groups, and holds no closing parenthesis, so that an argument list of normal
properties falls into the texts of its entries.
-/
namespace DeclGen.Directive

open CodePoint (char)
open Property (format formatEach)

def printed (ps : List Property) : Text := joinWith ", ".text (formatEach ps)

theorem formatEach_eq_map (ps : List Property) : formatEach ps = ps.map format := by
  induction ps with
  | nil => rfl
  | cons p rest ih => rw [formatEach, ih]; rfl

theorem format_flag (name : Text) : format (.text name []) = name := rfl

theorem format_text {value : Text} (name : Text) (nonempty : value ≠ []) :
    format (.text name value) = name ++ char '=' :: value := by
  cases value with
  | nil => exact absurd rfl nonempty
  | cons c rest => simp [format]

theorem format_group (name : Text) (entries : List Property) :
    format (.group name entries) = name ++ char '=' :: (char '{' :: printed entries ++ [char '}']) := by
  simp [format, printed]

section Balance

theorem balanced_joinWith {parts : List Text} (each : ∀ part ∈ parts, Balanced part) :
    Balanced (joinWith ", ".text parts) := by
  induction parts with
  | nil => rfl
  | cons part others ih =>
    have front := each part List.mem_cons_self
    cases others with
    | nil => exact front
    | cons next more =>
      have back := ih fun p inside => each p (List.mem_cons_of_mem _ inside)
      rw [joinWith_cons _ _ (by simp)]
      exact (front.append (by rfl)).append back

theorem balanced_printed {ps : List Property} (each : ∀ p ∈ ps, Balanced (format p)) :
    Balanced (printed ps) := by
  refine balanced_joinWith ?_
  rw [formatEach_eq_map]
  intro part member
  obtain ⟨p, inside, rfl⟩ := List.mem_map.mp member
  exact each p inside

theorem Normal.balanced {p : Property} (normal : Normal p) :
    BracesMatch p → Balanced (format p) := by
  induction normal with
  | @text name value =>
    intro matched
    by_cases empty : value = []
    · rw [empty, format_flag]
      exact matched.1
    · rw [format_text name empty]
      exact matched.1.append (matched.2.cons (by decide) (by decide))
  | group _ _ _ _ matched ih =>
    intro name
    rw [format_group]
    have inside := balanced_printed fun p member => ih p member (matched p member)
    exact Balanced.append name (inside.braces.cons (by decide) (by decide))

theorem balanced_listing {ps : List Property} (normal : ∀ p ∈ ps, Normal p)
    (matched : ∀ p ∈ ps, BracesMatch p) : Balanced (printed ps) :=
  balanced_printed fun p member => (normal p member).balanced (matched p member)

theorem braces_shut {t : Text} (balanced : Balanced t) :
    depthAfter 0 (char '{' :: t ++ [char '}']) = 0 ∧
      hasCut ',' 0 (char '{' :: t ++ [char '}']) = false := by
  refine ⟨depthAfter_of_match balanced.braces, ?_⟩
  have after : depthAfter 1 t = 1 := (match_deeper balanced 1).2
  have inside : hasCut ',' 1 t = false := hasCut_inside balanced
  simp [hasCut, stepDepth, hasCut_append, after, inside]

end Balance

section Entries

theorem Normal.uncut {p : Property} (normal : Normal p) : hasCut ',' 0 (format p) = false := by
  cases normal with
  | @text name value named _ noComma closed _ =>
    by_cases empty : value = []
    · rw [empty, format_flag]
      exact named.noComma
    · rw [format_text name empty, hasCut_append, named.noComma, closed empty]
      simpa [hasCut, stepDepth] using noComma
  | @group name entries named closed _ inside matched =>
    have balanced := balanced_listing inside matched
    rw [format_group, hasCut_append, named.noComma, closed]
    exact (braces_shut balanced).2

theorem mem_joinWith {c : CodePoint} {sep : Text} {parts : List Text} (member : c ∈ joinWith sep parts) :
    c ∈ sep ∨ ∃ part ∈ parts, c ∈ part := by
  induction parts with
  | nil => simp [joinWith] at member
  | cons part others ih =>
    cases others with
    | nil => exact .inr ⟨part, List.mem_cons_self, member⟩
    | cons next more =>
      rw [joinWith_cons _ _ (by simp), List.mem_append, List.mem_append] at member
      rcases member with (here | between) | later
      · exact .inr ⟨part, List.mem_cons_self, here⟩
      · exact .inl between
      · rcases ih later with between | ⟨other, inside, found⟩
        · exact .inl between
        · exact .inr ⟨other, List.mem_cons_of_mem _ inside, found⟩

theorem noParen_printed {ps : List Property} (each : ∀ p ∈ ps, char ')' ∉ format p) :
    char ')' ∉ printed ps := by
  intro member
  rcases mem_joinWith member with between | ⟨part, inside, found⟩
  · exact absurd between (by decide)
  · rw [formatEach_eq_map] at inside
    obtain ⟨p, listed, rfl⟩ := List.mem_map.mp inside
    exact each p listed found

theorem Plain.noParen {t : Text} (plain : Plain t) : char ')' ∉ t := fun member => (plain _ member).2 rfl

theorem Normal.noParen {p : Property} (normal : Normal p) : char ')' ∉ format p := by
  induction normal with
  | @text name value named plain _ _ _ =>
    by_cases empty : value = []
    · rw [empty, format_flag]
      exact named.plain.noParen
    · rw [format_text name empty]
      simp [named.plain.noParen, plain.noParen]
  | group named _ _ _ _ ih =>
    rw [format_group]
    simp [named.plain.noParen, noParen_printed ih]

theorem squeeze_joinWith (parts : List Text) :
    Text.squeeze (joinWith ", ".text parts) = joinWith [char ','] (parts.map Text.squeeze) := by
  induction parts with
  | nil => rfl
  | cons part others ih =>
    cases others with
    | nil => rfl
    | cons next more =>
      rw [joinWith_cons _ _ (by simp), squeeze_append, squeeze_append, ih]
      rfl

theorem parseEntries_printed {ps : List Property} (nonempty : ps ≠ [])
    (read : ∀ p ∈ ps, parseEntry (format p) = p) (uncut : ∀ p ∈ ps, hasCut ',' 0 (format p) = false)
    (closed : ∀ p ∈ ps.dropLast, depthAfter 0 (format p) = 0) : parseEntries (printed ps) = ps := by
  have cut : Cut ',' (Text.squeeze (printed ps)) (ps.map fun p => Text.squeeze (format p)) := by
    rw [printed, squeeze_joinWith, formatEach_eq_map, List.map_map]
    refine cut_joinWith (by simpa using nonempty) ?_ ?_
    · intro part member
      obtain ⟨p, inside, rfl⟩ := List.mem_map.mp member
      exact (hasCut_squeeze (by decide) 0 (format p)).trans (uncut p inside)
    · rw [← List.map_dropLast]
      intro part member
      obtain ⟨p, inside, rfl⟩ := List.mem_map.mp member
      exact (depthAfter_squeeze 0 (format p)).trans (closed p inside)
  rw [← parseEntries_squeeze, parseEntries_eq, cut.split_eq (by decide), List.map_map]
  refine Eq.trans (List.map_congr_left ?_) (List.map_id ps)
  intro p member
  exact (parseEntry_squeeze (format p)).trans (read p member)

theorem Normal.read_back {p : Property} (normal : Normal p) : parseEntry (format p) = p := by
  induction normal with
  | @text name value named plain _ closed notGroup =>
    by_cases empty : value = []
    · rw [empty, format_flag, parseEntry, nameAndValue_flag named.noEquals,
        squeeze_of_plain named.plain]
      rfl
    · rw [format_text name empty, parseEntry, nameAndValue_assignment named.noEquals (closed empty),
        squeeze_of_plain named.plain, squeeze_of_plain plain, notGroup]
  | @group name entries named closed nonempty inside matched ih =>
    have whole : parseEntries (printed entries) = entries := by
      refine parseEntries_printed nonempty ih (fun p member => (inside p member).uncut) ?_
      intro p member
      have listed := List.dropLast_subset _ member
      exact depthAfter_of_match ((inside p listed).balanced (matched p listed))
    have value : Text.squeeze (char '{' :: printed entries ++ [char '}']) =
        char '{' :: Text.squeeze (printed entries) ++ [char '}'] := by
      rw [squeeze_append, squeeze_cons (by decide)]
      rfl
    -- the value loses its blanks before its braces are looked at, so the body comes back squeezed
    have body := groupBody_braces (balanced_squeeze (balanced_listing inside matched))
    rw [format_group, parseEntry, nameAndValue_assignment named.noEquals closed, value]
    simp only [body, squeeze_of_plain named.plain, parseEntries_squeeze, whole]

end Entries

section Lists

/-- Reading an entry and printing it leaves as many braces open as the entry does. -/
theorem depthAfter_format {entry : Text} (noParen : char ')' ∉ entry) :
    depthAfter 0 (format (parseEntry entry)) = depthAfter 0 entry := by
  rcases parseEntry_cases entry with ⟨_, read⟩ | ⟨name, value, rfl, _, closed, forms⟩
  · rw [read, format_flag, depthAfter_squeeze]
  · have before : depthAfter 0 (Text.squeeze name) = 0 := (depthAfter_squeeze 0 name).trans closed
    have after : depthAfter 0 (name ++ char '=' :: value) = depthAfter 0 (Text.squeeze value) := by
      rw [depthAfter_append, closed, depthAfter_squeeze]
      rfl
    rw [after]
    rcases forms with ⟨_, read⟩ | ⟨body, braces, balanced, read⟩
    · rw [read]
      by_cases empty : Text.squeeze value = []
      · rw [empty, format_flag, before]
        rfl
      · rw [format_text _ empty, depthAfter_append, before]
        rfl
    · simp only [List.mem_append, List.mem_cons, not_or] at noParen
      have normal := normal_entries body (noParen_body braces noParen.2.2)
      have printed := balanced_listing normal (bracesMatch_entries balanced)
      rw [read, format_group, depthAfter_append, before, braces, (braces_shut balanced).1]
      exact (braces_shut printed).1

theorem read_back_entries {t : Text} (noParen : char ')' ∉ t) :
    parseEntries (printed (parseEntries t)) = parseEntries t := by
  have normal := normal_entries t noParen
  refine parseEntries_printed (parseEntries_ne_nil t) (fun p member => (normal p member).read_back)
    (fun p member => (normal p member).uncut) ?_
  rw [parseEntries_eq, ← List.map_dropLast]
  intro p member
  obtain ⟨entry, inside, rfl⟩ := List.mem_map.mp member
  have cut : Cut ',' t (splitTopLevel ',' none t) := cut_split (by decide) t
  have listed := List.dropLast_subset _ inside
  rw [depthAfter_format fun found => noParen (cut.mem entry listed _ found)]
  exact cut.closed entry inside

theorem eq_nil_of_allBlank {t : Text} (blank : Text.allBlank t = true) (plain : Plain t) : t = [] := by
  refine List.eq_nil_iff_forall_not_mem.mpr ?_
  intro c member
  exact allBlank_not_mem blank (plain c member).1 member

theorem Normal.eq_empty_of_blank {p : Property} (normal : Normal p)
    (blank : Text.allBlank (format p) = true) : p = .text [] [] := by
  cases normal with
  | @text name value named _ _ _ _ =>
    by_cases empty : value = []
    · rw [empty, format_flag] at blank
      rw [empty, eq_nil_of_allBlank blank named.plain]
    · rw [format_text name empty] at blank
      exact absurd (by simp) (allBlank_not_mem (c := '=') blank (by decide))
  | group =>
    rw [format_group] at blank
    exact absurd (by simp) (allBlank_not_mem (c := '=') blank (by decide))

/-- Only a single entry without name and value is printed as blanks. -/
theorem allBlank_printed {ps : List Property} (nonempty : ps ≠ []) (normal : ∀ p ∈ ps, Normal p) :
    Text.allBlank (printed ps) = true ↔ ps = [.text [] []] := by
  constructor
  · intro blank
    match ps, nonempty with
    | [p], _ =>
      rw [(normal p List.mem_cons_self).eq_empty_of_blank blank]
    | p :: next :: rest, _ =>
      have comma : char ',' ∈ printed (p :: next :: rest) := by
        simp [printed, formatEach, joinWith, String.text]
      exact absurd comma (allBlank_not_mem blank (by decide))
  · rintro rfl
    rfl

end Lists

/-- A directive is read back from its printed form, but for the one whose only entry is empty. -/
theorem parse_formatArguments (line : Text) (keyword : Keyword)
    (found : parse line keyword.text ≠ []) :
    parse (keyword.text ++ [char '('] ++ Property.formatArguments (parse line keyword.text)
        ++ [char ')']) keyword.text =
      (if parse line keyword.text = [.flag keyword.text, .text [] []] then [.flag keyword.text]
        else parse line keyword.text) ∧
      parse (keyword.text ++ "(=)".text) keyword.text = [.flag keyword.text, .text [] []] := by
  refine ⟨?_, parse_equals keyword⟩
  obtain none | ⟨arguments, noParen, read⟩ := parse_cases line keyword.text
  · exact absurd none found
  · rw [read, argumentProperties]
    by_cases blank : Text.allBlank arguments = true
    · simp only [blank, if_true, ite_self]
      exact parse_written keyword (show char ')' ∉ ([] : Text) by simp)
    · simp only [blank, Bool.false_eq_true, if_false]
      have normal := normal_entries arguments noParen
      have unread : Property.formatArguments (.flag keyword.text :: parseEntries arguments) =
          printed (parseEntries arguments) := rfl
      rw [unread, parse_written keyword (noParen_printed fun p member => (normal p member).noParen),
        argumentProperties, read_back_entries noParen]
      simp only [allBlank_printed (parseEntries_ne_nil arguments) normal, List.cons.injEq, true_and]
      split <;> rfl

/-- A directive with nested groups, a stray brace, an empty value and blanks. -/
def Sample.line : Text := "  CGMEMBER (a = \x7bb, c=\x7bd=1,\x7d\x7d, \x7de=f=g, h=, i\x7b)".text

theorem parse_formatArguments_nested :
    parse Sample.line Keyword.member.text =
        [.flag "CGMEMBER".text,
          .group "a".text [.flag "b".text, .group "c".text [.text "d".text "1".text, .flag []]],
          .text ['}', 'e'] "f=g".text, .flag "h".text, .flag ['i', '{']] ∧
      parse (Keyword.member.text ++ [char '('] ++
          Property.formatArguments (parse Sample.line Keyword.member.text) ++ [char ')'])
          Keyword.member.text =
        parse Sample.line Keyword.member.text := by
  have found : parse Sample.line Keyword.member.text ≠ [] := by decide +kernel
  have other : parse Sample.line Keyword.member.text ≠ [.flag Keyword.member.text, .text [] []] := by
    decide +kernel
  have back := (parse_formatArguments Sample.line .member found).1
  rw [if_neg other] at back
  exact ⟨by decide +kernel, back⟩

end DeclGen.Directive
