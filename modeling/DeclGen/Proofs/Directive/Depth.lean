import DeclGen.Directive.TopLevel

/-!
Two ways to count the depth of braces. The cutting of text never counts below zero, the recognition of
a group gives up there; on a text where every closing brace has its opening one they agree. A text is
balanced exactly if its braces come in pairs by count. A group is a balanced text in braces, and blanks
change neither depth.
-/
namespace DeclGen.Directive

open CodePoint (char)

/-- The depth after one character, never below zero. -/
def stepDepth (depth : Nat) (c : CodePoint) : Nat :=
  if c = '{' then depth + 1 else if c = '}' then depth - 1 else depth

def depthAfter (depth : Nat) (t : Text) : Nat := t.foldl stepDepth depth

/-- The depth after one character, unless it closes what was not opened. -/
def matchStep? (depth : Nat) (c : CodePoint) : Option Nat :=
  if c = '{' then some (depth + 1)
  else if c = '}' then if depth = 0 then none else some (depth - 1)
  else some depth

def matchDepth? (depth : Nat) : Text → Option Nat
  | [] => some depth
  | c :: rest => (matchStep? depth c).bind fun next => matchDepth? next rest

/-- Every closing brace has its opening one, and every opening one is closed. -/
def Balanced (t : Text) : Prop := matchDepth? 0 t = some 0

/-- Whether a separator stands at depth zero, counted from the given depth on. -/
def hasCut (sep : CodePoint) (depth : Nat) : Text → Bool
  | [] => false
  | c :: rest => (c = sep && depth = 0) || hasCut sep (stepDepth depth c) rest

section Scans

variable {sep : CodePoint} {depth : Nat}

theorem depthAfter_append (depth : Nat) (first second : Text) :
    depthAfter depth (first ++ second) = depthAfter (depthAfter depth first) second :=
  List.foldl_append

theorem hasCut_append (sep : CodePoint) (depth : Nat) (first second : Text) :
    hasCut sep depth (first ++ second) =
      (hasCut sep depth first || hasCut sep (depthAfter depth first) second) := by
  induction first generalizing depth with
  | nil => rfl
  | cons c rest ih => simp [hasCut, ih, depthAfter, Bool.or_assoc]

theorem matchDepth_append (depth : Nat) (first second : Text) :
    matchDepth? depth (first ++ second) =
      (matchDepth? depth first).bind fun next => matchDepth? next second := by
  induction first generalizing depth with
  | nil => rfl
  | cons c rest ih => simp only [List.cons_append, matchDepth?, ih, Option.bind_assoc]

theorem matchStep_cases {c : CodePoint} {next : Nat} (step : matchStep? depth c = some next) :
    (c = '{' ∧ next = depth + 1) ∨ (c = '}' ∧ depth = next + 1) ∨
      (c ≠ '{' ∧ c ≠ '}' ∧ next = depth) := by
  unfold matchStep? at step
  split at step
  · next opens => exact .inl ⟨opens, (Option.some.inj step).symm⟩
  · next other =>
    split at step
    · next closes =>
      split at step
      · simp at step
      · have := Option.some.inj step
        exact .inr (.inl ⟨closes, by omega⟩)
    · next plain => exact .inr (.inr ⟨other, plain, (Option.some.inj step).symm⟩)

theorem step_deeper {c : CodePoint} {next : Nat} (step : matchStep? depth c = some next) (more : Nat) :
    matchStep? (depth + more) c = some (next + more) ∧
      stepDepth (depth + more) c = next + more := by
  rcases matchStep_cases step with ⟨rfl, rfl⟩ | ⟨rfl, rfl⟩ | ⟨opens, closes, rfl⟩
  · simp [matchStep?, stepDepth, Nat.add_right_comm]
  · simp [matchStep?, stepDepth, Nat.add_right_comm]
  · simp [matchStep?, stepDepth, opens, closes]

theorem match_deeper {t : Text} {final : Nat} (closes : matchDepth? depth t = some final)
    (more : Nat) :
    matchDepth? (depth + more) t = some (final + more) ∧
      depthAfter (depth + more) t = final + more := by
  induction t generalizing depth with
  | nil =>
    have same : depth = final := Option.some.inj closes
    rw [same]
    exact ⟨rfl, rfl⟩
  | cons c rest ih =>
    obtain ⟨next, step, later⟩ := Option.bind_eq_some_iff.mp closes
    obtain ⟨exact, clamped⟩ := step_deeper step more
    have after := ih later
    simpa [matchDepth?, depthAfter, exact, clamped] using after

theorem depthAfter_of_match {t : Text} {final : Nat} (closes : matchDepth? depth t = some final) :
    depthAfter depth t = final :=
  (match_deeper closes 0).2

/-- Inside a brace a text that closes only its own braces is not cut. -/
theorem hasCut_inside {t : Text} {final : Nat} (closes : matchDepth? depth t = some final) :
    hasCut sep (depth + 1) t = false := by
  induction t generalizing depth with
  | nil => rfl
  | cons c rest ih =>
    obtain ⟨next, step, later⟩ := Option.bind_eq_some_iff.mp closes
    simp [hasCut, (step_deeper step 1).2, ih later]

theorem first_cut {t : Text} (cut : hasCut sep depth t = true) :
    ∃ first rest, t = first ++ sep :: rest ∧ hasCut sep depth first = false ∧
      depthAfter depth first = 0 := by
  induction t generalizing depth with
  | nil => simp [hasCut] at cut
  | cons c rest ih =>
    by_cases here : c = sep ∧ depth = 0
    · exact ⟨[], rest, by rw [here.1]; rfl, rfl, here.2⟩
    · have later : hasCut sep (stepDepth depth c) rest = true := by
        simpa [hasCut, here] using cut
      obtain ⟨first, after, parts, uncut, closed⟩ := ih later
      refine ⟨c :: first, after, by rw [parts]; rfl, ?_, closed⟩
      simpa [hasCut, uncut] using here

/-- The separator stands somewhere in the text with no brace open around it. -/
def AtDepthZero (sep : CodePoint) (t : Text) : Prop :=
  ∃ before after, t = before ++ sep :: after ∧ depthAfter 0 before = 0

theorem hasCut_iff_atDepthZero (t : Text) : hasCut sep 0 t = true ↔ AtDepthZero sep t := by
  constructor
  · intro cut
    obtain ⟨before, after, parts, _, closed⟩ := first_cut cut
    exact ⟨before, after, parts, closed⟩
  · rintro ⟨before, after, rfl, closed⟩
    rw [hasCut_append, closed]
    simp [hasCut]

end Scans

section Balance

variable {sep : CodePoint} {first second t : Text}

theorem matchDepth_plain {c : CodePoint} (opens : c ≠ '{') (closes : c ≠ '}') (depth : Nat) (t : Text) :
    matchDepth? depth (c :: t) = matchDepth? depth t := by
  simp [matchDepth?, matchStep?, opens, closes]

theorem Balanced.append (front : Balanced first) (back : Balanced second) :
    Balanced (first ++ second) := by
  rw [Balanced, matchDepth_append, front]
  exact back

theorem Balanced.cons {c : CodePoint} (opens : c ≠ '{') (closes : c ≠ '}') (back : Balanced t) :
    Balanced (c :: t) :=
  (matchDepth_plain opens closes 0 t).trans back

theorem Balanced.braces (inside : Balanced t) : Balanced (char '{' :: t ++ [char '}']) := by
  have deeper : matchDepth? 1 t = some 1 := (match_deeper inside 1).1
  rw [Balanced, List.cons_append, matchDepth?]
  change matchDepth? 1 (t ++ [char '}']) = some 0
  rw [matchDepth_append, deeper]
  rfl

theorem Balanced.parts (balanced : Balanced (first ++ second)) (closed : depthAfter 0 first = 0) :
    Balanced first ∧ Balanced second := by
  rw [Balanced, matchDepth_append] at balanced
  obtain ⟨depth, front, back⟩ := Option.bind_eq_some_iff.mp balanced
  have zero : depth = 0 := (depthAfter_of_match front).symm.trans closed
  rw [zero] at front back
  exact ⟨front, back⟩

/-- From inside some braces, the last character closes them all exactly if what is before it closes
all but one. -/
theorem closesAtEnd_iff (depth : Nat) (t : Text) :
    closesAtEnd (depth + 1) t = true ↔
      ∃ inner, t = inner ++ [char '}'] ∧ matchDepth? depth inner = some 0 := by
  induction t generalizing depth with
  | nil => simp [closesAtEnd]
  | cons c rest ih =>
    constructor
    · intro closes
      rw [closesAtEnd] at closes
      split at closes
      · next opening =>
        obtain ⟨inner, parts, inside⟩ := (ih (depth + 1)).mp closes
        exact ⟨c :: inner, by rw [parts]; rfl, by simpa [matchDepth?, matchStep?, opening] using inside⟩
      · next other =>
        split at closes
        · next closing =>
          rw [closing]
          cases depth with
          | zero =>
            have last : rest = [] := by simpa using closes
            exact ⟨[], by rw [last]; rfl, rfl⟩
          | succ outer =>
            obtain ⟨inner, parts, inside⟩ := (ih outer).mp (by simpa using closes)
            exact ⟨char '}' :: inner, by rw [parts]; rfl,
              by simpa [matchDepth?, matchStep?] using inside⟩
        · next plain =>
          obtain ⟨inner, parts, inside⟩ := (ih depth).mp closes
          exact ⟨c :: inner, by rw [parts]; rfl, (matchDepth_plain other plain depth inner).trans inside⟩
    · rintro ⟨inner, parts, inside⟩
      cases inner with
      | nil =>
        obtain ⟨rfl, rfl⟩ := List.cons.inj parts
        have zero : depth = 0 := Option.some.inj inside
        simp [closesAtEnd, zero]
      | cons x others =>
        obtain ⟨rfl, rfl⟩ := List.cons.inj parts
        obtain ⟨next, step, later⟩ := Option.bind_eq_some_iff.mp inside
        have closes := (ih next).mpr ⟨others, rfl, later⟩
        rcases matchStep_cases step with ⟨rfl, rfl⟩ | ⟨rfl, rfl⟩ | ⟨other, plain, rfl⟩
        · simpa [closesAtEnd] using closes
        · simpa [closesAtEnd] using closes
        · simpa [closesAtEnd, other, plain] using closes

theorem isGroup_iff (v : Text) :
    isGroup v = true ↔ ∃ body, v = char '{' :: body ++ [char '}'] ∧ Balanced body := by
  cases v with
  | nil => simp [isGroup]
  | cons c rest =>
    have inside := closesAtEnd_iff 0 rest
    simp only [isGroup, Bool.and_eq_true, beq_iff_eq, inside, Balanced]
    constructor
    · rintro ⟨rfl, body, rfl, balanced⟩
      exact ⟨body, rfl, balanced⟩
    · rintro ⟨body, parts, balanced⟩
      obtain ⟨opening, rest⟩ := List.cons.inj parts
      exact ⟨opening, body, rest, balanced⟩

theorem groupBody_eq_some {v body : Text} (group : groupBody? v = some body) :
    v = char '{' :: body ++ [char '}'] ∧ Balanced body := by
  unfold groupBody? at group
  split at group
  · next found =>
    obtain ⟨inner, rfl, balanced⟩ := (isGroup_iff v).mp found
    have same : inner = body := by simpa using group
    rw [← same]
    exact ⟨rfl, balanced⟩
  · simp at group

theorem groupBody_braces (balanced : Balanced t) :
    groupBody? (char '{' :: t ++ [char '}']) = some t := by
  rw [groupBody?, if_pos ((isGroup_iff _).mpr ⟨t, rfl, balanced⟩)]
  simp

end Balance

section Counts

variable {depth final : Nat} {t : Text}

/-- Braces come in pairs: no beginning of the text closes more of them than it opens, and the whole
closes as many as it opens. -/
structure Paired (t : Text) : Prop where
  beginnings : ∀ first, first <+: t → first.count (char '}') ≤ first.count (char '{')
  whole : t.count (char '{') = t.count (char '}')

theorem matchStep_eq_some_iff {c : CodePoint} {next : Nat} :
    matchStep? depth c = some next ↔ next + [c].count (char '}') = depth + [c].count (char '{') := by
  by_cases opens : c = '{'
  · simp [matchStep?, opens, eq_comm]
  · by_cases closes : c = '}'
    · simp only [matchStep?, closes]
      cases depth with
      | zero => simp
      | succ outer => simp [eq_comm]
    · simp [matchStep?, opens, closes, eq_comm]

theorem count_front (c brace : CodePoint) (t : Text) :
    (c :: t).count brace = [c].count brace + t.count brace := by
  rw [← List.singleton_append, List.count_append]

theorem matchDepth_eq_some_iff :
    matchDepth? depth t = some final ↔
      (∀ first, first <+: t → first.count (char '}') ≤ depth + first.count (char '{')) ∧
        final + t.count (char '}') = depth + t.count (char '{') := by
  induction t generalizing depth with
  | nil => simp [matchDepth?, eq_comm]
  | cons c rest ih =>
    rw [count_front c '{' rest, count_front c '}' rest]
    constructor
    · intro closes
      obtain ⟨next, step, later⟩ := Option.bind_eq_some_iff.mp closes
      obtain ⟨beginnings, whole⟩ := ih.mp later
      have counted := matchStep_eq_some_iff.mp step
      refine ⟨?_, by omega⟩
      intro first begins
      rcases List.prefix_cons_iff.mp begins with rfl | ⟨others, rfl, further⟩
      · simp
      · have inner := beginnings others further
        rw [count_front c '{' others, count_front c '}' others]
        omega
    · rintro ⟨beginnings, whole⟩
      have longer : ∀ first, first <+: rest →
          [c].count (char '}') + first.count (char '}') ≤
            depth + ([c].count (char '{') + first.count (char '{')) := by
        intro first begins
        rw [← count_front, ← count_front]
        exact beginnings (c :: first) (List.cons_prefix_cons.mpr ⟨rfl, begins⟩)
      -- the beginning of one character says that it closes nothing that is not open
      have enough : [c].count (char '}') ≤ depth + [c].count (char '{') := longer [] List.nil_prefix
      have step : matchStep? depth c = some (depth + [c].count (char '{') - [c].count (char '}')) :=
        matchStep_eq_some_iff.mpr (by omega)
      refine Option.bind_eq_some_iff.mpr ⟨_, step, ih.mpr ⟨?_, by omega⟩⟩
      intro first begins
      have inner := longer first begins
      omega

theorem balanced_iff_paired : Balanced t ↔ Paired t := by
  rw [Balanced, matchDepth_eq_some_iff]
  simp only [Nat.zero_add]
  constructor
  · rintro ⟨beginnings, whole⟩
    exact ⟨beginnings, whole.symm⟩
  · rintro ⟨beginnings, whole⟩
    exact ⟨beginnings, whole.symm⟩

end Counts

section Blanks

variable {sep : CodePoint}

theorem isBlank_ne {c other : CodePoint} (blank : Text.isBlank c = true)
    (visible : Text.isBlank other = false) :
    c ≠ other := by
  intro same
  rw [same, visible] at blank
  exact Bool.noConfusion blank

theorem allBlank_not_mem {t : Text} {c : CodePoint} (blank : Text.allBlank t = true)
    (visible : Text.isBlank c = false) : c ∉ t := by
  intro member
  have found := List.all_eq_true.mp blank c member
  rw [visible] at found
  exact Bool.noConfusion found

theorem stepDepth_blank {c : CodePoint} (blank : Text.isBlank c = true) (depth : Nat) :
    stepDepth depth c = depth := by
  have opening : c ≠ '{' := isBlank_ne blank (by decide)
  have closing : c ≠ '}' := isBlank_ne blank (by decide)
  simp [stepDepth, opening, closing]

theorem squeeze_cons_blank {c : CodePoint} (blank : Text.isBlank c = true) (t : Text) :
    Text.squeeze (c :: t) = Text.squeeze t := by
  simp [Text.squeeze, blank]

theorem squeeze_cons {c : CodePoint} (visible : Text.isBlank c = false) (t : Text) :
    Text.squeeze (c :: t) = c :: Text.squeeze t := by
  simp [Text.squeeze, visible]

theorem depthAfter_squeeze (depth : Nat) (t : Text) :
    depthAfter depth (Text.squeeze t) = depthAfter depth t := by
  induction t generalizing depth with
  | nil => rfl
  | cons c rest ih =>
    cases blank : Text.isBlank c with
    | true => simpa [squeeze_cons_blank blank, depthAfter, stepDepth_blank blank] using ih depth
    | false =>
      rw [squeeze_cons blank]
      exact ih (stepDepth depth c)

theorem hasCut_squeeze (visible : Text.isBlank sep = false) (depth : Nat) (t : Text) :
    hasCut sep depth (Text.squeeze t) = hasCut sep depth t := by
  induction t generalizing depth with
  | nil => rfl
  | cons c rest ih =>
    cases blank : Text.isBlank c with
    | true =>
      have other := isBlank_ne blank visible
      simpa [squeeze_cons_blank blank, hasCut, stepDepth_blank blank, other] using ih depth
    | false => rw [squeeze_cons blank, hasCut, hasCut, ih]

theorem matchDepth_squeeze (depth : Nat) (t : Text) :
    matchDepth? depth (Text.squeeze t) = matchDepth? depth t := by
  induction t generalizing depth with
  | nil => rfl
  | cons c rest ih =>
    cases blank : Text.isBlank c with
    | true =>
      rw [squeeze_cons_blank blank, ih,
        matchDepth_plain (isBlank_ne blank (by decide)) (isBlank_ne blank (by decide))]
    | false => simp only [squeeze_cons blank, matchDepth?, ih]

end Blanks

end DeclGen.Directive
