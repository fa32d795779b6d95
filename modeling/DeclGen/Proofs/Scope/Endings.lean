import DeclGen.Proofs.Scope.Meaning
import DeclGen.Proofs.Scope.MethodOwner

/-!
What comes of a stream as a whole does not depend on the declarations that its ends name. An end
closes what is innermost; the name that it gives is only remembered if a method belongs to no class,
and nothing that the tracker does later looks at that. The unit, if there is one, keeps the path of
the stream.
-/
namespace DeclGen.Scope

namespace State

/-- What comes of a stream that is fed to `s` up to its end or its first error. -/
def conclude (s : State) (events : List Event) : Except ScopeError SourceUnit :=
  match s.run events with
  | (t, none) => t.finish
  | (_, some error) => .error error

end State

theorem track_eq_conclude (path : Path) (events : List Event) :
    track path events = (State.initial path).conclude events := rfl

section Conclude

variable {s next : State} {event : Event}

theorem conclude_of_accepts (step : Accepts s event next) (rest : List Event) :
    s.conclude (event :: rest) = next.conclude rest := by
  rw [State.conclude, run_of_accepts step]
  rfl

theorem conclude_of_refused (agree : StacksAgree s) (refused : ¬ ∃ next, Accepts s event next)
    (rest : List Event) : ∃ error, s.conclude (event :: rest) = .error error := by
  rcases feed_cases s event agree.functions with ⟨step, _⟩ | ⟨_, error, fails⟩
  · exact absurd ⟨_, step⟩ refused
  · have pair : s.feed event = ((s.feed event).1, some error) := by rw [← fails]
    refine ⟨error, ?_⟩
    rw [State.conclude, State.run, pair]

theorem finish_refuses_iff (s : State) : (∃ error, s.finish = .error error) ↔ s.openCount ≠ 0 := by
  rw [State.finish, State.openCount]
  split
  · next closed => simp [List.isEmpty_iff.mp closed.1, closed.2]
  · next left =>
    refine ⟨fun _ none => left ?_, fun _ => ⟨_, rfl⟩⟩
    rw [List.isEmpty_iff, ← List.length_eq_zero_iff]
    omega

theorem path_of_finish {s : State} {unit : SourceUnit} (finished : s.finish = .ok unit) :
    unit.path = s.path := by
  unfold State.finish at finished
  split at finished
  · rw [← Except.ok.inj finished]
    rfl
  · cases finished

theorem path_of_conclude {s : State} {unit : SourceUnit} (agree : StacksAgree s)
    (events : List Event) (concluded : s.conclude events = .ok unit) : unit.path = s.path := by
  induction events generalizing s with
  | nil => exact path_of_finish concluded
  | cons event rest ih =>
    by_cases accepted : ∃ next, Accepts s event next
    · obtain ⟨next, step⟩ := accepted
      rw [conclude_of_accepts step] at concluded
      exact (ih (agree.step step) concluded).trans (path_step step)
    · obtain ⟨error, fails⟩ := conclude_of_refused agree accepted rest
      rw [fails] at concluded
      cases concluded

theorem path_of_track {path : Path} {events : List Event} {unit : SourceUnit}
    (tracked : track path events = .ok unit) : unit.path = path :=
  path_of_conclude (stacksAgree_initial path) events tracked

end Conclude

/-- The declaration with which an event begins something; what an end names is left out. -/
def beginning? : Event → Option Declaration
  | .enter d => some d
  | .exit _ => none

namespace State

def noting (s : State) (orphans : List Orphan) : State := { s with orphans := orphans }

end State

section Noting

variable {s next : State} {d : Declaration} {orphans : List Orphan} {event other : Event}

theorem enterRecord_noting (s : State) (d : Declaration) (orphans : List Orphan) :
    (s.noting orphans).enterRecord d = (s.enterRecord d).noting orphans := by
  unfold State.enterRecord
  split <;> rfl

theorem enterVariable_noting (s : State) (d : Declaration) (orphans : List Orphan) :
    (s.noting orphans).enterVariable d = (s.enterVariable d).noting orphans := by
  unfold State.enterVariable
  split <;> rfl

theorem enterParameter_noting (s : State) (d : Declaration) (orphans : List Orphan) :
    (s.noting orphans).enterParameter d = (s.enterParameter d).noting orphans := by
  cases stack : s.functionStack with
  | nil =>
    rw [enterParameter_outside stack, enterParameter_outside (s := s.noting orphans) stack]
    rfl
  | cons f outer =>
    rw [enterParameter_inside stack, enterParameter_inside (s := s.noting orphans) stack]
    rfl

theorem enterField_noting (s : State) (d : Declaration) (orphans : List Orphan) :
    ∃ more, (s.noting orphans).enterField d = (s.enterField d).noting more := by
  by_cases bare : attached d = []
  · rw [enterField_bare bare, enterField_bare bare]
    exact ⟨orphans, rfl⟩
  · cases owner : s.openClass? with
    | none =>
      rw [enterField_orphan bare owner, enterField_orphan (s := s.noting orphans) bare owner]
      exact ⟨_, rfl⟩
    | some position =>
      rw [enterField_owned bare owner, enterField_owned (s := s.noting orphans) bare owner]
      exact ⟨orphans, rfl⟩

theorem storeMethod_noting (s : State) (f : Function) (d e : Declaration) (orphans : List Orphan) :
    ∃ more, (s.noting orphans).storeMethod f e = (s.storeMethod f d).noting more := by
  cases owner : s.openClass? with
  | none =>
    rw [storeMethod_orphan owner, storeMethod_orphan (s := s.noting orphans) owner]
    exact ⟨_, rfl⟩
  | some position =>
    rw [storeMethod_owned owner, storeMethod_owned (s := s.noting orphans) owner]
    exact ⟨orphans, rfl⟩

theorem Accepts.enter_noting (step : Accepts s (.enter d) next) (orphans : List Orphan) :
    ∃ more, Accepts (s.noting orphans) (.enter d) (next.noting more) := by
  cases step with
  | deeper d skipping => exact ⟨orphans, .deeper d skipping⟩
  | foreign d reading elsewhere => exact ⟨orphans, .foreign d reading elsewhere⟩
  | record d reading own kind =>
    have same := Accepts.record (s := s.noting orphans) d reading own kind
    rw [enterRecord_noting] at same
    exact ⟨orphans, same⟩
  | field d reading own kind =>
    obtain ⟨more, stored⟩ := enterField_noting s d orphans
    have same := Accepts.field (s := s.noting orphans) d reading own kind
    rw [stored] at same
    exact ⟨more, same⟩
  | parameter d reading own kind =>
    have same := Accepts.parameter (s := s.noting orphans) d reading own kind
    rw [enterParameter_noting] at same
    exact ⟨orphans, same⟩
  | global d reading own kind =>
    have same := Accepts.global (s := s.noting orphans) d reading own kind
    rw [enterVariable_noting] at same
    exact ⟨orphans, same⟩
  | passOver d reading own kind alone bare =>
    exact ⟨orphans, .passOver d reading own kind alone bare⟩
  | function d reading own kind alone annotated =>
    exact ⟨orphans, .function d reading own kind alone annotated⟩

theorem Accepts.exit_noting (step : Accepts s (.exit d) next) (e : Declaration)
    (orphans : List Orphan) : ∃ more, Accepts (s.noting orphans) (.exit e) (next.noting more) := by
  cases step with
  | shallower d skipping => exact ⟨orphans, .shallower e skipping⟩
  | endPlain d outer reading top => exact ⟨orphans, .endPlain e outer reading top⟩
  | endClass d outer reading top => exact ⟨orphans, .endClass e outer reading top⟩
  | endMethod d outer f functions reading top current =>
    obtain ⟨more, stored⟩ := storeMethod_noting
      { s with frames := outer, functionStack := functions } f d e orphans
    refine ⟨more, ?_⟩
    rw [← stored]
    exact .endMethod e outer f functions reading top current
  | endFunction d outer f functions reading top current =>
    exact ⟨orphans, .endFunction e outer f functions reading top current⟩

theorem Accepts.noting (step : Accepts s event next) (same : beginning? other = beginning? event)
    (orphans : List Orphan) : ∃ more, Accepts (s.noting orphans) other (next.noting more) := by
  cases event with
  | enter d =>
    cases other with
    | enter e =>
      obtain rfl : e = d := Option.some.inj same
      exact step.enter_noting orphans
    | exit e => simp [beginning?] at same
  | exit d =>
    cases other with
    | enter e => simp [beginning?] at same
    | exit e => exact step.exit_noting e orphans

end Noting

theorem conclude_noting {s : State} (agree : StacksAgree s) {events others : List Event}
    (same : others.map beginning? = events.map beginning?) (orphans : List Orphan) :
    ((s.noting orphans).conclude others).toOption = (s.conclude events).toOption := by
  induction events generalizing s others orphans with
  | nil =>
    rw [List.map_eq_nil_iff.mp same]
    rfl
  | cons event rest ih =>
    obtain ⟨other, more, rfl, first, later⟩ := List.map_eq_cons_iff.mp same
    by_cases accepted : ∃ next, Accepts s event next
    · obtain ⟨next, step⟩ := accepted
      obtain ⟨noted, beside⟩ := step.noting first orphans
      rw [conclude_of_accepts step, conclude_of_accepts beside]
      exact ih (agree.step step) later noted
    · have besides : ¬ ∃ next, Accepts (s.noting orphans) other next := by
        rintro ⟨next, step⟩
        obtain ⟨noted, back⟩ := step.noting first.symm s.orphans
        exact accepted ⟨_, back⟩
      have agreeing : StacksAgree (s.noting orphans) :=
        ⟨agree.classes, agree.functions, agree.single, agree.ascending, agree.stored⟩
      obtain ⟨error, fails⟩ := conclude_of_refused agree accepted rest
      obtain ⟨fault, besides⟩ := conclude_of_refused agreeing besides more
      rw [fails, besides]
      rfl

end DeclGen.Scope
