import DeclGen.Proofs.Scope.Endings

/-!
A refused event leaves no trace. The state after it is the state before it, with all that the unit
holds and all that is remembered of unattributed declarations; so a stream that is fed past its
errors ends where the accepted events alone would have ended, and goes through the same states on the
way. Finishing reads the state: it hands out the unit as it is, or tells how much is open.
-/
namespace DeclGen.Scope

section Refused

variable {s : State} {event : Event}

theorem feed_refused (agree : StacksAgree s) {error : ScopeError}
    (refused : (s.feed event).2 = some error) : (s.feed event).1 = s := by
  rcases feed_cases s event agree.functions with ⟨_, accepted⟩ | ⟨unchanged, _⟩
  · rw [accepted] at refused
    cases refused
  · exact unchanged

theorem run_accepted_event (accepted : (s.feed event).2 = none) (rest : List Event) :
    s.run (event :: rest) = (s.feed event).1.run rest := by
  have pair : s.feed event = ((s.feed event).1, none) := by rw [← accepted]
  rw [State.run, pair]

end Refused

theorem run_accepted {s : State} (agree : StacksAgree s) (events : List Event) :
    s.run (s.accepted events) = (s.feedAll events, none) := by
  induction events generalizing s with
  | nil => rfl
  | cons event rest ih =>
    change _ = ((s.feed event).1.feedAll rest, none)
    rw [State.accepted]
    cases outcome : (s.feed event).2 with
    | none =>
      dsimp only
      rw [run_accepted_event outcome]
      exact ih (agree.feed event)
    | some error =>
      dsimp only
      rw [feed_refused agree outcome]
      exact ih agree

theorem trace_accepted {s : State} (agree : StacksAgree s) (events : List Event) :
    s.trace (s.accepted events) = (s.trace events).filter fun step => step.2.isNone := by
  induction events generalizing s with
  | nil => rfl
  | cons event rest ih =>
    rw [State.accepted, State.trace, List.filter_cons]
    cases outcome : (s.feed event).2 with
    | none =>
      simp only [Option.isNone_none, if_true]
      rw [State.trace, ih (agree.feed event)]
    | some error =>
      simp only [Option.isNone_some]
      rw [feed_refused agree outcome]
      exact ih agree

theorem finish_eq (s : State) :
    s.finish =
      if s.openCount = 0 then .ok s.unit else .error (.unfinished s.path s.openCount) := by
  have closed : (s.frames.isEmpty = true ∧ s.skipDepth = 0) ↔ s.openCount = 0 := by
    rw [List.isEmpty_iff, ← List.length_eq_zero_iff, State.openCount]
    omega
  rw [State.finish]
  simp only [closed]
  rfl

/-- In every state that a tracker can reach, an event that is refused leaves the whole state as it
was, and finishing only reads it. After any events, some of them refused, the tracker is in the state
to which the accepted events alone lead, without an error and through the same states. -/
theorem refused_events_leave_no_trace (path : Path) (events : List Event) :
    let start := State.initial path
    let s := start.feedAll events
    let kept := start.accepted events
    (∀ event error, (s.feed event).2 = some error → (s.feed event).1 = s) ∧
      s.finish =
        (if s.openCount = 0 then .ok s.unit else .error (.unfinished s.path s.openCount)) ∧
      start.run kept = (s, none) ∧
      start.trace kept = (start.trace events).filter (fun step => step.2.isNone) ∧
      track path kept = s.finish := by
  intro start s kept
  have fresh : StacksAgree start := stacksAgree_initial path
  have ran : start.run kept = (s, none) := run_accepted fresh events
  refine ⟨?_, finish_eq s, ran, trace_accepted fresh events, ?_⟩
  · intro event error refused
    exact feed_refused (fresh.feedAll events) refused
  · rw [track, ran]

namespace Sample

def homeless : Declaration := declaration .method "run" "CGMETHOD()"

/-- A method outside of classes, with ends too many, an unknown kind and a method inside it. -/
def stumbling : List Event :=
  let odd := declaration (.unknown "enum".text) "odd" ""
  let parameter := declaration .parameter "x" ""
  [.exit odd, .enter homeless, .enter odd, .enter homeless, .enter parameter, .exit parameter,
    .exit homeless, .exit homeless]

end Sample

/-- Four of eight events are refused, and the method is found to belong to no class. -/
theorem refused_events_leave_no_trace_sample :
    let start := State.initial Path.here
    let s := start.feedAll Sample.stumbling
    (start.accepted Sample.stumbling).length = 4 ∧
      start.run (start.accepted Sample.stumbling) = (s, none) ∧
      s.orphans.map (fun o => o.qualifiedName) = ["run".text] ∧
      (s.feed (.exit Sample.homeless)).2 ≠ none ∧ (s.feed (.exit Sample.homeless)).1 = s := by
  intro start s
  have untouched := refused_events_leave_no_trace Path.here Sample.stumbling
  obtain ⟨error, refused⟩ : ∃ error, (s.feed (.exit Sample.homeless)).2 = some error :=
    Option.isSome_iff_exists.mp (by decide +kernel)
  refine ⟨by decide +kernel, untouched.2.2.1, by decide +kernel, by simp [refused], ?_⟩
  exact untouched.1 (.exit Sample.homeless) error refused

end DeclGen.Scope
