import DeclGen.Entity

/-!
Parameters collected into a function. One that comes under a name that is taken is dropped, so what
remains of a list of parameters is the first of each name, in order.
-/
namespace DeclGen

def addNamed (parameters : List Variable) (v : Variable) : List Variable :=
  if parameters.any fun p => p.name == v.name then parameters else parameters ++ [v]

def firstOfEachName (vs : List Variable) : List Variable :=
  vs.eraseDupsBy fun p q => p.name == q.name

theorem addParameter_eq (f : Function) (v : Variable) :
    f.addParameter v = { f with parameters := addNamed f.parameters v } := by
  unfold Function.addParameter Function.hasParameter addNamed
  split <;> rfl

theorem foldl_addParameter (vs : List Variable) (f : Function) :
    vs.foldl Function.addParameter f = { f with parameters := vs.foldl addNamed f.parameters } := by
  induction vs generalizing f with
  | nil => rfl
  | cons v rest ih => rw [List.foldl_cons, ih, addParameter_eq, List.foldl_cons]

theorem foldl_addNamed (vs kept : List Variable) :
    vs.foldl addNamed kept.reverse =
      List.eraseDupsBy.loop (fun p q => p.name == q.name) vs kept := by
  induction vs generalizing kept with
  | nil => rfl
  | cons v rest ih =>
    have taken : kept.reverse.any (fun p => p.name == v.name) =
        kept.any (fun q => v.name == q.name) := by
      rw [List.any_reverse]
      congr 1
      funext q
      exact Bool.beq_comm
    rw [List.foldl_cons, addNamed, taken, List.eraseDupsBy.loop]
    cases kept.any (fun q => v.name == q.name) with
    | true => exact ih kept
    | false =>
      rw [← ih (v :: kept), List.reverse_cons]
      rfl

theorem foldl_addNamed_nil (vs : List Variable) : vs.foldl addNamed [] = firstOfEachName vs :=
  foldl_addNamed vs []

end DeclGen
