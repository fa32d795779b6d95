import DeclGen.Console.Literal.Grammar
import Std.Data.HashMap

/-!
Matching tokens by the rules of the grammar. Alternatives are tried in order, and the first that matches
counts. What a rule matches at a place is kept, for some rules, so that it need not be matched again;
that is also how a rule can start with itself: it is matched again and again at one place, each time
with the last match as its beginning, as long as this matches more.

Rules may be nested only so deep. That bounds the recursion here.
-/
namespace DeclGen.Console.Literal

abbrev Kept := Option (Node × Nat)

structure Memory where
  seen : Nat
  kept : Std.HashMap (Nat × Rule) Kept

inductive Match where
  | found (node : Node) (stop : Nat) (memory : Memory)
  | missed (memory : Memory)
  /-- A fault, with the number of tokens that have been looked at. The place behind the last token
  counts as one more. -/
  | fault (fault : Fault) (seen : Nat)

structure Source where
  tokens : Tokens
  label : Text
  strings : List Token → Outcome

def Source.mistake (source : Source) (message : Text) : Fault := .syntactic (source.label ++ message)

def Source.beyondEnd (source : Source) : Match :=
  let fault := match source.tokens.halt with
    | some (.fault message, _) => .syntactic message
    | some (.stop message, _) => source.mistake message
    | none => source.mistake (Brackets.endMessage [])
  .fault fault (source.tokens.items.size + 1)

def Memory.look (memory : Memory) (place : Nat) : Memory :=
  { memory with seen := max memory.seen (place + 1) }

def Source.take (source : Source) (terminal : Terminal) (place : Nat) (memory : Memory) : Match :=
  match source.tokens.items[place]? with
  | none => source.beyondEnd
  | some token =>
    if terminal.accepts token then .found (.token token) (place + 1) (memory.look place)
    else .missed (memory.look place)

inductive Matches where
  | found (nodes : List Node) (stop : Nat) (memory : Memory)
  | missed (isCut : Bool) (memory : Memory)
  | fault (fault : Fault) (seen : Nat)

abbrev Matcher := Part → Nat → Memory → Match

/-- Matches items; `nodes` are those before, last first. -/
def matchItems (part : Matcher) (nodes : List Node) (isCut : Bool) :
    List Item → Nat → Memory → Matches
  | [], place, memory => .found nodes.reverse place memory
  | .one p :: rest, place, memory =>
    match part p place memory with
    | .found node stop memory => matchItems part (node :: nodes) isCut rest stop memory
    | .missed memory => .missed isCut memory
    | .fault fault seen => .fault fault seen
  | .optional p :: rest, place, memory =>
    match part p place memory with
    | .found node stop memory => matchItems part (node :: nodes) isCut rest stop memory
    | .missed memory => matchItems part (.nothing :: nodes) isCut rest place memory
    | .fault fault seen => .fault fault seen
  | .ahead p :: rest, place, memory =>
    match part p place memory with
    | .found _ _ memory => matchItems part nodes isCut rest place memory
    | .missed memory => .missed isCut memory
    | .fault fault seen => .fault fault seen
  | .notAhead p :: rest, place, memory =>
    match part p place memory with
    | .found _ _ memory => .missed isCut memory
    | .missed memory => matchItems part nodes isCut rest place memory
    | .fault fault seen => .fault fault seen
  | .cut :: rest, place, memory => matchItems part nodes true rest place memory

def Source.depthBefore (source : Source) (place : Nat) : Nat :=
  ((source.tokens.items[place - 1]?).map Token.depth).getD 0

def matchAlternatives (source : Source) (isGuided : Bool) (part : Matcher) :
    List Alternative → Nat → Memory → Match
  | [], _, memory => .missed memory
  | alternative :: rest, place, memory =>
    if alternative.isHint && !isGuided then matchAlternatives source isGuided part rest place memory
    else
      match matchItems part [] false alternative.items place memory with
      | .missed true memory => .missed memory
      | .missed false memory => matchAlternatives source isGuided part rest place memory
      | .fault fault seen => .fault fault seen
      | .found nodes stop memory =>
        match alternative.build ⟨source.depthBefore stop, source.strings⟩ nodes with
        | .value node => .found node stop memory
        | .refuse => .missed memory
        | .mistake message => .fault (source.mistake message) memory.seen
        | .fault fault => .fault fault memory.seen

def Memory.keep (memory : Memory) (place : Nat) (rule : Rule) (kept : Kept) : Memory :=
  { memory with kept := memory.kept.insert (place, rule) kept }

def Kept.toMatch (kept : Kept) (memory : Memory) : Match :=
  match kept with
  | some (node, stop) => .found node stop memory
  | none => .missed memory

/-- Where a match ends; nothing ends where it starts. -/
def Kept.stop (kept : Kept) (place : Nat) : Nat := (kept.map (·.2)).getD place

/-- Matches a rule that starts with itself: with the best match so far as its beginning, as long as
more is matched. The first number bounds how often. -/
def growMatch (part : Matcher) (rule : Rule) (place : Nat) : Nat → Kept → Memory → Match
  | 0, best, memory => best.toMatch memory
  | tries + 1, best, memory =>
    match part (.body rule) place (memory.keep place rule best) with
    | .fault fault seen => .fault fault seen
    | .missed memory => best.toMatch memory
    | .found node stop memory =>
      if stop ≤ best.stop place then best.toMatch memory
      else growMatch part rule place tries (some (node, stop)) memory

def matchKept (source : Source) (isGuided : Bool) (part : Matcher) (rule : Rule) (place : Nat)
    (memory : Memory) : Match :=
  match matchAlternatives source isGuided part rule.alternatives place memory with
  | .found node stop memory => .found node stop (memory.keep place rule (some (node, stop)))
  | .missed memory => .missed (memory.keep place rule none)
  | .fault fault seen => .fault fault seen

def Source.tries (source : Source) : Nat := source.tokens.items.size + 2

def matchRule (source : Source) (isGuided : Bool) (part : Matcher) (rule : Rule) (place : Nat)
    (memory : Memory) : Match :=
  if rule.isKept || rule.isLeftRecursive then
    if source.tokens.items.size ≤ place then source.beyondEnd
    else
      match memory.kept[(place, rule)]? with
      | some kept => kept.toMatch (memory.look place)
      | none =>
        if rule.isLeftRecursive then growMatch part rule place source.tries none (memory.look place)
        else matchKept source isGuided part rule place (memory.look place)
  else matchAlternatives source isGuided part rule.alternatives place memory

/-- Matches something as often as possible; `nodes` are those before, last first. The first number
bounds how often. -/
def matchMany (part : Nat → Memory → Match) : Nat → List Node → Nat → Memory → Matches
  | 0, nodes, place, memory => .found nodes.reverse place memory
  | tries + 1, nodes, place, memory =>
    match part place memory with
    | .found node stop memory => matchMany part tries (node :: nodes) stop memory
    | .missed memory => .found nodes.reverse place memory
    | .fault fault seen => .fault fault seen

def Matches.toMatch (mayBeEmpty : Bool) : Matches → Match
  | .found [] stop memory => if mayBeEmpty then .found (.list []) stop memory else .missed memory
  | .found nodes stop memory => .found (.list nodes) stop memory
  | .missed _ memory => .missed memory
  | .fault cause seen => .fault cause seen

def matchFollowing (source : Source) (part : Matcher) (separator : Terminal) (p : Part) (place : Nat)
    (memory : Memory) : Match :=
  match source.take separator place memory with
  | .found _ stop memory => part p stop memory
  | other => other

def matchSeparated (part : Matcher) (p : Part) (separator : Terminal) (place : Nat) (memory : Memory) :
    Match :=
  match part p place memory with
  | .found first stop memory =>
    match part (.following separator p) stop memory with
    | .found (.list rest) stop memory => .found (.list (first :: rest)) stop memory
    | other => other
  | other => other

/-- Matches a part. Everything but a single token takes one of the levels that are left. -/
def matchPart (source : Source) : (levels : Nat) → (isGuided : Bool) → Matcher
  | _, _, .take terminal, place, memory => source.take terminal place memory
  | 0, _, _, _, memory => .fault .tooDeep memory.seen
  | levels + 1, isGuided, .rule rule, place, memory =>
    let isGuided := isGuided && rule != .unguidedExpression
    matchRule source isGuided (matchPart source levels isGuided) rule place memory
  | levels + 1, isGuided, .body rule, place, memory =>
    matchAlternatives source isGuided (matchPart source levels isGuided) rule.alternatives place memory
  | levels + 1, isGuided, .many p, place, memory =>
    (matchMany (matchPart source levels isGuided p) source.tries [] place memory).toMatch true
  | levels + 1, isGuided, .atLeastOne p, place, memory =>
    (matchMany (matchPart source levels isGuided p) source.tries [] place memory).toMatch false
  | levels + 1, isGuided, .separated p separator, place, memory =>
    matchSeparated (matchPart source levels isGuided) p separator place memory
  | levels + 1, isGuided, .following separator p, place, memory =>
    (matchMany (matchFollowing source (matchPart source levels isGuided) separator p) source.tries []
      place memory).toMatch true

def levelLimit : Nat := 6000

/-- Matches a rule from the first token on; `seen` tokens have been looked at before. -/
def Source.matchRule (source : Source) (rule : Rule) (isGuided : Bool) (seen : Nat) : Match :=
  matchPart source levelLimit isGuided (.rule rule) 0 ⟨seen, ∅⟩

end DeclGen.Console.Literal
