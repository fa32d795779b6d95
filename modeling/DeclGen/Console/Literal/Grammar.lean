import DeclGen.Console.Literal.Expr
import DeclGen.Console.Literal.Token

/-!
The grammar of expressions. A rule is a list of alternatives, which are tried in order; an alternative
is a list of items, and says what to build from what they match. Some alternatives match common
mistakes. They are hints: they serve to find a better message for a text that is no expression.

Square brackets cannot occur in a text of this kind, so there are no rules for them.
-/
namespace DeclGen.Console.Literal

inductive Comparer where
  | equal
  | unequal
  | atMost
  | below
  | atLeast
  | above
  | notIn
  | isIn
  | isNot
  | identical
  deriving DecidableEq, Hashable

inductive Rule where
  | whole
  | formattedPart
  | expressions
  | moreExpression
  | expression
  | yieldExpression
  | starExpressions
  | moreStarExpression
  | starExpression
  | starNamedExpressions
  | starNamedExpression
  | assignment
  | named
  | disjunction
  | orOperand
  | conjunction
  | andOperand
  | inversion
  | comparison
  | comparedOperand
  | comparedBy (comparer : Comparer)
  | unequalMark
  | bitOr
  | bitXor
  | bitAnd
  | shift
  | sum
  | term
  | factor
  | power
  | awaitPrimary
  | primary
  | atom
  | parenthesized
  | braced
  | group
  | groupContent
  | tuple
  | tupleItems
  | set
  | dict
  | entries
  | entry
  | pair
  | clauses
  | clause
  | condition
  | setComprehension
  | dictComprehension
  | generator
  | generatorElement
  | lambda
  | lambdaParams
  | lambdaParameters
  | plainBeforeSlash
  | defaultBeforeSlash
  | starParameters
  | keywordParameters
  | plainParameter
  | defaultParameter
  | anyParameter
  | parameter
  | defaultValue
  | strings
  | arguments
  | args
  | argument
  | plainArgument
  | moreKeywords
  | keywordArguments
  | keywordOrStarred
  | keywordOrUnpacked
  | starredExpression
  | targets
  | moreTarget
  | targetTuple
  | target
  | unstarredTarget
  | simpleTarget
  | targetAtom
  | targetPrimary
  | targetTail
  | unguidedExpression
  | badArguments
  | badArgumentsTail
  | badKeyword
  | constantWord
  | keywordStart
  | legacyCall
  | badExpression
  | looseStart
  | elseOrColon
  | badNamed
  | equalsOrNaming
  | fixedAtom
  | badComprehension
  | opening
  | braceOpening
  | badDictComprehension
  | badTarget
  | badGroup
  | badEntries
  | badPair
  | braceOrComma
  | badLambdaParameters
  | lambdaDefaults
  | beforeSlash
  | commaOrParameter
  | badStarParameters
  | bareStarEnd
  | bareStarTail
  | badKeywordParameters
  | parameterMark
  | badDefault
  | parenthesisOrComma
  deriving DecidableEq, Hashable

inductive Terminal where
  | spelled (text : Text)
  | name
  | softName
  | number
  | string
  | newline
  | finish

inductive Part where
  | take (terminal : Terminal)
  | rule (rule : Rule)
  | body (rule : Rule)
  | many (part : Part)
  | atLeastOne (part : Part)
  | separated (part : Part) (separator : Terminal)
  | following (separator : Terminal) (part : Part)

inductive Item where
  | one (part : Part)
  | optional (part : Part)
  /-- The part must come next, but is not passed. -/
  | ahead (part : Part)
  | notAhead (part : Part)
  /-- Behind this item no other alternative is tried. -/
  | cut

inductive Node where
  | token (token : Token)
  | expr (expr : Expr)
  | list (nodes : List Node)
  | compared (isIn : Bool) (operand : Expr)
  | keyword (isUnpacked : Bool) (value : Expr)
  | arguments (positional : List Expr) (keywords : List (Bool × Expr))
  | nothing

mutual

def Node.exprs : Node → List Expr
  | .token _ | .nothing => []
  | .expr e | .compared _ e | .keyword _ e => [e]
  | .list nodes => exprsAmong nodes
  | .arguments positional keywords => positional ++ keywords.map (·.2)

def exprsAmong : List Node → List Expr
  | [] => []
  | node :: rest => node.exprs ++ exprsAmong rest

end

inductive Fault where
  | syntactic (message : Text)
  | tooDeep
  deriving DecidableEq

inductive Outcome where
  | value (node : Node)
  | refuse
  | mistake (message : Text)
  | fault (fault : Fault)

structure Site where
  depth : Nat
  strings : List Token → Outcome

abbrev Build := Site → List Node → Outcome

structure Alternative where
  items : List Item
  build : Build
  isHint : Bool

/-! Words -/

def keywords : List Text :=
  (["False", "None", "True", "and", "as", "assert", "async", "await", "break", "class", "continue",
    "def", "del", "elif", "else", "except", "finally", "for", "from", "global", "if", "import", "in",
    "is", "lambda", "nonlocal", "not", "or", "pass", "raise", "return", "try", "while", "with",
    "yield"]).map String.text

def softKeywords : List Text := ["_".text, "case".text, "match".text]

def Terminal.accepts (terminal : Terminal) (token : Token) : Bool :=
  match terminal, token.kind with
  | .spelled text, .mark => token.text == text
  | .spelled text, .word => token.text == text
  | .name, .word => !keywords.contains token.text
  | .softName, .word => softKeywords.any fun keyword => token.text.isPrefixOf keyword
  | .number, .number => true
  | .string, .string => true
  | .newline, .newline => true
  | .finish, .finish => true
  | _, _ => false

def basicLetters (c : CodePoint) : Text :=
  match Text.letterForms.find? fun run => decide (run.1 ≤ c.toNat) && decide (c.toNat ≤ run.2.1) with
  | some (first, _, letters) =>
    match letters.text with
    | [letter] => [Char.ofNat (letter.toNat + (c.toNat - first))]
    | several => several
  | none => [c]

def identifierOf (word : Text) : Text := word.flatMap basicLetters

/-! Numbers -/

def digitLimit : Nat := 4300

def tooManyDigits (count : Nat) : Text :=
  "Exceeds the limit (4300 digits) for integer string conversion: value has ".text
    ++ Text.ofNat count
    ++ (" digits; use sys.set_int_max_str_digits() to increase the limit - Consider hexadecimal for "
      ++ "huge integer literals to avoid decimal conversion limits.").text

/-- The number that a token writes. Leading zeros are zero. -/
def numeralOf (text : Text) : Except Text Numeral :=
  let digits := text.filter (· != CodePoint.char '_')
  match digits with
  | '0' :: letter :: rest =>
    match radixes.find? fun radix => radix.letter == letter.toLower with
    | some radix => .ok (.integer ((Text.number? radix.base rest).getD 0))
    | none => decimal digits
  | _ => decimal digits
where
  decimal (digits : Text) : Except Text Numeral :=
    if digits.any fun c => c = 'j' ∨ c = 'J' then .ok .imaginary
    else if !digits.all CodePoint.isDigit then .ok .float
    else
      let significant := digits.dropWhile (· = CodePoint.char '0')
      if significant.isEmpty then .ok (.integer 0)
      else if digitLimit < digits.length then .error (tooManyDigits digits.length)
      else .ok (.integer ((Text.number? 10 digits).getD 0))

/-! Building -/

def keep : Build := fun _ nodes =>
  match nodes with
  | [node] => .value node
  | nodes => .value (.list nodes)

def keepFirst : Build := fun _ nodes =>
  match nodes with
  | node :: _ => .value node
  | [] => .refuse

def make (shape : Shape) : Build := fun _ nodes => .value (.expr (.node shape (exprsAmong nodes)))

def inner : Build := fun _ nodes =>
  match exprsAmong nodes with
  | e :: _ => .value (.expr e)
  | [] => .refuse

def say (message : String) : Build := fun _ _ => .mistake message.text

def buildName : Build := fun _ nodes =>
  match nodes with
  | [.token token] => .value (.expr (.leaf (.identifier (identifierOf token.text))))
  | _ => .refuse

def buildConstant (name : String) : Build := fun _ _ => .value (.expr (.leaf (.constant name.text)))

def buildNumber : Build := fun _ nodes =>
  match nodes with
  | [.token token] =>
    match numeralOf token.text with
    | .ok numeral => .value (.expr (.leaf (.number numeral)))
    | .error message => .mistake message
  | _ => .refuse

def buildStrings : Build := fun site nodes =>
  match nodes with
  | [.list nodes] => site.strings (nodes.filterMap fun node =>
      match node with
      | .token token => some token
      | _ => none)
  | _ => .refuse

def buildCompared (isIn : Bool) : Build := fun _ nodes =>
  match exprsAmong nodes with
  | e :: _ => .value (.compared isIn e)
  | [] => .refuse

def buildComparison : Build := fun _ nodes =>
  let isIn := match nodes with
    | [_, .list (.compared isIn _ :: _)] => isIn
    | _ => false
  .value (.expr (.node (.comparison isIn) (exprsAmong nodes)))

def buildKeyword (isUnpacked : Bool) : Build := fun _ nodes =>
  match exprsAmong nodes with
  | e :: _ => .value (.keyword isUnpacked e)
  | [] => .refuse

mutual

def Node.keywordPairs : Node → List (Bool × Expr)
  | .keyword isUnpacked value => [(isUnpacked, value)]
  | .list nodes => keywordPairsAmong nodes
  | _ => []

def keywordPairsAmong : List Node → List (Bool × Expr)
  | [] => []
  | node :: rest => node.keywordPairs ++ keywordPairsAmong rest

end

mutual

def Node.positionals : Node → List Expr
  | .expr e => [e]
  | .list nodes => positionalsAmong nodes
  | _ => []

def positionalsAmong : List Node → List Expr
  | [] => []
  | node :: rest => node.positionals ++ positionalsAmong rest

end

def buildArguments : Build := fun _ nodes =>
  .value (.arguments (positionalsAmong nodes) (keywordPairsAmong nodes))

def isLegacyName (name : Text) : Bool := name == "print".text || name == "exec".text

def isLegacy (e : Expr) : Bool :=
  match e.shape with
  | .identifier name => isLegacyName name
  | _ => false

def buildLegacy : Build := fun _ nodes =>
  match nodes with
  | .token token :: _ =>
    let name := identifierOf token.text
    if isLegacyName name then
      .mistake ("Missing parentheses in call to '".text ++ name ++ "'. Did you mean ".text ++ name
        ++ "(...)?".text)
    else .refuse
  | _ => .refuse

def buildTwoInARow : Build := fun site nodes =>
  if ((exprsAmong nodes).head?.map isLegacy).getD false then .refuse
  else if site.depth = 0 then .refuse
  else .mistake "invalid syntax. Perhaps you forgot a comma?".text

def sayOf (before after : String) : Build := fun _ nodes =>
  match exprsAmong nodes with
  | e :: _ => .mistake (before.text ++ e.shape.title ++ after.text)
  | [] => .refuse

def sayToken (before : String) : Build := fun _ nodes =>
  match nodes with
  | .token token :: _ => .mistake (before.text ++ token.text)
  | _ => .refuse

def buildBadTarget : Build := fun _ nodes =>
  match (exprsAmong nodes).head?.bind Expr.badTarget? with
  | some shape => .mistake ("cannot assign to ".text ++ shape.title)
  | none => .refuse

def mustBeParenthesized : String := "Generator expression must be parenthesized"

def buildBareGenerator : Build := fun site nodes =>
  match nodes with
  | .arguments (_ :: _ :: _) _ :: _ => say mustBeParenthesized site nodes
  | _ => .refuse

def buildLateArgument : Build := fun _ nodes =>
  match nodes with
  | .arguments _ keywords :: _ =>
    if keywords.any (·.1) then
      .mistake "positional argument follows keyword argument unpacking".text
    else .mistake "positional argument follows keyword argument".text
  | _ => .refuse

/-! Alternatives -/

def spelled (text : String) : Part := .take (.spelled text.text)

def lit (text : String) : Item := .one (spelled text)

def of (rule : Rule) : Item := .one (.rule rule)

def maybe (rule : Rule) : Item := .optional (.rule rule)

def manyOf (rule : Rule) : Item := .one (.many (.rule rule))

def someOf (rule : Rule) : Item := .one (.atLeastOne (.rule rule))

def name : Item := .one (.take .name)

def comma : Terminal := .spelled ",".text

def maybeComma : Item := .optional (.take comma)

def listOf (rule : Rule) : Item := .one (.separated (.rule rule) comma)

def next (rule : Rule) : Item := .ahead (.rule rule)

def notNext (rule : Rule) : Item := .notAhead (.rule rule)

def nextIs (text : String) : Item := .ahead (spelled text)

def nextIsNot (text : String) : Item := .notAhead (spelled text)

def alt (items : List Item) (build : Build) : Alternative := ⟨items, build, false⟩

def marks (texts : List String) : List Alternative := texts.map fun text => alt [lit text] keep

def rules (rules : List Rule) : List Alternative := rules.map fun rule => alt [of rule] keep

def hint (rule : Rule) : Alternative := ⟨[of rule], keep, true⟩

def operators (level tighter : Rule) (operators : List (String × Shape)) : List Alternative :=
  (operators.map fun (operator, shape) => alt [of level, lit operator, of tighter] (make shape))
    ++ rules [tighter]

def meantComparison : String := "invalid syntax. Maybe you meant '==' or ':=' instead of '='?"

def nothingBehindKeywords : String := "arguments cannot follow var-keyword argument"

def Comparer.marks : Comparer → List Item
  | .equal => [lit "=="]
  | .unequal => [of .unequalMark]
  | .atMost => [lit "<="]
  | .below => [lit "<"]
  | .atLeast => [lit ">="]
  | .above => [lit ">"]
  | .notIn => [lit "not", lit "in"]
  | .isIn => [lit "in"]
  | .isNot => [lit "is", lit "not"]
  | .identical => [lit "is"]

def Rule.alternatives : Rule → List Alternative
  | .whole => [alt [of .expressions, .one (.many (.take .newline)), .one (.take .finish)] inner]
  | .formattedPart => rules [.starExpressions]
  | .expressions =>
    [alt [of .expression, someOf .moreExpression, maybeComma] (make .tuple),
     alt [of .expression, lit ","] (make .tuple),
     alt [of .expression] keep]
  | .moreExpression => [alt [lit ",", of .expression] inner]
  | .expression =>
    [hint .badExpression,
     hint .legacyCall,
     alt [of .disjunction, lit "if", of .disjunction, lit "else", of .expression] (make .conditional),
     alt [of .disjunction] keep,
     alt [of .lambda] keep]
  | .yieldExpression =>
    [alt [lit "yield", lit "from", of .expression] (make .yield),
     alt [lit "yield", maybe .starExpressions] (make .yield)]
  | .starExpressions =>
    [alt [of .starExpression, someOf .moreStarExpression, maybeComma] (make .tuple),
     alt [of .starExpression, lit ","] (make .tuple),
     alt [of .starExpression] keep]
  | .moreStarExpression => [alt [lit ",", of .starExpression] inner]
  | .starExpression => [alt [lit "*", of .bitOr] (make .starred), alt [of .expression] keep]
  | .starNamedExpressions => [alt [listOf .starNamedExpression, maybeComma] keep]
  | .starNamedExpression => [alt [lit "*", of .bitOr] (make .starred), alt [of .named] keep]
  | .assignment => [alt [name, lit ":=", .cut, of .expression] (make .named)]
  | .named =>
    [alt [of .assignment] keep, hint .badNamed, alt [of .expression, nextIsNot ":="] keep]
  | .disjunction =>
    [alt [of .conjunction, someOf .orOperand] (make .operation), alt [of .conjunction] keep]
  | .orOperand => [alt [lit "or", of .conjunction] inner]
  | .conjunction =>
    [alt [of .inversion, someOf .andOperand] (make .operation), alt [of .inversion] keep]
  | .andOperand => [alt [lit "and", of .inversion] inner]
  | .inversion => [alt [lit "not", of .inversion] (make .operation), alt [of .comparison] keep]
  | .comparison => [alt [of .bitOr, someOf .comparedOperand] buildComparison, alt [of .bitOr] keep]
  | .comparedOperand =>
    rules ([.equal, .unequal, .atMost, .below, .atLeast, .above, .notIn, .isIn, .isNot,
      .identical].map .comparedBy)
  | .comparedBy comparer => [alt (comparer.marks ++ [of .bitOr]) (buildCompared (comparer = .isIn))]
  | .unequalMark => marks ["!="]
  | .bitOr => operators .bitOr .bitXor [("|", .operation)]
  | .bitXor => operators .bitXor .bitAnd [("^", .operation)]
  | .bitAnd => operators .bitAnd .shift [("&", .operation)]
  | .shift => operators .shift .sum [("<<", .operation), (">>", .operation)]
  | .sum => operators .sum .term [("+", .sum), ("-", .sum)]
  | .term =>
    operators .term .factor
      [("*", .operation), ("/", .operation), ("//", .operation), ("%", .operation), ("@", .operation)]
  | .factor =>
    [alt [lit "+", of .factor] (make (.signed '+')), alt [lit "-", of .factor] (make (.signed '-')),
     alt [lit "~", of .factor] (make (.signed '~')), alt [of .power] keep]
  | .power =>
    [alt [of .awaitPrimary, lit "**", of .factor] (make .operation), alt [of .awaitPrimary] keep]
  | .awaitPrimary => [alt [lit "await", of .primary] (make .await), alt [of .primary] keep]
  | .primary =>
    [alt [of .primary, lit ".", name] (make .attribute),
     alt [of .primary, of .generator] (make .call),
     alt [of .primary, lit "(", maybe .arguments, lit ")"] (make .call),
     alt [of .atom] keep]
  | .atom =>
    [alt [name] buildName,
     alt [lit "True"] (buildConstant "True"),
     alt [lit "False"] (buildConstant "False"),
     alt [lit "None"] (buildConstant "None"),
     alt [.ahead (.take .string), of .strings] keep,
     alt [.one (.take .number)] buildNumber,
     alt [nextIs "(", of .parenthesized] keep,
     alt [nextIs "\x7b", of .braced] keep,
     alt [lit "..."] (buildConstant "ellipsis")]
  | .parenthesized => rules [.tuple, .group, .generator]
  | .braced => rules [.dict, .set, .dictComprehension, .setComprehension]
  | .group => [alt [lit "(", of .groupContent, lit ")"] inner, hint .badGroup]
  | .groupContent => rules [.yieldExpression, .named]
  | .tuple => [alt [lit "(", maybe .tupleItems, lit ")"] (make .tuple)]
  | .tupleItems => [alt [of .starNamedExpression, lit ",", maybe .starNamedExpressions] keep]
  | .set => [alt [lit "\x7b", of .starNamedExpressions, lit "\x7d"] (make .set)]
  | .dict =>
    [alt [lit "\x7b", maybe .entries, lit "\x7d"] (make .dict),
     alt [lit "\x7b", of .badEntries, lit "\x7d"] (make .dict)]
  | .entries => [alt [listOf .entry, maybeComma] keep]
  | .entry => [alt [lit "**", of .bitOr] (make .entry), alt [of .pair] keep]
  | .pair => [alt [of .expression, lit ":", of .expression] (make .entry)]
  | .clauses => [alt [someOf .clause] keep]
  | .clause =>
    [alt [lit "async", lit "for", of .targets, lit "in", .cut, of .disjunction, manyOf .condition] keep,
     alt [lit "for", of .targets, lit "in", .cut, of .disjunction, manyOf .condition] keep,
     hint .badTarget]
  | .condition => [alt [lit "if", of .disjunction] inner]
  | .setComprehension =>
    [alt [lit "\x7b", of .named, of .clauses, lit "\x7d"] (make .setComprehension),
     hint .badComprehension]
  | .dictComprehension =>
    [alt [lit "\x7b", of .pair, of .clauses, lit "\x7d"] (make .dictComprehension),
     hint .badDictComprehension]
  | .generator =>
    [alt [lit "(", of .generatorElement, of .clauses, lit ")"] (make .generator),
     hint .badComprehension]
  | .generatorElement => [alt [of .assignment] keep, alt [of .expression, nextIsNot ":="] keep]
  | .lambda => [alt [lit "lambda", maybe .lambdaParams, lit ":", of .expression] (make .lambda)]
  | .lambdaParams => [hint .badLambdaParameters, alt [of .lambdaParameters] keep]
  | .lambdaParameters =>
    [alt [of .plainBeforeSlash, manyOf .plainParameter, manyOf .defaultParameter,
       maybe .starParameters] keep,
     alt [of .defaultBeforeSlash, manyOf .defaultParameter, maybe .starParameters] keep,
     alt [someOf .plainParameter, manyOf .defaultParameter, maybe .starParameters] keep,
     alt [someOf .defaultParameter, maybe .starParameters] keep,
     alt [of .starParameters] keep]
  | .plainBeforeSlash =>
    [alt [someOf .plainParameter, lit "/", lit ","] keep,
     alt [someOf .plainParameter, lit "/", nextIs ":"] keep]
  | .defaultBeforeSlash =>
    [alt [manyOf .plainParameter, someOf .defaultParameter, lit "/", lit ","] keep,
     alt [manyOf .plainParameter, someOf .defaultParameter, lit "/", nextIs ":"] keep]
  | .starParameters =>
    [hint .badStarParameters,
     alt [lit "*", of .plainParameter, manyOf .anyParameter, maybe .keywordParameters] keep,
     alt [lit "*", lit ",", someOf .anyParameter, maybe .keywordParameters] keep,
     alt [of .keywordParameters] keep]
  | .keywordParameters => [hint .badKeywordParameters, alt [lit "**", of .plainParameter] keep]
  | .plainParameter => [alt [of .parameter, lit ","] keep, alt [of .parameter, nextIs ":"] keep]
  | .defaultParameter =>
    [alt [of .parameter, of .defaultValue, lit ","] keep,
     alt [of .parameter, of .defaultValue, nextIs ":"] keep]
  | .anyParameter =>
    [alt [of .parameter, maybe .defaultValue, lit ","] keep,
     alt [of .parameter, maybe .defaultValue, nextIs ":"] keep]
  | .parameter => [alt [name] keep]
  | .defaultValue => [alt [lit "=", of .expression] inner, hint .badDefault]
  | .strings => [alt [.one (.atLeastOne (.take .string))] buildStrings]
  | .arguments => [alt [of .args, maybeComma, nextIs ")"] keepFirst, hint .badArguments]
  | .args =>
    [alt [listOf .argument, maybe .moreKeywords] buildArguments,
     alt [of .keywordArguments] buildArguments]
  | .argument =>
    [alt [of .starredExpression] keep, alt [of .plainArgument, nextIsNot "="] keep]
  | .plainArgument => [alt [of .assignment] keep, alt [of .expression, nextIsNot ":="] keep]
  | .moreKeywords => [alt [lit ",", of .keywordArguments] keep]
  | .keywordArguments =>
    [alt [listOf .keywordOrStarred, lit ",", listOf .keywordOrUnpacked] keep,
     alt [listOf .keywordOrStarred] keep,
     alt [listOf .keywordOrUnpacked] keep]
  | .keywordOrStarred =>
    [hint .badKeyword,
     alt [name, lit "=", of .expression] (buildKeyword false),
     alt [of .starredExpression] keep]
  | .keywordOrUnpacked =>
    [hint .badKeyword,
     alt [name, lit "=", of .expression] (buildKeyword false),
     alt [lit "**", of .expression] (buildKeyword true)]
  | .starredExpression => [alt [lit "*", of .expression] (make .starred)]
  | .targets =>
    [alt [of .target, nextIsNot ","] keep,
     alt [of .target, manyOf .moreTarget, maybeComma] keep]
  | .moreTarget => [alt [lit ",", of .target] keep]
  | .targetTuple =>
    [alt [of .target, someOf .moreTarget, maybeComma] keep, alt [of .target, lit ","] keep]
  | .target => [alt [lit "*", of .unstarredTarget] keep, alt [of .simpleTarget] keep]
  | .unstarredTarget => [alt [nextIsNot "*", of .target] keep]
  | .simpleTarget =>
    [alt [of .targetPrimary, lit ".", name, notNext .targetTail] keep, alt [of .targetAtom] keep]
  | .targetAtom =>
    [alt [name] keep,
     alt [lit "(", of .simpleTarget, lit ")"] keep,
     alt [lit "(", maybe .targetTuple, lit ")"] keep]
  | .targetPrimary =>
    [alt [of .targetPrimary, lit ".", name, next .targetTail] keep,
     alt [of .targetPrimary, of .generator, next .targetTail] keep,
     alt [of .targetPrimary, lit "(", maybe .arguments, lit ")", next .targetTail] keep,
     alt [of .atom, next .targetTail] keep]
  | .targetTail => marks ["(", "."]
  | .unguidedExpression =>
    [alt [of .disjunction, lit "if", of .disjunction, lit "else", of .expression] (make .conditional),
     alt [of .disjunction] keep,
     alt [of .lambda] keep]
  | .badArguments =>
    [alt [of .args, lit ",", lit "*"]
       (say "iterable argument unpacking follows keyword argument unpacking"),
     alt [of .expression, of .clauses, lit ",", maybe .badArgumentsTail] (say mustBeParenthesized),
     alt [name, lit "=", of .expression, of .clauses] (say meantComparison),
     alt [of .args, of .clauses] buildBareGenerator,
     alt [of .args, lit ",", of .expression, of .clauses] (say mustBeParenthesized),
     alt [of .args, lit ",", of .args] buildLateArgument]
  | .badArgumentsTail => [alt [of .args] keep, alt [of .expression, of .clauses] keep]
  | .badKeyword =>
    [alt [of .constantWord, lit "="] (sayToken "cannot assign to "),
     alt [name, lit "=", of .expression, of .clauses] (say meantComparison),
     alt [notNext .keywordStart, of .expression, lit "="]
       (say "expression cannot contain assignment, perhaps you meant \"==\"?")]
  | .constantWord => marks ["True", "False", "None"]
  | .keywordStart => [alt [name, lit "="] keep]
  | .legacyCall => [alt [name, nextIsNot "(", of .starExpressions] buildLegacy]
  | .badExpression =>
    [alt [notNext .looseStart, of .disjunction, of .unguidedExpression] buildTwoInARow,
     alt [of .disjunction, lit "if", of .disjunction, notNext .elseOrColon]
       (say "expected 'else' after 'if' expression")]
  | .looseStart => [alt [name, .one (.take .string)] keep, alt [.one (.take .softName)] keep]
  | .elseOrColon => marks ["else", ":"]
  | .badNamed =>
    [alt [of .expression, lit ":=", of .expression]
       (sayOf "cannot use assignment expressions with " ""),
     alt [name, lit "=", of .bitOr, notNext .equalsOrNaming] (say meantComparison),
     alt [notNext .fixedAtom, of .bitOr, lit "=", of .bitOr, notNext .equalsOrNaming]
       (sayOf "cannot assign to " " here. Maybe you meant '==' instead of '='?")]
  | .equalsOrNaming => marks ["=", ":="]
  | .fixedAtom => rules [.tuple, .generator] ++ marks ["True", "None", "False"]
  | .badComprehension =>
    [alt [of .opening, of .starredExpression, of .clauses]
       (say "iterable unpacking cannot be used in comprehension"),
     alt [of .braceOpening, of .starNamedExpression, lit ",", of .starNamedExpressions, of .clauses]
       (say "did you forget parentheses around the comprehension target?"),
     alt [of .braceOpening, of .starNamedExpression, lit ",", of .clauses]
       (say "did you forget parentheses around the comprehension target?")]
  | .opening => marks ["(", "\x7b"]
  | .braceOpening => marks ["\x7b"]
  | .badDictComprehension =>
    [alt [lit "\x7b", lit "**", of .bitOr, of .clauses, lit "\x7d"]
       (say "dict unpacking cannot be used in dict comprehension")]
  | .badTarget => [alt [.optional (spelled "async"), lit "for", of .starExpressions] buildBadTarget]
  | .badGroup =>
    [alt [lit "(", of .starredExpression, lit ")"] (say "cannot use starred expression here"),
     alt [lit "(", lit "**", of .expression, lit ")"]
       (say "cannot use double starred expression here")]
  | .badEntries =>
    [alt [listOf .entry, lit ",", of .badPair] keep,
     alt [of .expression, lit ":", lit "*", of .bitOr]
       (say "cannot use a starred expression in a dictionary value"),
     alt [of .expression, lit ":", next .braceOrComma]
       (say "expression expected after dictionary key and ':'")]
  | .badPair =>
    [alt [of .expression, nextIsNot ":"] (say "':' expected after dictionary key"),
     alt [of .expression, lit ":", lit "*", of .bitOr]
       (say "cannot use a starred expression in a dictionary value"),
     alt [of .expression, lit ":", next .braceOrComma]
       (say "expression expected after dictionary key and ':'")]
  | .braceOrComma => marks ["\x7d", ","]
  | .badLambdaParameters =>
    [alt [manyOf .plainParameter, of .lambdaDefaults, of .plainParameter]
       (say "non-default argument follows default argument"),
     alt [manyOf .plainParameter, lit "(", listOf .parameter, maybeComma, lit ")"]
       (say "Lambda expression parameters cannot be parenthesized"),
     alt [lit "/", lit ","] (say "at least one argument must precede /"),
     alt [of .beforeSlash, manyOf .anyParameter, lit "/"] (say "/ may appear only once"),
     alt [maybe .beforeSlash, manyOf .anyParameter, lit "*", of .commaOrParameter,
       manyOf .anyParameter, lit "/"] (say "/ must be ahead of *"),
     alt [someOf .anyParameter, lit "/", lit "*"] (say "expected comma between / and *")]
  | .lambdaDefaults => [alt [of .defaultBeforeSlash] keep, alt [someOf .defaultParameter] keep]
  | .beforeSlash => rules [.plainBeforeSlash, .defaultBeforeSlash]
  | .commaOrParameter => marks [","] ++ rules [.plainParameter]
  | .badStarParameters =>
    [alt [lit "*", of .bareStarEnd] (say "named arguments must follow bare *"),
     alt [lit "*", of .parameter, lit "="]
       (say "var-positional argument cannot have default value"),
     alt [lit "*", of .commaOrParameter, manyOf .anyParameter, lit "*", of .commaOrParameter]
       (say "* argument may appear only once")]
  | .bareStarEnd => marks [":"] ++ [alt [lit ",", of .bareStarTail] keep]
  | .bareStarTail => marks [":", "**"]
  | .badKeywordParameters =>
    [alt [lit "**", of .parameter, lit "="] (say "var-keyword argument cannot have default value"),
     alt [lit "**", of .parameter, lit ",", of .parameter] (say nothingBehindKeywords),
     alt [lit "**", of .parameter, lit ",", of .parameterMark] (say nothingBehindKeywords)]
  | .parameterMark => marks ["*", "**", "/"]
  | .badDefault => [alt [lit "=", next .parenthesisOrComma] (say "expected default value expression")]
  | .parenthesisOrComma => marks [")", ","]

def Rule.isKept : Rule → Bool
  | .expression | .starExpression | .disjunction | .conjunction | .inversion | .factor | .awaitPrimary
  | .strings | .arguments | .target | .simpleTarget | .badNamed => true
  | _ => false

def Rule.isLeftRecursive : Rule → Bool
  | .bitOr | .bitXor | .bitAnd | .shift | .sum | .term | .primary | .targetPrimary => true
  | _ => false

end DeclGen.Console.Literal
