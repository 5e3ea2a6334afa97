import GridQuery.Declaration.Token

/-!
# Rules of a grammar

Rules say which tokens make up a part of a text. A rule takes tokens from the front and leaves the rest; of
two alternatives the second is tried only where the first fails. The parts of a grammar are named, so that
rules can refer to each other.
-/

namespace GridQuery.Declaration

/-- A rule of a grammar with the given names of parts. -/
inductive Rule (Part : Type) where
  /-- Takes no token. -/
  | nothing
  /-- Takes no token, and holds where the text or the brackets around end. -/
  | finish
  /-- Takes one token of a class. -/
  | token (accepts : Token → Bool)
  /-- Takes an operator: adjacent signs. -/
  | operator (signs : List Char)
  | part (name : Part)
  | both (first second : Rule Part)
  /-- Takes the first, and then the second where the last token taken is of a class. -/
  | bothIf (first : Rule Part) (accepts : Token → Bool) (second : Rule Part)
  | either (first second : Rule Part)
  /-- Takes as many of a rule as follow each other. -/
  | many (rule : Rule Part)
  /-- Takes no token, and holds where the rule does. -/
  | ahead (rule : Rule Part)
  /-- Takes no token, and holds where the rule does not. -/
  | absent (rule : Rule Part)

namespace Rule

variable {Part : Type}

/-! ### Composed rules -/

/-- One rule after the other. -/
def inOrder : List (Rule Part) → Rule Part
  | [] => nothing
  | [rule] => rule
  | rule :: rules => both rule (inOrder rules)

/-- The first of the rules that holds. -/
def oneOf : List (Rule Part) → Rule Part
  | [] => absent nothing
  | [rule] => rule
  | rule :: rules => either rule (oneOf rules)

def optional (rule : Rule Part) : Rule Part :=
  either rule nothing

/-- A rule where the given one holds, and nothing elsewhere. -/
def given (guard rule : Rule Part) : Rule Part :=
  either (both (ahead guard) rule) (absent guard)

/-- One of the operators, the first that holds. -/
def operators (texts : List String) : Rule Part :=
  oneOf (texts.map fun text => operator text.toList)

/-- An operator that is not the beginning of one of the others. -/
def operatorBut (text : String) (others : List String) : Rule Part :=
  both (absent (operators others)) (operator text.toList)

def words (names : List String) : Rule Part :=
  token fun
    | .word name => names.contains name
    | _ => false

/-- What stands in brackets, which it fills. -/
def inBrackets (bracket : Char) (rule : Rule Part) : Rule Part :=
  inOrder [token (· == .opening bracket), rule, finish, token (· == .closing (Token.closingOf bracket))]

/-- Several of a rule with commas between them, up to the end. A comma may stand at the end. -/
def listUntil (ending rule : Rule Part) : Rule Part :=
  either (ahead ending)
    (inOrder [rule, many (inOrder [operator [','], absent ending, rule]), optional (operator [','])])

/-- Several of a rule with commas between them, which fill brackets. -/
def list (bracket : Char) (rule : Rule Part) : Rule Part :=
  inBrackets bracket (listUntil finish rule)

/-- Several of a rule with commas between them, which fill brackets. What begins with `start` is none of
them, and only stands at the end. -/
def listEnding (bracket : Char) (rule start ending : Rule Part) : Rule Part :=
  inBrackets bracket (oneOf [
    finish,
    both (ahead start) ending,
    inOrder [absent start, rule, many (inOrder [operator [','], absent finish, absent start, rule]),
      optional (both (operator [',']) (given start ending))]])

/-! ### Reading -/

/-- The tokens after an operator. -/
def afterOperator? : List Char → List Token → Option (List Token)
  | [], tokens => some tokens
  | [c], .sign found _ :: rest => if found = c then some rest else none
  | c :: next :: more, .sign found true :: rest =>
      if found = c then afterOperator? (next :: more) rest else none
  | _, _ => none

/-- What a rule leaves of tokens, when it is followed down to the given depth. -/
def restWithin? (grammar : Part → Rule Part) : Nat → Rule Part → List Token → Option (List Token)
  | 0, _, _ => none
  | _ + 1, nothing, tokens => some tokens
  | _ + 1, finish, tokens =>
      match tokens with
      | [] => some []
      | .closing bracket :: rest => some (.closing bracket :: rest)
      | _ => none
  | _ + 1, token accepts, tokens =>
      match tokens with
      | [] => none
      | found :: rest => if accepts found then some rest else none
  | _ + 1, operator chars, tokens => afterOperator? chars tokens
  | depth + 1, part name, tokens => restWithin? grammar depth (grammar name) tokens
  | depth + 1, both first second, tokens =>
      (restWithin? grammar depth first tokens).bind (restWithin? grammar depth second)
  | depth + 1, bothIf first accepts second, tokens =>
      (restWithin? grammar depth first tokens).bind fun rest =>
        if (tokens.take (tokens.length - rest.length)).getLast?.any accepts then
          restWithin? grammar depth second rest
        else
          some rest
  | depth + 1, either first second, tokens =>
      match restWithin? grammar depth first tokens with
      | some rest => some rest
      | none => restWithin? grammar depth second tokens
  | depth + 1, many rule, tokens =>
      match restWithin? grammar depth rule tokens with
      | none => some tokens
      | some rest =>
          if rest.length < tokens.length then
            restWithin? grammar depth (many rule) rest
          else
            some tokens
  | depth + 1, ahead rule, tokens =>
      match restWithin? grammar depth rule tokens with
      | some _ => some tokens
      | none => none
  | depth + 1, absent rule, tokens =>
      match restWithin? grammar depth rule tokens with
      | some _ => none
      | none => some tokens

end Rule

end GridQuery.Declaration
