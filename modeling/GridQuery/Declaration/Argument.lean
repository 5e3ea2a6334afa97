import GridQuery.Declaration.Token

/-!
# Arguments of attributes

The arguments that stand between commas in the parentheses of an attribute.
-/

namespace GridQuery.Declaration

/-- An argument of an attribute. -/
structure Argument where
  tokens : List Token
  /-- Whether a comma follows. -/
  closed : Bool
deriving DecidableEq

namespace Argument

/-- The arguments with a token put in front of the first. -/
def extendFirst (token : Token) : List Argument → List Argument
  | [] => [⟨[token], false⟩]
  | argument :: arguments => ⟨token :: argument.tokens, argument.closed⟩ :: arguments

/-- The arguments that tokens are, given how many brackets are open. A comma at the end has no argument
after it. -/
def ofTokensWithin : Nat → List Token → List Argument
  | _, [] => []
  | depth, .opening c :: tokens => extendFirst (.opening c) (ofTokensWithin (depth + 1) tokens)
  | depth, .closing c :: tokens => extendFirst (.closing c) (ofTokensWithin (depth - 1) tokens)
  | 0, .sign ',' _ :: tokens => ⟨[], true⟩ :: ofTokensWithin 0 tokens
  | depth, token :: tokens => extendFirst token (ofTokensWithin depth tokens)

/-- The arguments that tokens are. -/
def ofTokens (tokens : List Token) : List Argument :=
  ofTokensWithin 0 tokens

/-- Whether tokens that are left of an argument are the last of all arguments: there are none, and no comma
follows. -/
def isEnd (argument : Argument) (rest : List Token) : Bool :=
  rest.isEmpty && !argument.closed

end Argument

end GridQuery.Declaration
