import GridQuery.Declaration.Grammar.Item

/-!
# The grammar of values

The rule of every part of values, and how far tokens are a part.
-/

namespace GridQuery.Declaration

namespace Part

open Rule

def rule : Part → Rule Part
  | tree => tree.rule
  | content => content.rule
  | lifetimes => lifetimes.rule
  | type withBounds => type.rule withBounds
  | bound withConst => bound.rule withConst
  | segment inValue => segment.rule inValue
  | path inValue => path.rule inValue
  | callableSegments inBound => callableSegments.rule inBound
  | arguments => arguments.rule
  | argument => argument.rule
  | pattern => pattern.rule
  | patterns => patterns.rule
  | patternBound => patternBound.rule
  | value withStructures => value.rule withStructures
  | valueTail withStructures => valueTail.rule withStructures
  | decision withStructures => decision.rule withStructures
  | comparison withStructures => comparison.rule withStructures
  | calculation withStructures => calculation.rule withStructures
  | operand withStructures => operand.rule withStructures
  | casts => casts.rule
  | range withStructures => range.rule withStructures
  | signed withStructures => signed.rule withStructures
  | atom withStructures => atom.rule withStructures
  | access => access.rule
  | closure withStructures => closure.rule withStructures
  | blockValue => blockValue.rule
  | conditional => conditional.rule
  | block => block.rule
  | body => body.rule
  | statement => statement.rule
  | arm => arm.rule
  | generics => generics.rule
  | whereClause => whereClause.rule
  | useTree fromRoot => useTree.rule fromRoot
  | item => item.rule
  | foreignItem => foreignItem.rule
  | traitItem => traitItem.rule
  | implItem => implItem.rule

end Part

/-- What a rule for parts of values leaves of tokens. Between two tokens no part is entered twice, and no rule
is nested as deep as the factor, so the depth suffices. -/
def Rule.rest? (rule : Rule Part) (tokens : List Token) : Option (List Token) :=
  rule.restWithin? Part.rule (2048 * (tokens.length + 1)) tokens

end GridQuery.Declaration
