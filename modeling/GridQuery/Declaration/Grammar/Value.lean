import GridQuery.Declaration.Grammar.Pattern
import GridQuery.Text.Occurrence

/-!
# Rules of values

The rules of values, from operands with their operators down to blocks and their statements. Operators bind
in levels: conversions, calculations, one comparison, decisions, and last a range or assignments.
-/

namespace GridQuery.Declaration.Part

open Rule

/-! ### Operators -/

/-- The operators of calculations. None of them is the beginning of another operator. -/
def calculationOperator : Rule Part :=
  oneOf [operatorBut "<<" ["<<="], operatorBut ">>" [">>="], operatorBut "+" ["+="], operatorBut "-" ["-="],
    operatorBut "*" ["*="], operatorBut "/" ["/="], operatorBut "%" ["%="], operatorBut "^" ["^="],
    operatorBut "&" ["&&", "&="], operatorBut "|" ["||", "|="]]

def comparisonOperator : Rule Part :=
  oneOf [operators ["==", "!=", "<=", ">="], operatorBut "<" ["<<"], operatorBut ">" [">>"]]

def assignmentOperator : Rule Part :=
  either (operators ["+=", "-=", "*=", "/=", "%=", "^=", "&=", "|=", "<<=", ">>="])
    (operatorBut "=" ["==", "=>"])

/-- A single point before a member. -/
def point : Rule Part :=
  operatorBut "." [".."]

/-- What must not follow a conversion. -/
def afterCast : Rule Part :=
  oneOf [point, operator ['?'], opening '[', opening '(']

/-- Conversions to types. -/
def casts.rule : Rule Part :=
  many (inOrder [words ["as"], part (type false), absent afterCast])

def operand.rule (withStructures : Bool) : Rule Part :=
  inOrder [part (signed withStructures), part casts]

/-- Further operands of a calculation. -/
def calculationTail (withStructures : Bool) : Rule Part :=
  many (inOrder [calculationOperator, part (operand withStructures)])

def calculation.rule (withStructures : Bool) : Rule Part :=
  inOrder [part (operand withStructures), calculationTail withStructures]

/-- The other side of a comparison. Comparisons do not follow each other. -/
def comparisonTail (withStructures : Bool) : Rule Part :=
  optional (inOrder [comparisonOperator, part (calculation withStructures)])

def comparison.rule (withStructures : Bool) : Rule Part :=
  inOrder [part (calculation withStructures), comparisonTail withStructures]

/-- Further comparisons of a decision. -/
def decisionTail (withStructures : Bool) : Rule Part :=
  many (inOrder [operators ["&&", "||"], part (comparison withStructures)])

def decision.rule (withStructures : Bool) : Rule Part :=
  inOrder [part (comparison withStructures), decisionTail withStructures]

/-- Where a range has no end. -/
def rangeStop (withStructures : Bool) : Rule Part :=
  oneOf [
    finish,
    operators [",", ";", "?", "=", "+", "/", "%", "^", ">", "<=", "!=", "-=", "*=", "&=", "|=", "<<="],
    point,
    words ["as"],
    if withStructures then absent nothing else opening '{']

/-- A range after its beginning, if it has one. -/
def range.rule (withStructures : Bool) : Rule Part :=
  oneOf [
    inOrder [operator ['.', '.', '='], part (decision withStructures)],
    inOrder [operatorBut ".." ["..=", "..."],
      either (ahead (rangeStop withStructures))
        (inOrder [absent (rangeStop withStructures), part (decision withStructures)])]]

/-- A range is no operand of what follows it. -/
def valueTail.rule (withStructures : Bool) : Rule Part :=
  inOrder [part casts, calculationTail withStructures, comparisonTail withStructures,
    decisionTail withStructures,
    either (part (range withStructures))
      (many (inOrder [assignmentOperator, part (decision withStructures),
        optional (part (range withStructures))]))]

def value.rule (withStructures : Bool) : Rule Part :=
  either (part (range withStructures))
    (inOrder [absent (operator ['.', '.']), part (signed withStructures), part (valueTail withStructures)])

/-- A value with the signs before it. A range has no attributes, members or calls. -/
def signed.rule (withStructures : Bool) : Rule Part :=
  let reference := inOrder [operator ['&'],
    oneOf [inOrder [words ["raw"], words ["mut", "const"]], words ["mut"], nothing],
    part (signed withStructures)]
  either (part (range withStructures))
    (inOrder [attributes,
      oneOf [
        reference,
        inOrder [operators ["*", "!", "-"], part (signed withStructures)],
        inOrder [part (atom withStructures), many (part access)]]])

/-! ### Fields, calls and indices -/

/-- The numbers of two fields, which read like one number with a point. -/
def twoFieldNumbers : Rule Part :=
  token fun
    | .number digits =>
        match Text.splitOn ['.'] digits with
        | [first, second] => isFieldNumber first && isFieldNumber second
        | _ => false
    | _ => false

/-- The number of a field with the point before the next member. -/
def pointedFieldNumber : Rule Part :=
  token fun
    | .number digits =>
        match digits.reverse with
        | '.' :: whole => isFieldNumber whole.reverse
        | _ => false
    | _ => false

/-- A field or a method of a value. -/
def member : Rule Part :=
  oneOf [
    fieldNumber,
    words ["await"],
    inOrder [name, given colons (inOrder [part arguments, list '(' (part (value true))])]]

def access.rule : Rule Part :=
  oneOf [
    list '(' (part (value true)),
    inOrder [point, oneOf [twoFieldNumbers, inOrder [pointedFieldNumber, member], member]],
    inBrackets '[' (part (value true)),
    operator ['?']]

/-! ### Structures and lists -/

/-- A field of a structure with its value. -/
def fieldValue : Rule Part :=
  let assigned := inOrder [operator [':'], part (value true)]
  inOrder [attributes,
    either (inOrder [name, given (operator [':']) assigned]) (inOrder [fieldNumber, assigned])]

/-- The fields of a structure, the last of which may be all others. -/
def structureFields : Rule Part :=
  listEnding '{' fieldValue (operator ['.', '.'])
    (inOrder [operator ['.', '.'], either finish (part (value true))])

/-- A path, a structure or what a path makes of a group. -/
def pathValue (withStructures : Bool) : Rule Part :=
  inOrder [absent (inOrder [words ["try"], absent (either (operator ['!']) colons)]),
    either call
      (inOrder [either (typedPath true) (part (path true)),
        if withStructures then given (opening '{') structureFields else nothing])]

/-- Values in square brackets, or one value and how often it stands there. -/
def arrayValue : Rule Part :=
  let further := oneOf [
    inOrder [operator [';'], part (value true)],
    inOrder [many (inOrder [operator [','], absent finish, part (value true)]), optional (operator [','])]]
  inBrackets '[' (either finish (inOrder [part (value true), further]))

/-! ### Control -/

/-- What a value can begin with after a word that may have one. -/
def valueStart (withStructures : Bool) : Rule Part :=
  oneOf [
    inOrder [absent (words ["as"]), anyWord],
    opening '(',
    opening '[',
    if withStructures then opening '{' else absent nothing,
    plainLiteral,
    operatorBut "!" ["!="],
    operatorBut "-" ["-=", "->"],
    operatorBut "*" ["*="],
    operatorBut "|" ["|="],
    operatorBut "&" ["&="],
    operator ['.', '.'],
    operatorBut "<" ["<=", "<<="],
    colons,
    lifetime,
    operator ['#']]

def optionalValue (withStructures : Bool) : Rule Part :=
  given (valueStart withStructures) (part (value withStructures))

/-- Words that leave something, with a label or a value. -/
def jump (withStructures : Bool) : Rule Part :=
  let label := either (inOrder [lifetime, absent (operator [':'])]) (absent lifetime)
  oneOf [
    inOrder [words ["break"], label, optionalValue withStructures],
    inOrder [words ["continue"], optional lifetime],
    inOrder [words ["return", "yield"], optionalValue true],
    inOrder [words ["become"], part (value true)]]

def closure.rule (withStructures : Bool) : Rule Part :=
  let bar := operator ['|']
  let arrow := operator ['-', '>']
  let parameter := inOrder [attributes, part pattern,
    given (operator [':']) (inOrder [operator [':'], part (type true)])]
  inOrder [optional (part lifetimes), optional (words ["const"]), optional (words ["static"]),
    optional (words ["async"]), optional (words ["move"]), bar, listUntil bar parameter, bar,
    either (inOrder [arrow, part (type true), part block])
      (inOrder [absent arrow, part (value withStructures)])]

def conditional.rule : Rule Part :=
  inOrder [words ["if"], part (value false), part block,
    given (words ["else"]) (inOrder [words ["else"], either (part conditional) (part block)])]

/-- Blocks that are repeated. -/
def loop : Rule Part :=
  oneOf [
    inOrder [words ["while"], part (value false), part body],
    inOrder [words ["for"], part patterns, words ["in"], part (value false), part body],
    inOrder [words ["loop"], part body]]

/-- Where declared lifetimes and not a loop begin. -/
def lifetimesStart : Rule Part :=
  inOrder [words ["for"], operator ['<'], either lifetime (operator ['>'])]

/-- What needs no semicolon as a statement begins with these. -/
def blockValueStart : Rule Part :=
  oneOf [
    inOrder [absent lifetimesStart, words ["for"]],
    words ["if", "while", "loop", "match", "unsafe"],
    inOrder [words ["try", "const"], opening '{'],
    opening '{',
    lifetime]

/-- A block, or words that end with one. -/
def blockValue.rule : Rule Part :=
  oneOf [
    part conditional,
    loop,
    inOrder [words ["match"], part (value false),
      inBrackets '{' (inOrder [innerAttributes, many (part arm)])],
    inOrder [words ["unsafe", "const"], part body],
    inOrder [words ["try"], part block],
    part body,
    inOrder [lifetime, operator [':'], either loop (part body)]]

/-- A value where a block ends it, unless members or calls follow the block. Other values are followed by a
separator. -/
def separatedValue (separator : Rule Part) : Rule Part :=
  let separated := either finish separator
  let further := either point (operator ['?'])
  either
    (inOrder [ahead blockValueStart, part blockValue,
      either (inOrder [ahead further, many (part access), part (valueTail true), separated])
        (inOrder [absent further, optional separator])])
    (inOrder [absent blockValueStart, part (value true), separated])

def arm.rule : Rule Part :=
  inOrder [attributes, part patterns,
    given (words ["if"]) (inOrder [words ["if"], part (value true)]), operator ['=', '>'], attributes,
    separatedValue (operator [','])]

def atom.rule (withStructures : Bool) : Rule Part :=
  oneOf [
    plainLiteral,
    inOrder [words ["async"], optional (words ["move"]), part block],
    part (closure withStructures),
    inOrder [words ["builtin"], operator ['#'], name, groupIn '('],
    pathValue withStructures,
    list '(' (part (value true)),
    jump withStructures,
    arrayValue,
    inOrder [words ["let"], part patterns, operator ['='], part (comparison withStructures)],
    part blockValue,
    words ["_"]]

/-! ### Blocks -/

def block.rule : Rule Part :=
  inBrackets '{' (many (part statement))

def body.rule : Rule Part :=
  inBrackets '{' (inOrder [innerAttributes, many (part statement)])

/-- What an item in a block begins with. -/
def itemStart : Rule Part :=
  oneOf [
    words ["pub", "extern", "use", "fn", "mod", "type", "struct", "enum", "trait", "impl", "macro"],
    inOrder [words ["crate"], absent colons],
    inOrder [words ["static"], either (words ["mut"]) name],
    inOrder [words ["const"], absent (oneOf [opening '{', words ["static", "move"], operator ['|'],
      inOrder [words ["async"], absent (words ["unsafe", "extern", "fn"])]])],
    inOrder [words ["unsafe"], absent (opening '{')],
    inOrder [words ["async"], words ["unsafe", "extern", "fn"]],
    inOrder [words ["union"], name],
    inOrder [words ["auto"], words ["trait"]],
    inOrder [words ["default"], words ["unsafe", "impl"]],
    inOrder [namePath, operator ['!'], either name (words ["try"])]]

/-- The binding of names in a block. A value that does not end with a brace may have an alternative. -/
def binding : Rule Part :=
  let endsOtherwise (last : Token) : Bool := last != .closing '}'
  inOrder [words ["let"], part pattern,
    given (operator [':']) (inOrder [operator [':'], part (type true)]),
    given (operator ['='])
      (inOrder [operator ['='],
        bothIf (part (value true)) endsOtherwise
          (given (words ["else"]) (inOrder [words ["else"], part block]))]),
    operator [';']]

def statement.rule : Rule Part :=
  let further := either point (operator ['?'])
  let made := inOrder [namePath, operator ['!'], groupIn '{', absent further]
  either (operator [';'])
    (inOrder [attributes,
      oneOf [
        made,
        inOrder [absent made, binding],
        inOrder [absent made, ahead itemStart, part item],
        inOrder [absent made, absent itemStart, absent (words ["let"]), separatedValue (operator [';'])]]])

end GridQuery.Declaration.Part
