import GridQuery.Declaration.Grammar.Part

/-!
# Rules of types

The rules of paths with their arguments, of bounds and of types, which values mention in conversions and in
calls.
-/

namespace GridQuery.Declaration.Part

open Rule

/-- Lifetimes that are declared for what follows. -/
def lifetimes.rule : Rule Part :=
  inOrder [words ["for"], operator ['<'], listUntil (operator ['>']) (inOrder [attributes, lifetime]),
    operator ['>']]

/-! ### Paths -/

/-- The words that are names of a path without arguments. -/
def bareSegment : Rule Part :=
  words ["super", "self", "crate", "try"]

/-- The names of a path that can have arguments. -/
def openSegment : Rule Part :=
  either (words ["Self"]) name

/-- The beginning of arguments. Outside of types they need a double colon. -/
def argumentsStart (inValue : Bool) : Rule Part :=
  let marked := inOrder [colons, operator ['<']]
  if inValue then marked else either (operatorBut "<" ["<=", "<<="]) marked

/-- A name of a path with its arguments. -/
def segment.rule (inValue : Bool) : Rule Part :=
  either bareSegment (inOrder [openSegment, given (argumentsStart inValue) (part arguments)])

/-- The type in angle brackets that a path can begin with. -/
def typedStart : Rule Part :=
  inOrder [operator ['<'], part (type true), given (words ["as"]) (inOrder [words ["as"], part (path false)]),
    operator ['>'], colons]

/-- A path that begins with a type in angle brackets. -/
def typedPath (inValue : Bool) : Rule Part :=
  inOrder [typedStart, part (segment inValue), many (inOrder [colons, part (segment inValue)])]

def path.rule (inValue : Bool) : Rule Part :=
  inOrder [optional colons, part (segment inValue),
    many (inOrder [absent (inOrder [colons, opening '(']), colons, part (segment inValue)])]

/-- What a function gives back. -/
def output (withBounds : Bool) : Rule Part :=
  given (operator ['-', '>']) (inOrder [operator ['-', '>'], part (type withBounds)])

/-- A name without arguments may take types in parentheses like a function, after which a path only goes on
if nothing or a type in parentheses is given back. In a bound it does not go on. -/
def callableSegments.rule (inBound : Bool) : Rule Part :=
  let further := given (inOrder [colons, absent (opening '(')])
    (inOrder [colons, part (callableSegments inBound)])
  let start := either (opening '(') (inOrder [colons, opening '('])
  let afterTypes := if inBound then output false else
    oneOf [
      inOrder [operator ['-', '>'], inBrackets '(' (part (type true)), further],
      inOrder [operator ['-', '>'], part (type false)],
      inOrder [absent (operator ['-', '>']), further]]
  let called := either
    (inOrder [ahead start, optional colons, list '(' (part (type true)), afterTypes])
    (inOrder [absent start, further])
  either (inOrder [bareSegment, called])
    (inOrder [openSegment,
      either (inOrder [ahead (argumentsStart false), part arguments, further])
        (inOrder [absent (argumentsStart false), called])])

def arguments.rule : Rule Part :=
  inOrder [optional colons, operator ['<'], listUntil (operator ['>']) (part argument), operator ['>']]

/-- A constant as an argument. -/
def constant : Rule Part :=
  either literal (part body)

/-- What a constant as an argument begins with. -/
def constantStart : Rule Part :=
  either literal (opening '{')

/-- Several of a rule with plus signs between them, up to the end. There may be none, and a plus sign may
stand at the end. -/
def sumUntil (ending rule : Rule Part) : Rule Part :=
  either (ahead ending)
    (inOrder [rule, many (inOrder [operator ['+'], absent ending, rule]), optional (operator ['+'])])

def argument.rule : Rule Part :=
  let associated := inOrder [part (segment false),
    either
      (inOrder [operator ['='], either constant (inOrder [absent constantStart, part (type true)])])
      (inOrder [absent colons, operator [':'],
        sumUntil (either (operator [',']) (operator ['>'])) (part (bound true))])]
  oneOf [
    inOrder [lifetime, absent (operator ['+'])],
    constant,
    inOrder [absent constantStart, either associated (part (type true))]]

/-! ### Bounds -/

/-- What a further bound begins with. -/
def boundStart : Rule Part :=
  oneOf [anyWord, colons, operator ['?'], lifetime, opening '(']

/-- A trait as a bound. -/
def traitBound (withConst : Bool) : Rule Part :=
  let const := either (words ["const"]) (inOrder [operator ['~'], words ["const"]])
  inOrder [optional (part lifetimes), if withConst then optional const else nothing,
    optional (inOrder [operator ['?'], optional (part lifetimes)]), optional colons,
    part (callableSegments true)]

/-- A trait as a bound, possibly in parentheses. -/
def groupedBound (withConst : Bool) : Rule Part :=
  either (inBrackets '(' (traitBound withConst)) (traitBound withConst)

def bound.rule (withConst : Bool) : Rule Part :=
  either lifetime (groupedBound withConst)

/-- Further bounds. The last plus sign may have none after it. -/
def moreBounds (rule : Rule Part) : Rule Part :=
  many (inOrder [operator ['+'], given boundStart rule])

/-- Bounds of an object, one of which is a trait. -/
def objectBounds (several : Bool) : Rule Part :=
  if several then
    inOrder [many (inOrder [lifetime, operator ['+']]), groupedBound false, moreBounds (part (bound false))]
  else
    groupedBound false

/-- Bounds of a hidden type, one of which is a trait. -/
def hiddenBounds (several : Bool) : Rule Part :=
  let captured := inOrder [words ["use"], operator ['<'],
    listUntil (operator ['>']) (oneOf [lifetime, name, words ["Self"]]), operator ['>']]
  let other := either lifetime captured
  if several then
    inOrder [many (inOrder [other, operator ['+']]), groupedBound true,
      moreBounds (either captured (part (bound true)))]
  else
    groupedBound true

/-! ### Types -/

/-- The language of a foreign function. -/
def foreign : Rule Part :=
  inOrder [words ["extern"], optional text]

def functionType : Rule Part :=
  let named := inOrder [either name (words ["_", "self"]), absent colons, operator [':']]
  let receiver := inOrder [words ["mut"], words ["self"]]
  let dots := operator ['.', '.', '.']
  inOrder [optional (words ["unsafe"]), optional foreign, words ["fn"],
    listEnding '('
      (inOrder [attributes, either receiver (inOrder [optional named, part (type true)])])
      (inOrder [attributes, optional named, dots])
      (inOrder [attributes, optional named, dots, optional (operator [','])]),
    output false]

/-- A type that begins with a path. -/
def namedType (withBounds : Bool) : Rule Part :=
  oneOf [
    inOrder [typedStart, part (callableSegments false)],
    call,
    inOrder [optional colons, part (callableSegments false),
      if withBounds then moreBounds (part (bound false)) else nothing]]

/-- Types in parentheses. -/
def groupedType (withBounds : Bool) : Rule Part :=
  let sum := many (inOrder [operator ['+'], part (bound false)])
  let path := inOrder [optional (part lifetimes), optional colons, part (callableSegments false)]
  oneOf [
    inOrder [inBrackets '(' (inOrder [ahead (operator ['?']), traitBound false]), sum],
    inBrackets '(' (inOrder [ahead lifetime, objectBounds true]),
    if withBounds then inOrder [inBrackets '(' path, ahead (operator ['+']), sum] else absent nothing,
    list '(' (part (type true))]

def type.rule (withBounds : Bool) : Rule Part :=
  oneOf [
    inOrder [part lifetimes,
      ahead (either name (words ["fn", "unsafe", "extern", "super", "self", "Self", "crate"])),
      either functionType (namedType withBounds)],
    groupedType withBounds,
    functionType,
    inOrder [absent (words ["try"]), namedType withBounds],
    inOrder [words ["dyn"], optional (operator ['*']), objectBounds withBounds],
    inOrder [words ["impl"], hiddenBounds withBounds],
    inBrackets '[' (inOrder [part (type true),
      given (operator [';']) (inOrder [operator [';'], part (value true)])]),
    inOrder [operator ['*'], words ["const", "mut"], part (type false)],
    inOrder [operator ['&'], optional lifetime, optional (words ["mut"]), part (type false)],
    operatorBut "!" ["!="],
    words ["_"],
    inOrder [ahead lifetime, objectBounds true]]

end GridQuery.Declaration.Part
