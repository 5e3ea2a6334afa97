import GridQuery.Declaration.Grammar.Type

/-!
# Rules of patterns

The rules of patterns, which bind names in closures, loops, conditions and blocks.
-/

namespace GridQuery.Declaration.Part

open Rule

def patternPath : Rule Part :=
  either (typedPath true) (part (path true))

/-- What a pattern that begins with a path begins with. -/
def patternPathStart : Rule Part :=
  oneOf [
    inOrder [name,
      oneOf [colons, operator ['!'], opening '{', opening '(', operator ['.', '.']]],
    inOrder [words ["self"], colons],
    colons,
    operator ['<'],
    words ["Self", "super", "crate"]]

/-- A bound of a range in a pattern. -/
def patternBound.rule : Rule Part :=
  oneOf [literal, inOrder [words ["const"], part body], inOrder [absent (words ["try"]), patternPath]]

/-- Where a range in a pattern has no end. -/
def patternBoundStop : Rule Part :=
  oneOf [finish, operators ["|", "=", ",", ";"], operatorBut ":" ["::"], words ["if"]]

/-- The end of a range in a pattern, after its points. -/
def patternRange : Rule Part :=
  oneOf [
    inOrder [operators ["..=", "..."], part patternBound],
    inOrder [operatorBut ".." ["..=", "..."], either (ahead patternBoundStop) (part patternBound)]]

/-- A field in the pattern of a structure. -/
def patternField : Rule Part :=
  inOrder [attributes,
    oneOf [
      inOrder [either name fieldNumber, absent colons, operator [':'], part patterns],
      inOrder [optional (words ["box"]), optional (words ["ref"]), optional (words ["mut"]), name]]]

/-- A pattern that begins with a path. -/
def pathPattern : Rule Part :=
  let others := inOrder [attributes, operator ['.', '.']]
  either call
    (inOrder [patternPath,
      oneOf [
        listEnding '{' patternField others others,
        list '(' (part patterns),
        inOrder [ahead (operator ['.', '.']), patternRange],
        absent (oneOf [opening '{', opening '(', operator ['.', '.']])]])

/-- A range in a pattern without one of its bounds. -/
def halfPatternRange : Rule Part :=
  either
    (inOrder [part patternBound, operatorBut ".." ["..=", "..."]])
    (inOrder [operators ["..=", "...", ".."], part patternBound])

/-- A pattern in square brackets, where ranges have both bounds. -/
def elementPattern : Rule Part :=
  inOrder [absent (inOrder [halfPatternRange, either finish (operator [','])]), part patterns]

def pattern.rule : Rule Part :=
  let plain := inOrder [optional (words ["ref"]), optional (words ["mut"]), either name (words ["self"]),
    given (operator ['@']) (inOrder [operator ['@'], part pattern])]
  oneOf [
    inOrder [ahead patternPathStart, pathPattern],
    words ["_"],
    inOrder [words ["box"], part pattern],
    inOrder [either literal (inOrder [words ["const"], part body]),
      given (operator ['.', '.']) patternRange],
    inOrder [absent patternPathStart, plain],
    inOrder [operator ['&'], optional (words ["mut"]), part pattern],
    list '(' (part patterns),
    list '[' elementPattern,
    inOrder [absent (operator ['.', '.', '.']), patternRange]]

def patterns.rule : Rule Part :=
  let bar := operatorBut "|" ["||", "|="]
  inOrder [optional bar, part pattern, many (inOrder [bar, part pattern])]

end GridQuery.Declaration.Part
