import GridQuery.Declaration.Grammar.Value

/-!
# Rules of items

The rules of the items that blocks can declare: functions, types, traits, implementations and the rest.
-/

namespace GridQuery.Declaration.Part

open Rule

/-! ### Generics -/

/-- The default of something, after an equals sign. -/
def default (rule : Rule Part) : Rule Part :=
  given (operator ['=']) (inOrder [operator ['='], rule])

/-- A type after its colon. -/
def typed : Rule Part :=
  inOrder [operator [':'], part (type true)]

def parameterEnd : Rule Part :=
  operators [",", ">"]

/-- Parameters of something generic. -/
def generics.rule : Rule Part :=
  let bounded (ending rule : Rule Part) : Rule Part :=
    given (operator [':']) (inOrder [operator [':'], sumUntil ending rule])
  let constant := oneOf [literal, name, part body]
  let parameter := inOrder [attributes,
    oneOf [
      inOrder [lifetime, bounded parameterEnd lifetime],
      inOrder [either name (words ["_"]),
        bounded (oneOf [finish, parameterEnd, operator ['=']]) (part (bound true)),
        default (part (type true))],
      inOrder [words ["const"], name, typed, default constant]]]
  given (operator ['<'])
    (inOrder [operator ['<'], listUntil (operator ['>']) parameter, operator ['>']])

/-- Conditions on types and lifetimes. -/
def whereClause.rule : Rule Part :=
  let ending := oneOf [finish, opening '{', operators [",", ";", "="], operatorBut ":" ["::"]]
  let condition := either
    (inOrder [lifetime, operator [':'],
      sumUntil (oneOf [finish, opening '{', operators [",", ";", ":", "="]]) lifetime])
    (inOrder [absent (inOrder [lifetime, operator [':']]), optional (part lifetimes), part (type true),
      operator [':'], sumUntil ending (part (bound true))])
  given (words ["where"])
    (inOrder [words ["where"], either (ahead ending)
      (inOrder [condition, many (inOrder [operator [','], absent ending, condition]),
        optional (operator [','])])])

/-! ### Functions -/

/-- Who can see an item. -/
def visibility : Rule Part :=
  let place := either (words ["crate", "self", "super"]) (inOrder [words ["in"], namePath])
  optional (inOrder [words ["pub"], optional (inBrackets '(' place)])

/-- What stands before the word of a function. -/
def functionMarks (withSafe : Bool) : Rule Part :=
  inOrder [optional (words ["const"]), optional (words ["async"]),
    optional (words (if withSafe then ["unsafe", "safe"] else ["unsafe"])), optional foreign]

/-- Parameters of a function. Only the first can be the receiver of a method. -/
def parameters : Rule Part :=
  let receiver := either
    (inOrder [operator ['&'], optional lifetime, optional (words ["mut"]), words ["self"]])
    (inOrder [optional (words ["mut"]), words ["self"], given (operator [':']) typed])
  let bare := inOrder [name, operator ['<']]
  let dots := operator ['.', '.', '.']
  let parameter := either (inOrder [ahead bare, part (type true)])
    (inOrder [absent bare, part pattern, typed])
  let others := inOrder [attributes, optional (inOrder [part pattern, operator [':']]), dots]
  let ending := inOrder [others, optional (operator [','])]
  let further := inOrder [attributes, absent receiver, parameter]
  inBrackets '(' (oneOf [
    finish,
    both (ahead others) ending,
    inOrder [absent others, attributes, either receiver (inOrder [absent receiver, parameter]),
      many (inOrder [operator [','], absent finish, absent others, further]),
      optional (both (operator [',']) (given others ending))]])

/-- A function up to its body. -/
def signature (withSafe : Bool) : Rule Part :=
  inOrder [functionMarks withSafe, words ["fn"], name, part generics, parameters, output true,
    part whereClause]

/-- Where a function begins. -/
def functionStart (withSafe : Bool) : Rule Part :=
  inOrder [functionMarks withSafe, words ["fn"]]

/-- A function that may have no body. -/
def function (withSafe : Bool) : Rule Part :=
  inOrder [signature withSafe, either (operator [';']) (part body)]

/-! ### Values and types -/

def constantItem : Rule Part :=
  inOrder [words ["const"], either name (words ["_"]), part generics, typed, default (part (value true)),
    part whereClause, operator [';']]

/-- A type with another name, whose conditions stand before it or after it. -/
def typeItem (conditionsFirst : Bool) : Rule Part :=
  let ending := either (words ["where"]) (operators ["=", ";"])
  let bounds := given (operator [':']) (inOrder [operator [':'], sumUntil ending (part (bound true))])
  let definition := default (part (type true))
  inOrder [words ["type"], name, part generics, bounds,
    if conditionsFirst then both (part whereClause) definition else both definition (part whereClause),
    operator [';']]

def namedFields : Rule Part :=
  let nested := inOrder [words ["_"], operator [':'],
    either (words ["struct"]) (inOrder [words ["union"], ahead (opening '{')]), groupIn '{']
  list '{' (inOrder [attributes, visibility,
    either nested (inOrder [absent (inOrder [words ["_"], operator [':'], words ["struct"]]),
      either name (words ["_"]), typed])])

def positionalFields : Rule Part :=
  list '(' (inOrder [attributes, visibility, part (type true)])

def structureItem : Rule Part :=
  inOrder [words ["struct"], name, part generics,
    either (inOrder [ahead (opening '('), positionalFields, part whereClause, operator [';']])
      (inOrder [part whereClause, either namedFields (operator [';'])])]

def enumerationItem : Rule Part :=
  let variant := inOrder [attributes, visibility, name,
    oneOf [namedFields, positionalFields, absent (either (opening '{') (opening '('))],
    default (part (value true))]
  inOrder [words ["enum"], name, part generics, part whereClause, list '{' variant]

/-! ### Groups of items -/

/-- What a path makes of a group as an item. Only braces need no semicolon. -/
def madeItem : Rule Part :=
  inOrder [namePath, operator ['!'], optional (either name (words ["try"])),
    either (groupIn '{') (inOrder [absent (opening '{'), group, operator [';']])]

/-- What a path makes of a group among the items of a trait. -/
def madeMember : Rule Part :=
  inOrder [namePath, operator ['!'],
    either (groupIn '{') (inOrder [absent (opening '{'), group, operator [';']])]

/-- Items in braces. -/
def itemsIn (rule : Rule Part) : Rule Part :=
  inBrackets '{' (inOrder [innerAttributes, many rule])

def foreignItem.rule : Rule Part :=
  inOrder [attributes, oneOf [
    inOrder [visibility, function true],
    inOrder [visibility, absent (functionStart true), optional (words ["unsafe", "safe"]), words ["static"],
      optional (words ["mut"]), name, typed, default (part (value true)), operator [';']],
    inOrder [visibility, typeItem true],
    madeMember]]

def traitItem.rule : Rule Part :=
  inOrder [attributes, either
    (inOrder [visibility, optional (words ["default"]),
      oneOf [function false, inOrder [absent (functionStart false), constantItem], typeItem false]])
    madeMember]

def implItem.rule : Rule Part :=
  inOrder [attributes, either
    (inOrder [visibility, optional (inOrder [words ["default"], absent (operator ['!'])]),
      oneOf [function false, inOrder [absent (functionStart false), constantItem], typeItem false]])
    madeMember]

/-- Bounds up to the given end. -/
def superBounds (ending : Rule Part) : Rule Part :=
  sumUntil ending (part (bound true))

def traitBody : Rule Part :=
  let ending := either (words ["where"]) (opening '{')
  inOrder [given (operator [':']) (inOrder [operator [':'], superBounds ending]), part whereClause,
    itemsIn (part traitItem)]

def traitDeclaration : Rule Part :=
  let renamed := inOrder [operator ['='], superBounds (either (words ["where"]) (operator [';'])),
    part whereClause, operator [';']]
  either
    (inOrder [words ["trait"], name, part generics, either traitBody renamed])
    (inOrder [optional (words ["unsafe"]), optional (words ["auto"]), words ["trait"], name, part generics,
      traitBody])

/-- Where angle brackets are parameters and not the beginning of a type. -/
def parametersStart : Rule Part :=
  inOrder [operator ['<'],
    oneOf [
      operators [">", "#"],
      words ["const"],
      inOrder [either lifetime name, either (operators [">", ",", "="]) (operatorBut ":" ["::"])]]]

def implementation : Rule Part :=
  inOrder [optional (words ["default"]), optional (words ["unsafe"]), words ["impl"],
    given parametersStart (part generics),
    optional (inOrder [optional (operator ['?']), words ["const"]]),
    optional (inOrder [operator ['!'], absent (opening '{')]),
    part (type true), given (words ["for"]) (inOrder [words ["for"], part (type true)]), part whereClause,
    itemsIn (part implItem)]

/-! ### Imports and modules -/

/-- The new name of an import. -/
def newName : Rule Part :=
  given (words ["as"]) (inOrder [words ["as"], either name (words ["_"])])

def useTree.rule (fromRoot : Bool) : Rule Part :=
  let nested := if fromRoot then
    either (inOrder [colons, part (useTree false)]) (inOrder [absent colons, part (useTree true)])
  else
    part (useTree false)
  oneOf [
    inOrder [either name (words ["self", "super", "crate", "Self", "try"]),
      either (inOrder [colons, part (useTree false)]) (inOrder [absent colons, newName])],
    operator ['*'],
    list '{' nested]

def foreignBlock : Rule Part :=
  inOrder [optional (words ["unsafe"]), foreign, itemsIn (part foreignItem)]

/-- An item after its visibility. -/
def visibleItem : Rule Part :=
  oneOf [
    inOrder [ahead (functionStart false), function false],
    inOrder [words ["extern"], words ["crate"], either name (words ["self"]), newName, operator [';']],
    foreignBlock,
    inOrder [words ["use"],
      either (inOrder [colons, part (useTree false)]) (inOrder [absent colons, part (useTree true)]),
      operator [';']],
    inOrder [words ["static"], optional (words ["mut"]), name,
      either (inOrder [operator ['='], part (value true)]) (inOrder [typed, default (part (value true))]),
      operator [';']],
    constantItem,
    inOrder [optional (words ["unsafe"]), words ["mod"], either name (words ["try"]),
      either (operator [';']) (itemsIn (inOrder [attributes, part item]))],
    typeItem true,
    structureItem,
    enumerationItem,
    inOrder [words ["union"], name, part generics, part whereClause, namedFields],
    traitDeclaration,
    implementation,
    inOrder [words ["macro"], name, optional (groupIn '('), groupIn '{']]

def item.rule : Rule Part :=
  either (inOrder [visibility, visibleItem]) madeItem

end GridQuery.Declaration.Part
