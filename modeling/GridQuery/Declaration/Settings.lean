import GridQuery.Declaration.Argument
import GridQuery.Declaration.Basic

/-!
# Settings of fields and variants

What the attributes of a field or a variant say about its place in a grid. Every argument sets one thing,
they are read from left to right, and a later setting replaces an earlier one.
-/

namespace GridQuery.Declaration

/-- Why a declaration is refused. What is missing `atEnd` is missing after the last token. -/
inductive DeclarationError where
  | recordNeedsStructure
  | recordNeedsNamedFields
  | valueNeedsEnumeration
  | valueNeedsVariants
  | valueNeedsPlainVariants
  /-- The attribute has no arguments in parentheses. -/
  | missingArguments
  /-- The attribute has a value instead of arguments. -/
  | assignedAttribute
  /-- An argument begins with a literal. -/
  | unexpectedLiteral
  /-- An argument begins with what is neither a key nor a literal. -/
  | unexpectedToken
  /-- The arguments end where a key is needed. -/
  | missingKey
  /-- A double colon is not followed by a name. -/
  | missingName (atEnd : Bool)
  | unsupportedKey
  | missingAssignment
  | notText (atEnd : Bool)
  | emptyName
  /-- A setting is followed by something else than a comma. -/
  | missingComma
deriving DecidableEq

/-- What a message begins with where the arguments end too early. -/
def endNote (atEnd : Bool) : String :=
  if atEnd then "unexpected end of input, " else ""

def DeclarationError.message : DeclarationError → String
  | recordNeedsStructure => "GridRecord can only be derived for structs"
  | recordNeedsNamedFields => "GridRecord only supports structs with named fields"
  | valueNeedsEnumeration => "GridValue can only be derived for enums"
  | valueNeedsVariants => "GridValue needs at least one variant"
  | valueNeedsPlainVariants => "GridValue only supports unit variants"
  | missingArguments => "expected attribute arguments in parentheses: #[grid(...)]"
  | assignedAttribute => "expected parentheses: #[grid(...)]"
  | unexpectedLiteral => "unexpected literal in nested attribute, expected ident"
  | unexpectedToken => "unexpected token in nested attribute, expected ident"
  | missingKey => endNote true ++ "expected nested attribute"
  | missingName atEnd => endNote atEnd ++ "expected ident"
  | unsupportedKey => "unsupported grid attribute"
  | missingAssignment => "expected `=`"
  | notText atEnd => endNote atEnd ++ "expected string literal"
  | emptyName => "grid(rename) must not be empty"
  | missingComma => "expected `,`"

/-- What settings are for. -/
inductive Target where
  | field
  | variant
deriving DecidableEq

/-- What an argument sets. -/
inductive Setting where
  /-- The name that requests use. -/
  | rename (name : String)
  | column (name : String)
  /-- The field is left out. -/
  | skip
deriving DecidableEq

namespace Argument

/-- The text that is assigned by what follows a key, and what is left after it. -/
def assignedText (argument : Argument) : List Token → Except DeclarationError (String × List Token)
  | .sign '=' _ :: .text value :: rest => .ok (value, rest)
  | .sign '=' _ :: rest => .error (.notText (argument.isEnd rest))
  | _ => .error .missingAssignment

/-- A setting after which nothing may be left of its argument. -/
def complete (setting : Setting) (rest : List Token) : Except DeclarationError Setting :=
  if rest.isEmpty then .ok setting else .error .missingComma

/-- The setting of a key that is one word, given what follows the key. Variants can only be renamed. -/
def settingOf (target : Target) (argument : Argument) (key : String) (rest : List Token) :
    Except DeclarationError Setting :=
  if key = "rename" then
    (argument.assignedText rest).bind fun (name, rest) =>
      if (Text.trim name.toList).isEmpty then .error .emptyName else complete (.rename name) rest
  else if key = "column" ∧ target = .field then
    (argument.assignedText rest).bind fun (column, rest) => complete (.column column) rest
  else if key = "skip" ∧ target = .field then
    complete .skip rest
  else
    .error .unsupportedKey

/-- Why a key of several names is refused, given what follows the first of them. -/
def pathError (argument : Argument) : List Token → DeclarationError
  | .sign ':' true :: .sign ':' _ :: .word _ :: rest => pathError argument rest
  | .sign ':' true :: .sign ':' _ :: rest => .missingName (argument.isEnd rest)
  | _ => .unsupportedKey

/-- Why tokens are refused that are not a key of one word. -/
def keyError (argument : Argument) : List Token → DeclarationError
  | .word _ :: rest => pathError argument rest
  | .text _ :: _ => .unexpectedLiteral
  | .literal :: _ => .unexpectedLiteral
  | .number _ :: _ => .unexpectedLiteral
  | .sign '-' _ :: .number _ :: _ => .unexpectedLiteral
  | rest => if argument.isEnd rest then .missingKey else .unexpectedToken

/-- What an argument sets. -/
def setting (target : Target) (argument : Argument) : Except DeclarationError Setting :=
  match argument.tokens with
  | .word _ :: .sign ':' true :: .sign ':' next :: rest =>
      .error (argument.pathError (.sign ':' true :: .sign ':' next :: rest))
  | .word key :: rest => argument.settingOf target key rest
  | .sign ':' true :: .sign ':' _ :: rest => .error (argument.keyError rest)
  | tokens => .error (argument.keyError tokens)

end Argument

/-- What arguments set, in their order. -/
def settingsOfArguments (target : Target) : List Argument → Except DeclarationError (List Setting)
  | [] => .ok []
  | argument :: arguments =>
      (argument.setting target).bind fun setting =>
        (settingsOfArguments target arguments).map (setting :: ·)

/-- What an attribute sets. Only the attribute of the grid sets anything. -/
def Attribute.settings (target : Target) (entry : Attribute) : Except DeclarationError (List Setting) :=
  if entry.name = "grid" then
    match entry.content with
    | .bare => .error .missingArguments
    | .assigned => .error .assignedAttribute
    | .arguments tokens => settingsOfArguments target (Argument.ofTokens tokens)
  else
    .ok []

/-- What attributes set, in their order. -/
def settingsOfAttributes (target : Target) : List Attribute → Except DeclarationError (List Setting)
  | [] => .ok []
  | entry :: attributes =>
      (entry.settings target).bind fun settings =>
        (settingsOfAttributes target attributes).map (settings ++ ·)

/-- What is set for a field or a variant. -/
structure Settings where
  /-- The name that requests use. -/
  rename : Option String
  column : Option String
  /-- Whether the field is left out. -/
  skip : Bool
deriving DecidableEq

namespace Settings

def none : Settings :=
  ⟨Option.none, Option.none, false⟩

/-- The settings after one more. -/
def set (settings : Settings) : Setting → Settings
  | .rename name => { settings with rename := some name }
  | .column name => { settings with column := some name }
  | .skip => { settings with skip := true }

/-- The settings that stand after all of a list. -/
def ofList (list : List Setting) : Settings :=
  list.foldl set none

def ofAttributes (target : Target) (attributes : List Attribute) : Except DeclarationError Settings :=
  (settingsOfAttributes target attributes).map ofList

end Settings

end GridQuery.Declaration
