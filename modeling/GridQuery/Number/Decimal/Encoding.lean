import GridQuery.Json.Document
import GridQuery.Json.Numeral
import GridQuery.Number.Decimal.Reader

/-!
# Decimals in JSON

A decimal is exchanged as a string, which keeps its places. A number is taken too, by its text.
-/

namespace GridQuery.Number.Decimal

open Json

/-- The decimal that a string or a number gives. -/
def ofDocument? : Document → Option Decimal
  | .string text => text.bind fun text => read? text.toList
  | .number text =>
      match numeral? text with
      | some (.integer value) => readPlain? (integerText value)
      | some (.float value) => readPlain? value.text
      | _ => none
  | _ => none

end GridQuery.Number.Decimal
