import GridQuery.Request.Parser
import GridQuery.Text.Utf8
import GridQuery.Uuid

/-!
# Query strings

The parameters in the query of an address, in the encoding of forms. Reading them never fails: a percent
sign that begins no byte stands for itself.
-/

namespace GridQuery.Http

/-- The query of an address: what stands between the first question mark and the fragment. -/
def queryOf (address : List Char) : List Char :=
  ((address.takeWhile (· != '#')).dropWhile (· != '?')).drop 1

/-- The byte of a percent sign. -/
def percentByte : UInt8 := 0x25

/-- The byte of two hexadecimal digits. -/
def hexByte? (high low : UInt8) : Option UInt8 :=
  (Uuid.hexValue? 0 [Char.ofNat high.toNat, Char.ofNat low.toNat]).map UInt8.ofNat

/-- Bytes with every percent sign and the two digits after it turned into the byte they stand for. -/
def percentDecode : List UInt8 → List UInt8
  | [] => []
  | [byte] => [byte]
  | [first, second] => [first, second]
  | mark :: high :: low :: rest =>
      if mark = percentByte then
        match hexByte? high low with
        | some byte => byte :: percentDecode rest
        | none => mark :: percentDecode (high :: low :: rest)
      else
        mark :: percentDecode (high :: low :: rest)

/-- A name or value of a query as a text. A plus stands for a space. -/
def decode (text : List Char) : String :=
  let spaced := text.map fun c => if c = '+' then ' ' else c
  String.ofList (Text.textOfBytes (percentDecode (Text.utf8Bytes spaced)))

/-- The name and value of a part of a query. A part without an equals sign has an empty value. -/
def entry (part : List Char) : String × String :=
  (decode (part.takeWhile (· != '=')), decode ((part.dropWhile (· != '=')).drop 1))

/-- The names and values of a query, in order. Empty parts are skipped. -/
def entries (query : List Char) : List (String × String) :=
  ((Text.splitOn ['&'] query).filter (!·.isEmpty)).map entry

def params (address : String) : Params :=
  Params.ofList (entries (queryOf address.toList))

def readRequest (options : ParsingOptions) (address : String) : Except GridError RequestSpec :=
  RequestParser.parse options .all (params address)

end GridQuery.Http
