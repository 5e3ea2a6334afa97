import GridQuery.Text.CaseTable

/-!
# Unicode lower case

The full lower-case form of a text. Each character has its own form, except that a capital sigma
becomes a final sigma at the end of a word: after a cased character and not before one, where
case-ignorable characters in between do not count.
-/

namespace GridQuery.Text

/-- Whether a code point lies in one of the runs. -/
def inRuns (runs : List (Nat × Nat)) (code : Nat) : Bool :=
  runs.any fun run => run.1 ≤ code && code ≤ run.2

/-- Characters that are passed over when looking for a cased neighbour. -/
def isCaseIgnorable (c : Char) : Bool :=
  inRuns ignorableRuns c.toNat

/-- Cased characters, the case-ignorable ones left out. -/
def isCased (c : Char) : Bool :=
  inRuns casedRuns c.toNat

/-- The lower-case form of one character by itself. Only the dotted capital I has two characters. -/
def lowercaseChar (c : Char) : List Char :=
  if c.toNat < 0x80 then
    [c.toLower]
  else if c = 'İ' then
    ['i', '\u0307']
  else
    match lowercaseRuns.find? (·.covers c.toNat) with
    | some run => [Char.ofNat (run.image + (c.toNat - run.first))]
    | none => [c]

/-- Whether the first character that is not case-ignorable is cased. -/
def meetsCased (text : List Char) : Bool :=
  match text.dropWhile isCaseIgnorable with
  | [] => false
  | c :: _ => isCased c

/-- The lower-case form of `text`, where `before` is what stands in front of it, last character
first. -/
def lowercaseAfter (before : List Char) : List Char → List Char
  | [] => []
  | c :: rest =>
      if c = 'Σ' then
        (if meetsCased before && !meetsCased rest then 'ς' else 'σ') ::
          lowercaseAfter (c :: before) rest
      else
        lowercaseChar c ++ lowercaseAfter (c :: before) rest

/-- The full Unicode lower-case form of a text. -/
def lowercase (text : List Char) : List Char :=
  lowercaseAfter [] text

end GridQuery.Text
