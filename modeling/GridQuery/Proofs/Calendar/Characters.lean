import Mathlib.Data.List.TakeWhile
import GridQuery.Calendar.Reader

/-!
# Characters that patterns take

An item of a pattern takes characters of its own sort from the front of a text,
and a literal takes exactly its character.  So a text that is read by a pattern
has every literal of it, and no character that none of its items takes.  Patterns
that differ in such a character never read the same text.
-/

namespace GridQuery

/-- A text consists of characters that pass, followed by a rest. -/
def Text.Spends (passes : Char → Bool) (text rest : List Char) : Prop :=
  ∃ used, text = used ++ rest ∧ ∀ c ∈ used, passes c = true

namespace Text.Spends

variable {passes admits : Char → Bool} {text middle rest : List Char}

theorem refl (text : List Char) : Spends passes text text :=
  ⟨[], rfl, by simp⟩

theorem cons {c : Char} (passed : passes c = true)
    (spends : Spends passes text rest) : Spends passes (c :: text) rest := by
  obtain ⟨used, rfl, usedPass⟩ := spends
  exact ⟨c :: used, rfl, List.forall_mem_cons.mpr ⟨passed, usedPass⟩⟩

theorem trans (first : Spends passes text middle)
    (second : Spends passes middle rest) : Spends passes text rest := by
  obtain ⟨used, rfl, usedPass⟩ := first
  obtain ⟨further, rfl, furtherPass⟩ := second
  exact ⟨used ++ further, by rw [List.append_assoc],
    List.forall_mem_append.mpr ⟨usedPass, furtherPass⟩⟩

theorem mono (spends : Spends passes text rest)
    (weaker : ∀ c, passes c = true → admits c = true) :
    Spends admits text rest := by
  obtain ⟨used, rfl, usedPass⟩ := spends
  exact ⟨used, rfl, fun c member => weaker c (usedPass c member)⟩

theorem dropWhile (text : List Char) :
    Spends passes text (text.dropWhile passes) :=
  ⟨text.takeWhile passes, List.takeWhile_append_dropWhile.symm,
    fun _ => List.mem_takeWhile_imp⟩

theorem trimStart (blanksPass : ∀ c, isBlank c = true → passes c = true)
    (text : List Char) : Spends passes text (Text.trimStart text) :=
  (dropWhile text).mono blanksPass

theorem drop {start : List Char} (begins : start <+: text)
    (startPasses : ∀ c ∈ start, passes c = true) :
    Spends passes text (text.drop start.length) :=
  ⟨start, (List.prefix_iff_eq_append.mp begins).symm, startPasses⟩

theorem subset (spends : Spends passes text rest) : rest ⊆ text := by
  obtain ⟨used, rfl, -⟩ := spends
  exact List.subset_append_right used rest

end Text.Spends

namespace Calendar

open Text (Spends)

/-- Whether a character is an ASCII letter, in any case. -/
def isLetter (c : Char) : Bool :=
  c.toLower.isLower

/-- Whether a character can be part of a number with blanks before it. -/
def writesNumber (c : Char) : Bool :=
  Text.isBlank c || c.isDigit || c == '-' || c == '+'

/-- Whether a character can be part of an offset in digits, with blanks before
it. -/
def writesOffset (c : Char) : Bool :=
  Text.isBlank c || c.isDigit || c == ':' || (offsetSign? c).isSome

/-- Whether an item can take a character from a text. -/
def Item.takes : Item → Char → Bool
  | .literal mark, c => c == mark
  | .blanks, c => Text.isBlank c
  | .number _, c => writesNumber c
  | .monthName _, c | .weekdayName _, c | .halfOfDay, c => isLetter c
  | .fraction, c | .pointedFraction _, c => c == '.' || c.isDigit
  | .bareFraction _, c => c.isDigit
  | .zoneName, c => !Text.isBlank c
  | .offset, c => writesOffset c
  | .laxOffset, c | .namedOffset, c => writesOffset c || isLetter c
  | .timeMark, c => c == 'T' || c == 't' || c == ' '

section Parts

variable {text : List Char}

theorem spends_readDigits? {width : Option Nat} {found : Int × List Char}
    (read : readDigits? width text = some found) :
    Spends Char.isDigit text found.2 := by
  simp only [readDigits?] at read
  split at read
  · cases read
  · split at read
    · cases read
      exact .drop ((List.takeWhile_prefix _).trans (List.take_prefix _ text))
        fun _ => List.mem_takeWhile_imp
    · cases read

theorem spends_readNumber? {part : NumberPart} {found : Int × List Char}
    (read : readNumber? part text = some found) :
    Spends writesNumber text found.2 := by
  have digit (c : Char) (isDigit : c.isDigit = true) :
      writesNumber c = true := by
    simp [writesNumber, isDigit]
  unfold readNumber? at read
  split at read
  · obtain ⟨digits, readDigits, rfl⟩ := Option.map_eq_some_iff.mp read
    exact ((spends_readDigits? readDigits).mono digit).cons rfl
  · exact ((spends_readDigits? read).mono digit).cons rfl
  · exact (spends_readDigits? read).mono digit

theorem spends_dropWord? {word rest : List Char}
    (lower : word.all Char.isLower = true)
    (dropped : dropWord? word text = some rest) :
    Spends isLetter text rest := by
  unfold dropWord? at dropped
  split at dropped
  · rename_i same
    cases dropped
    refine ⟨text.take word.length, (List.take_append_drop _ text).symm, ?_⟩
    intro c member
    apply List.all_eq_true.mp lower
    rw [← beq_iff_eq.mp same]
    exact List.mem_map_of_mem member
  · cases dropped

/-- The words that names are put together from are in lower case. -/
def InLowerCase (names : List (List Char × List Char)) : Prop :=
  ∀ name ∈ names, name.1.all Char.isLower = true ∧
    name.2.all Char.isLower = true

theorem inLowerCase_monthNames : InLowerCase monthNames := by
  unfold InLowerCase
  decide

theorem inLowerCase_weekdayNames : InLowerCase weekdayNames := by
  unfold InLowerCase
  decide

theorem spends_readName? {full : Bool} {place : Nat}
    {names : List (List Char × List Char)} {found : Nat × List Char}
    (lower : InLowerCase names)
    (read : readName? full text place names = some found) :
    Spends isLetter text found.2 := by
  induction names generalizing place with
  | nil => cases read
  | cons name names induction =>
      obtain ⟨⟨startLower, tailLower⟩, othersLower⟩ :=
        List.forall_mem_cons.mp lower
      unfold readName? at read
      split at read
      · rename_i rest dropped
        have start := spends_dropWord? startLower dropped
        cases read
        cases full with
        | false => exact start
        | true =>
            cases more : dropWord? name.2 rest with
            | none => simpa [more] using start
            | some finish =>
                simpa [more] using
                  start.trans (spends_dropWord? tailLower more)
      · exact induction othersLower read

theorem spends_readFraction? {found : Int × List Char}
    (read : readFraction? text = some found) :
    Spends Char.isDigit text found.2 := by
  obtain ⟨digits, readDigits, rfl⟩ := Option.map_eq_some_iff.mp read
  exact (spends_readDigits? readDigits).trans (.dropWhile digits.2)

theorem spends_readPlaces? {places : Nat} {found : Int × List Char}
    (read : readPlaces? places text = some found) :
    Spends Char.isDigit text found.2 := by
  obtain ⟨digits, readDigits, counted⟩ := Option.bind_eq_some_iff.mp read
  have spent := spends_readDigits? readDigits
  split at counted
  · cases counted
    exact spent
  · cases counted

theorem spends_readPair? {found : Nat × List Char}
    (read : readPair? text = some found) :
    Spends Char.isDigit text found.2 := by
  unfold readPair? at read
  split at read
  · rename_i tens ones rest
    obtain ⟨value, readNumber, rfl⟩ := Option.map_eq_some_iff.mp read
    refine ⟨[tens, ones], rfl, ?_⟩
    unfold Number.natural? at readNumber
    split at readNumber
    · rename_i digits
      exact List.all_eq_true.mp (Bool.and_eq_true_iff.mp digits).2
    · cases readNumber
  · cases read

theorem spends_readMinutes? {optional : Bool} {found : Nat × List Char}
    (read : readMinutes? optional text = some found) :
    Spends Char.isDigit text found.2 := by
  unfold readMinutes? at read
  split at read
  · rename_i missing
    have empty : text = [] :=
      List.isEmpty_iff.mp (Bool.and_eq_true_iff.mp missing).2
    cases read
    rw [empty]
    exact .refl []
  · obtain ⟨readPair, -⟩ := Option.filter_eq_some_iff.mp read
    exact spends_readPair? readPair

theorem spends_readOffset? {optional : Bool} {found : Int × List Char}
    (read : readOffset? optional text = some found) :
    Spends writesOffset text found.2 := by
  have digit (c : Char) (isDigit : c.isDigit = true) :
      writesOffset c = true := by
    simp [writesOffset, isDigit]
  have between (c : Char) (mark : (c == ':' || Text.isBlank c) = true) :
      writesOffset c = true := by
    rcases Bool.or_eq_true_iff.mp mark with colon | blank
    · simp [writesOffset, colon]
    · simp [writesOffset, blank]
  cases text with
  | nil => cases read
  | cons c text =>
      obtain ⟨sign, signed, read⟩ := Option.bind_eq_some_iff.mp read
      obtain ⟨⟨hours, rest⟩, readHours, read⟩ := Option.bind_eq_some_iff.mp read
      obtain ⟨⟨minutes, finish⟩, readMinutes, read⟩ :=
        Option.bind_eq_some_iff.mp read
      cases read
      have signPasses : writesOffset c = true := by simp [writesOffset, signed]
      have hoursSpent := (spends_readPair? readHours).mono digit
      have marksSpent : Spends writesOffset rest _ := (Spends.dropWhile rest).mono between
      have minutesSpent := (spends_readMinutes? readMinutes).mono digit
      exact ((hoursSpent.trans marksSpent).trans minutesSpent).cons signPasses

theorem spends_readZuluOrOffset? {optional : Bool} {found : Int × List Char}
    (read : readZuluOrOffset? optional text = some found) :
    Spends (fun c => writesOffset c || isLetter c) text found.2 := by
  unfold readZuluOrOffset? at read
  split at read
  · cases read
    exact (Spends.refl _).cons (by decide)
  · cases read
    exact (Spends.refl _).cons (by decide)
  · exact (spends_readOffset? read).mono fun c passed => by simp [passed]

theorem spends_readNamedOffset? {found : Int × List Char}
    (read : readNamedOffset? text = some found) :
    Spends (fun c => writesOffset c || isLetter c) text found.2 := by
  unfold readNamedOffset? at read
  split at read
  · rename_i rest dropped
    cases read
    exact (spends_dropWord? (by decide) dropped).mono
      fun c letter => by simp [letter]
  · exact spends_readZuluOrOffset? read

theorem exists_of_readThenSet {α : Type} {read : Option (α × List Char)}
    {set : α → Option Fields} {found : Fields × List Char}
    (done : (do
      let (value, rest) ← read
      let fields ← set value
      return (fields, rest)) = some found) :
    ∃ value, read = some (value, found.2) := by
  obtain ⟨⟨value, rest⟩, known, done⟩ := Option.bind_eq_some_iff.mp done
  obtain ⟨fields, -, done⟩ := Option.bind_eq_some_iff.mp done
  cases done
  exact ⟨value, known⟩

theorem Item.spends_read? {item : Item} {fields : Fields}
    {found : Fields × List Char}
    (read : item.read? fields text = some found) :
    Spends item.takes text found.2 := by
  have blankInOffset (c : Char) (blank : Text.isBlank c = true) :
      writesOffset c = true := by simp [writesOffset, blank]
  cases item with
  | literal mark =>
      cases text with
      | nil => cases read
      | cons first rest =>
          simp only [Item.read?] at read
          split at read
          · rename_i same
            cases read
            exact (Spends.refl rest).cons (by simp [takes, same])
          · cases read
  | blanks =>
      cases read
      exact .dropWhile text
  | number part =>
      obtain ⟨value, readNumber⟩ := exists_of_readThenSet read
      have blankInNumber (c : Char) (blank : Text.isBlank c = true) :
          writesNumber c = true := by simp [writesNumber, blank]
      exact (Spends.trimStart blankInNumber text).trans
        (spends_readNumber? readNumber)
  | monthName full =>
      obtain ⟨⟨place, rest⟩, readName, read⟩ := Option.bind_eq_some_iff.mp read
      obtain ⟨set, -, read⟩ := Option.bind_eq_some_iff.mp read
      cases read
      exact spends_readName? inLowerCase_monthNames readName
  | weekdayName full =>
      obtain ⟨⟨place, rest⟩, readName, read⟩ := Option.bind_eq_some_iff.mp read
      obtain ⟨set, -, read⟩ := Option.bind_eq_some_iff.mp read
      cases read
      exact spends_readName? inLowerCase_weekdayNames readName
  | halfOfDay =>
      simp only [Item.read?] at read
      split at read
      · rename_i rest dropped
        obtain ⟨set, -, rfl⟩ := Option.map_eq_some_iff.mp read
        exact spends_dropWord? (by decide) dropped
      · obtain ⟨rest, dropped, read⟩ := Option.bind_eq_some_iff.mp read
        obtain ⟨set, -, read⟩ := Option.bind_eq_some_iff.mp read
        cases read
        exact spends_dropWord? (by decide) dropped
  | fraction =>
      simp only [Item.read?] at read
      split at read
      · obtain ⟨value, readFraction⟩ := exists_of_readThenSet read
        have digitsSpent := spends_readFraction? readFraction
        exact (digitsSpent.mono fun c digit => by simp [takes, digit]).cons rfl
      · cases read
        exact .refl text
  | pointedFraction places =>
      simp only [Item.read?] at read
      split at read
      · obtain ⟨value, readPlaces⟩ := exists_of_readThenSet read
        have digitsSpent := spends_readPlaces? readPlaces
        exact (digitsSpent.mono fun c digit => by simp [takes, digit]).cons rfl
      · cases read
        exact .refl text
  | bareFraction places =>
      obtain ⟨value, readPlaces⟩ := exists_of_readThenSet read
      exact spends_readPlaces? readPlaces
  | zoneName =>
      cases read
      exact .dropWhile text
  | offset =>
      obtain ⟨seconds, readOffset⟩ := exists_of_readThenSet read
      exact (Spends.trimStart blankInOffset text).trans
        (spends_readOffset? readOffset)
  | laxOffset =>
      obtain ⟨seconds, readOffset⟩ := exists_of_readThenSet read
      have blanksPass (c : Char) (blank : Text.isBlank c = true) :
          laxOffset.takes c = true := by simp [takes, blankInOffset c blank]
      exact (Spends.trimStart blanksPass text).trans
        (spends_readZuluOrOffset? readOffset)
  | namedOffset =>
      obtain ⟨seconds, readOffset⟩ := exists_of_readThenSet read
      have blanksPass (c : Char) (blank : Text.isBlank c = true) :
          namedOffset.takes c = true := by simp [takes, blankInOffset c blank]
      exact (Spends.trimStart blanksPass text).trans
        (spends_readNamedOffset? readOffset)
  | timeMark =>
      cases text with
      | nil => cases read
      | cons c rest =>
          simp only [Item.read?] at read
          split at read
          · rename_i mark
            cases read
            exact (Spends.refl rest).cons mark
          · cases read

end Parts

section Items

variable {items : List Item} {fields : Fields} {text : List Char}
  {found : Fields × List Char}

theorem spends_readItems? (read : readItems? items fields text = some found) :
    Spends (fun c => items.any (·.takes c)) text found.2 := by
  induction items generalizing fields text with
  | nil =>
      cases read
      exact .refl text
  | cons item items induction =>
      obtain ⟨middle, readItem, readOthers⟩ := Option.bind_eq_some_iff.mp read
      apply ((item.spends_read? readItem).mono ?_).trans
        ((induction readOthers).mono ?_)
      · intro c taken
        simp [taken]
      · intro c taken
        rw [List.any_cons, taken, Bool.or_true]

theorem mem_of_readItems? {mark : Char}
    (read : readItems? items fields text = some found)
    (listed : .literal mark ∈ items) : mark ∈ text := by
  induction items generalizing fields text with
  | nil => cases listed
  | cons item items induction =>
      obtain ⟨middle, readItem, readOthers⟩ := Option.bind_eq_some_iff.mp read
      cases listed with
      | head =>
          cases text with
          | nil => cases readItem
          | cons first rest =>
              simp only [Item.read?] at readItem
              split at readItem
              · rename_i same
                rw [same]
                exact List.mem_cons_self
              · cases readItem
      | tail _ further =>
          exact (item.spends_read? readItem).subset
            (induction readOthers further)

theorem exists_of_readFields? {parts : Fields}
    (read : readFields? items text = some parts) :
    readItems? items Fields.empty text = some (parts, []) := by
  unfold readFields? at read
  split at read
  · rename_i readAll
    cases read
    exact readAll
  · cases read

end Items

section Patterns

variable {pattern text : List Char} {items : List Item}

/-- A text that is read as a day consists of characters that items of the
pattern take. -/
theorem takes_of_readDate? {date : Date}
    (known : items? pattern = some items)
    (read : readDate? pattern text = some date) {c : Char} (member : c ∈ text) :
    items.any (·.takes c) = true := by
  obtain ⟨fields, readFields, -⟩ := Option.bind_eq_some_iff.mp read
  rw [known] at readFields
  obtain ⟨used, shape, taken⟩ :=
    spends_readItems? (exists_of_readFields? readFields)
  rw [List.append_nil] at shape
  exact taken c (shape ▸ member)

theorem mem_of_readDateTime? {moment : DateTime} {mark : Char}
    (known : items? pattern = some items) (listed : .literal mark ∈ items)
    (read : readDateTime? pattern text = some moment) : mark ∈ text := by
  obtain ⟨fields, readFields, -⟩ := Option.bind_eq_some_iff.mp read
  rw [known] at readFields
  exact mem_of_readItems? (exists_of_readFields? readFields) listed

end Patterns

end Calendar

end GridQuery
