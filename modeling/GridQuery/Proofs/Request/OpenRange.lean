import GridQuery.Proofs.Filter.Range
import GridQuery.Proofs.Request.Shape

/-!
# Ranges that are open at a side

A range with one bound has the filter of this bound, and a range without bounds
has none.  Its value is trimmed before the separator is looked for, so a
separator with a blank at its end is no longer there behind a bound, one with a
blank at its beginning is no longer there before a bound, and the range is
malformed.
-/

namespace GridQuery

namespace Text

def beginsBlank (text : List Char) : Bool :=
  text.head?.any isBlank

def endsBlank (text : List Char) : Bool :=
  text.getLast?.any isBlank

section Separator

variable {separator text : List Char} (nonempty : separator ≠ [])

include nonempty

theorem exists_beginsBlank_eq :
    ∃ c rest, separator = c :: rest ∧ beginsBlank separator = isBlank c := by
  obtain ⟨c, rest, rfl⟩ := List.exists_cons_of_ne_nil nonempty
  exact ⟨c, rest, rfl, rfl⟩

theorem exists_endsBlank_eq :
    ∃ rest c, separator = rest ++ [c] ∧ endsBlank separator = isBlank c := by
  rcases List.eq_nil_or_concat separator with rfl | ⟨rest, c, rfl⟩
  · exact absurd rfl nonempty
  · exact ⟨rest, c, List.concat_eq_append, by simp [endsBlank]⟩

section Bound

variable (written : trim text ≠ []) (avoids : Avoids separator text)

include written avoids

/-- A separator behind a text is found if it does not end with a blank. -/
theorem splitOn_trim_append (visible : endsBlank separator = false) :
    ∃ first, splitOn separator (trim (text ++ separator)) = [first, []] ∧
      trim first = trim text := by
  rcases blank_or_exists_solid text with
    blank | ⟨before, core, after, rfl, beforeBlank, afterBlank, solid⟩
  · exact absurd (trim_eq_nil_of_blank blank) written
  obtain ⟨rest, c, shape, same⟩ := exists_endsBlank_eq nonempty
  obtain ⟨first, others, begins, firstVisible⟩ := solid.head
  have whole : Solid (core ++ after ++ separator) :=
    ⟨⟨first, others ++ after ++ separator, by simp [begins], firstVisible⟩,
      ⟨core ++ after ++ rest, c, by simp [shape], same.symm.trans visible⟩⟩
  have trimmed : trim (before ++ core ++ after ++ separator) =
      core ++ after ++ separator := by
    simpa using whole.trim_surrounded beforeBlank blank_nil
  have pieces := splitOn_two nonempty
    (avoids.subset (show core ++ after ⊆ before ++ core ++ after by simp))
    (avoids_nil separator)
  refine ⟨core ++ after, ?_, ?_⟩
  · rw [trimmed]
    simpa using pieces
  · rw [solid.trim_surrounded beforeBlank afterBlank]
    simpa using solid.trim_surrounded blank_nil afterBlank

/-- A separator before a text is found if it does not begin with a blank. -/
theorem splitOn_trim_prepend (visible : beginsBlank separator = false) :
    ∃ last, splitOn separator (trim (separator ++ text)) = [[], last] ∧
      trim last = trim text := by
  rcases blank_or_exists_solid text with
    blank | ⟨before, core, after, rfl, beforeBlank, afterBlank, solid⟩
  · exact absurd (trim_eq_nil_of_blank blank) written
  obtain ⟨c, rest, shape, same⟩ := exists_beginsBlank_eq nonempty
  obtain ⟨others, last, ends, lastVisible⟩ := solid.last
  have whole : Solid (separator ++ before ++ core) :=
    ⟨⟨c, rest ++ before ++ core, by simp [shape], same.symm.trans visible⟩,
      ⟨separator ++ before ++ others, last, by simp [ends], lastVisible⟩⟩
  have trimmed : trim (separator ++ (before ++ core ++ after)) =
      separator ++ before ++ core := by
    simpa using whole.trim_surrounded blank_nil afterBlank
  have pieces := splitOn_two nonempty (avoids_nil separator)
    (avoids.subset (show before ++ core ⊆ before ++ core ++ after by simp))
  refine ⟨before ++ core, ?_, ?_⟩
  · rw [trimmed]
    simpa using pieces
  · rw [solid.trim_surrounded beforeBlank afterBlank]
    simpa using solid.trim_surrounded beforeBlank blank_nil

end Bound

theorem splitOn_trim_separator (visibleStart : beginsBlank separator = false)
    (visibleEnd : endsBlank separator = false) :
    splitOn separator (trim separator) = [[], []] := by
  obtain ⟨c, rest, shape, same⟩ := exists_beginsBlank_eq nonempty
  obtain ⟨rest', c', shape', same'⟩ := exists_endsBlank_eq nonempty
  have solid : Solid separator :=
    ⟨⟨c, rest, shape, same.symm.trans visibleStart⟩,
      ⟨rest', c', shape', same'.symm.trans visibleEnd⟩⟩
  rw [solid.trim_eq]
  simpa using
    splitOn_two nonempty (avoids_nil separator) (avoids_nil separator)

theorem exists_shorter_of_endsBlank (blank : endsBlank separator = true) :
    ∃ part : List Char, part.length < separator.length ∧
      ∀ text, trim (text ++ separator) = trim (text ++ part) := by
  obtain ⟨part, c, rfl, same⟩ := exists_endsBlank_eq nonempty
  refine ⟨part, by simp, ?_⟩
  intro text
  have finish : Blank [c] := by simp [Blank, ← same, blank]
  simpa using trim_surrounded_of_blank blank_nil finish (text ++ part)

theorem exists_shorter_of_beginsBlank (blank : beginsBlank separator = true) :
    ∃ part : List Char, part.length < separator.length ∧
      ∀ text, trim (separator ++ text) = trim (part ++ text) := by
  obtain ⟨c, part, rfl, same⟩ := exists_beginsBlank_eq nonempty
  refine ⟨part, by simp, ?_⟩
  intro text
  have start : Blank [c] := by simp [Blank, ← same, blank]
  simpa using trim_surrounded_of_blank start blank_nil (part ++ text)

omit nonempty in
/-- A part of the separator between texts that have blank_nil of it is not the
separator, trimmed or not. -/
theorem splitOn_trim_part {before part after : List Char}
    (beforeAvoids : Avoids separator before)
    (afterAvoids : Avoids separator after)
    (shorter : part.length < separator.length) :
    splitOn separator (trim (before ++ part ++ after)) =
      [trim (before ++ part ++ after)] := by
  have none {piece : List Char} (avoids : Avoids separator piece) :
      piece.countP (· ∈ separator) = 0 := by
    rw [List.countP_eq_zero]
    intro c member inSeparator
    exact avoids c (of_decide_eq_true inSeparator) member
  -- Trimmed or not, the text has fewer characters of the separator than one
  -- occurrence of it would.
  apply splitOn_of_countP_lt
  calc (trim (before ++ part ++ after)).countP (· ∈ separator)
      ≤ (before ++ part ++ after).countP (· ∈ separator) :=
        (trim_sublist _).countP_le
    _ = part.countP (· ∈ separator) := by
        rw [List.countP_append, List.countP_append, none beforeAvoids,
          none afterAvoids]
        omega
    _ ≤ part.length := List.countP_le_length
    _ < separator.length := shorter

end Separator

end Text

open RequestParser

theorem Bound.ignoresBlanks_read? (options : ParsingOptions)
    (category : FilterCategory) (valueCategory : ValueCategory) :
    ParsingOptions.IgnoresBlanks (read? options category valueCategory) := by
  cases category with
  | numeric =>
      have ignores :=
        WrittenFilter.ignoresBlanks_numericValue? options valueCategory
      exact ⟨fun raw => congrArg (Option.map number) (ignores.trimmed raw),
        congrArg (Option.map number) ignores.empty⟩
  | date =>
      have ignores := options.ignoresBlanks_parseDate
      exact ⟨fun raw => congrArg (Option.map day) (ignores.trimmed raw),
        congrArg (Option.map day) ignores.empty⟩
  | text | singleSelect | multiSelect => exact ⟨fun _ => rfl, rfl⟩

theorem Bound.not_blank_of_read? {options : ParsingOptions}
    {category : FilterCategory} {valueCategory : ValueCategory}
    {text : String} {bound : Bound}
    (found : read? options category valueCategory text = some bound) :
    ¬ Text.Blank text.toList :=
  mt Text.trim_eq_nil_iff.mpr
    ((ignoresBlanks_read? options category valueCategory).trim_ne_nil found)

/-- A range of which at most one bound is written. -/
inductive OpenRange where
  | atLeast (low : Bound) (text : String)
  | atMost (high : Bound) (text : String)
  | unbounded

namespace OpenRange

def text (separator : String) : OpenRange → String
  | atLeast _ text => text ++ separator
  | atMost _ text => separator ++ text
  | unbounded => separator

/-- The filters that the range is to have. -/
def specs (field : String) (valueCategory : ValueCategory) :
    OpenRange → List FilterSpec
  | atLeast low _ => [low.filter field valueCategory .greaterThanOrEqual]
  | atMost high _ => [high.filter field valueCategory .lessThanOrEqual]
  | unbounded => []

/-- The text stands for the bound, and it has no character of the separator in
it. -/
def IsWritten (separator : String) (read : String → Option Bound) :
    OpenRange → Prop
  | atLeast bound text | atMost bound text =>
      read text = some bound ∧ Text.Avoids separator.toList text.toList
  | unbounded => True

/-- The separator has no blank at an end of the range, or it is a range without
bounds and has nothing but blanks. -/
def KeepsSeparator (separator : List Char) : OpenRange → Prop
  | atLeast .. => Text.endsBlank separator = false
  | atMost .. => Text.beginsBlank separator = false
  | unbounded => Text.Blank separator ∨
      Text.beginsBlank separator = false ∧ Text.endsBlank separator = false

section Reading

variable {options : ParsingOptions} {category : FilterCategory}
  {valueCategory : ValueCategory} {range : OpenRange}
  (separated : options.betweenSeparator ≠ "")
  (written : range.IsWritten options.betweenSeparator
    (Bound.read? options category valueCategory))

include separated written

theorem comparisonSpecs_text {field : String}
    (keeps : range.KeepsSeparator options.betweenSeparator.toList)
    (visible : Text.trimmed (range.text options.betweenSeparator) ≠ "") :
    comparisonSpecs options field
        (Text.trimmed (range.text options.betweenSeparator)) .between
        (Bound.read? options category valueCategory)
        (fun operator bound => bound.filter field valueCategory operator) =
      .ok (range.specs field valueCategory) := by
  have nonempty : options.betweenSeparator.toList ≠ [] := by
    simpa using separated
  have ignores := Bound.ignoresBlanks_read? options category valueCategory
  rw [comparisonSpecs, if_pos rfl, Text.toList_trimmed]
  cases range with
  | atLeast low text =>
      obtain ⟨found, avoids⟩ := written
      have solid := ignores.trim_ne_nil found
      obtain ⟨first, pieces, same⟩ :=
        Text.splitOn_trim_append nonempty solid avoids keeps
      rw [OpenRange.text, String.toList_append, pieces]
      simp only [rangeSpecs,
        WrittenComparison.bound?_eq_map ignores solid same, found]
      rfl
  | atMost high text =>
      obtain ⟨found, avoids⟩ := written
      have solid := ignores.trim_ne_nil found
      obtain ⟨last, pieces, same⟩ :=
        Text.splitOn_trim_prepend nonempty solid avoids keeps
      rw [OpenRange.text, String.toList_append, pieces]
      simp only [rangeSpecs,
        WrittenComparison.bound?_eq_map ignores solid same, found]
      rfl
  | unbounded =>
      rcases keeps with blank | ⟨visibleStart, visibleEnd⟩
      · exact absurd
          (Text.trimmed_eq_empty_iff.mpr (Text.trim_eq_nil_of_blank blank))
          visible
      · rw [OpenRange.text,
          Text.splitOn_trim_separator nonempty visibleStart visibleEnd]
        rfl

omit separated in
/-- Only a separator of blanks, without a bound beside it, is trimmed away. -/
theorem eq_unbounded_of_blank
    (blank : Text.Blank (range.text options.betweenSeparator).toList) :
    range = unbounded ∧ Text.Blank options.betweenSeparator.toList := by
  cases range with
  | atLeast low text =>
      rw [OpenRange.text, String.toList_append] at blank
      exact absurd (List.forall_mem_append.mp blank).1
        (Bound.not_blank_of_read? written.1)
  | atMost high text =>
      rw [OpenRange.text, String.toList_append] at blank
      exact absurd (List.forall_mem_append.mp blank).2
        (Bound.not_blank_of_read? written.1)
  | unbounded => exact ⟨rfl, blank⟩

theorem exists_part
    (lost : ¬ range.KeepsSeparator options.betweenSeparator.toList) :
    ∃ before part after : List Char,
      Text.trim (range.text options.betweenSeparator).toList =
        Text.trim (before ++ part ++ after) ∧
      Text.Avoids options.betweenSeparator.toList before ∧
      Text.Avoids options.betweenSeparator.toList after ∧
      part.length < options.betweenSeparator.toList.length := by
  have nonempty : options.betweenSeparator.toList ≠ [] := by
    simpa using separated
  have nothing := Text.avoids_nil options.betweenSeparator.toList
  cases range with
  | atLeast low text =>
      obtain ⟨part, shorter, same⟩ := Text.exists_shorter_of_endsBlank
        nonempty (Bool.of_not_eq_false lost)
      exact ⟨text.toList, part, [], by simp [OpenRange.text, same], written.2,
        nothing, shorter⟩
  | atMost high text =>
      obtain ⟨part, shorter, same⟩ := Text.exists_shorter_of_beginsBlank
        nonempty (Bool.of_not_eq_false lost)
      exact ⟨[], part, text.toList, by simp [OpenRange.text, same], nothing,
        written.2, shorter⟩
  | unbounded =>
      have ends := Classical.not_and_iff_not_or_not.mp (not_or.mp lost).2
      rcases ends with start | finish
      · obtain ⟨part, shorter, same⟩ := Text.exists_shorter_of_beginsBlank
          nonempty (Bool.of_not_eq_false start)
        exact ⟨[], part, [], by simpa [OpenRange.text] using same [], nothing,
          nothing, shorter⟩
      · obtain ⟨part, shorter, same⟩ := Text.exists_shorter_of_endsBlank
          nonempty (Bool.of_not_eq_false finish)
        exact ⟨[], part, [], by simpa [OpenRange.text] using same [], nothing,
          nothing, shorter⟩

end Reading

end OpenRange

namespace RequestParser

section Comparison

variable {α β : Type} (read : String → Option α) (f : α → β)
  (make : FilterOperator → β → FilterSpec)

theorem bound?_map (operator : FilterOperator) (text : List Char) :
    bound? (fun text => (read text).map f) make operator text =
      bound? read (fun operator value => make operator (f value)) operator
        text := by
  simp only [bound?, Option.map_map]
  rfl

theorem comparisonSpecs_map (options : ParsingOptions) (field raw : String)
    (operator : FilterOperator) :
    comparisonSpecs options field raw operator
        (fun text => (read text).map f) make =
      comparisonSpecs options field raw operator read
        (fun operator value => make operator (f value)) := by
  simp only [comparisonSpecs, rangeSpecs, bound?_map, Option.map_map]
  rfl

end Comparison

theorem specsOf_eq_comparisonSpecs {options : ParsingOptions} {params : Params}
    {field raw : String} {category : FilterCategory}
    {operator : FilterOperator}
    (ranges : category = .numeric ∨ category = .date)
    (given : operator? options params field = some operator) :
    specsOf options params field raw category =
      comparisonSpecs options field raw operator
        (Bound.read? options category (valueCategory options params field))
        fun operator bound =>
          bound.filter field (valueCategory options params field) operator := by
  rcases ranges with rfl | rfl
  · simp only [specsOf, given]
    exact (comparisonSpecs_map (numericValue? options _) Bound.number
      (fun operator bound => bound.filter field _ operator)
      options field raw operator).symm
  · simp only [specsOf, given]
    exact (comparisonSpecs_map options.parseDate Bound.day
      (fun operator bound => bound.filter field _ operator)
      options field raw operator).symm

end RequestParser

/-- The parameters ask for a range of a field that is open at a side, with
blanks around it or without. -/
structure AsksForOpenRange (options : ParsingOptions) (params : Params)
    (field : String) (category : FilterCategory) (range : OpenRange) :
    Prop where
  named : isFieldName field = true
  ranges : category = .numeric ∨ category = .date
  category_eq : category? options params field = some category
  operator_eq : operator? options params field = some .between
  value_eq : ∃ before after, Text.Blank before ∧ Text.Blank after ∧
    params.get? (options.valueKey field) = some (String.ofList
      (before ++ (range.text options.betweenSeparator).toList ++ after))
  written : range.IsWritten options.betweenSeparator
    (Bound.read? options category (valueCategory options params field))

namespace AsksForOpenRange

variable {options : ParsingOptions} {params : Params} {field : String}
  {category : FilterCategory} {range : OpenRange}
  (asks : AsksForOpenRange options params field category range)

include asks

theorem rawValue_eq :
    rawValue options params field =
      Text.trimmed (range.text options.betweenSeparator) := by
  obtain ⟨before, after, beforeBlank, afterBlank, given⟩ := asks.value_eq
  rw [rawValue, given, Option.getD_some, Text.trimmed, String.toList_ofList,
    Text.trim_surrounded_of_blank beforeBlank afterBlank, Text.trimmed]

theorem blank_text_iff :
    rawValue options params field = "" ↔
      Text.Blank (range.text options.betweenSeparator).toList := by
  rw [asks.rawValue_eq, Text.trimmed_eq_empty_iff, Text.trim_eq_nil_iff]

variable (separated : options.betweenSeparator ≠ "")

include separated

theorem fieldSpecs_eq
    (keeps : range.KeepsSeparator options.betweenSeparator.toList) :
    fieldSpecs options params field =
      .ok (range.specs field (valueCategory options params field)) := by
  rw [fieldSpecs, asks.category_eq]
  by_cases nothing : rawValue options params field = ""
  · obtain ⟨rfl, -⟩ := OpenRange.eq_unbounded_of_blank asks.written
      (asks.blank_text_iff.mp nothing)
    exact if_pos nothing
  · have visible := nothing
    rw [asks.rawValue_eq] at visible
    simp only [if_neg nothing]
    rw [specsOf_eq_comparisonSpecs asks.ranges asks.operator_eq,
      asks.rawValue_eq]
    exact OpenRange.comparisonSpecs_text separated asks.written keeps visible

/-- The range is malformed if the separator is not kept. -/
theorem malformedRange_iff :
    MalformedRange options params field ↔
      ¬ range.KeepsSeparator options.betweenSeparator.toList := by
  constructor
  · intro malformed keeps
    have failed := (fieldSpecs_eq_error_iff asks.named).mpr ⟨malformed, rfl⟩
    rw [asks.fieldSpecs_eq separated keeps] at failed
    cases failed
  · intro lost
    obtain ⟨before, part, after, same, beforeAvoids, afterAvoids, shorter⟩ :=
      OpenRange.exists_part separated asks.written lost
    refine ⟨asks.named, ?_, asks.operator_eq, ?_, ?_⟩
    · rw [asks.category_eq]
      exact asks.ranges.imp (congrArg some) (congrArg some)
    · intro nothing
      obtain ⟨rfl, blank⟩ := OpenRange.eq_unbounded_of_blank asks.written
        (asks.blank_text_iff.mp nothing)
      exact lost (.inl blank)
    · rw [asks.rawValue_eq, Text.toList_trimmed, same,
        Text.splitOn_trim_part beforeAvoids afterAvoids shorter]
      simp

end AsksForOpenRange

namespace RequestParser

/-- A range that is open at a side.  It is read as the filter of its bound, or
as none if it has no bound, unless the separator has a blank where the value
ends: then the range is malformed. -/
theorem parse_openRange {options : ParsingOptions} {params : Params}
    {field : String} {category : FilterCategory} {range : OpenRange}
    (valid : options.validate = .ok ())
    (asks : AsksForOpenRange options params field category range)
    {sections : Sections} (filtersRead : sections.filters = true) :
    (range.KeepsSeparator options.betweenSeparator.toList →
      ((∃ request, parse options sections params = .ok request) ↔
        ∀ other, other ≠ field → ¬ MalformedRange options params other) ∧
      (∀ value, parse options sections params ≠
        .error (.malformedRange field value)) ∧
      ∀ request, parse options sections params = .ok request →
        (request.filterSpecs.filter fun spec => spec.field = field) =
          range.specs field (valueCategory options params field)) ∧
    (¬ range.KeepsSeparator options.betweenSeparator.toList →
      ∃ first, MalformedRange options params first ∧
        (Text.byteOrder first field).isLE = true ∧
        parse options sections params =
          .error (.malformedRange first (rawValue options params first))) := by
  have separated := (options.separators_ne_empty valid).1
  have malformed := asks.malformedRange_iff separated
  refine ⟨fun keeps => ⟨?_, ?_, ?_⟩, fun lost => ?_⟩
  · rw [exists_parse_eq_ok_iff]
    constructor
    · exact fun none other _ => none filtersRead other
    · intro others _ other
      by_cases same : other = field
      · rw [same, malformed]
        exact not_not_intro keeps
      · exact others other same
  · intro value failed
    obtain ⟨first, firstMalformed, -, reported⟩ :=
      filterSpecs_eq_error_iff.mp (parse_eq_error_iff.mp failed).2
    obtain ⟨rfl, -⟩ := GridError.malformedRange.inj reported
    exact malformed.mp firstMalformed keeps
  · intro request read
    have filters := filterSpecs_of_parse_eq_ok read
    rw [if_pos filtersRead] at filters
    rw [filter_field_filterSpecs filters, ownSpecs,
      if_pos (mem_filterFields_of_category? asks.named asks.category_eq),
      asks.fieldSpecs_eq separated keeps]
    rfl
  · obtain ⟨error, failed⟩ :=
      exists_filterSpecs_eq_error_iff.mpr ⟨field, malformed.mpr lost⟩
    obtain ⟨first, firstMalformed, least, rfl⟩ :=
      filterSpecs_eq_error_iff.mp failed
    exact ⟨first, firstMalformed, least field (malformed.mpr lost),
      parse_eq_error_iff.mpr ⟨filtersRead, failed⟩⟩

/-- The parameters of a range of whole numbers. -/
def wholeRange (value : String) : Params :=
  ⟨[("filter[Amount][filterCategory]", "1"),
    ("filter[Amount][filterType]", "10"),
    ("filter[Amount][valueCategory]", "2"), ("filter[Amount]", value)]⟩

/-- A range up to a bound, with blanks around it. -/
theorem parse_openRange_upTo :
    ∃ request, parse .default .all (wholeRange " ;5 ") = .ok request ∧
      (request.filterSpecs.filter fun spec => spec.field = "Amount") =
        [.numeric ⟨"Amount", .lessThanOrEqual, .integer 5, .integer⟩] := by
  have read : parse .default .all (wholeRange " ;5 ") =
      .ok { RequestSpec.everything with filterSpecs :=
        [.numeric ⟨"Amount", .lessThanOrEqual, .integer 5, .integer⟩] } := by
    cbv
  have asks : AsksForOpenRange .default (wholeRange " ;5 ") "Amount" .numeric
      (.atMost (.number (.integer 5)) "5") :=
    { named := by decide
      ranges := .inl rfl
      category_eq := by decide +kernel
      operator_eq := by decide +kernel
      value_eq := ⟨[' '], [' '], by decide, by decide, by decide⟩
      written := ⟨by decide +kernel, by decide⟩ }
  obtain ⟨kept, -⟩ :=
    parse_openRange rfl asks (show Sections.all.filters from rfl)
  obtain ⟨-, -, filters⟩ := kept rfl
  exact ⟨_, read, filters _ read⟩

/-- The built-in options, but with a word between the bounds of ranges. -/
def wordOptions : ParsingOptions :=
  { ParsingOptions.default with betweenSeparator := " to " }

/-- A separator with a blank at its end is valid, but it is not found behind a
bound. -/
theorem parse_openRange_word :
    wordOptions.validate = .ok () ∧
    AsksForOpenRange wordOptions (wholeRange "5 to ") "Amount" .numeric
      (.atLeast (.number (.integer 5)) "5") ∧
    parse wordOptions .all (wholeRange "5 to ") =
      .error (.malformedRange "Amount" "5 to") := by
  refine ⟨rfl, ?_, by cbv⟩
  exact
    { named := by decide
      ranges := .inl rfl
      category_eq := by decide +kernel
      operator_eq := by decide +kernel
      value_eq := ⟨[], [], by decide, by decide, by decide⟩
      written := ⟨by decide +kernel, by decide⟩ }

end RequestParser

end GridQuery
