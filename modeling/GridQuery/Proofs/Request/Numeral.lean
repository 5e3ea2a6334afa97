import GridQuery.Proofs.Number.Numeral
import GridQuery.Proofs.Request.Options

/-!
# Numbers in the writing of the options

Readers of numbers free a text of group separators and blanks, wherever they
stand, and then take the decimal separator for a point.  What is left of a
number with such characters in it is the plain text of the number.
-/

namespace GridQuery.ParsingOptions

open Number

variable {options : ParsingOptions} {text raw : List Char}

/-- Whether a character of a number goes for nothing. -/
def Ignores (options : ParsingOptions) (c : Char) : Prop :=
  some c = options.groupSeparator ∨ Text.isBlank c = true

/-- The second text is the first one with characters that go for nothing
inserted, any number of them at any places. -/
inductive Spread (options : ParsingOptions) : List Char → List Char → Prop
  | nil : Spread options [] []
  | kept {c : Char} {text raw : List Char} :
      Spread options text raw → Spread options (c :: text) (c :: raw)
  | inserted {c : Char} {text raw : List Char} :
      options.Ignores c → Spread options text raw →
      Spread options text (c :: raw)

/-- Neither separator writes integers, and the decimal one is no blank. -/
structure HasClearSeparators (options : ParsingOptions) : Prop where
  decimal : writesIntegers options.decimalSeparator = false
  decimal_isBlank : Text.isBlank options.decimalSeparator = false
  group : ∀ c, options.groupSeparator = some c → writesIntegers c = false

/-- A number with the decimal separator for its point. -/
def localized (options : ParsingOptions) (text : List Char) : List Char :=
  text.map fun c => if c = '.' then options.decimalSeparator else c

/-- A number with a point for its decimal separator. -/
def pointed (options : ParsingOptions) (text : List Char) : List Char :=
  text.map fun c => if c = options.decimalSeparator then '.' else c

/-- The characters of a text that do not go for nothing. -/
def considered (options : ParsingOptions) (raw : List Char) : List Char :=
  raw.filter fun c => some c != options.groupSeparator && !Text.isBlank c

theorem considered_cons_of_ignores {c : Char} (ignored : options.Ignores c) :
    options.considered (c :: raw) = options.considered raw := by
  rw [considered, List.filter_cons_of_neg, considered]
  rcases ignored with group | blank
  · simp [group]
  · simp [blank]

theorem considered_cons_of_not_ignores {c : Char}
    (kept : ¬ options.Ignores c) :
    options.considered (c :: raw) = c :: options.considered raw := by
  rw [considered, List.filter_cons_of_pos, considered]
  simpa [Ignores] using kept

theorem spread_considered (raw : List Char) :
    Spread options (options.considered raw) raw := by
  induction raw with
  | nil => exact .nil
  | cons c raw induction =>
      by_cases ignored : options.Ignores c
      · rw [considered_cons_of_ignores ignored]
        exact .inserted ignored induction
      · rw [considered_cons_of_not_ignores ignored]
        exact .kept induction

theorem Spread.refl (text : List Char) : Spread options text text := by
  induction text with
  | nil => exact .nil
  | cons c text induction => exact .kept induction

theorem Spread.considered_eq (spread : Spread options text raw)
    (noneIgnored : ∀ c ∈ text, ¬ options.Ignores c) :
    options.considered raw = text := by
  induction spread with
  | nil => rfl
  | kept _ induction =>
      obtain ⟨kept, rest⟩ := List.forall_mem_cons.mp noneIgnored
      rw [considered_cons_of_not_ignores kept, induction rest]
  | inserted ignored _ induction =>
      rw [considered_cons_of_ignores ignored, induction noneIgnored]

theorem normalizeNumber_eq (raw : List Char) :
    options.normalizeNumber raw = options.pointed (options.considered raw) := by
  rw [normalizeNumber, Text.filter_trim, considered, pointed]
  intro c blank
  rw [blank, Bool.not_true, Bool.and_false]

theorem HasClearSeparators.not_ignores (clear : options.HasClearSeparators)
    {c : Char} (writes : writesIntegers c = true) : ¬ options.Ignores c := by
  intro ignored
  rcases ignored with group | blank
  · cases (clear.group c group.symm).symm.trans writes
  · cases (isBlank_eq_false_of_writesIntegers writes).symm.trans blank

theorem HasClearSeparators.ne_decimalSeparator
    (clear : options.HasClearSeparators) {c : Char}
    (writes : writesIntegers c = true) : c ≠ options.decimalSeparator := by
  intro equal
  rw [equal, clear.decimal] at writes
  cases writes

theorem pointed_localized (clear : options.HasClearSeparators)
    (numeral : ∀ c ∈ text, writesIntegers c = true ∨ c = '.') :
    options.pointed (options.localized text) = text := by
  induction text with
  | nil => rfl
  | cons c text induction =>
      obtain ⟨writes, rest⟩ := List.forall_mem_cons.mp numeral
      have tail := induction rest
      simp only [localized, pointed, List.map_cons] at tail ⊢
      rw [tail]
      by_cases point : c = '.'
      · rw [if_pos point, if_pos rfl, point]
      · have kept := clear.ne_decimalSeparator (writes.resolve_right point)
        rw [if_neg point, if_neg kept]

theorem not_ignores_of_mem_localized (valid : options.validate = .ok ())
    (clear : options.HasClearSeparators)
    (numeral : ∀ c ∈ text, writesIntegers c = true ∨ c = '.') {c : Char}
    (member : c ∈ options.localized text) : ¬ options.Ignores c := by
  obtain ⟨plain, plainMember, rfl⟩ := List.mem_map.mp member
  by_cases point : plain = '.'
  · rw [if_pos point]
    intro ignored
    rcases ignored with group | blank
    · exact options.groupSeparator_ne_decimalSeparator valid group.symm
    · cases clear.decimal_isBlank.symm.trans blank
  · rw [if_neg point]
    apply clear.not_ignores
    exact (numeral plain plainMember).resolve_right point

/-- A number comes back from the writing of the options, whatever goes for
nothing has been inserted in it. -/
theorem normalizeNumber_spread (valid : options.validate = .ok ())
    (clear : options.HasClearSeparators)
    (numeral : ∀ c ∈ text, writesIntegers c = true ∨ c = '.')
    (spread : Spread options (options.localized text) raw) :
    options.normalizeNumber raw = text := by
  have considered := spread.considered_eq
    fun c => not_ignores_of_mem_localized valid clear numeral
  rw [normalizeNumber_eq, considered, pointed_localized clear numeral]

theorem hasClearSeparators_default : default.HasClearSeparators := by
  constructor
  · rfl
  · rfl
  · intro c group
    cases group
    rfl

theorem normalizeNumber_default
    (numeral : ∀ c ∈ text, writesIntegers c = true ∨ c = '.') :
    default.normalizeNumber text = text := by
  have plain : default.localized text = text := by
    have unchanged (c : Char) : (if c = '.' then '.' else c) = c := by
      split
      · rename_i point
        exact point.symm
      · rfl
    simp [localized, default, unchanged]
  apply normalizeNumber_spread rfl hasClearSeparators_default numeral
  rw [plain]
  exact .refl text

theorem localized_integerText (n : Int) :
    options.localized (integerText n) = integerText n := by
  have unchanged (c : Char) (member : c ∈ integerText n) :
      (if c = '.' then options.decimalSeparator else c) = id c := by
    apply if_neg
    intro point
    have writes := writesIntegers_of_mem_integerText member
    rw [point] at writes
    cases writes
  rw [localized, List.map_congr_left unchanged, List.map_id]

/-- An integer and a decimal are read back from the writing of the options,
whatever goes for nothing has been inserted in them. -/
theorem parse_spreadNumber (valid : options.validate = .ok ())
    (clear : options.HasClearSeparators) :
    (∀ (n : Int64) (raw : String),
      Spread options (signedText n) raw.toList →
        options.parseInteger raw = some n) ∧
    ∀ (d : Decimal) (raw : String),
      Spread options (options.localized d.text) raw.toList →
        ∃ result, options.parseDecimal raw = some result ∧
          result.scale = d.scale ∧ result.toRat = d.toRat := by
  constructor
  · intro n raw spread
    have numeral : ∀ c ∈ signedText n, writesIntegers c = true ∨ c = '.' := by
      intro c member
      exact .inl (writesIntegers_of_mem_integerText member)
    have normalized : options.normalizeNumber raw.toList = signedText n := by
      apply normalizeNumber_spread valid clear numeral
      rw [signedText, localized_integerText]
      exact spread
    rw [parseInteger, normalized, readSigned?_signedText]
  · intro d raw spread
    have normalized : options.normalizeNumber raw.toList = d.text :=
      normalizeNumber_spread valid clear
        (fun c => Decimal.writesIntegers_or_point_of_mem_text) spread
    refine ⟨d.withoutZeroSign, ?_, rfl, d.toRat_withoutZeroSign⟩
    rw [parseDecimal, normalized, Decimal.read?_text]

/-- Points between groups of digits, and a comma before the places. -/
def continental : ParsingOptions :=
  { default with decimalSeparator := ',', groupSeparator := some '.' }

/-- The decimal with the greatest coefficient and all its places. -/
def finestDecimal : Decimal :=
  ⟨false, 79228162514264337593543950335, maxScale, by decide,
    Nat.le_refl maxScale⟩

theorem parse_spreadNumber_continental :
    continental.parseInteger " -9.223.372.036.854.775.808" =
        some Int64.minValue ∧
      ∃ result,
        continental.parseDecimal "7,92281 62514.26433 75935.43950 335" =
            some result ∧
          result.scale = 28 ∧
          result.toRat = 79228162514264337593543950335 / 10 ^ 28 := by
  have clear : continental.HasClearSeparators := by
    constructor
    · rfl
    · rfl
    · intro c group
      cases group
      rfl
  obtain ⟨integers, decimals⟩ := parse_spreadNumber rfl clear
  constructor
  · have written : signedText Int64.minValue = continental.considered
        " -9.223.372.036.854.775.808".toList := by decide +kernel
    apply integers
    rw [written]
    exact spread_considered _
  · have written : continental.localized finestDecimal.text =
        continental.considered
          "7,92281 62514.26433 75935.43950 335".toList := by decide +kernel
    obtain ⟨result, parsed, scale, value⟩ :=
      decimals finestDecimal _ (written ▸ spread_considered _)
    refine ⟨result, parsed, scale, ?_⟩
    rw [value]
    rfl

end GridQuery.ParsingOptions
