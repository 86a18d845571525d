import SuperHBench.CommandLine.Value
import SuperHBench.Proofs.CommandLine.Digits

/-! # Integers of options

An integer is written as a minus, the mark of hexadecimal digits, and a number in digits, which may
have a sign of its own. Each part in front may be left out. -/

namespace SuperHBench

/-! ## Blanks -/

namespace Text

theorem filter_dropWhile {drops keeps : Char → Bool} (text : List Char)
    (apart : ∀ c, drops c = true → keeps c = false) :
    (text.dropWhile drops).filter keeps = text.filter keeps := by
  induction text with
  | nil => rfl
  | cons c rest induction =>
      by_cases dropped : drops c = true
      · rw [List.dropWhile_cons_of_pos dropped, induction,
          List.filter_cons_of_neg (ne_true_of_eq_false (apart c dropped))]
      · rw [List.dropWhile_cons_of_neg dropped]

theorem filter_trim {keeps : Char → Bool} (text : List Char)
    (apart : ∀ c, isBlank c = true → keeps c = false) :
    (trim text).filter keeps = text.filter keeps := by
  rw [trim, List.filter_reverse, filter_dropWhile _ apart, List.filter_reverse,
    List.reverse_reverse, filter_dropWhile _ apart]

theorem dropWhile_isBlank {text : List Char} (visible : ∀ c ∈ text, isBlank c = false) :
    text.dropWhile isBlank = text := by
  cases text with
  | nil => rfl
  | cons c rest =>
      exact List.dropWhile_cons_of_neg
        (ne_true_of_eq_false (visible c List.mem_cons_self))

theorem trim_eq_self {text : List Char} (visible : ∀ c ∈ text, isBlank c = false) :
    trim text = text := by
  rw [trim, dropWhile_isBlank visible,
    dropWhile_isBlank fun c member => visible c (List.mem_reverse.mp member), List.reverse_reverse]

end Text

namespace CommandLine

/-! ## Marked numbers -/

inductive Mark where
  | omitted
  | lower
  | upper
deriving DecidableEq

namespace Mark

def text : Mark → List Char
  | .omitted => []
  | .lower => ['0', 'x']
  | .upper => ['0', 'X']

def radix : Mark → Nat
  | .omitted => 10
  | .lower | .upper => 16

theorem radix_le (mark : Mark) : mark.radix ≤ 16 := by
  cases mark <;> decide

theorem radix_le_letters (mark : Mark) : mark.radix ≤ 36 :=
  mark.radix_le.trans (by decide)

theorem one_lt_radix (mark : Mark) : 1 < mark.radix := by
  cases mark <;> decide

end Mark

theorem exists_mark (text : List Char) :
    ∃ mark rest, Mark.text mark ++ rest = text ∧ radixOf text = (mark.radix, rest) := by
  unfold radixOf
  split
  · exact ⟨.lower, _, rfl, rfl⟩
  · exact ⟨.upper, _, rfl, rfl⟩
  · exact ⟨.omitted, _, rfl, rfl⟩

theorem not_mem_of_decimal {sign : Sign} {digits : List Char} {letter : Char}
    (unsigned : letter ∉ sign.text) (large : 10 ≤ digitValue letter)
    (valid : ∀ digit ∈ digits, digitValue digit < 10) : letter ∉ sign.text ++ digits := by
  rw [List.mem_append, not_or]
  exact ⟨unsigned, fun member => absurd (valid letter member) (Nat.not_lt.mpr large)⟩

theorem radixOf_text {mark : Mark} {sign : Sign} {digits : List Char}
    (valid : ∀ digit ∈ digits, digitValue digit < mark.radix) :
    radixOf (mark.text ++ (sign.text ++ digits)) = (mark.radix, sign.text ++ digits) := by
  cases mark with
  | lower => rfl
  | upper => rfl
  | omitted =>
      simp only [Mark.text, List.nil_append]
      unfold radixOf
      split
      case h_1 same =>
        have free : 'x' ∉ sign.text ++ digits :=
          not_mem_of_decimal (by cases sign <;> decide) (by decide) valid
        simp [same] at free
      case h_2 same =>
        have free : 'X' ∉ sign.text ++ digits :=
          not_mem_of_decimal (by cases sign <;> decide) (by decide) valid
        simp [same] at free
      case h_3 => rfl

structure Numeral (type : IntegerType) where
  mark : Mark
  sign : Sign
  digits : List Char
  admitted : type.Admits mark.radix sign digits

namespace Numeral

def text (numeral : Numeral type) : List Char :=
  numeral.mark.text ++ (numeral.sign.text ++ numeral.digits)

def number (numeral : Numeral type) : Int :=
  numeral.sign.apply (magnitude numeral.mark.radix numeral.digits)

theorem number_bounds (numeral : Numeral .integer) :
    -2 ^ 63 ≤ numeral.number ∧ numeral.number < 2 ^ 63 := by
  rcases numeral with ⟨mark, sign, digits, admitted⟩
  cases sign with
  | omitted | plus =>
      have reached : magnitude mark.radix digits ≤ 2 ^ 63 - 1 := admitted.reached
      simp only [number, Sign.apply]
      omega
  | minus =>
      have reached : magnitude mark.radix digits ≤ 2 ^ 63 := admitted.reached
      simp only [number, Sign.apply]
      omega

end Numeral

theorem readMarked_of_radixOf {type : IntegerType} {input : String} {text rest : List Char}
    {radix : Nat} {value : Int} (marked : radixOf text = (radix, rest)) :
    readMarked type input text = .ok value ↔ type.read radix rest = .ok value := by
  rw [readMarked, marked, except_mapError_eq_ok_iff]

theorem readMarked_eq_ok_iff {type : IntegerType} {input : String} {text : List Char}
    {value : Int} :
    readMarked type input text = .ok value ↔
      ∃ numeral : Numeral type, numeral.text = text ∧ numeral.number = value := by
  constructor
  · intro read
    rcases exists_mark text with ⟨mark, rest, rfl, marked⟩
    rw [readMarked_of_radixOf marked, IntegerType.read_eq_ok_iff mark.radix_le_letters] at read
    rcases read with ⟨sign, digits, rfl, admitted, rfl⟩
    exact ⟨⟨mark, sign, digits, admitted⟩, rfl, rfl⟩
  · rintro ⟨⟨mark, sign, digits, admitted⟩, rfl, rfl⟩
    rw [Numeral.text, readMarked_of_radixOf (radixOf_text admitted.valid),
      IntegerType.read_eq_ok_iff mark.radix_le_letters]
    exact ⟨sign, digits, rfl, admitted, rfl⟩

/-! ## Integers -/

/-- A way to write an integer. A minus in front of everything is not the sign of the number. -/
structure Spelling where
  negated : Bool
  numeral : Numeral .integer
  foremost : negated = false → numeral.text.head? ≠ some '-'

namespace Spelling

def text (spelling : Spelling) : List Char :=
  if spelling.negated then '-' :: spelling.numeral.text else spelling.numeral.text

def value (spelling : Spelling) : Int :=
  if spelling.negated then -spelling.numeral.number else spelling.numeral.number

def Spells (spelling : Spelling) (input : String) : Prop :=
  spelling.text = Text.trim input.toList

end Spelling

theorem readInteger_of_negated {input : String} {magnitude : List Char}
    (minus : Text.trim input.toList = '-' :: magnitude) :
    readInteger input = (readMarked .integer input magnitude).map fun value =>
      Int.bmod (-value) (2 ^ 64) := by
  rw [readInteger, minus]
  rfl

theorem readInteger_of_bare {input : String}
    (bare : (Text.trim input.toList).head? ≠ some '-') :
    readInteger input = readMarked .integer input (Text.trim input.toList) := by
  unfold readInteger
  split
  · rename_i magnitude minus
    exact absurd (congrArg List.head? minus) bare
  · rfl

theorem readInteger_eq_ok_iff {input : String} {value : Int} :
    readInteger input = .ok value ↔
      ∃ spelling : Spelling, spelling.Spells input ∧ Int.bmod spelling.value (2 ^ 64) = value := by
  have unchanged (numeral : Numeral .integer) :
      Int.bmod numeral.number (2 ^ 64) = numeral.number := by
    have bounds := numeral.number_bounds
    exact Int.bmod_eq_of_le (by omega) (by omega)
  constructor
  · intro read
    by_cases minus : (Text.trim input.toList).head? = some '-'
    · rcases List.head?_eq_some_iff.mp minus with ⟨magnitude, minus⟩
      rw [readInteger_of_negated minus, except_map_eq_ok_iff] at read
      rcases read with ⟨number, read, rfl⟩
      rcases readMarked_eq_ok_iff.mp read with ⟨numeral, rfl, rfl⟩
      exact ⟨⟨true, numeral, nofun⟩, minus.symm, rfl⟩
    · rw [readInteger_of_bare minus] at read
      rcases readMarked_eq_ok_iff.mp read with ⟨numeral, same, rfl⟩
      exact ⟨⟨false, numeral, fun _ => same ▸ minus⟩, same, unchanged numeral⟩
  · rintro ⟨⟨negated, numeral, foremost⟩, spells, rfl⟩
    cases negated with
    | true =>
        rw [readInteger_of_negated spells.symm, except_map_eq_ok_iff]
        exact ⟨_, readMarked_eq_ok_iff.mpr ⟨numeral, rfl, rfl⟩, rfl⟩
    | false =>
        have same : numeral.text = Text.trim input.toList := spells
        rw [readInteger_of_bare (same ▸ foremost rfl)]
        exact readMarked_eq_ok_iff.mpr ⟨numeral, same, (unchanged numeral).symm⟩

example : readInteger " -0X1f " = .ok (-31) := by rfl

/-! ## Plain spellings -/

/-- A number with no sign but a minus that it needs. -/
def plain (mark : Mark) (number : Int) : List Char :=
  (if number < 0 then ['-'] else []) ++ (mark.text ++ Nat.toDigits mark.radix number.natAbs)

def hexadecimal (number : Int) : String :=
  (if number < 0 then "-" else "") ++ Text.hexNumber number.natAbs

theorem toList_toString (number : Int) : (toString number).toList = plain .omitted number := by
  cases number with
  | ofNat number =>
      have positive : ¬Int.ofNat number < 0 := Int.not_lt.mpr (Int.natCast_nonneg number)
      rw [plain, if_neg positive]
      exact Nat.toList_repr
  | negSucc number =>
      rw [plain, if_pos (Int.negSucc_lt_zero number)]
      change ("-" ++ Nat.repr (number + 1)).toList = _
      rw [String.toList_append, Nat.toList_repr]
      rfl

theorem toList_hexadecimal (number : Int) : (hexadecimal number).toList = plain .lower number := by
  rw [hexadecimal, plain, Text.hexNumber, Text.hex, String.toList_append, String.toList_append,
    String.toList_ofList, String.toList_ofList, apply_ite String.toList]
  rfl

theorem isBlank_of_digitValue_lt {c : Char} (digit : digitValue c < 36) :
    Text.isBlank c = false := by
  have between (first last : Char) : first ≤ c ∧ c ≤ last ↔
      first.toNat ≤ c.toNat ∧ c.toNat ≤ last.toNat := by
    simp only [Char.le_def, UInt32.le_iff_toNat_le]
    rfl
  have rows : '0' ≤ c ∧ c ≤ '9' ∨ 'a' ≤ c ∧ c ≤ 'z' ∨ 'A' ≤ c ∧ c ≤ 'Z' := by
    by_contra none
    rw [not_or, not_or] at none
    rw [digitValue, if_neg none.1, if_neg none.2.1, if_neg none.2.2] at digit
    exact absurd digit (Nat.lt_irrefl 36)
  simp only [between] at rows
  simp only [Text.isBlank, Text.inRanges, List.any_cons, List.any_nil, Bool.or_eq_false_iff,
    Bool.and_eq_false_iff, decide_eq_false_iff_not, and_true]
  simp only [Char.reduceToNat] at rows
  omega

theorem visible_plain (mark : Mark) (number : Int) :
    ∀ c ∈ plain mark number, Text.isBlank c = false := by
  have digits : ∀ c ∈ Nat.toDigits mark.radix number.natAbs, Text.isBlank c = false := by
    intro c member
    have valid := digitValue_of_mem_toDigits mark.one_lt_radix mark.radix_le _ c member
    exact isBlank_of_digitValue_lt (by have := mark.radix_le; omega)
  have front : ∀ c ∈ mark.text, Text.isBlank c = false := by
    cases mark with
    | omitted => nofun
    | lower | upper => exact List.forall_mem_cons.mpr ⟨rfl, List.forall_mem_singleton.mpr rfl⟩
  intro c member
  rw [plain, List.mem_append, List.mem_append] at member
  rcases member with minus | marked | digit
  · split at minus
    · rw [List.mem_singleton.mp minus]
      rfl
    · cases minus
  · exact front c marked
  · exact digits c digit

namespace Numeral

def ofNat (mark : Mark) (number : Nat) (fits : number < 2 ^ 63) : Numeral .integer where
  mark
  sign := .omitted
  digits := Nat.toDigits mark.radix number
  admitted := {
    nonempty := Nat.toDigits_ne_nil
    valid := digitValue_of_mem_toDigits mark.one_lt_radix mark.radix_le number
    signed := nofun
    reached := by
      rw [magnitude_toDigits mark.one_lt_radix mark.radix_le]
      exact Nat.le_sub_one_of_lt fits }

variable {mark : Mark} {number : Nat} (fits : number < 2 ^ 63)

theorem number_ofNat : (ofNat mark number fits).number = number :=
  congrArg Nat.cast (magnitude_toDigits mark.one_lt_radix mark.radix_le number)

theorem head?_ofNat : (ofNat mark number fits).text.head? ≠ some '-' := by
  cases mark with
  | lower => nofun
  | upper => nofun
  | omitted =>
      have valid := (ofNat .omitted number fits).admitted.valid
      exact (IntegerType.head?_of_valid (show 10 ≤ 36 by decide) valid).2

end Numeral

namespace Spelling

/-- Every number of 64 bits but the least one, whose magnitude is none. -/
def ofInt (mark : Mark) (number : Int) (least : -2 ^ 63 < number) (greatest : number < 2 ^ 63) :
    Spelling where
  negated := number < 0
  numeral := .ofNat mark number.natAbs (by omega)
  foremost _ := Numeral.head?_ofNat _

variable {mark : Mark} {number : Int} (least : -2 ^ 63 < number) (greatest : number < 2 ^ 63)

theorem text_ofInt : (ofInt mark number least greatest).text = plain mark number := by
  by_cases negative : number < 0
  · simp only [text, ofInt, plain, negative, decide_true, if_true]
    rfl
  · simp only [text, ofInt, plain, negative, decide_false, if_false]
    rfl

theorem value_ofInt : (ofInt mark number least greatest).value = number := by
  by_cases negative : number < 0
  · simp only [value, ofInt, negative, decide_true, if_true, Numeral.number_ofNat]
    omega
  · simp only [value, ofInt, negative, decide_false, Bool.false_eq_true, if_false,
      Numeral.number_ofNat]
    omega

end Spelling

theorem readInteger_plain {input : String} {mark : Mark} {number : Int}
    (spelled : input.toList = plain mark number) (least : -2 ^ 63 < number)
    (greatest : number < 2 ^ 63) : readInteger input = .ok number := by
  rw [readInteger_eq_ok_iff]
  refine ⟨.ofInt mark number least greatest, ?_, ?_⟩
  · rw [Spelling.Spells, spelled, Text.trim_eq_self (visible_plain mark number),
      Spelling.text_ofInt]
  · rw [Spelling.value_ofInt]
    exact Int.bmod_eq_of_le (by omega) (by omega)

theorem least_decimal : readInteger (toString Int64.minValue.toInt) =
    .error (.decimal "-9223372036854775808" .tooLarge) := by
  rfl

theorem least_hexadecimal : readInteger (hexadecimal Int64.minValue.toInt) =
    .error (.hexadecimal "-0x8000000000000000" .tooLarge) := by
  rfl

theorem readInteger_plain_iff {spelled : Int → String} {mark : Mark}
    (plainly : ∀ number, (spelled number).toList = plain mark number) {error : ValueError}
    (refused : readInteger (spelled Int64.minValue.toInt) = .error error) (number : Int64) :
    readInteger (spelled number.toInt) = .ok number.toInt ↔ number ≠ Int64.minValue := by
  constructor
  · rintro read rfl
    rw [refused] at read
    cases read
  · intro different
    have least : (-2 ^ 63 : Int) < number.toInt :=
      lt_of_le_of_ne number.le_toInt fun same => different (Int64.toInt_inj.mp same.symm)
    exact readInteger_plain (plainly _) least number.toInt_lt

/-! ## Signs in other places -/

/-- The characters of an integer that are no digits. -/
def isFraming (c : Char) : Bool :=
  c ∈ ['+', '-', 'x', 'X']

/-- A sign stands somewhere behind another one, or behind the letter of a mark. -/
def MisplacesSign (text : List Char) : Prop :=
  ∃ first ∈ ['+', '-', 'x', 'X'], ∃ sign ∈ ['+', '-'], [first, sign].Sublist text

theorem misplacesSign_iff_filter (text : List Char) :
    MisplacesSign text ↔ ∃ sign ∈ ['+', '-'], sign ∈ (text.filter isFraming).tail := by
  constructor
  · rintro ⟨first, framing, sign, signs, found⟩
    have also : sign ∈ ['+', '-', 'x', 'X'] := List.mem_append_left ['x', 'X'] signs
    have whole : [first, sign].filter isFraming = [first, sign] := by
      rw [List.filter_eq_self, List.forall_mem_cons, List.forall_mem_singleton]
      exact ⟨decide_eq_true framing, decide_eq_true also⟩
    have kept := found.filter isFraming
    rw [whole] at kept
    exact ⟨sign, signs, List.singleton_sublist.mp kept.tail⟩
  · rintro ⟨sign, signs, member⟩
    cases kept : text.filter isFraming with
    | nil =>
        rw [kept] at member
        cases member
    | cons first rest =>
        rw [kept] at member
        have framing : isFraming first = true :=
          (List.mem_filter.mp (kept ▸ List.mem_cons_self)).2
        have found : [first, sign].Sublist (first :: rest) :=
          (List.singleton_sublist.mpr member).cons_cons first
        exact ⟨first, of_decide_eq_true framing, sign, signs,
          (kept ▸ found).trans List.filter_sublist⟩

theorem eq_of_isFraming {c : Char} (framing : isFraming c = true) :
    c = '+' ∨ c = '-' ∨ c = 'x' ∨ c = 'X' := by
  simpa [isFraming] using framing

theorem isFraming_of_isBlank (c : Char) (blank : Text.isBlank c = true) : isFraming c = false := by
  by_contra framing
  rcases eq_of_isFraming (Bool.of_not_eq_false framing) with rfl | rfl | rfl | rfl <;> cases blank

theorem isFraming_of_digitValue_lt {c : Char} (digit : digitValue c < 16) :
    isFraming c = false := by
  by_contra framing
  rcases eq_of_isFraming (Bool.of_not_eq_false framing) with rfl | rfl | rfl | rfl <;>
    exact absurd digit (by decide)

namespace Spelling

theorem filter_text (spelling : Spelling) :
    spelling.text.filter isFraming =
      (if spelling.negated then ['-'] else []) ++
        (spelling.numeral.mark.text.drop 1 ++ spelling.numeral.sign.text) := by
  rcases spelling with ⟨negated, ⟨mark, sign, digits, admitted⟩, foremost⟩
  have none : digits.filter isFraming = [] := by
    rw [List.filter_eq_nil_iff]
    intro digit member
    rw [isFraming_of_digitValue_lt ((admitted.valid digit member).trans_le mark.radix_le)]
    exact Bool.false_ne_true
  have behind : (mark.text ++ (sign.text ++ digits)).filter isFraming =
      mark.text.drop 1 ++ sign.text := by
    rw [List.filter_append, List.filter_append, none, List.append_nil]
    cases mark <;> cases sign <;> rfl
  cases negated with
  | true => exact congrArg ('-' :: ·) behind
  | false => exact behind

theorem misplacesSign_iff (spelling : Spelling) {input : String} (spells : spelling.Spells input) :
    MisplacesSign input.toList ↔
      spelling.numeral.sign ≠ .omitted ∧
        (spelling.negated = true ∨ spelling.numeral.mark ≠ .omitted) := by
  rw [misplacesSign_iff_filter, ← Text.filter_trim _ isFraming_of_isBlank, ← spells, filter_text]
  cases spelling.negated <;> cases spelling.numeral.mark <;> cases spelling.numeral.sign <;>
    simp [Mark.text, Sign.text]

end Spelling

/-! ## What becomes of integers -/

/-- The minus in front is one too many for the number behind it. -/
def NegationOverflows (input : String) : Prop :=
  ∃ magnitude number, Text.trim input.toList = '-' :: magnitude ∧
    readMarked .integer input magnitude = .ok number ∧ 2 ^ 63 ≤ -number

/-- What becomes of a number of 64 bits when its spellings are read, and of any input: when the
spellings give the number, when a sign is not where it should be, and when the number behind a
minus cannot be negated. -/
structure ReadsIntegers (number : Int64) (input : String) : Prop where
  /-- The magnitude of the least integer is past the limit before the minus is seen. -/
  decimal : readInteger (toString number.toInt) = .ok number.toInt ↔ number ≠ Int64.minValue
  hexadecimal :
    readInteger (hexadecimal number.toInt) = .ok number.toInt ↔ number ≠ Int64.minValue
  accepts : ∀ value, readInteger input = .ok value ↔
    ∃ spelling : Spelling, spelling.Spells input ∧ Int.bmod spelling.value (2 ^ 64) = value
  signs : (∃ value, readInteger input = .ok value) ∧ MisplacesSign input.toList ↔
    ∃ spelling : Spelling, spelling.Spells input ∧ spelling.numeral.sign ≠ .omitted ∧
      (spelling.negated = true ∨ spelling.numeral.mark ≠ .omitted)
  overflows : NegationOverflows input ↔
    ∃ spelling : Spelling, spelling.Spells input ∧ spelling.negated = true ∧
      spelling.numeral.number = -2 ^ 63

theorem readsIntegers (number : Int64) (input : String) : ReadsIntegers number input := by
  constructor
  case decimal => exact readInteger_plain_iff toList_toString least_decimal number
  case hexadecimal => exact readInteger_plain_iff toList_hexadecimal least_hexadecimal number
  case accepts => exact fun _ => readInteger_eq_ok_iff
  case signs =>
    constructor
    · rintro ⟨⟨value, read⟩, misplaced⟩
      rcases readInteger_eq_ok_iff.mp read with ⟨spelling, spells, -⟩
      exact ⟨spelling, spells, (spelling.misplacesSign_iff spells).mp misplaced⟩
    · rintro ⟨spelling, spells, signed⟩
      exact ⟨⟨_, readInteger_eq_ok_iff.mpr ⟨spelling, spells, rfl⟩⟩,
        (spelling.misplacesSign_iff spells).mpr signed⟩
  case overflows =>
    constructor
    · rintro ⟨text, number, minus, read, past⟩
      rcases readMarked_eq_ok_iff.mp read with ⟨numeral, rfl, rfl⟩
      have bounds := numeral.number_bounds
      have least : numeral.number = -2 ^ 63 := by omega
      exact ⟨⟨true, numeral, nofun⟩, minus.symm, rfl, least⟩
    · rintro ⟨⟨negated, numeral, foremost⟩, spells, rfl, least⟩
      have past : 2 ^ 63 ≤ -numeral.number := (neg_eq_iff_eq_neg.mpr least).ge
      exact ⟨numeral.text, numeral.number, spells.symm,
        readMarked_eq_ok_iff.mpr ⟨numeral, rfl, rfl⟩, past⟩

theorem leastInteger_refused :
    readInteger (toString Int64.minValue.toInt) =
        .error (.decimal "-9223372036854775808" .tooLarge) ∧
      readInteger (hexadecimal Int64.minValue.toInt) =
        .error (.hexadecimal "-0x8000000000000000" .tooLarge) ∧
      (MisplacesSign "--5".toList ∧ readInteger "--5" = .ok 5) ∧
      (MisplacesSign "0x-5".toList ∧ readInteger "0x-5" = .ok (-5)) ∧
      NegationOverflows "--9223372036854775808" := by
  have doubled : ['-', '-'].Sublist "--5".toList := List.sublist_append_left _ ['5']
  have marked : ['x', '-'].Sublist "0x-5".toList := (List.sublist_append_left _ ['5']).cons '0'
  refine ⟨least_decimal, least_hexadecimal, ⟨?_, rfl⟩, ⟨?_, rfl⟩, ?_⟩
  · exact ⟨'-', by simp, '-', by simp, doubled⟩
  · exact ⟨'x', by simp, '-', by simp, marked⟩
  · exact ⟨"-9223372036854775808".toList, -2 ^ 63, rfl, rfl, Int.le_refl _⟩

end CommandLine

end SuperHBench
