import Mathlib.Data.Nat.Digits.Defs
import SuperHBench.CommandLine.Number

/-! # Rows of digits

A number is read from a row of digits in front of which one sign may stand. What is read is what the
digits spell, in any radix that has digits, and nothing else is read. -/

namespace SuperHBench.CommandLine

theorem except_map_eq_ok_iff {result : Except ε α} {transform : α → β} {value : β} :
    result.map transform = .ok value ↔
      ∃ before, result = .ok before ∧ transform before = value := by
  cases result <;> simp [Except.map]

theorem except_mapError_eq_ok_iff {result : Except ε α} {transform : ε → ζ} {value : α} :
    result.mapError transform = .ok value ↔ result = .ok value := by
  cases result <;> simp [Except.mapError]

/-! ## Digits -/

def magnitude (radix : Nat) (digits : List Char) : Nat :=
  Nat.ofDigits radix (digits.reverse.map digitValue)

def continued (radix number : Nat) (digits : List Char) : Nat :=
  digits.foldl (fun number digit => number * radix + digitValue digit) number

section

variable {radix limit number value : Nat} {excess : IntegerError} {digits : List Char}

theorem magnitude_eq_continued : magnitude radix digits = continued radix 0 digits := by
  simp only [magnitude, continued, Nat.ofDigits_eq_foldr, List.foldr_map, List.foldr_reverse,
    Nat.cast_id, Nat.add_comm, Nat.mul_comm]

theorem le_continued (valid : ∀ digit ∈ digits, digitValue digit < radix) :
    number ≤ continued radix number digits := by
  induction digits generalizing number with
  | nil => exact Nat.le_refl number
  | cons digit rest induction =>
      rw [List.forall_mem_cons] at valid
      have positive : 0 < radix := Nat.zero_lt_of_lt valid.1
      calc number
        _ ≤ number * radix := Nat.le_mul_of_pos_right number positive
        _ ≤ number * radix + digitValue digit := Nat.le_add_right _ _
        _ ≤ continued radix _ rest := induction valid.2

/-- Once a number is past the limit, more digits do not bring it back. -/
theorem readDigits_eq_ok_iff (small : number ≤ limit) :
    readDigits radix limit excess number digits = .ok value ↔
      (∀ digit ∈ digits, digitValue digit < radix) ∧ continued radix number digits = value ∧
        value ≤ limit := by
  induction digits generalizing number with
  | nil =>
      simp only [readDigits, continued, List.foldl_nil, Except.ok.injEq, List.not_mem_nil,
        false_implies, implies_true, true_and]
      exact ⟨fun same => ⟨same, same ▸ small⟩, And.left⟩
  | cons digit rest induction =>
      rw [List.forall_mem_cons]
      by_cases valid : digitValue digit < radix
      · rw [readDigits, if_pos valid, and_iff_right valid]
        by_cases within : number * radix + digitValue digit ≤ limit
        · exact (iff_of_eq (congrArg (· = _) (if_pos within))).trans (induction within)
        · refine (iff_of_eq (congrArg (· = _) (if_neg within))).trans ⟨nofun, ?_⟩
          rintro ⟨others, rfl, reached⟩
          exact absurd ((le_continued others).trans reached) within
      · rw [readDigits, if_neg valid]
        exact ⟨nofun, fun read => absurd read.1.1 valid⟩

/-! ## Written digits -/

theorem digitValue_digitChar : ∀ digit < 16, digitValue (Nat.digitChar digit) = digit := by
  decide

theorem magnitude_concat (digits : List Char) (digit : Char) :
    magnitude radix (digits ++ [digit]) = magnitude radix digits * radix + digitValue digit := by
  rw [magnitude_eq_continued, magnitude_eq_continued, continued, List.foldl_append]
  rfl

theorem toDigits_induction {motive : Nat → List Char → Prop} (two : 1 < radix)
    (one : ∀ digit < radix, motive digit [Nat.digitChar digit])
    (more : ∀ number digits digit, digit < radix → motive number digits →
      motive (number * radix + digit) (digits ++ [Nat.digitChar digit]))
    (number : Nat) : motive number (Nat.toDigits radix number) := by
  induction number using Nat.strongRecOn with
  | ind number induction =>
      rw [Nat.toDigits_eq_if two]
      split
      · rename_i small
        exact one number small
      · rename_i large
        have positive : 0 < number := by omega
        have last : number % radix < radix := Nat.mod_lt number (by omega)
        have quotient := induction _ (Nat.div_lt_self positive two)
        have together := more _ _ _ last quotient
        rwa [Nat.div_add_mod'] at together

variable (two : 1 < radix) (sixteen : radix ≤ 16)
include two sixteen

theorem digitValue_of_mem_toDigits (number : Nat) :
    ∀ digit ∈ Nat.toDigits radix number, digitValue digit < radix := by
  have valid (digit : Nat) (small : digit < radix) :
      digitValue (Nat.digitChar digit) < radix := by
    rwa [digitValue_digitChar digit (small.trans_le sixteen)]
  refine toDigits_induction (motive := fun _ digits => ∀ digit ∈ digits, digitValue digit < radix)
    two ?_ ?_ number
  · intro digit small
    exact List.forall_mem_singleton.mpr (valid digit small)
  · intro _ digits digit small others
    exact List.forall_mem_append.mpr ⟨others, List.forall_mem_singleton.mpr (valid digit small)⟩

theorem magnitude_toDigits (number : Nat) :
    magnitude radix (Nat.toDigits radix number) = number := by
  refine toDigits_induction (motive := fun number digits => magnitude radix digits = number)
    two ?_ ?_ number
  · intro digit small
    have value := digitValue_digitChar digit (small.trans_le sixteen)
    simp [magnitude, value]
  · intro number digits digit small spelled
    rw [magnitude_concat, spelled, digitValue_digitChar digit (small.trans_le sixteen)]

end

/-! ## Signs -/

inductive Sign where
  | omitted
  | plus
  | minus
deriving DecidableEq

namespace Sign

def text : Sign → List Char
  | .omitted => []
  | .plus => ['+']
  | .minus => ['-']

def apply (sign : Sign) (magnitude : Nat) : Int :=
  match sign with
  | .omitted | .plus => magnitude
  | .minus => -magnitude

end Sign

namespace IntegerType

/-- How far the numbers of a type go in the direction of a sign. -/
def reach (type : IntegerType) : Sign → Nat
  | .omitted | .plus => type.greatest
  | .minus => type.depth

def excess : Sign → IntegerError
  | .omitted | .plus => .tooLarge
  | .minus => .tooSmall

structure Admits (type : IntegerType) (radix : Nat) (sign : Sign) (digits : List Char) : Prop where
  nonempty : digits ≠ []
  valid : ∀ digit ∈ digits, digitValue digit < radix
  signed : sign = .minus → type.signed = true
  reached : magnitude radix digits ≤ type.reach sign

variable {type : IntegerType} {radix : Nat} {sign : Sign} {digits text : List Char} {value : Int}

theorem read_signed (nonempty : digits ≠ []) (signed : sign = .minus → type.signed = true)
    (bare : sign = .omitted → digits.head? ≠ some '+' ∧ digits.head? ≠ some '-') :
    type.read radix (sign.text ++ digits) =
      (readDigits radix (type.reach sign) (excess sign) 0 digits).map sign.apply := by
  rcases List.exists_cons_of_ne_nil nonempty with ⟨first, rest, rfl⟩
  cases sign with
  | omitted =>
      rcases bare rfl with ⟨notPlus, notMinus⟩
      simp only [List.head?_cons, ne_eq, Option.some.injEq] at notPlus notMinus
      simp only [Sign.text, List.nil_append, read]
      split
      case h_1 same => cases same
      case h_2 same => exact absurd (List.cons.inj same).1 notPlus
      case h_3 same => exact absurd (List.cons.inj same).1 notMinus
      case h_4 same => exact absurd (List.cons.inj same).1 notPlus
      case h_5 same => exact absurd (List.cons.inj same).1 notMinus
      case h_6 => rfl
  | plus => rfl
  | minus =>
      have accepted := signed rfl
      simp only [Sign.text, read, accepted]
      rfl

theorem exists_sign (read : type.read radix text = .ok value) :
    ∃ sign digits, Sign.text sign ++ digits = text ∧ digits ≠ [] ∧
      (sign = .minus → type.signed = true) ∧
      (sign = .omitted → digits.head? ≠ some '+' ∧ digits.head? ≠ some '-') := by
  unfold IntegerType.read at read
  split at read
  · cases read
  · cases read
  · cases read
  · rename_i digits nonempty
    exact ⟨.plus, digits, rfl, nonempty, nofun, nofun⟩
  · rename_i digits nonempty
    split at read
    · rename_i signed
      exact ⟨.minus, digits, rfl, nonempty, fun _ => signed, nofun⟩
    · cases read
  · rename_i nonempty _ _ notPlus notMinus
    exact ⟨.omitted, text, rfl, nonempty, nofun, fun _ =>
      ⟨fun first => (List.head?_eq_some_iff.mp first).elim notPlus,
        fun first => (List.head?_eq_some_iff.mp first).elim notMinus⟩⟩

theorem head?_of_valid (letters : radix ≤ 36) (valid : ∀ digit ∈ digits, digitValue digit < radix) :
    digits.head? ≠ some '+' ∧ digits.head? ≠ some '-' := by
  constructor
  all_goals
    intro first
    have := valid _ (List.mem_of_head? first)
    have : digitValue '+' = 36 := rfl
    have : digitValue '-' = 36 := rfl
    omega

theorem read_eq_ok_iff (letters : radix ≤ 36) :
    type.read radix text = .ok value ↔
      ∃ sign digits, Sign.text sign ++ digits = text ∧ type.Admits radix sign digits ∧
        sign.apply (magnitude radix digits) = value := by
  constructor
  · intro read
    rcases exists_sign read with ⟨sign, digits, rfl, nonempty, signed, bare⟩
    rw [read_signed nonempty signed bare, except_map_eq_ok_iff] at read
    rcases read with ⟨number, read, rfl⟩
    rcases (readDigits_eq_ok_iff (Nat.zero_le _)).mp read with ⟨valid, rfl, reached⟩
    rw [← magnitude_eq_continued] at reached ⊢
    exact ⟨sign, digits, rfl, ⟨nonempty, valid, signed, reached⟩, rfl⟩
  · rintro ⟨sign, digits, rfl, admits, rfl⟩
    rw [read_signed admits.nonempty admits.signed fun _ => head?_of_valid letters admits.valid,
      except_map_eq_ok_iff]
    exact ⟨_, (readDigits_eq_ok_iff (Nat.zero_le _)).mpr
      ⟨admits.valid, magnitude_eq_continued.symm, admits.reached⟩, rfl⟩

end IntegerType

end SuperHBench.CommandLine
