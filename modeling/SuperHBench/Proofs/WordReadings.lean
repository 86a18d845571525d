import SuperHBench.Word

/-! # Readings of a word

A word stands for a number with or without a sign. Both readings give the word back, so what is
computed modulo the word size may be computed on either of them. -/

namespace SuperHBench

/-- A way of reading words that tells them apart by the number modulo the word size. -/
def Faithful (read : UInt32 → Int) : Prop :=
  ∀ word, BitVec.ofInt 32 (read word) = word.toBitVec

def unsignedOf (word : UInt32) : Int :=
  word.toNat

def signedOf (word : UInt32) : Int :=
  word.toInt32.toInt

theorem faithful_unsignedOf : Faithful unsignedOf := by
  intro word
  rw [unsignedOf, BitVec.ofInt_natCast]
  exact BitVec.ofNat_toNat _ _ |>.trans (BitVec.setWidth_eq _)

theorem faithful_signedOf : Faithful signedOf :=
  fun _ => BitVec.ofInt_toInt

theorem Faithful.eq_zero {read : UInt32 → Int} (faithful : Faithful read) {word : UInt32}
    (zero : read word = 0) : word = 0 := by
  have same := faithful word
  rw [zero] at same
  exact UInt32.toBitVec_inj.mp same.symm

end SuperHBench
