import SuperHBench.Coverage

/-! # Bytes of a coverage

What an operation does to a coverage is said by the accesses that it shows at each address.
Logging an access only adds to a coverage, so a later coverage of a run shows at least what an
earlier one does. -/

namespace SuperHBench

/-! ## Accesses of a byte -/

namespace ByteAccess

theorem merge_comm (access other : ByteAccess) : access.merge other = other.merge access := by
  simp only [merge, Bool.or_comm]

theorem merge_assoc (access other third : ByteAccess) :
    (access.merge other).merge third = access.merge (other.merge third) := by
  simp only [merge, Bool.or_assoc]

theorem merge_self (access : ByteAccess) : access.merge access = access := by
  simp only [merge, Bool.or_self]

theorem none_merge (access : ByteAccess) : none.merge access = access := by
  simp only [merge, none, Bool.false_or]

theorem merge_none (access : ByteAccess) : access.merge none = access := by
  rw [merge_comm, none_merge]

theorem any_merge (access other : ByteAccess) :
    (access.merge other).any = (access.any || other.any) := by
  rcases access with ⟨_ | _, _ | _, _ | _⟩ <;> rcases other with ⟨_ | _, _ | _, _ | _⟩ <;> rfl

theorem any_ofKind (kind : AccessKind) : (ofKind kind).any = true := by
  cases kind <;> rfl

structure Within (access other : ByteAccess) : Prop where
  read : access.read = true → other.read = true
  write : access.write = true → other.write = true
  execute : access.execute = true → other.execute = true

theorem within_merge (access other : ByteAccess) : access.Within (access.merge other) := by
  constructor <;> intro shown <;> simp [merge, shown]

end ByteAccess

namespace Coverage

/-! ## Entries -/

theorem getElem?_touch (coverage : Coverage) (address other : UInt32) (access : ByteAccess) :
    (coverage.touch address access).bytes[other]? =
      if address = other then some ((coverage.get address).merge access)
      else coverage.bytes[other]? := by
  rw [touch, Std.ExtTreeMap.getElem?_insert]
  simp only [Std.compare_eq_iff_eq]

theorem get_eq (coverage : Coverage) (address : UInt32) :
    coverage.get address = (coverage.bytes[address]?).getD .none :=
  Std.ExtTreeMap.getD_eq_getD_getElem?

theorem get_touch (coverage : Coverage) (address other : UInt32) (access : ByteAccess) :
    (coverage.touch address access).get other =
      if address = other then (coverage.get other).merge access else coverage.get other := by
  rw [get_eq, getElem?_touch]
  split
  · rename_i same
    rw [same]
    rfl
  · exact (get_eq coverage other).symm

/-! ## Logged accesses -/

/-- An access of some size from an address on is one to the byte of this address. -/
def Meets (start : UInt32) (size : Nat) (address : UInt32) : Prop :=
  ∃ offset < size, start + UInt32.ofNat offset = address

instance (start : UInt32) (size : Nat) (address : UInt32) : Decidable (Meets start size address) :=
  inferInstanceAs (Decidable (∃ offset < size, _))

theorem meets_succ_iff {start address : UInt32} {size : Nat} :
    Meets start (size + 1) address ↔
      Meets start size address ∨ start + UInt32.ofNat size = address := by
  constructor
  · rintro ⟨offset, inside, found⟩
    rcases Nat.lt_succ_iff_lt_or_eq.mp inside with earlier | rfl
    · exact .inl ⟨offset, earlier, found⟩
    · exact .inr found
  · rintro (⟨offset, inside, found⟩ | last)
    · exact ⟨offset, Nat.lt_succ_of_lt inside, found⟩
    · exact ⟨size, Nat.lt_succ_self size, last⟩

theorem log_succ (coverage : Coverage) (kind : AccessKind) (start : UInt32) (size : Nat) :
    coverage.log kind start (size + 1) =
      (coverage.log kind start size).touch (start + UInt32.ofNat size) (.ofKind kind) := by
  rw [log, List.range_succ, List.foldl_append, List.foldl_cons, List.foldl_nil]
  rfl

theorem get_log (coverage : Coverage) (kind : AccessKind) (start address : UInt32) (size : Nat) :
    (coverage.log kind start size).get address =
      if Meets start size address then (coverage.get address).merge (.ofKind kind)
      else coverage.get address := by
  induction size with
  | zero =>
      have nowhere : ¬Meets start 0 address := fun ⟨_, inside, _⟩ => Nat.not_lt_zero _ inside
      rw [if_neg nowhere]
      rfl
  | succ size induction =>
      rw [log_succ, get_touch, induction]
      by_cases last : start + UInt32.ofNat size = address
      · rw [if_pos last, if_pos (meets_succ_iff.mpr (.inr last))]
        split
        · rw [ByteAccess.merge_assoc, ByteAccess.merge_self]
        · rfl
      · have earlier : Meets start (size + 1) address ↔ Meets start size address :=
          meets_succ_iff.trans (or_iff_left last)
        rw [if_neg last]
        simp only [earlier]

theorem write_get_log {kind : AccessKind} (other : kind ≠ .write) (coverage : Coverage)
    (start address : UInt32) (size : Nat) :
    ((coverage.log kind start size).get address).write = (coverage.get address).write := by
  have silent : (ByteAccess.ofKind kind).write = false := by
    cases kind with
    | read | execute => rfl
    | write => exact absurd rfl other
  rw [get_log]
  split
  · simp only [ByteAccess.merge, silent, Bool.or_false]
  · rfl

theorem write_get_logWrite_iff (coverage : Coverage) (start address : UInt32) (size : Nat) :
    ((coverage.logWrite start size).get address).write = true ↔
      (coverage.get address).write = true ∨ Meets start size address := by
  rw [logWrite, get_log]
  split
  · rename_i met
    simp [ByteAccess.merge, ByteAccess.ofKind, met]
  · rename_i missed
    simp [missed]

/-! ## Coverages side by side -/

def Within (coverage other : Coverage) : Prop :=
  ∀ address, (coverage.get address).Within (other.get address)

variable {coverage other third : Coverage}

theorem within_refl (coverage : Coverage) : coverage.Within coverage :=
  fun _ => ⟨id, id, id⟩

theorem Within.trans (first : coverage.Within other) (second : other.Within third) :
    coverage.Within third := by
  intro address
  have here := first address
  have there := second address
  exact ⟨there.read ∘ here.read, there.write ∘ here.write, there.execute ∘ here.execute⟩

theorem within_log (coverage : Coverage) (kind : AccessKind) (start : UInt32) (size : Nat) :
    coverage.Within (coverage.log kind start size) := by
  intro address
  rw [get_log]
  split
  · exact ByteAccess.within_merge _ _
  · exact ⟨id, id, id⟩

end Coverage

end SuperHBench
