import SuperHBench.Proofs.Coverage

/-! # Merging coverages

A coverage is built by logging accesses and by merging others that were built likewise. All
of this joins entries byte by byte, and no byte has an entry that shows no access. So histories
that do the same to every byte leave the same table behind, and a history can be replayed in
parts, in any order and more than once. -/

namespace SuperHBench

instance : Std.Commutative ByteAccess.merge :=
  ⟨ByteAccess.merge_comm⟩

instance : Std.Associative ByteAccess.merge :=
  ⟨ByteAccess.merge_assoc⟩

instance : Std.IdempotentOp ByteAccess.merge :=
  ⟨ByteAccess.merge_self⟩

namespace Coverage

/-! ## Joined entries -/

section

variable (entry other third : Option ByteAccess)

/-- The entry of a byte that has both of these, or one of them. -/
def join : Option ByteAccess :=
  entry.merge ByteAccess.merge other

theorem join_none : join entry none = entry :=
  Option.merge_none_right

theorem none_join : join none entry = entry :=
  Option.merge_none_left

theorem join_comm : join entry other = join other entry :=
  (Option.commutative_merge ByteAccess.merge).comm _ _

theorem join_assoc : join (join entry other) third = join entry (join other third) :=
  (Option.associative_merge ByteAccess.merge).assoc _ _ _

theorem join_self : join entry entry = entry :=
  (Option.idempotentOp_merge ByteAccess.merge).idempotent _

theorem getD_join :
    (join entry other).getD .none = (entry.getD .none).merge (other.getD .none) := by
  cases entry with
  | none => rw [none_join, Option.getD_none, ByteAccess.none_merge]
  | some access =>
      cases other with
      | none => rw [join_none, Option.getD_none, ByteAccess.merge_none]
      | some added => rfl

end

theorem ext_entry {coverage other : Coverage}
    (same : ∀ address : UInt32, coverage.bytes[address]? = other.bytes[address]?) :
    coverage = other := by
  rcases coverage with ⟨bytes⟩
  rcases other with ⟨bytes'⟩
  exact congrArg Coverage.mk (Std.ExtTreeMap.ext_getElem? same)

theorem entry_touch (coverage : Coverage) (address other : UInt32) (access : ByteAccess) :
    (coverage.touch address access).bytes[other]? =
      join coverage.bytes[other]? (if address = other then some access else none) := by
  rw [getElem?_touch]
  split
  · rename_i same
    rw [get_eq, same]
    cases coverage.bytes[other]? with
    | none => exact congrArg some (ByteAccess.none_merge access)
    | some entry => rfl
  · exact (join_none _).symm

theorem entry_log (coverage : Coverage) (kind : AccessKind) (start address : UInt32)
    (size : Nat) :
    (coverage.log kind start size).bytes[address]? =
      join coverage.bytes[address]?
        (if Meets start size address then some (.ofKind kind) else none) := by
  induction size with
  | zero =>
      have nowhere : ¬Meets start 0 address := fun ⟨_, inside, _⟩ => Nat.not_lt_zero _ inside
      rw [if_neg nowhere]
      exact (join_none _).symm
  | succ size induction =>
      rw [log_succ, entry_touch, induction, join_assoc]
      apply congrArg (join coverage.bytes[address]?)
      by_cases earlier : Meets start size address <;>
        by_cases last : start + UInt32.ofNat size = address <;>
          simp [meets_succ_iff, earlier, last, join_self, join_none, none_join]

/-! ## Merged tables -/

section

variable {entries : List (UInt32 × ByteAccess)} {address : UInt32}

def touchAll (coverage : Coverage) (entries : List (UInt32 × ByteAccess)) : Coverage :=
  entries.foldl (fun coverage entry => coverage.touch entry.1 entry.2) coverage

theorem entry_touchAll_of_forall_ne (coverage : Coverage)
    (elsewhere : ∀ entry ∈ entries, entry.1 ≠ address) :
    (coverage.touchAll entries).bytes[address]? = coverage.bytes[address]? := by
  induction entries generalizing coverage with
  | nil => rfl
  | cons entry rest induction =>
      rcases List.forall_mem_cons.mp elsewhere with ⟨here, later⟩
      change ((coverage.touch entry.1 entry.2).touchAll rest).bytes[address]? = _
      rw [induction _ later, entry_touch, if_neg here, join_none]

theorem entry_touchAll_of_mem (coverage : Coverage) {access : ByteAccess}
    (distinct : entries.Pairwise fun entry other => entry.1 ≠ other.1)
    (among : (address, access) ∈ entries) :
    (coverage.touchAll entries).bytes[address]? =
      join coverage.bytes[address]? (some access) := by
  induction entries generalizing coverage with
  | nil => cases among
  | cons entry rest induction =>
      rcases List.pairwise_cons.mp distinct with ⟨alone, distinct⟩
      change ((coverage.touch entry.1 entry.2).touchAll rest).bytes[address]? = _
      rcases List.mem_cons.mp among with rfl | later
      · have elsewhere : ∀ other ∈ rest, other.1 ≠ address := fun other member =>
          (alone other member).symm
        rw [entry_touchAll_of_forall_ne _ elsewhere, entry_touch, if_pos rfl]
      · rw [induction _ distinct later, entry_touch, if_neg (alone _ later), join_none]

end

theorem merge_eq_touchAll (coverage other : Coverage) :
    coverage.merge other = coverage.touchAll other.bytes.toList :=
  Std.ExtTreeMap.foldl_eq_foldl_toList

theorem entry_merge (coverage other : Coverage) (address : UInt32) :
    (coverage.merge other).bytes[address]? =
      join coverage.bytes[address]? other.bytes[address]? := by
  rw [merge_eq_touchAll]
  cases found : other.bytes[address]? with
  | none =>
      rw [join_none]
      apply entry_touchAll_of_forall_ne
      rintro ⟨_, access⟩ member rfl
      rw [Std.ExtTreeMap.mem_toList_iff_getElem?_eq_some, found] at member
      cases member
  | some access =>
      have distinct : other.bytes.toList.Pairwise fun entry other => entry.1 ≠ other.1 :=
        other.bytes.distinct_keys_toList.imp fun different same =>
          different (Std.compare_eq_iff_eq.mpr same)
      exact entry_touchAll_of_mem coverage distinct
        (Std.ExtTreeMap.mem_toList_iff_getElem?_eq_some.mpr found)

theorem merge_comm (coverage other : Coverage) : coverage.merge other = other.merge coverage := by
  refine ext_entry fun address => ?_
  rw [entry_merge, entry_merge, join_comm]

theorem merge_assoc (coverage other third : Coverage) :
    (coverage.merge other).merge third = coverage.merge (other.merge third) := by
  refine ext_entry fun address => ?_
  simp only [entry_merge, join_assoc]

theorem merge_self (coverage : Coverage) : coverage.merge coverage = coverage := by
  refine ext_entry fun address => ?_
  rw [entry_merge, join_self]

theorem merge_empty (coverage : Coverage) : coverage.merge empty = coverage := by
  refine ext_entry fun address => ?_
  rw [entry_merge, empty, Std.ExtTreeMap.getElem?_empty, join_none]

theorem empty_merge (coverage : Coverage) : empty.merge coverage = coverage := by
  rw [merge_comm, merge_empty]

theorem get_merge (coverage other : Coverage) (address : UInt32) :
    (coverage.merge other).get address = (coverage.get address).merge (other.get address) := by
  rw [get_eq, get_eq, get_eq, entry_merge, getD_join]

/-- To log an access is to merge the coverage that shows nothing else. -/
theorem log_eq_merge (coverage : Coverage) (kind : AccessKind) (start : UInt32) (size : Nat) :
    coverage.log kind start size = coverage.merge (empty.log kind start size) := by
  refine ext_entry fun address => ?_
  rw [entry_merge, entry_log, entry_log, empty, Std.ExtTreeMap.getElem?_empty, none_join]

/-! ## Entries that show an access -/

/-- Every byte with an entry was touched. -/
def Canonical (coverage : Coverage) : Prop :=
  ∀ (address : UInt32) (access : ByteAccess),
    coverage.bytes[address]? = some access → access.any = true

variable {coverage other : Coverage}

theorem canonical_empty : empty.Canonical := by
  intro address access found
  rw [empty, Std.ExtTreeMap.getElem?_empty] at found
  cases found

theorem Canonical.merge (canonical : coverage.Canonical) (others : other.Canonical) :
    (coverage.merge other).Canonical := by
  intro address access found
  rw [entry_merge] at found
  rcases Option.merge_eq_some_iff.mp found with
    ⟨here, _⟩ | ⟨_, there⟩ | ⟨entry, added, here, _, rfl⟩
  · exact canonical address access here
  · exact others address access there
  · rw [ByteAccess.any_merge, canonical address entry here, Bool.true_or]

theorem Canonical.log (canonical : coverage.Canonical) (kind : AccessKind) (start : UInt32)
    (size : Nat) : (coverage.log kind start size).Canonical := by
  rw [log_eq_merge]
  refine canonical.merge fun address access found => ?_
  rw [entry_log, empty, Std.ExtTreeMap.getElem?_empty, none_join] at found
  split at found
  · cases found
    exact ByteAccess.any_ofKind kind
  · cases found

theorem Canonical.entry_eq (canonical : coverage.Canonical) (address : UInt32) :
    coverage.bytes[address]? =
      if (coverage.get address).any then some (coverage.get address) else none := by
  rw [get_eq]
  cases found : coverage.bytes[address]? with
  | none => rfl
  | some access => simp [canonical address access found]

theorem Canonical.eq_iff (canonical : coverage.Canonical) (others : other.Canonical) :
    coverage = other ↔ ∀ address, coverage.get address = other.get address := by
  constructor
  · rintro rfl address
    rfl
  · intro agree
    refine ext_entry fun address => ?_
    rw [canonical.entry_eq, others.entry_eq, agree]

/-- Tables with an entry that shows nothing are told apart, though they show the same. -/
example : (⟨(∅ : Std.ExtTreeMap UInt32 ByteAccess).insert 0 .none⟩ : Coverage) ≠ empty := by
  decide

/-! ## Histories -/

/-- What is done to a coverage on the way: an access is logged, or a coverage with a history of
its own is merged into it. -/
inductive Update where
  | log (kind : AccessKind) (address : UInt32) (size : Nat)
  | merge (history : List Update)

mutual

def Update.apply : Update → Coverage → Coverage
  | .log kind address size, coverage => coverage.log kind address size
  | .merge history, coverage => coverage.merge (updated history empty)

def updated : List Update → Coverage → Coverage
  | [], coverage => coverage
  | update :: rest, coverage => updated rest (update.apply coverage)

end

def replay (history : List Update) : Coverage :=
  updated history empty

mutual

theorem canonical_apply : (update : Update) → {coverage : Coverage} → coverage.Canonical →
    (update.apply coverage).Canonical
  | .log kind address size, _, canonical => canonical.log kind address size
  | .merge history, _, canonical => canonical.merge (canonical_updated history canonical_empty)

theorem canonical_updated : (history : List Update) → {coverage : Coverage} →
    coverage.Canonical → (updated history coverage).Canonical
  | [], _, canonical => canonical
  | update :: rest, _, canonical => canonical_updated rest (canonical_apply update canonical)

end

theorem canonical_replay (history : List Update) : (replay history).Canonical :=
  canonical_updated history canonical_empty

theorem Update.apply_eq_merge (update : Update) (coverage : Coverage) :
    update.apply coverage = coverage.merge (update.apply empty) := by
  cases update with
  | log kind address size => exact log_eq_merge coverage kind address size
  | merge history =>
      unfold Update.apply
      rw [empty_merge]

theorem updated_eq_merge (history : List Update) (coverage : Coverage) :
    updated history coverage = coverage.merge (replay history) := by
  induction history generalizing coverage with
  | nil => exact (merge_empty coverage).symm
  | cons update rest induction =>
      rw [replay, updated, updated, induction, induction (update.apply empty),
        update.apply_eq_merge, merge_assoc]

theorem replay_append (first second : List Update) :
    replay (first ++ second) = (replay first).merge (replay second) := by
  rw [← updated_eq_merge, replay, replay]
  generalize empty = coverage
  induction first generalizing coverage with
  | nil => rfl
  | cons update rest induction =>
      rw [List.cons_append, updated, updated, induction]

theorem replay_cons (update : Update) (rest : List Update) :
    replay (update :: rest) = (update.apply empty).merge (replay rest) := by
  rw [replay, updated, updated_eq_merge]

theorem replay_merge_apply {update : Update} {history : List Update} (among : update ∈ history) :
    (replay history).merge (update.apply empty) = replay history := by
  induction history with
  | nil => cases among
  | cons first rest induction =>
      rw [replay_cons, merge_assoc]
      rcases List.mem_cons.mp among with rfl | later
      · rw [merge_comm (replay rest), ← merge_assoc, merge_self]
      · rw [induction later]

theorem replay_merge_of_subset {part history : List Update} (within : part ⊆ history) :
    (replay history).merge (replay part) = replay history := by
  induction part with
  | nil => exact merge_empty _
  | cons update rest induction =>
      rcases List.cons_subset.mp within with ⟨among, others⟩
      rw [replay_cons, ← merge_assoc, replay_merge_apply among, induction others]

theorem replay_eq_of_mem_iff {first second : List Update}
    (same : ∀ update, update ∈ first ↔ update ∈ second) : replay first = replay second := by
  have forwards := replay_merge_of_subset fun update among => (same update).mp among
  have backwards := replay_merge_of_subset fun update among => (same update).mpr among
  rw [← backwards, merge_comm, forwards]

structure ReplayLaws : Prop where
  append : ∀ first second, replay (first ++ second) = (replay first).merge (replay second)
  comm : ∀ coverage other : Coverage, coverage.merge other = other.merge coverage
  assoc : ∀ coverage other third : Coverage,
    (coverage.merge other).merge third = coverage.merge (other.merge third)
  idem : ∀ coverage : Coverage, coverage.merge coverage = coverage
  get_merge : ∀ (coverage other : Coverage) (address : UInt32),
    (coverage.merge other).get address = (coverage.get address).merge (other.get address)
  canonical : ∀ history, (replay history).Canonical
  eq_iff : ∀ first second,
    replay first = replay second ↔
      ∀ address, (replay first).get address = (replay second).get address
  unordered : ∀ first second, (∀ update, update ∈ first ↔ update ∈ second) →
    replay first = replay second

/-- To replay histories one after another is to merge what they leave behind, and the tables
that they leave are equal where they show the same. -/
theorem replayLaws : ReplayLaws where
  append := replay_append
  comm := merge_comm
  assoc := merge_assoc
  idem := merge_self
  get_merge := get_merge
  canonical := canonical_replay
  eq_iff first second := (canonical_replay first).eq_iff (canonical_replay second)
  unordered _ _ := replay_eq_of_mem_iff

end Coverage

end SuperHBench
