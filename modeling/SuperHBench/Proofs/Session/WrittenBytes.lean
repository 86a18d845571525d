import SuperHBench.Proofs.Session.Begun
import SuperHBench.Proofs.Session.EarlyStop
import SuperHBench.Proofs.Session.UnresolvedSlots

/-! # Bytes flagged as written

Memory loses what a store lays past the end of the address space. A coverage goes on at the
start of it, and flags bytes there that were not stored to. So the flags of a run are those
of its stores, and they are right where no store runs past the end, or where other stores
cover what it comes round to. -/

namespace SuperHBench

/-! ## One store -/

structure Store where
  target : UInt32
  value : Value
deriving DecidableEq, Repr

def Operation.store? : Operation → Option Store
  | .write target value => some ⟨target, value⟩
  | _ => none

def Deed.store? : Deed → Option Store
  | .instruction operation => operation.store?
  | .branch _ => none

theorem Width.bytes_le_four (width : Width) : width.bytes ≤ 4 := by
  cases width with
  | byte | word | long => decide

/-- An access meets the bytes that it covers, and past the end of the address space those that
it comes round to. -/
theorem Coverage.meets_iff_covers {start address : UInt32} {size : Nat}
    (fits : size ≤ Word.count 32) :
    Meets start size address ↔
      Covers start size address.toNat ∨ Covers start size (Word.count 32 + address.toNat) := by
  have count : Word.count 32 = 2 ^ 32 := rfl
  have below := address.toNat_lt
  have from_below := start.toNat_lt
  constructor
  · rintro ⟨offset, inside, rfl⟩
    rw [UInt32.toNat_add, UInt32.toNat_ofNat']
    unfold Covers
    omega
  · intro covers
    have around : ∃ offset < size, (start.toNat + offset) % 2 ^ 32 = address.toNat := by
      rcases covers with ⟨above, inside⟩ | ⟨above, inside⟩
      · exact ⟨address.toNat - start.toNat, by omega, by omega⟩
      · exact ⟨Word.count 32 + address.toNat - start.toNat, by omega, by omega⟩
    rcases around with ⟨offset, inside, found⟩
    refine ⟨offset, inside, UInt32.toNat_inj.mp ?_⟩
    rw [UInt32.toNat_add, UInt32.toNat_ofNat', Nat.add_mod_mod]
    exact found

namespace Store

def Covers (store : Store) (index : Nat) : Prop :=
  SuperHBench.Covers store.target store.value.width.bytes index

/-- The store would lay a byte on an index if addresses went on past the end. -/
def ComesRound (store : Store) (index : Nat) : Prop :=
  store.Covers (Word.count 32 + index)

/-- A coverage with nothing but this store shows a byte as written. -/
def Flags (store : Store) (address : UInt32) : Prop :=
  ((Coverage.empty.logWrite store.target store.value.width.bytes).get address).write = true

/-- The store flags no byte of memory beside those that it stores to. -/
def FlagsOwn (store : Store) : Prop :=
  ∀ address : UInt32, address.toNat < Memory.defaultSize → store.Flags address →
    store.Covers address.toNat

theorem flags_iff_meets {store : Store} {address : UInt32} :
    store.Flags address ↔ Coverage.Meets store.target store.value.width.bytes address := by
  have untouched : (Coverage.empty.get address).write = false := rfl
  rw [Flags, Coverage.write_get_logWrite_iff, untouched]
  simp

theorem flags_iff {store : Store} {address : UInt32} :
    store.Flags address ↔ store.Covers address.toNat ∨ store.ComesRound address.toNat := by
  have fits : store.value.width.bytes ≤ Word.count 32 :=
    Nat.le_trans store.value.width.bytes_le_four (by decide)
  rw [flags_iff_meets, Coverage.meets_iff_covers fits]
  rfl

theorem flagsOwn_iff {store : Store} :
    store.FlagsOwn ↔ store.target.toNat + store.value.width.bytes ≤ Word.count 32 := by
  have target := store.target.toNat_lt
  have count : Word.count 32 = 2 ^ 32 := rfl
  constructor
  · intro own
    apply Classical.byContradiction
    intro past
    -- the first byte past the end falls on the first one of memory
    have round : store.ComesRound (0 : UInt32).toNat := by
      unfold ComesRound Covers SuperHBench.Covers
      simp only [UInt32.toNat_zero]
      omega
    have covers := own 0 (by decide) (flags_iff.mpr (.inr round))
    unfold Covers SuperHBench.Covers at covers
    have bytes := store.value.width.bytes_le_four
    simp only [UInt32.toNat_zero] at covers
    omega
  · intro ends address _ flags
    rcases flags_iff.mp flags with covers | round
    · exact covers
    · unfold ComesRound Covers SuperHBench.Covers at round
      omega

end Store

/-! ## Runs -/

def Session.Written (session : Session) (address : UInt32) : Prop :=
  (session.coverage.get address).write = true

def Deed.Flags (deed : Deed) (address : UInt32) : Prop :=
  ∃ store, deed.store? = some store ∧ store.Flags address

theorem Deed.not_flags {deed : Deed} (silent : deed.store? = none) (address : UInt32) :
    ¬deed.Flags address := by
  rintro ⟨store, stored, _⟩
  rw [silent] at stored
  cases stored

theorem Session.written_logWrite_iff {session : Session} {target address : UInt32}
    {value : Value} :
    (session.logWrite target value).Written address ↔
      session.Written address ∨ (Deed.instruction (.write target value)).Flags address := by
  have flags : (Deed.instruction (.write target value)).Flags address ↔
      Coverage.Meets target value.width.bytes address := by
    rw [← @Store.flags_iff_meets ⟨target, value⟩]
    simp [Deed.Flags, Deed.store?, Operation.store?]
  rw [flags]
  exact Coverage.write_get_logWrite_iff _ _ _ _

theorem Judged.written_iff {deed : Deed} {before after : Session}
    (judged : Judged deed before after) {address : UInt32} :
    after.Written address ↔ before.Written address ∨ deed.Flags address := by
  have beside (silent : deed.store? = none)
      (same : (after.coverage.get address).write = (before.coverage.get address).write) :
      after.Written address ↔ before.Written address ∨ deed.Flags address := by
    rw [Session.Written, same]
    exact (or_iff_left (deed.not_flags silent address)).symm
  cases judged with
  | generic | flow | latched | localCall | localJump => exact beside rfl rfl
  | freeLoad | expectedLoad =>
      exact beside rfl (Coverage.write_get_log (by decide) _ _ _ _)
  | stackStore | expectedStore | expectedString => exact Session.written_logWrite_iff
  | returned =>
      refine beside rfl ?_
      unfold Session.returned
      split
      · rfl
      · rfl
  | call _ _ _ _ _ answered =>
      refine beside rfl ?_
      rw [answered.frame]
      rfl
  | jump _ _ _ _ _ _ answered =>
      refine beside rfl ?_
      rw [answered.frame]
      rfl

def storesOf (turns : List Turn) : List Store :=
  turns.filterMap (·.operation.store?)

theorem storesOf_concat (turns : List Turn) (turn : Turn) :
    storesOf (turns ++ [turn]) = storesOf turns ++ turn.operation.store?.toList := by
  rw [storesOf, List.filterMap_append]
  apply congrArg (storesOf turns ++ ·)
  cases stored : turn.operation.store? with
  | none => simp [stored]
  | some store => simp [stored]

theorem Turn.written_iff (turn : Turn) {address : UInt32} :
    turn.after.Written address ↔
      turn.before.Written address ∨
        ∃ store, turn.operation.store? = some store ∧ store.Flags address := by
  have settled : turn.after.Written address ↔ turn.judged.Written address := by
    have settles := turn.settles
    cases waits : turn.before.latch with
    | none =>
        rw [waits] at settles
        rw [settles]
    | some latch =>
        rw [waits] at settles
        rw [settles.written_iff]
        exact or_iff_left (Deed.not_flags rfl address)
  have stepped : turn.before.stepped.Written address ↔ turn.before.Written address := by
    unfold Session.Written
    exact iff_of_eq (congrArg (· = true) (Coverage.write_get_log (by decide) _ _ _ _))
  rw [settled, turn.effect.written_iff, stepped]
  rfl

theorem Reaches.written_iff {scenario : Scenario} {options : RunOptions}
    {first head : Session} {turns : List Turn}
    (reached : Reaches scenario options first turns head) {address : UInt32} :
    head.Written address ↔
      first.Written address ∨ ∃ store ∈ storesOf turns, store.Flags address := by
  induction reached with
  | start => simp [storesOf]
  | @turn turns turn reached goesOn induction =>
      rw [turn.written_iff, induction, storesOf_concat]
      simp only [List.mem_append, Option.mem_toList, or_and_right, exists_or, ← or_assoc]

theorem Session.Answers.coverage {session final : Session} {returns : Option Scalar}
    (answers : session.Answers returns final) : final.coverage = session.coverage := by
  unfold Session.Answers at answers
  split at answers
  · rw [answers]
  · rcases answers with ⟨contents, _, _, same⟩
    rw [same]
    rfl
  · rw [answers.2]
    rfl

namespace PassingRun

variable {scenario : Scenario} {linked : LinkedObject} {options : RunOptions}
variable {noise : Nat → UInt8}

def stores (run : PassingRun scenario linked options noise) : List Store :=
  storesOf run.turns

theorem written_iff (run : PassingRun scenario linked options noise) {address : UInt32} :
    (run.report.coverage.get address).write = true ↔
      ∃ store ∈ run.stores, store.Flags address := by
  rcases Scenario.prepare_eq_start run.prepared with ⟨machine, resolution, fresh⟩
  have coverage : run.report.coverage = run.last.coverage := run.answers.coverage
  have untouched : ¬run.first.Written address := by
    rw [fresh]
    exact Bool.false_ne_true
  rw [coverage]
  exact run.reached.written_iff.trans (or_iff_right untouched)

def WritesCovered (run : PassingRun scenario linked options noise) : Prop :=
  ∀ address : UInt32, address.toNat < Memory.defaultSize →
    (run.report.coverage.get address).write = true →
    ∃ store ∈ run.stores, store.Covers address.toNat

/-- Bytes of memory that stores come round to are stored to by others. -/
def RoundsCovered (run : PassingRun scenario linked options noise) : Prop :=
  ∀ store ∈ run.stores, ∀ index < Memory.defaultSize, store.ComesRound index →
    ∃ other ∈ run.stores, other.Covers index

theorem writesCovered_iff (run : PassingRun scenario linked options noise) :
    run.WritesCovered ↔ run.RoundsCovered := by
  constructor
  · intro covered store member index inside round
    have small : index < 2 ^ 32 := Nat.lt_trans inside (by decide)
    have same : (UInt32.ofNat index).toNat = index := by
      rw [UInt32.toNat_ofNat', Nat.mod_eq_of_lt small]
    have flags : store.Flags (UInt32.ofNat index) := by
      rw [Store.flags_iff, same]
      exact .inr round
    rw [← same] at inside ⊢
    exact covered (UInt32.ofNat index) inside (run.written_iff.mpr ⟨store, member, flags⟩)
  · intro rounds address inside written
    rcases run.written_iff.mp written with ⟨store, member, flags⟩
    rcases Store.flags_iff.mp flags with covers | round
    · exact ⟨store, member, covers⟩
    · exact rounds store member address.toNat inside round

structure FlagsStores (run : PassingRun scenario linked options noise) : Prop where
  written : ∀ address, (run.report.coverage.get address).write = true ↔
    ∃ store ∈ run.stores, store.Covers address.toNat ∨ store.ComesRound address.toNat
  covered : run.WritesCovered ↔ run.RoundsCovered
  own : ∀ store ∈ run.stores,
    (store.FlagsOwn ↔ store.target.toNat + store.value.width.bytes ≤ Word.count 32)

theorem flagsStores (run : PassingRun scenario linked options noise) : run.FlagsStores := by
  constructor
  case written =>
    intro address
    simp only [run.written_iff, Store.flags_iff]
  case covered => exact run.writesCovered_iff
  case own =>
    intro store _
    exact Store.flagsOwn_iff

end PassingRun

/-- The bytes that a passing run shows as written are those of its stores and those that its
stores come round to. -/
theorem Scenario.flagsStores_of_execute_eq_ok {scenario : Scenario} {linked : LinkedObject}
    {options : RunOptions} {noise : Nat → UInt8} {report : RunReport}
    (passes : (scenario.execute linked options noise).result = .ok report) :
    (∃ run : PassingRun scenario linked options noise, run.report = report) ∧
      ∀ run : PassingRun scenario linked options noise, run.FlagsStores :=
  ⟨execute_eq_ok_iff.mp passes, fun run => run.flagsStores⟩

/-! ## A store to the last byte -/

namespace Judging

/-- The stores that the loop carries out from a session on. -/
def storesBegun (scenario : Scenario) (options : RunOptions) (first : Session) : List Store :=
  (begun scenario options.bound first).filterMap fun head =>
    head.machine.step.2.toOption.bind Operation.store?

end Judging

theorem PassingRun.stores_eq {scenario : Scenario} {linked : LinkedObject}
    {options : RunOptions} {noise : Nat → UInt8}
    (run : PassingRun scenario linked options noise) :
    run.stores = Judging.storesBegun scenario options run.first := by
  rw [Judging.storesBegun, Judging.begun_eq_of_stops run.reached run.stops, List.filterMap_map]
  have steps : (Operation.store? ∘ Turn.operation : Turn → Option Store) =
      (fun head : Session => head.machine.step.2.toOption.bind Operation.store?) ∘
        Turn.before := by
    funext turn
    simp [turn.steps, Except.toOption]
  exact congrArg (List.filterMap · run.turns) steps

/-- A function that stores a word to the last byte of the address space. -/
def lastByteText : CodeText where
  code := [0xe1ff, 0x2101, 0x000b, 0x0009] -- mov #-1,r1; mov.w r0,@r1; rts; nop
  exports := [("_last", 0)]
  imports := []

def lastByte : Scenario where
  entry := "_last"

theorem lastByte_stores :
    ∃ report, (lastByte.execute lastByteText.linked {} fun _ => 0).result = .ok report ∧
      (report.coverage.get 0).write = true ∧
      ∀ run : PassingRun lastByte lastByteText.linked {} fun _ => 0,
        run.stores = [⟨0xffffffff, .word 0⟩] := by
  have flagged : (lastByte.execute lastByteText.linked {} fun _ => 0).result.toOption.any
      (fun report => (report.coverage.get 0).write) = true := by decide +kernel
  have begun : (lastByte.prepare lastByteText.linked false fun _ => 0).toOption.any (fun first =>
      Judging.storesBegun lastByte {} first = [⟨0xffffffff, .word 0⟩]) = true := by decide +kernel
  rcases exists_ok_of_any flagged with ⟨report, passes, first⟩
  refine ⟨report, passes, first, fun run => ?_⟩
  rcases exists_ok_of_any begun with ⟨session, prepared, stores⟩
  have same : session = run.first := Except.ok.inj (prepared.symm.trans run.prepared)
  rw [run.stores_eq, ← same]
  exact of_decide_eq_true stores

theorem lastByte_flagsStores :
    lastByteText.file.link = .ok lastByteText.linked ∧
      ∃ report, (lastByte.execute lastByteText.linked {} fun _ => 0).result = .ok report ∧
        (∃ run : PassingRun lastByte lastByteText.linked {} fun _ => 0, run.report = report) ∧
        ∀ run : PassingRun lastByte lastByteText.linked {} fun _ => 0, run.FlagsStores := by
  rcases lastByte_stores with ⟨report, passes, _⟩
  exact ⟨lastByteText.link_file (by decide), report, passes,
    Scenario.flagsStores_of_execute_eq_ok passes⟩

theorem lastByte_flags_first :
    lastByteText.file.link = .ok lastByteText.linked ∧
      ∃ run : PassingRun lastByte lastByteText.linked {} fun _ => 0,
        (lastByte.execute lastByteText.linked {} fun _ => 0).result = .ok run.report ∧
        ¬run.WritesCovered ∧ ∃ store ∈ run.stores, ¬store.FlagsOwn := by
  rcases lastByte_stores with ⟨report, passes, flagged, stores⟩
  rcases Scenario.execute_eq_ok_iff.mp passes with ⟨run, rfl⟩
  refine ⟨lastByteText.link_file (by decide), run, passes, ?_, ?_⟩
  · intro covered
    rcases covered 0 (by decide) flagged with ⟨store, member, covers⟩
    rw [stores run, List.mem_singleton] at member
    rw [member] at covers
    exact absurd covers.1 (by decide)
  · refine ⟨⟨0xffffffff, .word 0⟩, ?_, ?_⟩
    · rw [stores run]
      exact List.mem_singleton_self _
    · rw [Store.flagsOwn_iff]
      decide

end SuperHBench
