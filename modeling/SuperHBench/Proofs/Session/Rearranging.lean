import SuperHBench.Proofs.CodeObject
import SuperHBench.Proofs.MemoryContents
import SuperHBench.Proofs.Session.Retelling

/-! # Entries in another order

Bindings are looked up, and initializations are carried out one after another. Where no two
bindings answer to the same name or address, and no two initializations write the same byte,
a run does not depend on their order. -/

namespace SuperHBench

/-! ## Initializations -/

namespace Initialization

/-- Its width is that of a memory access. -/
def Supported (initialization : Initialization) : Prop :=
  (Width.ofBits? initialization.bits).isSome

def Apart (initialization other : Initialization) : Prop :=
  initialization.address.toNat + initialization.bits / 8 ≤ other.address.toNat ∨
    other.address.toNat + other.bits / 8 ≤ initialization.address.toNat

instance (initialization : Initialization) : Decidable initialization.Supported :=
  inferInstanceAs (Decidable (_ = _))

instance (initialization other : Initialization) : Decidable (initialization.Apart other) :=
  inferInstanceAs (Decidable (_ ∨ _))

theorem Apart.symm {initialization other : Initialization}
    (apart : initialization.Apart other) : other.Apart initialization :=
  Or.symm apart

theorem exists_bytes_of_supported {initialization : Initialization}
    (supported : initialization.Supported) :
    ∃ bytes : List UInt8, bytes.length = initialization.bits / 8 ∧
      ∀ memory, apply memory initialization =
        .ok (memory.writeBytes initialization.address bytes) := by
  rcases Option.isSome_iff_exists.mp supported with ⟨width, found⟩
  refine ⟨(Value.truncate width initialization.value).toBytes, ?_, fun memory => ?_⟩
  · rw [Value.length_toBytes, Value.width_truncate, Width.ofBits?_eq_some_iff.mp found,
      Width.bits, Nat.mul_div_cancel_left _ (by decide)]
  · rw [apply, found]
    rfl

theorem apply_comm {first second : Initialization} (supported : first.Supported)
    (alsoSupported : second.Supported) (apart : first.Apart second) (memory : Memory) :
    (apply memory first >>= (apply · second)) = (apply memory second >>= (apply · first)) := by
  rcases exists_bytes_of_supported supported with ⟨bytes, length, writes⟩
  rcases exists_bytes_of_supported alsoSupported with ⟨more, alsoLength, alsoWrites⟩
  rw [Apart, ← length, ← alsoLength] at apart
  simp only [writes, alsoWrites, bind, Except.bind]
  exact congrArg Except.ok (memory.writeFrom_comm apart)

theorem foldlM_apply_of_perm {initializations others : List Initialization}
    (perm : others.Perm initializations)
    (supported : ∀ initialization ∈ initializations, initialization.Supported)
    (apart : initializations.Pairwise Apart) (memory : Memory) :
    others.foldlM apply memory = initializations.foldlM apply memory := by
  induction perm generalizing memory with
  | nil => rfl
  | @cons first _ _ _ induction =>
      rw [List.forall_mem_cons] at supported
      rw [List.pairwise_cons] at apart
      rw [List.foldlM_cons, List.foldlM_cons]
      exact bind_congr fun between => induction supported.2 apart.2 between
  | swap first second rest =>
      rw [List.forall_mem_cons, List.forall_mem_cons] at supported
      rw [List.pairwise_cons, List.forall_mem_cons] at apart
      have commute := apply_comm supported.1 supported.2.1 apart.1.1 memory
      simp only [List.foldlM_cons]
      rw [← bind_assoc, ← bind_assoc, commute]
  | @trans _ between _ _ perm before after =>
      have alsoSupported : ∀ initialization ∈ between, initialization.Supported :=
        fun initialization member => supported initialization (perm.mem_iff.mp member)
      have alsoApart := (perm.pairwise_iff Apart.symm).mpr apart
      exact (before alsoSupported alsoApart memory).trans (after supported apart memory)

end Initialization

/-! ## Preparation -/

section Preparing

variable {change : List Binding → List Binding}

theorem Expectation.locate_change (keeps : KeepsNames change) (linked : LinkedObject)
    (bindings : List Binding) (expectation : Expectation) :
    expectation.locate linked (change bindings) = expectation.locate linked bindings := by
  cases expectation with
  | read | write | stringWrite => rfl
  | call call =>
      rw [locate, locate, CallExpectation.locate, CallExpectation.locate, keeps bindings call.name]

theorem LinkedObject.resolveIn_change (keeps : KeepsNames change) (linked : LinkedObject)
    (bindings : List Binding) (memory : Memory) :
    linked.resolveIn (change bindings) memory =
      (linked.resolveIn bindings memory).map fun (resolution, memory) =>
        (resolution.rebound change, memory) := by
  unfold resolveIn
  rw [linked.resolve_rebound keeps, map_eq_pure_bind, EStateM.run_bind]
  cases (linked.resolve bindings).run memory with
  | ok resolution after => rfl
  | error error after => rfl

theorem Session.retold_of_loud {retelling : Retelling} (loud : retelling.silent = false)
    (session : Session) :
    session.retold retelling =
      { session with resolution := session.resolution.rebound retelling.bindings } := by
  have expectations : session.pending.map retelling.expectation = session.pending := by
    rw [funext (Retelling.expectation_of_loud loud), List.map_id']
  rw [retold, Retelling.machine_of_loud loud, Retelling.events_of_loud loud, expectations]

theorem Scenario.prepare_change {retelling : Retelling} (keeps : KeepsNames retelling.bindings)
    (loud : retelling.silent = false) (scenario : Scenario) (linked : LinkedObject)
    (listing : Bool) (noise : Nat → UInt8) :
    Scenario.prepare { scenario with bindings := retelling.bindings scenario.bindings } linked
        listing noise =
      (scenario.prepare linked listing noise).map (·.retold retelling) := by
  have expectations :
      scenario.expectations.map (·.locate linked (retelling.bindings scenario.bindings)) =
        scenario.expectations.map (·.locate linked scenario.bindings) :=
    List.map_congr_left fun expectation _ => expectation.locate_change keeps linked _
  have memory :
      Scenario.memory { scenario with bindings := retelling.bindings scenario.bindings } linked
        noise = scenario.memory linked noise := rfl
  unfold prepare
  simp only [expectations, memory, linked.resolveIn_change keeps]
  cases scenario.memory linked noise with
  | error error => rfl
  | ok loaded =>
      simp only [bind, Except.bind]
      cases linked.resolveIn scenario.bindings loaded with
      | error error => rfl
      | ok resolved =>
          simp only [Except.map]
          cases linked.exportAddress? scenario.entry with
          | none => rfl
          | some entry =>
              dsimp only
              generalize Machine.placeArguments _ scenario.arguments = placed
              cases placed with
              | error error => rfl
              | ok machine =>
                  simp only [Session.retold_of_loud loud]
                  rfl

end Preparing

/-! ## Whole runs -/

namespace Judging

theorem drive_eq {scenario other : Scenario}
    (stops : other.stopWhenFulfilled = scenario.stopWhenFulfilled) (options : RunOptions)
    (remaining : Nat) :
    drive other options remaining = drive scenario options remaining := by
  have alike : satisfied other = satisfied scenario := by
    funext session
    rw [satisfied, stops, satisfied]
  induction remaining with
  | zero => rfl
  | succ remaining induction => rw [drive, drive, alike, induction]

/-- A run under way asks a scenario for nothing but when to stop and what to return. -/
theorem complete_eq (scenario other : Scenario)
    (stops : other.stopWhenFulfilled = scenario.stopWhenFulfilled)
    (returns : other.returns = scenario.returns) (options : RunOptions) :
    complete other options = complete scenario options := by
  simp only [complete, finish, drive_eq stops, returns]

end Judging

def Retelling.exchanging {known others : List Binding} (perm : others.Perm known)
    (addresses : (known.map (·.address)).Nodup) : Retelling where
  silent := false
  bindings := Binding.exchange known others
  find?_bindings := Binding.find?_exchange perm addresses

namespace Scenario

variable {scenario : Scenario}

theorem execute_eq_of_retold {retelling : Retelling} {other : Scenario}
    {linked : LinkedObject} {options : RunOptions} {noise : Nat → UInt8}
    (loud : retelling.silent = false)
    (completed : Judging.complete other options = Judging.complete scenario options)
    (prepared : other.prepare linked options.listing noise =
      (scenario.prepare linked options.listing noise).map (·.retold retelling)) :
    other.execute linked options noise = scenario.execute linked options noise := by
  unfold execute
  rw [prepared, completed]
  cases scenario.prepare linked options.listing noise with
  | error error => rfl
  | ok first =>
      have unaware : first.Unaware retelling := fun silent =>
        absurd (loud.symm.trans silent) Bool.false_ne_true
      have retells := Judging.retells_complete scenario options unaware
      unfold Judging.Retells at retells
      simp only [Except.map]
      cases outcome : (Judging.complete scenario options).run first with
      | error error last =>
          rw [outcome] at retells
          rw [retells.2]
          rw [Session.retold_of_loud loud]
      | ok value last =>
          rw [outcome] at retells
          rw [retells.2]
          rw [Session.retold_of_loud loud]
          rfl

theorem execute_of_bindings_perm {bindings : List Binding}
    (perm : bindings.Perm scenario.bindings) (names : (scenario.bindings.map (·.name)).Nodup)
    (addresses : (scenario.bindings.map (·.address)).Nodup) (linked : LinkedObject)
    (options : RunOptions) (noise : Nat → UInt8) :
    execute { scenario with bindings } linked options noise =
      scenario.execute linked options noise := by
  let retelling := Retelling.exchanging perm addresses
  have keeps : KeepsNames retelling.bindings := Binding.find?_exchange perm names
  have exchanged : retelling.bindings scenario.bindings = bindings :=
    Binding.exchange_self scenario.bindings bindings
  have prepared := scenario.prepare_change keeps rfl linked options.listing noise
  rw [exchanged] at prepared
  have completed := Judging.complete_eq scenario { scenario with bindings } rfl rfl options
  exact execute_eq_of_retold rfl completed prepared

theorem execute_of_initializations_perm {initializations : List Initialization}
    (perm : initializations.Perm scenario.initializations)
    (supported : ∀ initialization ∈ scenario.initializations, initialization.Supported)
    (apart : scenario.initializations.Pairwise Initialization.Apart) (linked : LinkedObject)
    (options : RunOptions) (noise : Nat → UInt8) :
    execute { scenario with initializations } linked options noise =
      scenario.execute linked options noise := by
  have memory : Scenario.memory { scenario with initializations } linked noise =
      scenario.memory linked noise :=
    Initialization.foldlM_apply_of_perm perm supported apart _
  have prepared : prepare { scenario with initializations } linked options.listing noise =
      scenario.prepare linked options.listing noise := by
    unfold prepare
    rw [memory]
  have completed := Judging.complete_eq scenario { scenario with initializations } rfl rfl options
  unfold execute
  rw [prepared, completed]

/-- The same scenario but for the order of entries that are independent of each other. -/
inductive Reorders : Scenario → Scenario → Prop
  | bindings {scenario : Scenario} {bindings : List Binding}
      (perm : bindings.Perm scenario.bindings)
      (names : (scenario.bindings.map (·.name)).Nodup)
      (addresses : (scenario.bindings.map (·.address)).Nodup) :
      Reorders scenario { scenario with bindings }
  | initializations {scenario : Scenario} {initializations : List Initialization}
      (perm : initializations.Perm scenario.initializations)
      (supported : ∀ initialization ∈ scenario.initializations, initialization.Supported)
      (apart : scenario.initializations.Pairwise Initialization.Apart) :
      Reorders scenario { scenario with initializations }
  | trans {first second third : Scenario} (former : Reorders first second)
      (latter : Reorders second third) : Reorders first third

theorem execute_of_reorders {scenario other : Scenario} (reorders : scenario.Reorders other)
    (linked : LinkedObject) (options : RunOptions) (noise : Nat → UInt8) :
    other.execute linked options noise = scenario.execute linked options noise := by
  induction reorders with
  | bindings perm names addresses =>
      exact execute_of_bindings_perm perm names addresses linked options noise
  | initializations perm supported apart =>
      exact execute_of_initializations_perm perm supported apart linked options noise
  | trans _ _ former latter => exact latter.trans former

end Scenario

/-! ## Two calls through slots -/

def visitText : CodeText where
  code := [
    0xd103, 0x410b, 0x0009, -- mov.l @(3,pc),r1; jsr @r1; nop
    0xd103, 0x410b, 0x0009, -- mov.l @(3,pc),r1; jsr @r1; nop
    0x000b, 0x0009, -- rts; nop
    0x0000, 0x0000, 0x0000, 0x0000]
  exports := [("_visit", 0)]
  imports := [("_left", 16), ("_right", 20)]

/-- The slot of the first call gets its offset from the initializations. -/
def visit : Scenario where
  entry := "_visit"
  expectations := [.call ⟨"_left", none, [], none, none⟩, .call ⟨"_right", none, [], none, none⟩]
  bindings := [⟨"_left", 0x7fc⟩, ⟨"_right", 0x900⟩]
  initializations := [⟨16, 16, 4⟩, ⟨8, 18, 0⟩]

def visitBackwards : Scenario :=
  { visit with
    bindings := visit.bindings.reverse
    initializations := visit.initializations.reverse }

theorem visit_reorders_visitBackwards : visit.Reorders visitBackwards :=
  .trans (.bindings (List.reverse_perm _) (by decide) (by decide))
    (.initializations (List.reverse_perm _) (by decide) (by decide))

theorem visitBackwards_execute :
    visitText.file.link = .ok visitText.linked ∧ visit.Reorders visitBackwards ∧
      visitBackwards.bindings ≠ visit.bindings ∧
      visitBackwards.initializations ≠ visit.initializations ∧
      (visitBackwards.execute visitText.linked {} fun _ => 0).fulfilled? = some 2 ∧
      visitBackwards.execute visitText.linked {} (fun _ => 0) =
        visit.execute visitText.linked {} fun _ => 0 :=
  ⟨visitText.link_file (by decide), visit_reorders_visitBackwards, by decide, by decide,
    by decide +kernel,
    Scenario.execute_of_reorders visit_reorders_visitBackwards visitText.linked {} fun _ => 0⟩

end SuperHBench
