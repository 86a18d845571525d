import SuperHBench.Proofs.CodeObject
import SuperHBench.Proofs.Session.Passing
import SuperHBench.Proofs.Strings

/-! # Expectations of a passing run

Every judgement takes at most the front expectation, and only by what that expectation
asks for. Stores outside the stack and branches to symbols cannot pass without taking
one. A run that passes has therefore done what was expected, in that order, and no
store or call beside it. -/

namespace SuperHBench

/-! ## One judgement -/

/-- What is judged is what an expectation asks for. -/
def Deed.Meets (deed : Deed) (session : Session) : Expectation → Prop
  | .call call =>
      ∃ latch, deed = .branch latch ∧ session.calleeName? latch.target = some call.name ∧
        session.PassesArguments latch.target call
  | .write access => deed = .instruction (.write access.address access.value)
  | .stringWrite address contents =>
      ∃ pointer, deed = .instruction (.write address (.long pointer)) ∧
        session.machine.memory.HoldsString pointer contents
  | .read access => deed = .instruction (.read access.address access.value)

structure Takes (deed : Deed) (before after : Session) (expectation : Expectation) : Prop where
  front : before.pending = expectation :: after.pending
  counted : after.fulfilled = before.fulfilled + 1
  meets : deed.Meets before expectation

structure TakesNothing (before after : Session) : Prop where
  pending : after.pending = before.pending
  fulfilled : after.fulfilled = before.fulfilled

theorem Session.pending_eq_of_front {session : Session} {expectation : Expectation}
    {rest : List Expectation} (front : session.pending = expectation :: rest) (text : String) :
    session.pending = expectation :: (session.consume text).pending := by
  change session.pending = expectation :: session.pending.tail
  rw [front, List.tail_cons]

theorem Called.takes_of_unusual {latch : Latch} {session after : Session}
    (called : Called latch.target session after)
    (unusual : session.routineAt? latch.target = none) :
    ∃ expectation, Takes (.branch latch) session after expectation := by
  cases called with
  | routine routine _ named =>
      rw [unusual] at named
      cases named
  | expected call rest machine _ front named passes =>
      rw [session.announce_eq call]
      have taken := Session.pending_eq_of_front front s!"Called {session.calleeText latch.target}"
      exact ⟨.call call, taken, rfl, latch, rfl, named, passes⟩

theorem Called.takes {latch : Latch} {session after : Session}
    (called : Called latch.target session after) :
    TakesNothing session after ∨
      ∃ expectation, Takes (.branch latch) session after expectation := by
  cases unusual : session.routineAt? latch.target with
  | none => exact .inr (called.takes_of_unusual unusual)
  | some routine =>
      cases called with
      | routine => exact .inl ⟨rfl, rfl⟩
      | expected _ _ _ unnamed =>
          rw [unusual] at unnamed
          cases unnamed

theorem Session.allowsStackWrite_eq_false_iff {session : Session} {target : UInt32} :
    session.allowsStackWrite target = false ↔
      target < session.machine.stackPointer ∨ session.wantsWrite target = true := by
  unfold Session.allowsStackWrite
  cases wanted : session.wantsWrite target with
  | true => simp
  | false => simp

theorem Judged.takes_of_store {target : UInt32} {value : Value} {before after : Session}
    (judged : Judged (.instruction (.write target value)) before after)
    (strict : before.allowsStackWrite target = false) :
    ∃ expectation, Takes (.instruction (.write target value)) before after expectation := by
  cases judged with
  | stackStore _ _ _ allowed =>
      rw [strict] at allowed
      cases allowed
  | expectedStore _ _ _ rest _ front =>
      exact ⟨.write ⟨target, value⟩, Session.pending_eq_of_front front "", rfl, rfl⟩
  | expectedString _ pointer contents _ rest _ front held =>
      have holds := (before.machine.memory.readStringWithin_eq_ok_iff
        (length_lt_stringLimit contents)).mp held
      exact ⟨.stringWrite target contents, Session.pending_eq_of_front front "", rfl,
        pointer, rfl, holds⟩

theorem Judged.takes_of_symbol {latch : Latch} {before after : Session} {symbol : Symbol}
    (judged : Judged (.branch latch) before after)
    (found : before.resolution.symbols.at? latch.target = some symbol)
    (ordinary : Intrinsic.ofName? symbol.name = none) :
    ∃ expectation, Takes (.branch latch) before after expectation := by
  have outside : before.recognises latch.target = true := by
    simp [Session.recognises, found]
  have unusual : before.routineAt? latch.target = none := by
    simp [Session.routineAt?, Session.calleeName?, found, ordinary]
  cases judged with
  | call _ _ _ _ _ answered =>
      rcases answered.takes_of_unusual unusual with ⟨expectation, front, counted, meets⟩
      exact ⟨expectation, front, counted, meets⟩
  | jump _ _ _ _ _ _ answered =>
      rcases answered.takes_of_unusual unusual with ⟨expectation, front, counted, meets⟩
      exact ⟨expectation, front, counted, meets⟩
  | localCall _ _ _ inside | localJump _ _ _ inside =>
      rw [outside] at inside
      cases inside

theorem Judged.takes {deed : Deed} {before after : Session} (judged : Judged deed before after) :
    TakesNothing before after ∨ ∃ expectation, Takes deed before after expectation := by
  cases judged with
  | generic | flow | freeLoad | stackStore | latched | localCall | localJump =>
      exact .inl ⟨rfl, rfl⟩
  | expectedLoad source value _ rest _ front =>
      exact .inr ⟨.read ⟨source, value⟩, Session.pending_eq_of_front front "", rfl, rfl⟩
  | expectedStore target value _ rest strict front =>
      exact .inr (takes_of_store (.expectedStore target value _ rest strict front) strict)
  | expectedString target pointer contents _ rest strict front held =>
      exact .inr (takes_of_store
        (.expectedString target pointer contents _ rest strict front held) strict)
  | returned =>
      left
      unfold Session.returned
      split
      · exact ⟨rfl, rfl⟩
      · exact ⟨rfl, rfl⟩
  | call _ _ _ _ _ answered =>
      rcases answered.takes with ⟨pending, fulfilled⟩ | ⟨expectation, front, counted, meets⟩
      · exact .inl ⟨pending, fulfilled⟩
      · exact .inr ⟨expectation, front, counted, meets⟩
  | jump _ _ _ _ _ _ answered =>
      rcases answered.takes with ⟨pending, fulfilled⟩ | ⟨expectation, front, counted, meets⟩
      · exact .inl ⟨pending, fulfilled⟩
      · exact .inr ⟨expectation, front, counted, meets⟩

/-! ## The row of judgements -/

namespace Judgement

def taken? (judgement : Judgement) : Option Expectation :=
  if judgement.after.pending.length < judgement.before.pending.length then
    judgement.before.pending.head?
  else
    none

variable {judgement : Judgement}

theorem taken?_of_takes {expectation : Expectation}
    (takes : Takes judgement.deed judgement.before judgement.after expectation) :
    judgement.taken? = some expectation := by
  simp [taken?, takes.front]

theorem taken?_of_takesNothing (nothing : TakesNothing judgement.before judgement.after) :
    judgement.taken? = none := by
  simp [taken?, nothing.pending]

/-- What a judgement takes is the front of what was open, and it is counted. -/
theorem ledger (judged : Judged judgement.deed judgement.before judgement.after) :
    judgement.before.pending = judgement.taken?.toList ++ judgement.after.pending ∧
      judgement.after.fulfilled =
        judgement.before.fulfilled + judgement.taken?.toList.length := by
  rcases judged.takes with nothing | ⟨expectation, takes⟩
  · rw [taken?_of_takesNothing nothing]
    exact ⟨nothing.pending.symm, nothing.fulfilled⟩
  · rw [taken?_of_takes takes]
    exact ⟨takes.front, takes.counted⟩

theorem meets_of_taken? {expectation : Expectation}
    (judged : Judged judgement.deed judgement.before judgement.after)
    (taken : judgement.taken? = some expectation) :
    judgement.deed.Meets judgement.before expectation := by
  rcases judged.takes with nothing | ⟨other, takes⟩
  · rw [taken?_of_takesNothing nothing] at taken
    cases taken
  · rw [taken?_of_takes takes] at taken
    cases taken
    exact takes.meets

end Judgement

/-- What a row of judgements has taken, in its order. -/
def takenBy (judgements : List Judgement) : List Expectation :=
  judgements.filterMap Judgement.taken?

theorem takenBy_cons (judgement : Judgement) (rest : List Judgement) :
    takenBy (judgement :: rest) = judgement.taken?.toList ++ takenBy rest := by
  unfold takenBy
  cases taken : judgement.taken? with
  | none => rw [List.filterMap_cons_none taken, Option.toList_none, List.nil_append]
  | some expectation =>
      rw [List.filterMap_cons_some taken, Option.toList_some, List.singleton_append]

theorem takenBy_append (earlier later : List Judgement) :
    takenBy (earlier ++ later) = takenBy earlier ++ takenBy later :=
  List.filterMap_append

theorem Follows.ledger {first last : Session} {judgements : List Judgement}
    (follows : Follows first judgements last) :
    first.pending = takenBy judgements ++ last.pending ∧
      last.fulfilled = first.fulfilled + (takenBy judgements).length := by
  induction follows with
  | nil => exact ⟨rfl, rfl⟩
  | cons judgement judged _ induction =>
      have here := judgement.ledger judged
      rw [takenBy_cons, List.append_assoc, ← induction.1, List.length_append]
      refine ⟨here.1, ?_⟩
      rw [induction.2, here.2, Nat.add_assoc]

theorem Judged.pending_subset {deed : Deed} {before after : Session}
    (judged : Judged deed before after) : after.pending ⊆ before.pending := by
  rw [((Judgement.mk deed before after).ledger judged).1]
  exact List.subset_append_right _ _

theorem Turn.pending_subset (turn : Turn) : turn.after.pending ⊆ turn.before.pending := by
  have ledger := turn.follows.ledger.1
  change turn.before.pending = _ at ledger
  rw [ledger]
  exact List.subset_append_right _ _

section Loop

variable {scenario : Scenario} {options : RunOptions} {first head : Session}
variable {turns : List Turn}

/-- What was open at first is what has been taken and what is open still. -/
theorem Reaches.ledger (reached : Reaches scenario options first turns head) :
    first.pending = takenBy (judgementsOf turns) ++ head.pending ∧
      head.fulfilled = first.fulfilled + (takenBy (judgementsOf turns)).length := by
  induction reached with
  | start => exact ⟨rfl, rfl⟩
  | turn turn _ _ induction =>
      have here := turn.follows.ledger
      rw [judgementsOf_concat, takenBy_append, List.append_assoc, ← here.1, List.length_append]
      refine ⟨induction.1, ?_⟩
      rw [here.2, ← Nat.add_assoc, ← induction.2]
      rfl

theorem Reaches.instructions_eq (reached : Reaches scenario options first turns head) :
    head.instructions = first.instructions + turns.length := by
  induction reached with
  | start => rfl
  | turn turn _ _ induction =>
      rw [turn.instructions_after, induction, List.length_append, List.length_singleton,
        Nat.add_assoc]

end Loop

/-! ## The whole run -/

namespace PassingRun

variable {scenario : Scenario} {linked : LinkedObject} {options : RunOptions}
variable {noise : Nat → UInt8}

def report (run : PassingRun scenario linked options noise) : RunReport :=
  run.final.report

/-- A run has done what was expected and nothing beside it that had to be expected. -/
structure Conforms (run : PassingRun scenario linked options noise) : Prop where
  /-- The expectations have been taken in their order. -/
  inOrder : takenBy (judgementsOf run.turns) =
    scenario.expectations.map (·.locate linked scenario.bindings)
  /-- A judgement that takes an expectation takes the front one. -/
  front : ∀ judgement ∈ judgementsOf run.turns,
    judgement.before.pending = judgement.taken?.toList ++ judgement.after.pending
  matched : ∀ judgement ∈ judgementsOf run.turns, ∀ expectation,
    judgement.taken? = some expectation → judgement.deed.Meets judgement.before expectation
  delayed : ∀ earlier slot later, run.turns = earlier ++ slot :: later →
    ∀ judgement ∈ slot.judgements, ∀ latch, judgement.deed = .branch latch →
    latch.kind ≠ .rts ∧ ∃ front turn code, earlier = front ++ [turn] ∧
      turn.operation = .branch code latch.kind latch.target
  stores : ∀ judgement ∈ judgementsOf run.turns, ∀ target value,
    judgement.deed = .instruction (.write target value) →
    target < judgement.before.machine.stackPointer ∨ judgement.before.wantsWrite target = true →
    judgement.taken?.isSome = true
  branches : ∀ earlier turn slot later, run.turns = earlier ++ turn :: slot :: later →
    ∀ latch symbol, turn.operation.latch? = some latch →
    run.first.resolution.symbols.at? latch.target = some symbol →
    Intrinsic.ofName? symbol.name = none →
    ∃ judgement ∈ slot.judgements,
      judgement.deed = .branch latch ∧ judgement.taken?.isSome = true
  fulfilled : run.report.fulfilled =
    scenario.expectations.length + if scenario.returns.isSome then 1 else 0
  instructions : run.report.instructions = run.turns.length

theorem conforms (run : PassingRun scenario linked options noise) : run.Conforms := by
  rcases Scenario.prepare_eq_start run.prepared with ⟨machine, resolution, fresh⟩
  have ledger := run.reached.ledger
  rw [run.satisfied, List.append_nil, fresh] at ledger
  have taken : scenario.expectations.map (·.locate linked scenario.bindings) =
      takenBy (judgementsOf run.turns) := ledger.1
  have idle := Scenario.latch_of_prepare run.prepared
  constructor
  case inOrder => exact taken.symm
  case front =>
    intro judgement member
    exact (judgement.ledger (judged_of_mem_judgementsOf member)).1
  case matched =>
    intro judgement member expectation
    exact Judgement.meets_of_taken? (judged_of_mem_judgementsOf member)
  case delayed =>
    intro earlier slot later split judgement member latch branch
    have reached := run.reached
    rw [split] at reached
    -- a branch is judged only where it was latched, which the turn before has done
    have waits := slot.latch_of_mem member branch
    rw [reached.of_append.1.latch_eq idle] at waits
    rcases Option.bind_eq_some_iff.mp waits with ⟨turn, last, latches⟩
    rcases Operation.latch?_eq_some_iff.mp latches with ⟨delayed, code, operation⟩
    rcases List.getLast?_eq_some_iff.mp last with ⟨front, whole⟩
    exact ⟨delayed, front, turn, code, whole, operation⟩
  case stores =>
    intro judgement member target value store strict
    have judged := judged_of_mem_judgementsOf member
    rw [store] at judged
    rcases judged.takes_of_store (Session.allowsStackWrite_eq_false_iff.mpr strict) with
      ⟨expectation, takes⟩
    rw [← store] at takes
    rw [Judgement.taken?_of_takes takes]
    rfl
  case branches =>
    intro earlier turn slot later split latch symbol branch found ordinary
    have reached := run.reached
    rw [split, ← List.singleton_append, ← List.append_assoc] at reached
    have waits : slot.before.latch = some latch := by
      rw [reached.of_append.1.latch_eq idle, List.getLast?_concat]
      exact branch
    have member := slot.branch_mem waits
    have same : slot.judged.resolution = run.first.resolution :=
      slot.effect.frame.1.trans reached.of_append.1.resolution_eq
    rw [← same] at found
    rcases (slot.follows.judged_of_mem member).takes_of_symbol found ordinary with
      ⟨expectation, takes⟩
    refine ⟨_, member, rfl, ?_⟩
    rw [Judgement.taken?_of_takes takes]
    rfl
  case fulfilled =>
    have count : run.last.fulfilled = scenario.expectations.length := by
      rw [ledger.2, ← taken, List.length_map]
      exact Nat.zero_add _
    exact run.answers.fulfilled.trans (by rw [count])
  case instructions =>
    have count : run.last.instructions = run.turns.length := by
      rw [run.reached.instructions_eq, fresh]
      exact Nat.zero_add _
    exact run.answers.instructions.trans count

end PassingRun

theorem Scenario.conforms_of_execute_eq_ok {scenario : Scenario} {linked : LinkedObject}
    {options : RunOptions} {noise : Nat → UInt8} {report : RunReport}
    (passes : (scenario.execute linked options noise).result = .ok report) :
    (∃ run : PassingRun scenario linked options noise, run.report = report) ∧
      ∀ run : PassingRun scenario linked options noise, run.Conforms :=
  ⟨execute_eq_ok_iff.mp passes, fun run => run.conforms⟩

/-- A function that asks another for a number and passes it on. -/
def relayText : CodeText where
  code := [
    0xd102, 0x410b, 0xe407, -- mov.l @(2,pc),r1; jsr @r1; mov #7,r4
    0x2102, 0x000b, 0x0009, -- mov.l r0,@r1; rts; nop
    0x0800, 0x0000]
  exports := [("_relay", 0)]
  imports := []

def relay : Scenario where
  entry := "_relay"
  returns := some (.integer 5)
  expectations := [
    .read ⟨12, .long 0x800⟩,
    .call ⟨"_ask", none, [.scalar (.integer 7)], some (.integer 5), none⟩,
    .write ⟨0x800, .long 5⟩]
  bindings := [⟨"_ask", 0x800⟩]

theorem relay_conforms :
    relayText.file.link = .ok relayText.linked ∧
      ∃ report, (relay.execute relayText.linked {} fun _ => 0).result = .ok report ∧
        report.fulfilled = 4 ∧
        (∃ run : PassingRun relay relayText.linked {} fun _ => 0, run.report = report) ∧
        ∀ run : PassingRun relay relayText.linked {} fun _ => 0, run.Conforms := by
  have counted : (relay.execute relayText.linked {} fun _ => 0).fulfilled? = some 4 := by
    decide +kernel
  rcases RunOutcome.fulfilled?_eq_some_iff.mp counted with ⟨report, passes, count⟩
  exact ⟨relayText.link_file (by decide), report, passes, count,
    Scenario.conforms_of_execute_eq_ok passes⟩

end SuperHBench
