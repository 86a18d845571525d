import SuperHBench.Proofs.CodeObject
import SuperHBench.Proofs.Session.Retelling
import SuperHBench.Proofs.Session.StubbedCalls

/-! # Listings

A run tells its onlookers what happens: lines of a listing, if one is asked for, and messages.
No judgement looks at what has been told. So a run without a listing is the run with one, less
its lines, unless a callback looks for lines in the machine that it is given. The lines are
those of the instructions that are begun. Callbacks may disturb this in two ways: they can turn
lines on and off, and the line of a step that they run themselves stays in the machine when the
run cannot fetch its next instruction. -/

namespace SuperHBench

/-! ## Lines ahead -/

namespace Machine

def instructionAhead? (machine : Machine) : Option (UInt32 × UInt16) :=
  match machine.memory.readWord machine.pc with
  | .error _ => none
  | .ok code => if (Instruction.decode? code).isSome then some (machine.pc, code) else none

theorem map_listing? (machine : Machine) :
    machine.listing?.map (fun line => (line.pc, line.code)) = machine.instructionAhead? := by
  unfold listing? instructionAhead?
  cases machine.memory.readWord machine.pc with
  | error error => rfl
  | ok code =>
      simp only [ListingLine.of?]
      cases Instruction.decode? code with
      | none => rfl
      | some instruction => rfl

/-- The next step leaves no line but its own: there is no older one, or it fetches a word. -/
def LeavesOwnLine (machine : Machine) : Prop :=
  machine.line = none ∨ ∃ code, machine.memory.readWord machine.pc = .ok code

theorem line_step_of_leavesOwnLine {machine : Machine} (own : machine.LeavesOwnLine) :
    machine.step.1.line = machine.lineAhead? := by
  cases fetched : machine.memory.readWord machine.pc with
  | ok code => exact line_step_of_fetched fetched
  | error error =>
      have nothing : machine.lineAhead? = none := by
        simp only [lineAhead?, listing?, fetched, ite_self]
      rw [line_step_of_unfetched fetched, nothing]
      rcases own with unlined | ⟨code, found⟩
      · exact unlined
      · rw [fetched] at found
        cases found

end Machine

/-! ## What callbacks leave behind -/

namespace CallExpectation

variable {call : CallExpectation}

/-- The callback keeps what holds of the wish for lines and of the line left behind. -/
def KeepsLines (Holds : Bool → Option ListingLine → Prop) (call : CallExpectation) : Prop :=
  ∀ callback machine after, call.callback = some callback →
    callback machine call.arguments = .ok after →
    Holds machine.listing machine.line → Holds after.listing after.line

/-- The callback does not turn lines on or off. -/
def KeepsListing (call : CallExpectation) : Prop :=
  ∀ callback machine after, call.callback = some callback →
    callback machine call.arguments = .ok after → after.listing = machine.listing

/-- The callback leaves no line of a step of its own. -/
def LeavesNoLine (call : CallExpectation) : Prop :=
  ∀ callback machine after, call.callback = some callback →
    callback machine call.arguments = .ok after → machine.line = none → after.line = none

theorem KeepsListing.keepsLines (keeps : call.KeepsListing) (listing : Bool) :
    call.KeepsLines fun wanted _ => wanted = listing :=
  fun callback machine after found outcome wanted =>
    (keeps callback machine after found outcome).trans wanted

theorem LeavesNoLine.keepsLines (leaves : call.LeavesNoLine) :
    call.KeepsLines fun _ line => line = none :=
  leaves

end CallExpectation

section Keeping

variable {Holds : Bool → Option ListingLine → Prop}

theorem CallExpectation.KeepsLines.of_carriedOut {call : CallExpectation}
    (keeps : call.KeepsLines Holds) {machine after : Machine}
    (carriedOut : call.CarriedOut machine after) (holds : Holds machine.listing machine.line) :
    Holds after.listing after.line := by
  rcases carriedOut with ⟨changed, yields, receives⟩
  have between : Holds changed.listing changed.line := by
    unfold CallbackYields at yields
    split at yields
    · rw [yields]
      exact holds
    · rename_i callback found
      exact keeps callback machine changed found yields holds
  unfold Machine.Receives at receives
  split at receives
  · rw [receives]
    exact between
  · rcases receives with ⟨contents, -, rfl⟩
    exact between
  · rw [receives]
    exact between

theorem Called.keepsLines {target : UInt32} {session called : Session}
    (answered : Called target session called)
    (keeps : ∀ call, .call call ∈ session.pending → call.KeepsLines Holds)
    (holds : Holds session.machine.listing session.machine.line) :
    Holds called.machine.listing called.machine.line := by
  cases answered with
  | routine routine machine named divides =>
      rw [Intrinsic.eq_of_run divides]
      exact holds
  | expected call rest machine unusual front named passes carriedOut =>
      have waits : .call call ∈ session.pending := by simp [front]
      exact (keeps call waits).of_carriedOut carriedOut holds

theorem Judged.keepsLines {deed : Deed} {before after : Session}
    (judged : Judged deed before after)
    (keeps : ∀ call, .call call ∈ before.pending → call.KeepsLines Holds)
    (holds : Holds before.machine.listing before.machine.line) :
    Holds after.machine.listing after.machine.line := by
  cases deed with
  | instruction operation =>
      rw [judged.machine_eq]
      exact holds
  | branch latch =>
      cases judged with
      | call _ _ called _ _ answered => exact answered.keepsLines keeps holds
      | jump _ _ called _ _ _ answered => exact answered.keepsLines keeps holds
      | localCall | localJump => exact holds

theorem Turn.keepsLines (turn : Turn)
    (keeps : ∀ call, .call call ∈ turn.before.pending → call.KeepsLines Holds)
    (holds : Holds turn.before.machine.listing none) :
    Holds turn.after.machine.listing turn.after.machine.line := by
  have stepped : Holds turn.before.stepped.machine.listing turn.before.stepped.machine.line := by
    change Holds turn.before.machine.step.1.listing none
    rw [Machine.listing_step]
    exact holds
  have judged := turn.effect.keepsLines keeps stepped
  have settles := turn.settles
  cases latched : turn.before.latch with
  | none =>
      rw [latched] at settles
      change turn.after = turn.judged at settles
      rw [settles]
      exact judged
  | some latch =>
      rw [latched] at settles
      exact settles.keepsLines (fun call waits => keeps call (turn.effect.pending_subset waits))
        judged

variable {scenario : Scenario} {options : RunOptions} {first head : Session} {turns : List Turn}

theorem Reaches.keepsListing (reached : Reaches scenario options first turns head)
    (keeps : ∀ call, .call call ∈ first.pending → call.KeepsListing) :
    head.machine.listing = first.machine.listing := by
  have kept := reached.invariant (fun session =>
    session.machine.listing = first.machine.listing ∧ session.pending ⊆ first.pending)
    ⟨rfl, List.Subset.refl _⟩ fun turn ⟨listing, fewer⟩ =>
      ⟨turn.keepsLines (fun call waits => (keeps call (fewer waits)).keepsLines _) listing,
        fun _ waits => fewer (turn.pending_subset waits)⟩
  exact kept.1

theorem Reaches.line_eq_none (reached : Reaches scenario options first turns head)
    (leaves : ∀ call, .call call ∈ first.pending → call.LeavesNoLine)
    (unlined : first.machine.line = none) : head.machine.line = none := by
  have kept := reached.invariant (fun session =>
    session.machine.line = none ∧ session.pending ⊆ first.pending)
    ⟨unlined, List.Subset.refl _⟩ fun turn ⟨_, fewer⟩ =>
      ⟨turn.keepsLines (fun call waits => (leaves call (fewer waits)).keepsLines) rfl,
        fun _ waits => fewer (turn.pending_subset waits)⟩
  exact kept.1

end Keeping

/-! ## Without lines -/

def Retelling.unlisting : Retelling where
  silent := true
  bindings := id
  find?_bindings _ _ := rfl

def Retelling.faithful : Retelling where
  silent := false
  bindings := id
  find?_bindings _ _ := rfl

theorem Judging.lines_complete (scenario : Scenario) (options : RunOptions) (session : Session) :
    (sessionAfter ((complete scenario options).run session)).lines =
      linesOf (begun scenario options.bound session) ++ session.lines := by
  have unaware : session.Unaware .faithful := fun silent => absurd silent Bool.false_ne_true
  exact (retells_complete scenario options unaware).lines_sessionAfter

/-! ## Preparation -/

namespace Machine

variable (machine : Machine) (listing : Bool) (line : Option ListingLine)

theorem putArgument_withListing (entry : ArgumentSlot × UInt32) :
    (machine.withListing listing line).putArgument entry =
      (machine.putArgument entry).withListing listing line := by
  rcases entry with ⟨slot, contents⟩
  cases slot <;> rfl

theorem foldl_putArgument_withListing (slots : List (ArgumentSlot × UInt32)) :
    slots.foldl putArgument (machine.withListing listing line) =
      (slots.foldl putArgument machine).withListing listing line := by
  induction slots generalizing machine with
  | nil => rfl
  | cons entry rest induction =>
      rw [List.foldl_cons, putArgument_withListing, induction, List.foldl_cons]

theorem placeArguments_withListing (arguments : List Scalar) :
    (machine.withListing listing line).placeArguments arguments =
      (machine.placeArguments arguments).map (·.withListing listing line) := by
  unfold placeArguments
  cases assignSlots .start arguments with
  | error error => rfl
  | ok assigned =>
      exact congrArg Except.ok (foldl_putArgument_withListing
        (machine.setRegister .stack (machine.stackPointer - assigned.2.stackSize)) listing line
        assigned.1)

end Machine

namespace Scenario

variable {scenario : Scenario} {linked : LinkedObject} {noise : Nat → UInt8}

/-- A run with a listing starts like one without, but for the wish for lines. -/
theorem prepare_listing (scenario : Scenario) (linked : LinkedObject) (listing : Bool)
    (noise : Nat → UInt8) :
    scenario.prepare linked listing noise =
      (scenario.prepare linked false noise).map fun session =>
        { session with machine := session.machine.withListing listing none } := by
  unfold prepare
  cases scenario.memory linked noise with
  | error error => rfl
  | ok memory =>
      simp only [bind, Except.bind]
      cases linked.resolveIn scenario.bindings memory with
      | error error => rfl
      | ok resolved =>
          cases linked.exportAddress? scenario.entry with
          | none => rfl
          | some entry =>
              have placed := Machine.placeArguments_withListing
                { Machine.start resolved.2 with pc := entry } listing none scenario.arguments
              change Machine.placeArguments { Machine.start resolved.2 with listing, pc := entry }
                scenario.arguments = _ at placed
              have silent : Machine.placeArguments
                  { Machine.start resolved.2 with listing := false, pc := entry }
                  scenario.arguments = Machine.placeArguments
                  { Machine.start resolved.2 with pc := entry } scenario.arguments := rfl
              dsimp only
              rw [placed, silent]
              cases Machine.placeArguments { Machine.start resolved.2 with pc := entry }
                  scenario.arguments with
              | error error => rfl
              | ok machine => rfl

theorem events_of_prepare {listing : Bool} {first : Session}
    (prepared : scenario.prepare linked listing noise = .ok first) : first.events = [] := by
  rcases prepare_eq_start prepared with ⟨machine, resolution, rfl⟩
  rfl

theorem machine_of_prepare {listing : Bool} {first : Session}
    (prepared : scenario.prepare linked listing noise = .ok first) :
    first.machine.listing = listing ∧ first.machine.line = none := by
  rw [prepare_listing] at prepared
  cases plain : scenario.prepare linked false noise with
  | error error =>
      rw [plain] at prepared
      cases prepared
  | ok session =>
      rw [plain] at prepared
      cases prepared
      exact ⟨rfl, rfl⟩

end Scenario

/-! ## Whole runs -/

def RunOptions.listed (options : RunOptions) (listing : Bool) : RunOptions :=
  { options with listing }

namespace Judging

theorem drive_listed (scenario : Scenario) (options : RunOptions) (listing : Bool)
    (remaining : Nat) :
    drive scenario (options.listed listing) remaining = drive scenario options remaining := by
  induction remaining with
  | zero => rfl
  | succ remaining induction => rw [drive, drive, induction]

theorem complete_listed (scenario : Scenario) (options : RunOptions) (listing : Bool) :
    complete scenario (options.listed listing) = complete scenario options := by
  rw [complete, complete, drive_listed]
  rfl

end Judging

def Event.unlisted : Event → Event
  | .callback arguments machine => .callback arguments machine.unlisted
  | other => other

theorem Retelling.events_unlisting (told : List Event) :
    unlisting.events told = (told.filter Event.isMessage).map Event.unlisted := by
  have same : unlisting.event = Event.unlisted := by
    funext event
    cases event <;> rfl
  rw [events, same]
  rfl

namespace RunOutcome

/-- The lines that onlookers have been shown, in their order. -/
def lines (outcome : RunOutcome) : List ListingLine :=
  outcome.events.filterMap Event.line?

def messages (outcome : RunOutcome) : List Event :=
  (outcome.events.filter Event.isMessage).map Event.unlisted

def ofRun : EStateM.Result RunError Session PUnit → RunOutcome
  | .ok _ session => ⟨session.events.reverse, .ok session.report⟩
  | .error error session => ⟨session.events.reverse, .error error⟩

theorem lines_ofRun (result : EStateM.Result RunError Session PUnit) :
    (ofRun result).lines = (Judging.sessionAfter result).lines.reverse := by
  cases result <;> exact List.filterMap_reverse

end RunOutcome

namespace Scenario

variable {scenario : Scenario} {linked : LinkedObject} {options : RunOptions}
variable {noise : Nat → UInt8}

theorem execute_eq_ofRun {first : Session}
    (prepared : scenario.prepare linked options.listing noise = .ok first) :
    scenario.execute linked options noise =
      .ofRun ((Judging.complete scenario options).run first) := by
  simp only [execute, prepared]
  cases (Judging.complete scenario options).run first <;> rfl

theorem ofRun_retold {first : Session} (unaware : first.Unaware .unlisting) :
    let loud := RunOutcome.ofRun ((Judging.complete scenario options).run first)
    let quiet := RunOutcome.ofRun
      ((Judging.complete scenario options).run (first.retold .unlisting))
    loud.result = quiet.result ∧ loud.messages = quiet.events := by
  have retells := Judging.retells_complete scenario options unaware
  unfold Judging.Retells at retells
  have told (session : Session) :
      (session.events.reverse.filter Event.isMessage).map Event.unlisted =
        (session.retold .unlisting).events.reverse := by
    change _ = (Retelling.unlisting.events session.events).reverse
    rw [Retelling.events_unlisting, List.filter_reverse, List.map_reverse]
  cases outcome : (Judging.complete scenario options).run first with
  | ok value last =>
      rw [outcome] at retells
      rw [retells.2]
      exact ⟨rfl, told last⟩
  | error error last =>
      rw [outcome] at retells
      rw [retells.2]
      exact ⟨rfl, told last⟩

theorem lines_of_execute (scenario : Scenario) (linked : LinkedObject) (options : RunOptions)
    (noise : Nat → UInt8) :
    (scenario.execute linked options noise).lines =
      (scenario.begun linked options noise).filterMap (·.machine.step.1.line) := by
  cases prepared : scenario.prepare linked options.listing noise with
  | error error =>
      simp only [execute, begun, prepared]
      rfl
  | ok first =>
      have unlined : first.lines = [] := by
        rw [Session.lines, events_of_prepare prepared, List.filterMap_nil]
      rw [execute_eq_ofRun prepared, begun_eq prepared, RunOutcome.lines_ofRun,
        Judging.lines_complete, unlined, List.append_nil, Judging.linesOf, List.reverse_reverse]

/-- No callback looks for lines. -/
def Deaf (scenario : Scenario) : Prop :=
  ∀ call, .call call ∈ scenario.expectations → call.Deaf

def KeepsListing (scenario : Scenario) : Prop :=
  ∀ call, .call call ∈ scenario.expectations → call.KeepsListing

def LeavesNoLine (scenario : Scenario) : Prop :=
  ∀ call, .call call ∈ scenario.expectations → call.LeavesNoLine

/-- With a listing or without one, a run is told like the run of a session without lines. -/
theorem told_of_prepare (deaf : scenario.Deaf) {first : Session}
    (plain : scenario.prepare linked false noise = .ok first) (options : RunOptions)
    (listing : Bool) :
    let quiet := first.retold .unlisting
    let outcome := RunOutcome.ofRun ((Judging.complete scenario options).run quiet)
    (scenario.execute linked (options.listed listing) noise).result = outcome.result ∧
      (scenario.execute linked (options.listed listing) noise).messages = outcome.events ∧
      (scenario.begun linked (options.listed listing) noise).map (·.machine.unlisted) =
        (Judging.begun scenario options.bound quiet).map Session.machine := by
  let start := { first with machine := first.machine.withListing listing none }
  have prepared : scenario.prepare linked (options.listed listing).listing noise = .ok start := by
    rw [prepare_listing, plain]
    rfl
  have unaware : start.Unaware .unlisting := by
    intro _ call waits
    rcases exists_call_of_prepare prepared waits with ⟨expected, member, rfl⟩
    exact deaf expected member
  have alike : start.retold .unlisting = first.retold .unlisting := rfl
  have told := @ofRun_retold scenario options start unaware
  have heads := (@Judging.retells_drive .unlisting options scenario options.bound start unaware).2
  dsimp only at told ⊢
  rw [execute_eq_ofRun prepared, begun_eq prepared, Judging.complete_listed, ← alike, heads,
    List.map_map]
  exact ⟨told.1, told.2, rfl⟩

theorem told_alike (deaf : scenario.Deaf) (linked : LinkedObject) (options : RunOptions)
    (noise : Nat → UInt8) (listing : Bool) :
    (scenario.execute linked (options.listed listing) noise).result =
        (scenario.execute linked (options.listed false) noise).result ∧
      (scenario.execute linked (options.listed listing) noise).messages =
        (scenario.execute linked (options.listed false) noise).messages ∧
      (scenario.begun linked (options.listed listing) noise).map (·.machine.unlisted) =
        (scenario.begun linked (options.listed false) noise).map (·.machine.unlisted) := by
  cases plain : scenario.prepare linked false noise with
  | error error =>
      have fails : scenario.prepare linked listing noise = .error error := by
        rw [prepare_listing, plain]
        rfl
      simp only [execute, begun, RunOptions.listed, plain, fails]
      exact ⟨trivial, trivial, trivial⟩
  | ok first =>
      have loud := told_of_prepare deaf plain options listing
      have quiet := told_of_prepare deaf plain options false
      exact ⟨loud.1.trans quiet.1.symm, loud.2.1.trans quiet.2.1.symm,
        loud.2.2.trans quiet.2.2.symm⟩

theorem exists_reaches_of_mem_begun {head : Session}
    (member : head ∈ scenario.begun linked options noise) :
    ∃ first turns, scenario.prepare linked options.listing noise = .ok first ∧
      Reaches scenario options first turns head := by
  cases prepared : scenario.prepare linked options.listing noise with
  | error error =>
      simp only [begun, prepared, List.not_mem_nil] at member
  | ok first =>
      rw [begun_eq prepared] at member
      rcases Judging.mem_begun_iff.mp member with ⟨turns, reached, _⟩
      exact ⟨first, turns, rfl, reached⟩

theorem listing_of_mem_begun {head : Session} (keeps : scenario.KeepsListing)
    (member : head ∈ scenario.begun linked options noise) :
    head.machine.listing = options.listing := by
  rcases exists_reaches_of_mem_begun member with ⟨first, turns, prepared, reached⟩
  rw [← (machine_of_prepare prepared).1]
  refine reached.keepsListing fun call waits => ?_
  rcases exists_call_of_prepare prepared waits with ⟨expected, among, rfl⟩
  exact keeps expected among

theorem line_of_mem_begun {head : Session} (leaves : scenario.LeavesNoLine)
    (member : head ∈ scenario.begun linked options noise) : head.machine.line = none := by
  rcases exists_reaches_of_mem_begun member with ⟨first, turns, prepared, reached⟩
  refine reached.line_eq_none (fun call waits => ?_) (machine_of_prepare prepared).2
  rcases exists_call_of_prepare prepared waits with ⟨expected, among, rfl⟩
  exact leaves expected among

theorem lines_of_keepsListing (keeps : scenario.KeepsListing)
    (own : ∀ head ∈ scenario.begun linked options noise, head.machine.LeavesOwnLine) :
    (scenario.execute linked options noise).lines =
      (scenario.begun linked options noise).filterMap fun head =>
        if options.listing then head.machine.listing? else none := by
  rw [lines_of_execute]
  refine List.filterMap_congr fun head member => ?_
  rw [Machine.line_step_of_leavesOwnLine (own head member), Machine.lineAhead?,
    listing_of_mem_begun keeps member]

/-! ## What onlookers are told -/

structure ListensOnly (scenario : Scenario) (linked : LinkedObject) (options : RunOptions)
    (noise : Nat → UInt8) : Prop where
  result : (scenario.execute linked (options.listed true) noise).result =
    (scenario.execute linked (options.listed false) noise).result
  messages : (scenario.execute linked (options.listed true) noise).messages =
    (scenario.execute linked (options.listed false) noise).messages
  machines : (scenario.begun linked (options.listed true) noise).map (·.machine.unlisted) =
    (scenario.begun linked (options.listed false) noise).map (·.machine.unlisted)
  lines : scenario.KeepsListing →
    (∀ head ∈ scenario.begun linked (options.listed true) noise, head.machine.LeavesOwnLine) →
    (scenario.execute linked (options.listed true) noise).lines =
      (scenario.begun linked (options.listed true) noise).filterMap (·.machine.listing?)
  places : scenario.KeepsListing →
    (∀ head ∈ scenario.begun linked (options.listed true) noise, head.machine.LeavesOwnLine) →
    (scenario.execute linked (options.listed true) noise).lines.map
        (fun line => (line.pc, line.code)) =
      (scenario.begun linked (options.listed true) noise).filterMap
        (·.machine.instructionAhead?)
  silent : scenario.KeepsListing →
    (∀ head ∈ scenario.begun linked (options.listed false) noise, head.machine.LeavesOwnLine) →
    (scenario.execute linked (options.listed false) noise).lines = []
  ownLines : scenario.LeavesNoLine → ∀ listing,
    ∀ head ∈ scenario.begun linked (options.listed listing) noise, head.machine.LeavesOwnLine

/-- A listing shows the instructions of a run and has no influence on it. -/
theorem listensOnly (scenario : Scenario) (linked : LinkedObject) (options : RunOptions)
    (noise : Nat → UInt8) (deaf : scenario.Deaf) :
    scenario.ListensOnly linked options noise := by
  have alike := told_alike deaf linked options noise true
  constructor
  case result => exact alike.1
  case messages => exact alike.2.1
  case machines => exact alike.2.2
  case lines =>
    intro keeps own
    exact lines_of_keepsListing keeps own
  case places =>
    intro keeps own
    rw [lines_of_keepsListing keeps own, List.map_filterMap]
    exact congrArg (List.filterMap · _) (funext fun head => head.machine.map_listing?)
  case silent =>
    intro keeps own
    rw [lines_of_keepsListing keeps own]
    exact List.filterMap_eq_nil_iff.mpr fun _ _ => rfl
  case ownLines => exact fun leaves listing head member => .inl (line_of_mem_begun leaves member)

theorem markedRelay_listensOnly :
    markedRelay.Deaf ∧ markedRelay.KeepsListing ∧ markedRelay.LeavesNoLine ∧
      markedRelay.ListensOnly relayText.linked {} (fun _ => 0) ∧
      (markedRelay.execute relayText.linked (RunOptions.listed {} true) fun _ => 0).lines.map
        (fun line => (line.pc, line.code)) =
        [(0, 0xd102), (2, 0x410b), (4, 0xe407), (6, 0x2102), (8, 0x000b), (10, 0x0009)] := by
  have marks (call : CallExpectation) (callback : Callback)
      (waits : .call call ∈ markedRelay.expectations) (found : call.callback = some callback) :
      callback = fun machine _ => .ok (machine.setRegister 8 1) := by
    simp only [markedRelay, List.mem_cons, reduceCtorEq, Expectation.call.injEq, false_or,
      List.not_mem_nil, or_false] at waits
    subst waits
    exact (Option.some.inj found).symm
  have deaf : markedRelay.Deaf := by
    intro call waits callback machine other found alike
    rw [marks call callback waits found]
    exact congrArg (fun machine => Except.ok (machine.setRegister 8 1)) alike
  refine ⟨deaf, ?_, ?_, listensOnly markedRelay relayText.linked {} _ deaf, by decide +kernel⟩
  · intro call waits callback machine after found outcome
    rw [marks call callback waits found] at outcome
    cases outcome
    rfl
  · intro call waits callback machine after found outcome unlined
    rw [marks call callback waits found] at outcome
    cases outcome
    exact unlined

end Scenario

/-! ## Callbacks that disturb the lines -/

def wanderText : CodeText where
  code := [
    0xd102, 0x410b, 0x0009, -- mov.l @(2,pc),r1; jsr @r1; nop
    0x000b, 0x0009, 0x0009, -- rts; nop; nop
    0x0800, 0x0000]
  exports := [("_wander", 0)]
  imports := []

/-- A scenario of a function with one call, which a callback answers. -/
def wander (callback : Callback) : Scenario where
  entry := "_wander"
  expectations := [.call ⟨"_away", none, [], none, some callback⟩]
  bindings := [⟨"_away", 0x800⟩]

theorem eq_of_wander {callback other : Callback} {call : CallExpectation}
    (waits : .call call ∈ (wander callback).expectations) (found : call.callback = some other) :
    other = callback := by
  simp only [wander, List.mem_cons, Expectation.call.injEq, List.not_mem_nil, or_false] at waits
  subst waits
  exact (Option.some.inj found).symm

/-- Two instructions of the program have run, and the way back leads to where there is no
memory. -/
def strayed (machine : Machine) : Machine :=
  { { machine with pc := 8 }.step.1.step.1 with pr := 0xfffffffe }

theorem listing_strayed (machine : Machine) : (strayed machine).listing = machine.listing :=
  (Machine.listing_step _).trans (Machine.listing_step _)

theorem unlisted_strayed {machine other : Machine} (alike : machine.unlisted = other.unlisted) :
    (strayed machine).unlisted = (strayed other).unlisted := by
  have sent : { machine with pc := 8 }.unlisted = { other with pc := 8 }.unlisted :=
    congrArg (fun machine => { machine with pc := 8 }) alike
  have stepped := Machine.unlisted_step (Machine.unlisted_step sent)
  exact congrArg (fun machine => { machine with pr := 0xfffffffe }) stepped

def stray : Callback := fun machine _ =>
  .ok (strayed machine)

/-- The lines are turned off. -/
def hush : Callback := fun machine _ =>
  .ok machine.unlisted

/-- Neither callback looks for lines. One turns none on or off, but the line of its second
instruction, at 10, is shown when the run cannot fetch its fourth, and that of its first, at 8, is
not. The other leaves none behind, but nothing is shown of the instructions after the call. -/
theorem callbacks_disturbLines :
    ((wander stray).Deaf ∧ (wander stray).KeepsListing ∧
      ((wander stray).execute wanderText.linked (RunOptions.listed {} true) fun _ => 0).lines.map
        (fun line => (line.pc, line.code)) =
        [(0, 0xd102), (2, 0x410b), (4, 0x0009), (10, 0x0009)] ∧
      ((wander stray).begun wanderText.linked (RunOptions.listed {} true) fun _ => 0).filterMap
        (·.machine.instructionAhead?) = [(0, 0xd102), (2, 0x410b), (4, 0x0009)]) ∧
    (wander hush).Deaf ∧ (wander hush).LeavesNoLine ∧
      ((wander hush).execute wanderText.linked (RunOptions.listed {} true) fun _ => 0).lines.map
        (fun line => (line.pc, line.code)) = [(0, 0xd102), (2, 0x410b), (4, 0x0009)] ∧
      ((wander hush).begun wanderText.linked (RunOptions.listed {} true) fun _ => 0).filterMap
        (·.machine.instructionAhead?) =
        [(0, 0xd102), (2, 0x410b), (4, 0x0009), (6, 0x000b), (8, 0x0009)] := by
  refine ⟨⟨?_, ?_, by decide +kernel, by decide +kernel⟩, ?_, ?_, by decide +kernel,
    by decide +kernel⟩
  · intro call waits callback machine other found alike
    rw [eq_of_wander waits found]
    exact congrArg Except.ok (unlisted_strayed alike)
  · intro call waits callback machine after found outcome
    rw [eq_of_wander waits found] at outcome
    cases outcome
    exact listing_strayed machine
  · intro call waits callback machine other found alike
    rw [eq_of_wander waits found]
    exact congrArg Except.ok alike
  · intro call waits callback machine after found outcome _
    rw [eq_of_wander waits found] at outcome
    cases outcome
    rfl

end SuperHBench
