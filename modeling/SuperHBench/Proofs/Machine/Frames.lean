import SuperHBench.Proofs.Machine.DelayedBranches

/-! # Frames

What a word leaves alone. The general and the single-precision registers that a step changes are
named by fields of the word, or are register 0; everything else changes for a few forms of words
only. The program counter moves on by one word, unless a branch without a slot is taken. -/

namespace SuperHBench

/-! ## Forms of words -/

/-- The words with these fields. A field that is left open may be anything. -/
structure WordForm where
  group : Nat
  n : Option Nat
  m : Option Nat
  low : Option Nat
deriving DecidableEq, Repr

namespace WordForm

@[simp] def Fits (form : WordForm) (word : InstructionWord) : Prop :=
  word.group = form.group ∧ (∀ n ∈ form.n, word.n.val = n) ∧ (∀ m ∈ form.m, word.m.val = m) ∧
    ∀ low ∈ form.low, word.low = low

instance (form : WordForm) (word : InstructionWord) : Decidable (form.Fits word) :=
  inferInstanceAs (Decidable (_ ∧ _))

@[simp] def changing : SystemRegister → List WordForm
  | .macl =>
      [⟨0x0, none, none, some 0x7⟩, -- MUL.L Rm,Rn
        ⟨0x4, none, some 0x1, some 0xa⟩] -- LDS Rn,MACL
  | .pr =>
      [⟨0xb, none, none, none⟩, -- BSR
        ⟨0x4, none, some 0x0, some 0xb⟩, -- JSR @Rn
        ⟨0x4, none, some 0x2, some 0xa⟩, -- LDS Rn,PR
        ⟨0x4, none, some 0x2, some 0x6⟩] -- LDS.L @Rn+,PR
  | .fpul =>
      [⟨0x4, none, some 0x5, some 0xa⟩, -- LDS Rn,FPUL
        ⟨0xf, none, some 0x1, some 0xd⟩, -- FLDS FRn,FPUL
        ⟨0xf, none, some 0x3, some 0xd⟩] -- FTRC FRn,FPUL

@[simp] def changingCondition : List WordForm :=
  [⟨0x2, none, none, some 0x8⟩, -- TST Rm,Rn
    ⟨0xc, some 0x8, none, none⟩, -- TST #imm,R0
    ⟨0x3, none, none, some 0x0⟩, -- CMP/EQ Rm,Rn
    ⟨0x3, none, none, some 0x2⟩, -- CMP/HS Rm,Rn
    ⟨0x3, none, none, some 0x3⟩, -- CMP/GE Rm,Rn
    ⟨0x3, none, none, some 0x6⟩, -- CMP/HI Rm,Rn
    ⟨0x3, none, none, some 0x7⟩, -- CMP/GT Rm,Rn
    ⟨0x8, some 0x8, none, none⟩, -- CMP/EQ #imm,R0
    ⟨0x4, none, some 0x1, some 0x1⟩, -- CMP/PZ Rn
    ⟨0x4, none, some 0x1, some 0x5⟩, -- CMP/PL Rn
    ⟨0xf, none, none, some 0x4⟩, -- FCMP/EQ FRm,FRn
    ⟨0xf, none, none, some 0x5⟩, -- FCMP/GT FRm,FRn
    ⟨0x3, none, none, some 0xe⟩, -- ADDC Rm,Rn
    ⟨0x4, none, some 0x0, some 0x0⟩, -- SHLL Rn
    ⟨0x4, none, some 0x0, some 0x1⟩, -- SHLR Rn
    ⟨0x4, none, some 0x2, some 0x1⟩, -- SHAR Rn
    ⟨0x4, none, some 0x1, some 0x0⟩] -- DT Rn

/-- The branches without a slot, BT and BF, by the condition that they are taken on. -/
@[simp] def branching : Bool → WordForm
  | true => ⟨0x8, some 0x9, none, none⟩
  | false => ⟨0x8, some 0xb, none, none⟩

end WordForm

/-! ## What instructions change -/

@[simp] def Address.moved : Address → List DataRegister
  | .postIncrement base | .preDecrement base => [.general base]
  | _ => []

namespace Instruction

@[simp] def targets : Instruction → List DataRegister
  | .load _ source destination => destination :: source.moved
  | .store _ _ target => target.moved
  | .transfer _ destination => [destination]
  | .combine _ _ destination | .addWithCarry _ destination | .shiftBit _ destination
  | .shiftLong _ destination | .decrement destination | .copyCondition destination =>
      [.general destination]
  | .loadAddress _ => [.general .zero]
  | .multiply _ _ => [.system .macl]
  | .floatCombine _ _ destination | .multiplyAdd _ destination | .floatUpdate _ destination
  | .integerToFloat destination => [.float destination]
  | .floatToInteger _ => [.system .fpul]
  | .branchSubroutine _ | .jumpSubroutine _ => [.system .pr]
  | _ => []

@[simp] def changesCondition : Instruction → Bool
  | .compare .. | .testSign .. | .addWithCarry .. | .shiftBit .. | .decrement _
  | .floatCompare .. => true
  | _ => false

/-- How far a branch without a slot goes where the condition is `t`. -/
@[simp] def offset? (t : Bool) : Instruction → Option UInt32
  | .conditional sense false offset => if t = sense then some offset else none
  | _ => none

end Instruction

namespace Machine

variable {machine after : Machine} {code : UInt16} {instruction : Instruction}
variable {operation : Operation}

theorem data_movePointer_of_not_mem (width : Width) (address : Address) {register : DataRegister}
    (other : register ∉ address.moved) :
    (machine.movePointer width address).data register = machine.data register := by
  cases address with
  | postIncrement base | preDecrement base =>
      exact machine.data_setData_other _ (Ne.symm (List.ne_of_not_mem_cons other))
  | _ => rfl

theorem data_of_execute (ran : machine.execute code instruction = .ok operation after)
    {register : DataRegister} (other : register ∉ instruction.targets) :
    after.data register = machine.data register := by
  cases instruction with
  | load width source destination =>
      rcases load_eq_ok_iff.mp ran with ⟨value, _, _, rfl⟩
      rw [Instruction.targets, List.mem_cons, not_or] at other
      rw [data_setData_other _ _ (Ne.symm other.1), data_movePointer_of_not_mem _ _ other.2]
  | store width source target =>
      cases ran
      exact machine.data_movePointer_of_not_mem width target other
  | transfer | combine | addWithCarry | multiply | shiftBit | shiftLong | decrement
  | copyCondition | loadAddress | floatCombine | multiplyAdd | floatUpdate | integerToFloat
  | floatToInteger | branchSubroutine | jumpSubroutine =>
      cases ran
      exact machine.data_setData_other _ (Ne.symm (List.ne_of_not_mem_cons other))
  | conditional sense delayed offset =>
      cases ran
      split
      · cases delayed <;> rfl
      · rfl
  | noOperation | compare | testSign | floatCompare | branchFar | branch | jump
  | returnSubroutine =>
      cases ran
      rfl

@[simp] theorem t_setData (machine : Machine) (register : DataRegister) (value : UInt32) :
    (machine.setData register value).t = machine.t := by
  rcases register with _ | _ | register
  · rfl
  · rfl
  · cases register <;> rfl

@[simp] theorem t_movePointer (machine : Machine) (width : Width) (address : Address) :
    (machine.movePointer width address).t = machine.t := by
  cases address <;> rfl

theorem t_of_execute (ran : machine.execute code instruction = .ok operation after)
    (other : instruction.changesCondition = false) : after.t = machine.t := by
  cases instruction with
  | load width source destination =>
      rcases load_eq_ok_iff.mp ran with ⟨value, _, _, rfl⟩
      rw [t_setData, t_movePointer]
  | store width source target =>
      cases ran
      exact machine.t_movePointer width target
  | transfer source destination =>
      cases ran
      exact machine.t_setData destination _
  | conditional sense delayed offset =>
      cases ran
      split
      · cases delayed <;> rfl
      · rfl
  | compare | testSign | addWithCarry | shiftBit | decrement | floatCompare => cases other
  | _ =>
      cases ran
      rfl

@[simp] theorem pc_setData (machine : Machine) (register : DataRegister) (value : UInt32) :
    (machine.setData register value).pc = machine.pc := by
  rcases register with _ | _ | register
  · rfl
  · rfl
  · cases register <;> rfl

@[simp] theorem pc_movePointer (machine : Machine) (width : Width) (address : Address) :
    (machine.movePointer width address).pc = machine.pc := by
  cases address <;> rfl

theorem pc_of_execute (ran : machine.execute code instruction = .ok operation after) :
    after.pc = ((instruction.offset? machine.t).map machine.relativeTarget).getD machine.pc := by
  cases instruction with
  | load width source destination =>
      rcases load_eq_ok_iff.mp ran with ⟨value, _, _, rfl⟩
      rw [pc_setData, pc_movePointer]
      rfl
  | store width source target =>
      cases ran
      exact machine.pc_movePointer width target
  | transfer source destination =>
      cases ran
      exact machine.pc_setData destination _
  | conditional sense delayed offset =>
      cases ran
      cases delayed with
      | true => simp [delay, apply_ite Machine.pc]
      | false => by_cases taken : machine.t = sense <;> simp [taken]
  | _ =>
      cases ran
      rfl

end Machine

/-! ## What words name -/

namespace InstructionWord

/-- The registers that a word can change. -/
@[simp] def Names (word : InstructionWord) : DataRegister → Prop
  | .general index => index = word.n ∨ index = word.m ∨ index = .zero
  | .float index => index = word.n
  | .system register => ∃ form ∈ WordForm.changing register, form.Fits word

def SetsCondition (word : InstructionWord) : Prop :=
  ∃ form ∈ WordForm.changingCondition, form.Fits word

/-- The instruction does no more than the fields of the word say. -/
structure Admits (word : InstructionWord) (instruction : Instruction) : Prop where
  targets : ∀ register ∈ instruction.targets, word.Names register
  condition : instruction.changesCondition = true → word.SetsCondition
  offset : ∀ t offset, instruction.offset? t = some offset ↔
    (WordForm.branching t).Fits word ∧ word.nearOffset = offset

variable {word : InstructionWord} {instruction : Instruction}

-- One case for each row of the table. The rows that set the condition are closed last.

theorem admits_of_system (group : word.group = 0x0) (decoded : word.system = some instruction) :
    word.Admits instruction := by
  unfold system at decoded
  split at decoded
  all_goals try split at decoded
  all_goals cases decoded
  all_goals constructor <;> simp [*]

theorem admits_of_storeGroup (group : word.group = 0x2)
    (decoded : word.storeGroup = some instruction) : word.Admits instruction := by
  unfold storeGroup at decoded
  split at decoded <;> cases decoded <;> constructor
  all_goals simp [*, compare, combine]
  all_goals simp [*, SetsCondition]

theorem admits_of_arithmeticGroup (group : word.group = 0x3)
    (decoded : word.arithmeticGroup = some instruction) : word.Admits instruction := by
  unfold arithmeticGroup at decoded
  split at decoded <;> cases decoded <;> constructor
  all_goals simp [*, compare, combine]
  all_goals simp [*, SetsCondition]

theorem admits_of_registerGroup (group : word.group = 0x4)
    (decoded : word.registerGroup = some instruction) : word.Admits instruction := by
  unfold registerGroup at decoded
  split at decoded <;> cases decoded <;> constructor
  all_goals simp [*, combine]
  all_goals simp [*, SetsCondition]

theorem admits_of_moveGroup (group : word.group = 0x6)
    (decoded : word.moveGroup = some instruction) : word.Admits instruction := by
  unfold moveGroup at decoded
  split at decoded <;> cases decoded <;> constructor
  all_goals simp [*, combine]

theorem admits_of_displacementGroup (group : word.group = 0x8)
    (decoded : word.displacementGroup = some instruction) : word.Admits instruction := by
  unfold displacementGroup at decoded
  split at decoded <;> cases decoded <;> constructor
  all_goals simp [*]
  all_goals simp [*, SetsCondition]

theorem admits_of_immediateGroup (group : word.group = 0xc)
    (decoded : word.immediateGroup = some instruction) : word.Admits instruction := by
  unfold immediateGroup at decoded
  split at decoded <;> cases decoded <;> constructor
  all_goals simp [*]
  all_goals simp [*, SetsCondition]

theorem admits_of_floatGroup (group : word.group = 0xf)
    (decoded : word.floatGroup = some instruction) : word.Admits instruction := by
  unfold floatGroup at decoded
  split at decoded <;> cases decoded <;> constructor
  all_goals simp [*]
  all_goals simp [*, SetsCondition]

theorem admits_of_instruction? (decoded : word.instruction? = some instruction) :
    word.Admits instruction := by
  unfold instruction? at decoded
  split at decoded
  case h_1 group => exact admits_of_system group decoded
  case h_3 group => exact admits_of_storeGroup group decoded
  case h_4 group => exact admits_of_arithmeticGroup group decoded
  case h_5 group => exact admits_of_registerGroup group decoded
  case h_7 group => exact admits_of_moveGroup group decoded
  case h_9 group => exact admits_of_displacementGroup group decoded
  case h_13 group => exact admits_of_immediateGroup group decoded
  case h_16 group => exact admits_of_floatGroup group decoded
  -- Each of the other groups is one instruction.
  all_goals cases decoded <;> constructor <;> simp [*]

end InstructionWord

/-! ## Steps -/

namespace Machine

variable {machine after result : Machine} {code : UInt16} {instruction : Instruction}
variable {operation : Operation}

structure Framed (machine after : Machine) (word : InstructionWord) : Prop where
  registers : ∀ index, index ≠ word.n → index ≠ word.m → index ≠ .zero →
    after.register index = machine.register index
  floats : ∀ index, index ≠ word.n → after.float index = machine.float index
  system : ∀ register, after.system register ≠ machine.system register →
    ∃ form ∈ WordForm.changing register, form.Fits word
  condition : after.t ≠ machine.t → word.SetsCondition
  next : machine.pendingBranch = none → ¬(WordForm.branching machine.t).Fits word →
    after.pc = machine.pc + 2
  taken : machine.pendingBranch = none → (WordForm.branching machine.t).Fits word →
    after.pc = machine.pc + 4 + UInt32.ofInt (2 * word.immediate.toInt8.toInt)

theorem Stepped.data_eq (stepped : Stepped machine after operation code instruction result)
    (register : DataRegister) (unnamed : ¬(InstructionWord.ofCode code).Names register) :
    after.data register = machine.data register := by
  have admits := InstructionWord.admits_of_instruction? stepped.decoded
  have other : register ∉ instruction.targets := fun target =>
    unnamed (admits.targets register target)
  rw [stepped.landed, data_landed, data_of_execute stepped.ran other]
  rfl

theorem Stepped.t_eq (stepped : Stepped machine after operation code instruction result)
    (other : instruction.changesCondition = false) : after.t = machine.t := by
  rw [stepped.landed, t_landed, t_of_execute stepped.ran other]
  rfl

theorem Stepped.pc_eq (stepped : Stepped machine after operation code instruction result)
    (idle : machine.pendingBranch = none) :
    after.pc =
      ((instruction.offset? machine.t).map (machine.pc + 4 + ·)).getD (machine.pc + 2) := by
  have landed : after = result := by rw [stepped.landed, idle]; rfl
  have targets : (machine.entered code).relativeTarget = (machine.pc + 4 + ·) :=
    funext (machine.relativeTarget_entered code)
  rw [landed, pc_of_execute stepped.ran, targets]
  rfl

theorem framed_of_step (fetched : machine.memory.readWord machine.pc = .ok code)
    (steps : machine.step = (after, .ok operation)) :
    machine.Framed after (InstructionWord.ofCode code) := by
  rcases step_eq_ok_iff.mp steps with ⟨code', instruction, result, stepped⟩
  have same : code' = code := Except.ok.inj (stepped.fetched.symm.trans fetched)
  subst same
  have admits := InstructionWord.admits_of_instruction? stepped.decoded
  constructor
  case registers =>
    intro index notN notM notZero
    exact stepped.data_eq (.general index) (by simp [notN, notM, notZero])
  case floats =>
    intro index notN
    exact stepped.data_eq (.float index) notN
  case system =>
    intro register changed
    refine Classical.byContradiction fun unnamed => changed ?_
    exact stepped.data_eq (.system register) unnamed
  case condition =>
    intro changed
    refine admits.condition (Decidable.byContradiction fun unchanging => changed ?_)
    exact stepped.t_eq (Bool.eq_false_iff.mpr unchanging)
  case next =>
    intro idle straight
    have nowhere : instruction.offset? machine.t = none :=
      Option.eq_none_iff_forall_ne_some.mpr fun offset found =>
        straight ((admits.offset _ _).mp found).1
    rw [stepped.pc_eq idle, nowhere]
    rfl
  case taken =>
    intro idle branches
    rw [stepped.pc_eq idle, (admits.offset _ _).mpr ⟨branches, rfl⟩]
    rfl

/-- A machine at the start, in front of a branch over the end of the address space. -/
def branchingBack : Machine :=
  Machine.start (.filled 2 fun index => [0xfd, 0x8b].getD index 0)

theorem branchingBack_framed :
    ∃ after, branchingBack.step = (after, .ok (.flow 0xfffffffe true)) ∧
      branchingBack.Framed after (.ofCode 0x8bfd) ∧ after.pc = 0xfffffffe := by
  have fetched : branchingBack.memory.readWord branchingBack.pc = .ok 0x8bfd := by rfl
  have outcome : branchingBack.step.2 = .ok (.flow 0xfffffffe true) := by rfl
  have steps : branchingBack.step = (branchingBack.step.1, .ok (.flow 0xfffffffe true)) :=
    Prod.ext rfl outcome
  have framed := framed_of_step fetched steps
  have fits : (WordForm.branching branchingBack.t).Fits (.ofCode 0x8bfd) := by decide
  exact ⟨_, steps, framed, framed.taken rfl fits⟩

end Machine

end SuperHBench
