import SuperHBench.Proofs.CodeObject
import SuperHBench.Proofs.Session.Passing

/-! # Slots without a value

A load from the very address of a slot that has no value ends the run. A load that
starts elsewhere and touches the slot does not. So such slots are safe exactly where
every load that touches one starts at one. -/

namespace SuperHBench

/-! ## Overlaps -/

def Covers (address : UInt32) (length index : Nat) : Prop :=
  address.toNat ≤ index ∧ index < address.toNat + length

namespace Resolution

def MeetsUnresolved (resolution : Resolution) (source : UInt32) (width : Width) : Prop :=
  ∃ slot ∈ resolution.unresolved, ∃ index,
    Covers source width.bytes index ∧ Covers slot.address 4 index

def StartsUnresolved (resolution : Resolution) (source : UInt32) : Prop :=
  ∃ slot ∈ resolution.unresolved, slot.address = source

theorem unresolvedAt?_eq_none_iff {resolution : Resolution} {source : UInt32} :
    resolution.unresolvedAt? source = none ↔ ¬resolution.StartsUnresolved source := by
  simp [unresolvedAt?, StartsUnresolved]

end Resolution

/-! ## Loads -/

namespace Judging

def unresolved (session : Session) (source : UInt32) (name : String) : RunError :=
  .simulation (.unresolvedRead source name session.machine.instructionPc)

theorem run_judgeRead_eq_unresolved_iff {source : UInt32} {value : Value} {session : Session} :
    (∃ name failed, (judgeRead source value).run session =
      .error (unresolved session source name) failed) ↔
      session.resolution.StartsUnresolved source := by
  simp only [judgeRead, EStateM.run_bind, EStateM.run_modify, EStateM.run_get]
  cases found : session.resolution.unresolvedAt? source with
  | some slot =>
      have starts : session.resolution.StartsUnresolved source := by
        apply Classical.not_not.mp
        intro free
        rw [Resolution.unresolvedAt?_eq_none_iff.mpr free] at found
        cases found
      simp only [starts, iff_true]
      exact ⟨slot.name, _, rfl⟩
  | none =>
      have free := Resolution.unresolvedAt?_eq_none_iff.mp found
      simp only [free, iff_false]
      rintro ⟨name, failed, fails⟩
      split at fails
      · rename_i expected rest front
        unfold meetRead at fails
        split at fails
        · rw [EStateM.run_bind, EStateM.run_get] at fails
          dsimp only at fails
          split at fails
          · cases fails
          · cases fails
        · cases fails
      · cases fails

end Judging

/-! ## Runs -/

section Runs

variable (scenario : Scenario) (linked : LinkedObject) (options : RunOptions)
variable (noise : Nat → UInt8) (first : Session)

def UnresolvedLoadsFail : Prop :=
  ∀ source value session,
    Attempts scenario options first (.instruction (.read source value)) session →
    first.resolution.MeetsUnresolved source value.width →
    ∃ name failed,
      (Judging.judgeRead source value).run session =
        .error (Judging.unresolved session source name) failed ∧
      (scenario.execute linked options noise).result =
        .error (Judging.unresolved session source name)

/-- No load touches a slot without a value. -/
def LoadsMissUnresolved : Prop :=
  ∀ source value session,
    Attempts scenario options first (.instruction (.read source value)) session →
    ¬first.resolution.MeetsUnresolved source value.width

/-- Loads that touch a slot without a value start at one. -/
def LoadsStartAtUnresolved : Prop :=
  ∀ source value session,
    Attempts scenario options first (.instruction (.read source value)) session →
    first.resolution.MeetsUnresolved source value.width →
    first.resolution.StartsUnresolved source

end Runs

section Loads

variable {scenario : Scenario} {linked : LinkedObject} {options : RunOptions}
variable {noise : Nat → UInt8} {first : Session}

theorem Attempts.ends_of_startsUnresolved {source : UInt32} {value : Value} {session : Session}
    (attempts : Attempts scenario options first (.instruction (.read source value)) session)
    (prepared : scenario.prepare linked options.listing noise = .ok first)
    (starts : first.resolution.StartsUnresolved source) :
    ∃ name failed,
      (Judging.judgeRead source value).run session =
        .error (Judging.unresolved session source name) failed ∧
      (scenario.execute linked options noise).result =
        .error (Judging.unresolved session source name) := by
  rw [← attempts.resolution_eq] at starts
  rcases Judging.run_judgeRead_eq_unresolved_iff.mpr starts with ⟨name, failed, outcome⟩
  exact ⟨name, failed, outcome, Scenario.execute_eq_error_of_attempts prepared attempts outcome⟩

theorem unresolvedLoadsFail_iff
    (prepared : scenario.prepare linked options.listing noise = .ok first) :
    UnresolvedLoadsFail scenario linked options noise first ↔
      LoadsStartAtUnresolved scenario options first := by
  constructor
  · intro loadsFail source value session attempts meets
    rcases loadsFail source value session attempts meets with ⟨name, failed, outcome, _⟩
    rw [← attempts.resolution_eq]
    exact Judging.run_judgeRead_eq_unresolved_iff.mp ⟨name, failed, outcome⟩
  · intro loadsStart source value session attempts meets
    have starts := loadsStart source value session attempts meets
    exact attempts.ends_of_startsUnresolved prepared starts

end Loads

/-- Loads from slots without a value are found exactly where they start at one. -/
theorem Scenario.unresolved_loads_iff {scenario : Scenario} {linked : LinkedObject}
    {options : RunOptions} {noise : Nat → UInt8} {first : Session}
    (prepared : scenario.prepare linked options.listing noise = .ok first) :
    (UnresolvedLoadsFail scenario linked options noise first ↔
      LoadsStartAtUnresolved scenario options first) ∧
      ∀ report, (scenario.execute linked options noise).result = .ok report →
        (∀ source value session,
          Attempts scenario options first (.instruction (.read source value)) session →
          ¬first.resolution.StartsUnresolved source) ∧
        (LoadsMissUnresolved scenario options first ↔
          LoadsStartAtUnresolved scenario options first) := by
  refine ⟨unresolvedLoadsFail_iff prepared, ?_⟩
  intro report passes
  have avoids : ∀ source value session,
      Attempts scenario options first (.instruction (.read source value)) session →
      ¬first.resolution.StartsUnresolved source := by
    intro source value session attempts starts
    rcases attempts.ends_of_startsUnresolved prepared starts with ⟨name, failed, _, ends⟩
    rw [passes] at ends
    cases ends
  refine ⟨avoids, ?_⟩
  constructor
  · intro loadsMiss source value session attempts meets
    exact absurd meets (loadsMiss source value session attempts)
  · intro loadsStart source value session attempts meets
    exact avoids source value session attempts (loadsStart source value session attempts meets)

/-! ## A load from the middle of a slot -/

/-- A function that loads the second byte of the slot of an imported name. -/
def peekText : CodeText where
  code := [
    0xd102, 0x6010, 0x000b, 0x0009, -- mov.l @(2,pc),r1; mov.b @r1,r0; rts; nop
    0x0009, 0x0009, 0x0011, 0x0000,
    0x0000, 0x0000]
  exports := [("_peek", 0)]
  imports := [("_value", 16)]

def peek : Scenario where
  entry := "_peek"

namespace Judging

def loadsFromWithin (scenario : Scenario) (options : RunOptions) (count : Nat)
    (first : Session) : Bool :=
  match instructionAfter scenario options first count with
  | some (.read source _, _) =>
      first.resolution.unresolved.any fun slot =>
        slot.address < source && source.toNat < slot.address.toNat + 4
  | _ => false

theorem meets_of_loadsFromWithin {scenario : Scenario} {options : RunOptions} {count : Nat}
    {first : Session} (within : loadsFromWithin scenario options count first = true) :
    ∃ source value session,
      Attempts scenario options first (.instruction (.read source value)) session ∧
      first.resolution.MeetsUnresolved source value.width := by
  unfold loadsFromWithin at within
  split at within
  · rename_i source value session computed
    rcases List.any_eq_true.mp within with ⟨slot, member, inside⟩
    simp only [Bool.and_eq_true, decide_eq_true_eq] at inside
    have positive : 0 < value.width.bytes := by
      cases value.width with
      | byte | word | long => decide
    refine ⟨source, value, session, attempts_of_instructionAfter computed, slot, member,
      source.toNat, ⟨Nat.le_refl _, by omega⟩, ?_, inside.2⟩
    exact Nat.le_of_lt (UInt32.lt_iff_toNat_lt.mp inside.1)
  · cases within

end Judging

theorem peek_loadsFromWithin :
    ∃ first, peek.prepare peekText.linked false (fun _ => 0) = .ok first ∧
      Judging.loadsFromWithin peek {} 1 first = true := by
  apply exists_ok_of_any
  decide +kernel

theorem peek_unresolved_loads :
    ∃ first, peek.prepare peekText.linked false (fun _ => 0) = .ok first ∧
      (UnresolvedLoadsFail peek peekText.linked {} (fun _ => 0) first ↔
        LoadsStartAtUnresolved peek {} first) ∧
      ∀ report, (peek.execute peekText.linked {} fun _ => 0).result = .ok report →
        (∀ source value session,
          Attempts peek {} first (.instruction (.read source value)) session →
          ¬first.resolution.StartsUnresolved source) ∧
        (LoadsMissUnresolved peek {} first ↔ LoadsStartAtUnresolved peek {} first) := by
  rcases peek_loadsFromWithin with ⟨first, prepared, _⟩
  exact ⟨first, prepared, Scenario.unresolved_loads_iff prepared⟩

theorem peek_passes :
    peekText.file.link = .ok peekText.linked ∧
      ∃ first report, peek.prepare peekText.linked false (fun _ => 0) = .ok first ∧
        (peek.execute peekText.linked {} fun _ => 0).result = .ok report ∧
        ∃ source value session,
          Attempts peek {} first (.instruction (.read source value)) session ∧
          first.resolution.MeetsUnresolved source value.width := by
  have counted : (peek.execute peekText.linked {} fun _ => 0).fulfilled? = some 0 := by
    decide +kernel
  rcases RunOutcome.fulfilled?_eq_some_iff.mp counted with ⟨report, passes, _⟩
  rcases peek_loadsFromWithin with ⟨first, prepared, within⟩
  exact ⟨peekText.link_file (by decide), first, report, prepared, passes,
    Judging.meets_of_loadsFromWithin within⟩

end SuperHBench
