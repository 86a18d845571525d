import Mathlib.Data.List.Find
import Mathlib.Data.List.Nodup
import SuperHBench.Resolution

/-! # Other bindings

Bindings are looked up by name while slots are patched, and by address afterwards. To patch
with other bindings that give every name the same address comes to the same end. -/

namespace SuperHBench

def Resolution.rebound (resolution : Resolution) (change : List Binding → List Binding) :
    Resolution :=
  { resolution with bindings := change resolution.bindings }

/-! ## Another order -/

theorem find?_eq_of_perm [DecidableEq κ] {key : α → κ} {entries others : List α}
    (perm : others.Perm entries) (distinct : (entries.map key).Nodup) (wanted : κ) :
    others.find? (key · = wanted) = entries.find? (key · = wanted) := by
  symm
  apply List.find?_eq_find?_of_perm perm.symm
  intro first ⟨among, found⟩ second ⟨alsoAmong, alsoFound⟩
  apply List.inj_on_of_nodup_map distinct among alsoAmong
  exact (of_decide_eq_true found).trans (of_decide_eq_true alsoFound).symm

namespace Binding

def exchange (known others bindings : List Binding) : List Binding :=
  if bindings = known then others else bindings

variable {known others : List Binding}

theorem exchange_self (known others : List Binding) : exchange known others known = others :=
  if_pos rfl

theorem find?_exchange [DecidableEq κ] {key : Binding → κ} (perm : others.Perm known)
    (distinct : (known.map key).Nodup) (bindings : List Binding) (wanted : κ) :
    (exchange known others bindings).find? (key · = wanted) =
      bindings.find? (key · = wanted) := by
  unfold exchange
  split
  · rename_i same
    rw [same]
    exact find?_eq_of_perm perm distinct wanted
  · rfl

end Binding

/-! ## Resolution with other bindings -/

section Resolving

variable {change : List Binding → List Binding}

/-- A name is bound to the same address. -/
def KeepsNames (change : List Binding → List Binding) : Prop :=
  ∀ bindings (name : String),
    (change bindings).find? (·.name = name) = bindings.find? (·.name = name)

namespace Patching

theorem foldlM_rebound {items : List α} {step : Resolution → α → Patching Resolution}
    (each : ∀ resolution item, step (resolution.rebound change) item =
      (·.rebound change) <$> step resolution item) (resolution : Resolution) :
    items.foldlM step (resolution.rebound change) =
      (·.rebound change) <$> items.foldlM step resolution := by
  induction items generalizing resolution with
  | nil => rfl
  | cons item rest induction =>
      rw [List.foldlM_cons, List.foldlM_cons, each, map_bind, bind_map_left]
      exact bind_congr fun next => induction next

theorem patchExternal_rebound (keeps : KeepsNames change) (base : UInt32)
    (resolution : Resolution) (relocation : ExternalRelocation) :
    patchExternal base (resolution.rebound change) relocation =
      (·.rebound change) <$> patchExternal base resolution relocation := by
  have found : (resolution.rebound change).bindings.find? (·.name = relocation.name) =
      resolution.bindings.find? (·.name = relocation.name) :=
    keeps resolution.bindings relocation.name
  unfold patchExternal
  rw [found]
  cases resolution.bindings.find? (·.name = relocation.name) with
  | none => rfl
  | some binding =>
      dsimp only
      rw [map_bind]
      refine bind_congr fun inImage => ?_
      split
      · rfl
      · rfl

theorem nameExport_rebound (part : Section) (resolution : Resolution) (symbol : ExportSymbol) :
    nameExport part (resolution.rebound change) symbol =
      (·.rebound change) <$> nameExport part resolution symbol := by
  unfold nameExport
  cases symbol.linkedAddress with
  | none => rfl
  | some address => rfl

theorem patchExternals_rebound (keeps : KeepsNames change) (resolution : Resolution)
    (part : Section) :
    patchExternals (resolution.rebound change) part =
      (·.rebound change) <$> patchExternals resolution part := by
  rw [patchExternals, patchExternals, map_bind]
  exact bind_congr fun base => foldlM_rebound (patchExternal_rebound keeps base) resolution

end Patching

open Patching in
/-- Resolution asks for bindings by their names. -/
theorem LinkedObject.resolve_rebound (keeps : KeepsNames change) (linked : LinkedObject)
    (bindings : List Binding) :
    linked.resolve (change bindings) = (·.rebound change) <$> linked.resolve bindings := by
  have externals : linked.sections.foldlM patchExternals ⟨.empty, [], change bindings⟩ =
      (·.rebound change) <$> linked.sections.foldlM patchExternals ⟨.empty, [], bindings⟩ :=
    foldlM_rebound (patchExternals_rebound keeps) ⟨.empty, [], bindings⟩
  rw [resolve, resolve, externals]
  simp only [map_bind, bind_map_left]
  refine bind_congr fun _ => bind_congr fun _ => bind_congr fun resolution => ?_
  exact foldlM_rebound (fun other part => foldlM_rebound (nameExport_rebound part) other) resolution

end Resolving

end SuperHBench
