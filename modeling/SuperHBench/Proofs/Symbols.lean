import Mathlib.Data.List.Dedup
import Mathlib.Order.Bounds.Basic
import SuperHBench.Symbols

/-! # Histories of symbol tables

Whatever symbols were added, a table knows the last one of each address. The nearest symbol before
an address is found among those, and they are listed by address. -/

namespace SuperHBench

namespace SymbolTable

/-! ## Symbols one after another -/

def addAll (table : SymbolTable) (symbols : List Symbol) : SymbolTable :=
  symbols.foldl (fun table symbol => table.add symbol.name symbol.address) table

theorem at?_addAll (table : SymbolTable) (symbols : List Symbol) (address : UInt32) :
    (table.addAll symbols).at? address =
      (symbols.findRev? (·.address = address)).or (table.at? address) := by
  induction symbols generalizing table with
  | nil => rfl
  | cons symbol rest induction =>
      have others := induction (table.add symbol.name symbol.address)
      rw [addAll] at others ⊢
      rw [List.foldl_cons, others, List.findRev?]
      cases rest.findRev? (·.address = address) with
      | some last => rfl
      | none =>
          by_cases here : symbol.address = address
          · subst here
            simp [at?_add_same]
          · simp [here, at?_add_other]

/-! ## Symbols of a table -/

section

variable (table : SymbolTable) {address start : UInt32} {symbol : Symbol}

theorem mem_toList_iff : symbol ∈ table.toList ↔ table.at? symbol.address = some symbol := by
  rcases symbol with ⟨name, place⟩
  simp only [toList, at?, List.mem_map, Option.map_eq_some_iff, Symbol.mk.injEq, Prod.exists]
  constructor
  · rintro ⟨place, name, member, rfl, rfl⟩
    exact ⟨name, Std.ExtTreeMap.mem_toList_iff_getElem?_eq_some.mp member, rfl, trivial⟩
  · rintro ⟨name, found, rfl, -⟩
    exact ⟨place, name, Std.ExtTreeMap.mem_toList_iff_getElem?_eq_some.mpr found, rfl, rfl⟩

theorem pairwise_toList :
    table.toList.Pairwise fun symbol other => symbol.address < other.address := by
  rw [toList, List.pairwise_map]
  exact Std.ExtTreeMap.ordered_keys_toList.imp Std.compare_eq_lt.mp

theorem length_toList : table.toList.length = table.size := by
  rw [toList, List.length_map, Std.ExtTreeMap.length_toList, size]

theorem address_of_at? (found : table.at? address = some symbol) : symbol.address = address := by
  rcases Option.map_eq_some_iff.mp found with ⟨name, -, rfl⟩
  rfl

theorem mem_addresses_iff :
    address ∈ table.toList.map Symbol.address ↔ table.at? address ≠ none := by
  rw [List.mem_map, Option.ne_none_iff_exists']
  constructor
  · rintro ⟨symbol, member, rfl⟩
    exact ⟨symbol, table.mem_toList_iff.mp member⟩
  · rintro ⟨symbol, found⟩
    have here := table.address_of_at? found
    exact ⟨symbol, table.mem_toList_iff.mpr (here ▸ found), here⟩

/-! ## The nearest symbol -/

/-- The entry at a key or before it is the last one of the list that is not behind the key. -/
theorem getEntryLE?_eq (names : Std.ExtTreeMap UInt32 String) (address : UInt32) :
    names.getEntryLE? address = names.toList.findRev? fun entry => entry.1 ≤ address := by
  rcases names with ⟨inner⟩
  induction inner using Std.ExtDTreeMap.inductionOn with
  | mk tree =>
      change Std.DTreeMap.Internal.Impl.Const.getEntryLE? address tree.inner =
        (Std.DTreeMap.Internal.Impl.Const.toList tree.inner).findRev? _
      rw [Std.DTreeMap.Internal.Impl.Const.getEntryLE?_eq_map,
        Std.DTreeMap.Internal.Impl.getEntryLE?_eq_findRev? tree.wf.ordered,
        Std.DTreeMap.Internal.Impl.Const.toList_eq_toListModel_map]
      simp only [List.findRev?_eq_find?_reverse, ← List.map_reverse, List.find?_map,
        Function.comp_def, ← Std.isLE_compare]
      simp

theorem containing?_eq :
    table.containing? address = table.toList.findRev? fun symbol => symbol.address ≤ address := by
  rw [containing?, getEntryLE?_eq, toList, List.findRev?_eq_find?_reverse,
    List.findRev?_eq_find?_reverse, ← List.map_reverse, List.find?_map]
  rfl

def startsUpTo (symbols : List Symbol) (address : UInt32) : Set UInt32 :=
  {start | start ≤ address ∧ start ∈ symbols.map Symbol.address}

theorem containing?_eq_none_iff :
    table.containing? address = none ↔ ∀ symbol ∈ table.toList, address < symbol.address := by
  rw [containing?_eq, List.findRev?_eq_find?_reverse, List.find?_eq_none]
  simp

theorem isGreatest_of_containing? (found : table.containing? address = some symbol) :
    IsGreatest (startsUpTo table.toList address) symbol.address := by
  rw [containing?_eq, List.findRev?_eq_find?_reverse, List.find?_eq_some_iff_append] at found
  rcases found with ⟨reached, behind, before, split, past⟩
  have split : table.toList = before.reverse ++ symbol :: behind.reverse := by
    rw [← table.toList.reverse_reverse, split]
    simp
  have ascending := table.pairwise_toList
  rw [split, List.pairwise_append] at ascending
  refine ⟨⟨of_decide_eq_true reached, List.mem_map_of_mem (by simp [split])⟩, ?_⟩
  rintro _ ⟨within, listed⟩
  rcases List.mem_map.mp listed with ⟨other, member, rfl⟩
  rw [split, List.mem_append, List.mem_cons] at member
  rcases member with earlier | rfl | later
  · exact UInt32.le_of_lt (ascending.2.2 other earlier symbol List.mem_cons_self)
  · exact UInt32.le_refl _
  · have outside := past other (List.mem_reverse.mp later)
    simp only [within, decide_true, Bool.not_true, Bool.false_eq_true] at outside

theorem at?_of_containing? (found : table.containing? address = some symbol) :
    table.at? symbol.address = some symbol := by
  rw [containing?_eq, List.findRev?_eq_find?_reverse] at found
  exact table.mem_toList_iff.mp (List.mem_reverse.mp (List.mem_of_find?_eq_some found))

theorem containing?_eq_at? (greatest : IsGreatest (startsUpTo table.toList address) start) :
    table.containing? address = table.at? start := by
  cases found : table.containing? address with
  | none =>
      rcases List.mem_map.mp greatest.1.2 with ⟨symbol, member, rfl⟩
      have past := table.containing?_eq_none_iff.mp found symbol member
      exact absurd greatest.1.1 (UInt32.not_le.mpr past)
  | some symbol =>
      have nearest := table.isGreatest_of_containing? found
      have same : symbol.address = start :=
        UInt32.le_antisymm (greatest.2 nearest.1) (nearest.2 greatest.1)
      rw [← same, table.at?_of_containing? found]

def offset (start address : UInt32) : String :=
  if start = address then "" else "+0x" ++ Text.hex (address.toNat - start.toNat)

theorem describe?_eq : table.describe? address =
    (table.containing? address).map fun symbol => symbol.name ++ offset symbol.address address := by
  cases found : table.containing? address with
  | none => simp [describe?, found]
  | some symbol =>
      have reached : symbol.address ≤ address := (table.isGreatest_of_containing? found).1.1
      simp only [describe?, found, Option.map_some, offset]
      split
      · simp
      · have mark : "+0x" = "+" ++ "0x" := rfl
        rw [UInt32.toNat_sub_of_le _ _ reached, mark]
        simp only [Text.hexNumber, toString, String.append_assoc]

end

/-! ## Histories -/

structure Knows (table : SymbolTable) (symbols : List Symbol) : Prop where
  last : ∀ earlier symbol later, symbols = earlier ++ symbol :: later →
    (∀ other ∈ later, other.address ≠ symbol.address) →
    table.at? symbol.address = some symbol
  absent : ∀ address, (∀ symbol ∈ symbols, symbol.address ≠ address) → table.at? address = none
  nearest : ∀ address start, IsGreatest (startsUpTo symbols address) start →
    table.containing? address = table.at? start
  described : ∀ address start, IsGreatest (startsUpTo symbols address) start →
    table.describe? address =
      (table.at? start).map fun symbol => symbol.name ++ offset start address
  nowhere : ∀ address, startsUpTo symbols address = ∅ →
    table.containing? address = none ∧ table.describe? address = none
  ascending : table.toList.Pairwise fun symbol other => symbol.address < other.address
  listed : ∀ symbol, symbol ∈ table.toList ↔ table.at? symbol.address = some symbol
  addresses : (table.toList.map Symbol.address).Perm (symbols.map Symbol.address).dedup
  size : table.size = (symbols.map Symbol.address).dedup.length

section

variable (symbols : List Symbol) {address : UInt32}

theorem at?_addAll_empty :
    (empty.addAll symbols).at? address = symbols.findRev? (·.address = address) := by
  rw [at?_addAll, at?_empty, Option.or_none]

theorem at?_addAll_eq_none_iff :
    (empty.addAll symbols).at? address = none ↔ address ∉ symbols.map Symbol.address := by
  rw [at?_addAll_empty, List.findRev?_eq_find?_reverse, List.find?_eq_none]
  simp

theorem mem_addresses_addAll_iff :
    address ∈ (empty.addAll symbols).toList.map Symbol.address ↔
      address ∈ symbols.map Symbol.address := by
  rw [mem_addresses_iff, Ne, at?_addAll_eq_none_iff, not_not]

theorem startsUpTo_addAll :
    startsUpTo (empty.addAll symbols).toList address = startsUpTo symbols address := by
  ext start
  exact and_congr_right fun _ => mem_addresses_addAll_iff symbols

theorem perm_addresses_addAll :
    ((empty.addAll symbols).toList.map Symbol.address).Perm
      (symbols.map Symbol.address).dedup := by
  have distinct : ((empty.addAll symbols).toList.map Symbol.address).Nodup :=
    List.pairwise_map.mpr ((pairwise_toList _).imp UInt32.ne_of_lt)
  rw [List.perm_ext_iff_of_nodup distinct (List.nodup_dedup _)]
  intro address
  rw [List.mem_dedup, mem_addresses_addAll_iff]

theorem knows_addAll : (empty.addAll symbols).Knows symbols := by
  constructor
  case last =>
    rintro earlier symbol later rfl last
    rw [at?_addAll_empty, List.findRev?_eq_find?_reverse]
    exact List.find?_eq_some_iff_append.mpr
      ⟨decide_eq_true rfl, later.reverse, earlier.reverse, by simp, by simpa using last⟩
  case absent =>
    intro address absent
    rw [at?_addAll_eq_none_iff]
    simpa using absent
  case nearest =>
    intro address start greatest
    exact containing?_eq_at? _ (by rwa [startsUpTo_addAll])
  case described =>
    intro address start greatest
    rw [← startsUpTo_addAll] at greatest
    rw [describe?_eq, containing?_eq_at? _ greatest]
    apply Option.map_congr
    intro symbol found
    rw [address_of_at? _ found]
  case nowhere =>
    intro address none
    rw [← startsUpTo_addAll, Set.eq_empty_iff_forall_notMem] at none
    have absent : (empty.addAll symbols).containing? address = Option.none := by
      rw [containing?_eq_none_iff]
      intro symbol member
      by_contra reached
      exact none symbol.address ⟨UInt32.not_lt.mp reached, List.mem_map_of_mem member⟩
    exact ⟨absent, by rw [describe?_eq, absent, Option.map_none]⟩
  case ascending => exact pairwise_toList _
  case listed => exact fun _ => mem_toList_iff _
  case addresses => exact perm_addresses_addAll symbols
  case size =>
    rw [← length_toList, ← (perm_addresses_addAll symbols).length_eq, List.length_map]

example :
    (empty.addAll [⟨"b", 0x20⟩, ⟨"a", 0x10⟩, ⟨"c", 0x20⟩]).describe? 0x24 = some "c+0x4" := by
  decide +kernel

end

end SymbolTable

end SuperHBench
