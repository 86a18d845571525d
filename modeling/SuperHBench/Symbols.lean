import Std.Data.ExtTreeMap
import Std.Data.ExtTreeMap.Lemmas
import SuperHBench.Text.Digits

/-! # Symbol tables

At most one name for an address, kept in the order of addresses. A name added
later replaces the one that was there. -/

namespace SuperHBench

structure Symbol where
  name : String
  address : UInt32
deriving DecidableEq, Repr

structure SymbolTable where
  names : Std.ExtTreeMap UInt32 String

namespace SymbolTable

def empty : SymbolTable :=
  ⟨∅⟩

def add (table : SymbolTable) (name : String) (address : UInt32) : SymbolTable :=
  ⟨table.names.insert address name⟩

def at? (table : SymbolTable) (address : UInt32) : Option Symbol :=
  table.names[address]?.map fun name => ⟨name, address⟩

def containing? (table : SymbolTable) (address : UInt32) : Option Symbol :=
  (table.names.getEntryLE? address).map fun (start, name) => ⟨name, start⟩

/-- An address as an offset from the nearest symbol, such as `main+0x4`. -/
def describe? (table : SymbolTable) (address : UInt32) : Option String :=
  (table.containing? address).map fun symbol =>
    if symbol.address = address then
      symbol.name
    else
      s!"{symbol.name}+{Text.hexNumber (address - symbol.address).toNat}"

def toList (table : SymbolTable) : List Symbol :=
  table.names.toList.map fun (address, name) => ⟨name, address⟩

def size (table : SymbolTable) : Nat :=
  table.names.size

def isEmpty (table : SymbolTable) : Bool :=
  table.names.isEmpty

@[simp] theorem at?_empty (address : UInt32) : empty.at? address = none := by
  simp [at?, empty]

theorem at?_add_same (table : SymbolTable) (name : String) (address : UInt32) :
    (table.add name address).at? address = some ⟨name, address⟩ := by
  simp [at?, add]

theorem at?_add_other (table : SymbolTable) (name : String) {address other : UInt32}
    (different : address ≠ other) :
    (table.add name address).at? other = table.at? other := by
  simp [at?, add, Std.ExtTreeMap.getElem?_insert, different]

end SymbolTable

end SuperHBench
