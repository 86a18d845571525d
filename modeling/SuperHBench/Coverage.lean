import Std.Data.ExtTreeMap
import Std.Data.ExtTreeMap.Lemmas
import SuperHBench.Image

/-! # Coverage

Which bytes were read, written and executed. A coverage is a table of the bytes that were
touched, with what was done to each of them. Coverages of several runs are merged byte by
byte. -/

namespace SuperHBench

inductive AccessKind where
  | read
  | write
  | execute
deriving DecidableEq, Repr

structure ByteAccess where
  read : Bool
  write : Bool
  execute : Bool
deriving DecidableEq, Repr

namespace ByteAccess

def none : ByteAccess :=
  ⟨false, false, false⟩

def ofKind : AccessKind → ByteAccess
  | .read => { none with read := true }
  | .write => { none with write := true }
  | .execute => { none with execute := true }

def any (access : ByteAccess) : Bool :=
  access.read || access.write || access.execute

def merge (access other : ByteAccess) : ByteAccess where
  read := access.read || other.read
  write := access.write || other.write
  execute := access.execute || other.execute

end ByteAccess

structure Coverage where
  bytes : Std.ExtTreeMap UInt32 ByteAccess

namespace Coverage

def empty : Coverage :=
  ⟨∅⟩

def get (coverage : Coverage) (address : UInt32) : ByteAccess :=
  coverage.bytes.getD address .none

/-- Add to what was done to a byte. Every byte that this is asked for gets an entry. -/
def touch (coverage : Coverage) (address : UInt32) (access : ByteAccess) : Coverage :=
  ⟨coverage.bytes.insert address ((coverage.get address).merge access)⟩

/-- Log an access to `size` addresses from one on, around the end of the address space. -/
def log (kind : AccessKind) (coverage : Coverage) (address : UInt32) (size : Nat) : Coverage :=
  (List.range size).foldl
    (fun coverage offset => coverage.touch (address + UInt32.ofNat offset) (.ofKind kind)) coverage

def logRead (coverage : Coverage) (address : UInt32) (size : Nat) : Coverage :=
  coverage.log .read address size

def logWrite (coverage : Coverage) (address : UInt32) (size : Nat) : Coverage :=
  coverage.log .write address size

def logExecute (coverage : Coverage) (address : UInt32) (size : Nat) : Coverage :=
  coverage.log .execute address size

def merge (coverage other : Coverage) : Coverage :=
  other.bytes.foldl touch coverage

instance : DecidableEq Coverage := fun left right =>
  decidable_of_iff (left.bytes.toList = right.bytes.toList) <| by
    obtain ⟨bytes⟩ := left
    obtain ⟨bytes'⟩ := right
    simp [Std.ExtTreeMap.toList_inj]

def touched (coverage : Coverage) : List UInt32 :=
  (coverage.bytes.toList.filter fun entry => entry.2.any).map Prod.fst

theorem mem_touched_iff (coverage : Coverage) (address : UInt32) :
    address ∈ coverage.touched ↔ (coverage.get address).any = true := by
  have found : (coverage.get address).any = true ↔
      ∃ access, coverage.bytes[address]? = some access ∧ access.any = true := by
    rw [get, Std.ExtTreeMap.getD_eq_getD_getElem?]
    cases coverage.bytes[address]? with
    | none => simp [ByteAccess.none, ByteAccess.any]
    | some access => simp
  rw [found]
  simp [touched, Std.ExtTreeMap.mem_toList_iff_getElem?_eq_some]

/-! ## Linked objects

Sections are large and little of them is touched, so counts and spans go through the
touched addresses and not through all bytes. -/

def report (coverage : Coverage) (linked : LinkedObject) : Std.ExtTreeMap UInt32 ByteAccess :=
  .ofList (linked.sectionAddresses.map fun address => (address, coverage.get address))

def touchedAddresses (coverage : Coverage) (range : SectionRange) : List UInt32 :=
  coverage.touched.filter range.covers

def touchedIn (coverage : Coverage) (range : SectionRange) : Nat :=
  (coverage.touchedAddresses range).length

def sectionBytes (linked : LinkedObject) : Nat :=
  linked.sectionRanges.foldr (fun range size => range.size + size) 0

def touchedBytes (coverage : Coverage) (linked : LinkedObject) : Nat :=
  linked.sectionRanges.foldr (fun range count => coverage.touchedIn range + count) 0

/-- The part of all section bytes that was touched; zero where there are none. Bytes are counted
section by section, which for an object that linking has returned is what its report counts. -/
def ratio (coverage : Coverage) (linked : LinkedObject) : Float.Model :=
  if sectionBytes linked = 0 then
    .ofNat 0
  else
    .ofNat (coverage.touchedBytes linked) / .ofNat (sectionBytes linked)

end Coverage

/-! ## Spans -/

structure Span where
  start : Nat
  stop : Nat
  access : ByteAccess
deriving DecidableEq, Repr

namespace Span

/-- Put a span before others, in one with the first of them if they meet and agree.
A span without bytes is left out. -/
def before (span : Span) (spans : List Span) : List Span :=
  if span.stop ≤ span.start then
    spans
  else
    match spans with
    | next :: rest =>
        if span.stop = next.start ∧ span.access = next.access then
          { span with stop := next.stop } :: rest
        else
          span :: next :: rest
    | [] => [span]

def untouched (start stop : Nat) : Span :=
  ⟨start, stop, .none⟩

end Span

namespace Coverage

def pieces (coverage : Coverage) (position stop : Nat) : List UInt32 → List Span
  | [] => [.untouched position stop]
  | address :: rest =>
      .untouched position address.toNat ::
        ⟨address.toNat, address.toNat + 1, coverage.get address⟩ ::
          coverage.pieces (address.toNat + 1) stop rest

def spans (coverage : Coverage) (linked : LinkedObject) : List Span :=
  (linked.sectionRanges.flatMap fun range =>
    coverage.pieces range.start.toNat range.stop.toNat
      (coverage.touchedAddresses range)).foldr Span.before []

end Coverage

end SuperHBench
