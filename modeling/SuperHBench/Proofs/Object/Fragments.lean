import SuperHBench.Proofs.Image.Placement

/-! # Fragments of a section

Fragments are offered to a section one after another. It takes those that start where its
data ends, or behind that, and refuses the others. What it has taken lies in the assembled
data where the fragments say, and there is nothing else in it. -/

namespace SuperHBench

/-- The fragment has a byte for a position of the data. -/
def Fragment.Covers (fragment : Fragment) (position : Nat) : Prop :=
  fragment.address.toNat ≤ position ∧ position < fragment.endOffset

namespace Section

/-! ## Offers -/

/-- The section once a fragment has been offered to it. A refused one leaves no trace. -/
def offer (part : Section) (fragment : Fragment) : Section :=
  match part.push fragment with
  | .ok next => next
  | .error _ => part

def offerAll (part : Section) (fragments : List Fragment) : Section :=
  fragments.foldl offer part

/-- The fragments that are taken by a section with data of some length. -/
def taken (length : Nat) : List Fragment → List Fragment
  | [] => []
  | fragment :: rest =>
      if length ≤ fragment.address.toNat then
        fragment :: taken fragment.endOffset rest
      else
        taken length rest

variable {part : Section} {fragment : Fragment} {fragments : List Fragment}

theorem push_of_lt (backward : fragment.address.toNat < part.assembledLength) :
    part.push fragment =
      .error (.backwardObjectData part.index fragment.address part.assembledLength) :=
  if_pos backward

theorem offer_of_le (forward : part.assembledLength ≤ fragment.address.toNat) :
    part.offer fragment = part.append fragment := by
  rw [offer, push_eq_ok_iff.mpr ⟨forward, rfl⟩]

theorem offer_of_lt (backward : fragment.address.toNat < part.assembledLength) :
    part.offer fragment = part := by
  rw [offer, push_of_lt backward]

theorem offerAll_eq (part : Section) (fragments : List Fragment) :
    part.offerAll fragments =
      part.holding (part.fragments ++ taken part.assembledLength fragments) := by
  induction fragments generalizing part with
  | nil => rw [taken, List.append_nil, holding_fragments]; rfl
  | cons fragment rest induction =>
      change (part.offer fragment).offerAll rest = _
      rw [taken]
      by_cases forward : part.assembledLength ≤ fragment.address.toNat
      · rw [if_pos forward, offer_of_le forward, induction, fragments_append, List.append_assoc]
        rfl
      · rw [if_neg forward, offer_of_lt (Nat.not_le.mp forward), induction]

theorem filled_offerAll (filled : part.Filled) (fragments : List Fragment) :
    (part.offerAll fragments).Filled := by
  induction fragments generalizing part with
  | nil => exact filled
  | cons fragment rest induction =>
      apply induction
      unfold offer
      cases pushed : part.push fragment with
      | ok next => exact filled.push pushed
      | error error => exact filled

/-! ## Fragments that were taken -/

theorem le_address_of_mem_taken {length : Nat} (member : fragment ∈ taken length fragments) :
    length ≤ fragment.address.toNat := by
  induction fragments generalizing length with
  | nil => cases member
  | cons first rest induction =>
      rw [taken] at member
      split at member
      · rename_i forward
        rcases List.mem_cons.mp member with rfl | later
        · exact forward
        · have behind := induction later
          have ends : first.address.toNat ≤ first.endOffset := Nat.le_add_right _ _
          omega
      · exact induction member

theorem pairwise_taken (length : Nat) (fragments : List Fragment) :
    (taken length fragments).Pairwise Follows := by
  induction fragments generalizing length with
  | nil => exact .nil
  | cons fragment rest induction =>
      rw [taken]
      split
      · exact .cons (fun _ later => le_address_of_mem_taken later) (induction _)
      · exact induction _

theorem eq_of_covers {index other position : Nat} {another : Fragment}
    (ascending : fragments.Pairwise Follows) (found : fragments[index]? = some fragment)
    (again : fragments[other]? = some another) (covers : fragment.Covers position)
    (covered : another.Covers position) : other = index := by
  rcases List.getElem?_eq_some_iff.mp found with ⟨inside, rfl⟩
  rcases List.getElem?_eq_some_iff.mp again with ⟨within, rfl⟩
  rw [List.pairwise_iff_getElem] at ascending
  rcases Nat.lt_trichotomy other index with before | same | behind
  · have follows := ascending other index within inside before
    exact absurd (Nat.le_trans follows covers.1) (Nat.not_le.mpr covered.2)
  · exact same
  · have follows := ascending index other inside within behind
    exact absurd (Nat.le_trans follows covered.1) (Nat.not_le.mpr covers.2)

/-! ## Their bytes -/

theorem getElem?_layOut_cons {length position : Nat} {rest : List Fragment}
    (forward : length ≤ fragment.address.toNat) (reached : length ≤ position) :
    (layOut length (fragment :: rest))[position - length]? =
      if position < fragment.address.toNat then
        some 0
      else if position < fragment.endOffset then
        fragment.data[position - fragment.address.toNat]?
      else
        (layOut fragment.endOffset rest)[position - fragment.endOffset]? := by
  have ends : fragment.endOffset = fragment.address.toNat + fragment.data.length := rfl
  rw [layOut, Nat.max_eq_right forward, ← ends, List.append_assoc, List.getElem?_append,
    List.length_replicate]
  by_cases gap : position < fragment.address.toNat
  · have early : position - length < fragment.address.toNat - length := by omega
    rw [if_pos gap, if_pos early, List.getElem?_replicate, if_pos early]
  · have late : ¬position - length < fragment.address.toNat - length := by omega
    have offset : position - length - (fragment.address.toNat - length) =
        position - fragment.address.toNat := by omega
    rw [if_neg gap, if_neg late, offset, List.getElem?_append]
    by_cases inside : position < fragment.endOffset
    · rw [if_pos inside, if_pos (by omega)]
    · rw [if_neg inside, if_neg (by omega), ends, Nat.sub_sub]

theorem getElem?_layOut_of_covers {length position : Nat} (ascending : fragments.Pairwise Follows)
    (behind : ∀ fragment ∈ fragments, length ≤ fragment.address.toNat)
    (member : fragment ∈ fragments) (covers : fragment.Covers position) :
    (layOut length fragments)[position - length]? =
      fragment.data[position - fragment.address.toNat]? := by
  induction fragments generalizing length with
  | nil => cases member
  | cons first rest induction =>
      rcases List.pairwise_cons.mp ascending with ⟨follows, others⟩
      have forward := behind first List.mem_cons_self
      have reached := Nat.le_trans (behind fragment member) covers.1
      rw [getElem?_layOut_cons forward reached]
      rcases List.mem_cons.mp member with rfl | later
      · rw [if_neg (Nat.not_lt.mpr covers.1), if_pos covers.2]
      · have past : first.endOffset ≤ position := Nat.le_trans (follows fragment later) covers.1
        have started : first.address.toNat ≤ position := Nat.le_trans (Nat.le_add_right _ _) past
        rw [if_neg (Nat.not_lt.mpr started), if_neg (Nat.not_lt.mpr past)]
        exact induction others follows later

theorem getElem?_layOut_of_free {length position : Nat}
    (ascending : fragments.Pairwise Follows)
    (behind : ∀ fragment ∈ fragments, length ≤ fragment.address.toNat)
    (reached : length ≤ position) (before : position < layOutEnd length fragments)
    (free : ∀ fragment ∈ fragments, ¬fragment.Covers position) :
    (layOut length fragments)[position - length]? = some 0 := by
  induction fragments generalizing length with
  | nil => exact absurd before (Nat.not_lt.mpr reached)
  | cons first rest induction =>
      rcases List.pairwise_cons.mp ascending with ⟨follows, others⟩
      have forward := behind first List.mem_cons_self
      rw [getElem?_layOut_cons forward reached]
      split
      · rfl
      · rename_i started
        have past : ¬position < first.endOffset := fun inside =>
          free first List.mem_cons_self ⟨Nat.not_lt.mp started, inside⟩
        rw [if_neg past]
        rw [layOutEnd, Nat.max_eq_right forward] at before
        exact induction others follows (Nat.not_lt.mp past) before
          fun fragment later => free fragment (List.mem_cons_of_mem _ later)

theorem extract_layOut (ascending : fragments.Pairwise Follows) (member : fragment ∈ fragments) :
    (layOut 0 fragments).extract fragment.address.toNat fragment.endOffset = fragment.data := by
  refine List.ext_getElem? fun offset => ?_
  have ends : fragment.endOffset - fragment.address.toNat = fragment.data.length :=
    Nat.add_sub_cancel_left _ _
  rw [List.extract_eq_take_drop, List.getElem?_take, List.getElem?_drop, ends]
  by_cases within : offset < fragment.data.length
  · have covers : fragment.Covers (fragment.address.toNat + offset) :=
      ⟨Nat.le_add_right _ _, Nat.add_lt_add_left within _⟩
    have byte := getElem?_layOut_of_covers ascending (fun _ _ => Nat.zero_le _) member covers
    rw [Nat.sub_zero, Nat.add_sub_cancel_left] at byte
    rw [if_pos within, byte]
  · rw [if_neg within, List.getElem?_eq_none (Nat.not_lt.mp within)]

/-! ## Sequences of offers -/

/-- What becomes of fragments that are offered to a section one after another. -/
structure Collects (part : Section) (fragments : List Fragment) : Prop where
  /-- A fragment is taken exactly if it does not start before the end of the data. -/
  accepts : ∀ before fragment, before ++ [fragment] <+: fragments →
    ((∃ next, (part.offerAll before).push fragment = .ok next) ↔
      (part.offerAll before).assembledLength ≤ fragment.address.toNat)
  refuses : ∀ before fragment error, before ++ [fragment] <+: fragments →
    (part.offerAll before).push fragment = .error error →
      error = .backwardObjectData part.index fragment.address
        (part.offerAll before).assembledLength ∧
      part.offerAll (before ++ [fragment]) = part.offerAll before
  whole : part.offerAll fragments = part.holding (taken 0 fragments)
  length : (part.offerAll fragments).assemble.length = (part.offerAll fragments).assembledLength
  covered : ∀ (index position : Nat) (fragment : Fragment),
    (taken 0 fragments)[index]? = some fragment → fragment.Covers position →
      (part.offerAll fragments).assemble[position]? =
        fragment.data[position - fragment.address.toNat]? ∧
      ∀ (other : Nat) (another : Fragment), (taken 0 fragments)[other]? = some another →
        another.Covers position → other = index
  free : ∀ position, position < (part.offerAll fragments).assembledLength →
    (∀ fragment ∈ taken 0 fragments, ¬fragment.Covers position) →
      (part.offerAll fragments).assemble[position]? = some 0
  kept : ∀ fragment ∈ taken 0 fragments,
    (part.offerAll fragments).assemble.extract fragment.address.toNat fragment.endOffset =
      fragment.data

theorem collects_of_new {part : Section} (new : part.fragments = []) (fragments : List Fragment) :
    part.Collects fragments := by
  have whole : part.offerAll fragments = part.holding (taken 0 fragments) := by
    rw [offerAll_eq, part.assembledLength_eq, new]
    rfl
  have ascending := pairwise_taken 0 fragments
  have behind : ∀ fragment ∈ taken 0 fragments, 0 ≤ fragment.address.toNat :=
    fun _ _ => Nat.zero_le _
  have length := (filled_offerAll (.blank new) fragments).assembledLength_eq
  have assembled : (part.offerAll fragments).assemble = layOut 0 (taken 0 fragments) := by
    rw [whole]
    rfl
  constructor
  case accepts =>
    intro before fragment _
    constructor
    · rintro ⟨next, pushed⟩
      exact (push_eq_ok_iff.mp pushed).1
    · intro forward
      exact ⟨_, push_eq_ok_iff.mpr ⟨forward, rfl⟩⟩
  case refuses =>
    intro before fragment error _ refused
    have backward : fragment.address.toNat < (part.offerAll before).assembledLength := by
      apply Nat.not_le.mp
      intro forward
      rw [push_eq_ok_iff.mpr ⟨forward, rfl⟩] at refused
      cases refused
    have index : (part.offerAll before).index = part.index := by
      rw [offerAll_eq]
      rfl
    rw [push_of_lt backward, index] at refused
    cases refused
    refine ⟨rfl, ?_⟩
    rw [offerAll, List.foldl_append]
    exact offer_of_lt backward
  case whole => exact whole
  case length => exact (length_assemble _).trans length.symm
  case covered =>
    intro index position fragment found covers
    have member := List.mem_of_getElem? found
    rw [assembled]
    exact ⟨getElem?_layOut_of_covers ascending behind member covers,
      fun other another again covered => eq_of_covers ascending found again covers covered⟩
  case free =>
    intro position before free
    rw [length, dataLength, whole] at before
    rw [assembled]
    exact getElem?_layOut_of_free ascending behind (Nat.zero_le _) before free
  case kept =>
    intro fragment member
    rw [assembled]
    exact extract_layOut ascending member

/-- A gap, a fragment that is refused, and one without data behind the end. -/
theorem collects_offered :
    ({ index := 3, name := "P" } : Section).fragments = [] ∧
      ({ index := 3, name := "P" } : Section).Collects
        [⟨0x80, 2, [1, 2]⟩, ⟨0x80, 3, [9]⟩, ⟨0x80, 4, [3]⟩, ⟨0x80, 8, []⟩] :=
  ⟨rfl, collects_of_new rfl _⟩

example :
    let part := offerAll { index := 3, name := "P" }
      [⟨0x80, 2, [1, 2]⟩, ⟨0x80, 3, [9]⟩, ⟨0x80, 4, [3]⟩, ⟨0x80, 8, []⟩]
    part.assemble = [0, 0, 1, 2, 3, 0, 0, 0] ∧ part.assembledLength = 8 := by
  decide

end Section

end SuperHBench
