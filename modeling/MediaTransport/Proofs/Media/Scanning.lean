import MediaTransport.Proofs.Media.Allocation
import Mathlib.Data.Finset.Card
import Mathlib.Data.Finset.Range
import Mathlib.Data.List.Rotate
import Mathlib.Data.Nat.Find

/-!
# Scanning a range for a pair of ports

A scan tries the pairs of a range one after another, each once, from the one at the cursor on and
round (`scanOrder` is a rotation), and takes the first of which no port is taken. On an address of
the host itself a port can be bound exactly when it is not taken, so this is all that a scan
depends on: `Ports.ScanCase` says what it comes to, and which pairs it has tried.

A pair that is taken makes no other pair unusable, because pairs with different indexes share no
port. Each scan therefore uses up one pair of those that were free, until none is left, wherever
the scans start (`Ports.exists_pairsFound_eq_map`).
-/

namespace MediaTransport

namespace Media

open Net

/-! ## The pairs of a range -/

/-- The pair of a range with an index, at an address. -/
def pairIn (address : IpAddress) (range : PortRange) (rtcp : Bool) (i : Nat) : PortPair :=
  pairAt ⟨address, range.pairPort i⟩ rtcp

/-- The indexes of the pairs of a range that are free. -/
def freeIndexes (h : Host) (address : IpAddress) (range : PortRange) (rtcp : Bool) : Finset Nat :=
  (Finset.range range.pairs).filter fun i => IsFree h (pairIn address range rtcp i)

section

variable {address : IpAddress} {range : PortRange} {rtcp : Bool} {h : Host} {i j : Nat}

theorem mem_freeIndexes : i ∈ freeIndexes h address range rtcp ↔
    i < range.pairs ∧ IsFree h (pairIn address range rtcp i) := by
  rw [freeIndexes, Finset.mem_filter, Finset.mem_range]

theorem freeIndexes_eq_empty_iff : freeIndexes h address range rtcp = ∅ ↔
    ∀ i < range.pairs, ¬ IsFree h (pairIn address range rtcp i) := by
  simp only [freeIndexes, Finset.filter_eq_empty_iff, Finset.mem_range]

theorem isFree_pairIn : IsFree h (pairIn address range rtcp i) ↔
    ⟨address, range.pairPort i⟩ ∉ h.taken ∧
      (rtcp = true → ⟨address, range.pairPort i + 1⟩ ∉ h.taken) :=
  isFree_pairAt

theorem port_of_mem_endpoints (hi : i < range.pairs) {e : Endpoint}
    (he : e ∈ (pairIn address range rtcp i).endpoints) :
    range.start.toNat + 2 * i ≤ e.port.toNat ∧ e.port.toNat ≤ range.start.toNat + 2 * i + 1 := by
  have hfirst := PortRange.toNat_pairPort hi
  have hsecond := PortRange.toNat_pairPort_add_one hi
  rw [PortPair.endpoints, List.mem_cons, Option.mem_toList] at he
  rcases he with rfl | he
  · change _ ≤ (range.pairPort i).toNat ∧ (range.pairPort i).toNat ≤ _
    omega
  · cases rtcp with
    | false => cases he
    | true =>
        cases he
        change _ ≤ (range.pairPort i + 1).toNat ∧ (range.pairPort i + 1).toNat ≤ _
        omega

theorem disjoint_endpoints_iff (hi : i < range.pairs) (hj : j < range.pairs) :
    (pairIn address range rtcp i).endpoints.Disjoint (pairIn address range rtcp j).endpoints ↔
      i ≠ j := by
  constructor
  · rintro hdisjoint rfl
    exact hdisjoint List.mem_cons_self List.mem_cons_self
  · intro hne e hei hej
    have hport := port_of_mem_endpoints hi hei
    have hport' := port_of_mem_endpoints hj hej
    omega

theorem isFree_taking_iff {es : List Endpoint} {pair : PortPair} :
    IsFree (h.taking es) pair ↔ es.Disjoint pair.endpoints ∧ IsFree h pair := by
  simp only [IsFree, Host.taking, List.mem_append, List.mem_reverse, not_or, List.disjoint_right]
  exact forall₂_and

/-- Taking a pair makes that one pair unusable, and no other. -/
theorem freeIndexes_taking (hi : i < range.pairs) :
    freeIndexes (h.taking (pairIn address range rtcp i).endpoints) address range rtcp =
      (freeIndexes h address range rtcp).erase i := by
  ext j
  rw [Finset.mem_erase, mem_freeIndexes, mem_freeIndexes, isFree_taking_iff, ne_comm]
  constructor
  · rintro ⟨hj, hdisjoint, hfree⟩
    exact ⟨(disjoint_endpoints_iff hi hj).mp hdisjoint, hj, hfree⟩
  · rintro ⟨hne, hj, hfree⟩
    exact ⟨hj, (disjoint_endpoints_iff hi hj).mpr hne, hfree⟩

/-- On an address of the host a pair is taken exactly when it is free. -/
theorem bindPair?_pairPort (rtcp : Bool) (hstart : 1 ≤ range.start.toNat)
    (hlocal : h.isLocal address = true) (hi : i < range.pairs) :
    bindPair? h address (range.pairPort i) rtcp =
      if IsFree h (pairIn address range rtcp i) then
        (some (pairIn address range rtcp i), h.taking (pairIn address range rtcp i).endpoints)
      else (none, h) := by
  have hfirst := PortRange.toNat_pairPort hi
  have hlast := PortRange.lt_stop hi
  have hstop := range.stop.toNat_lt
  have hport := PortRange.pairPort_ne_zero hstart hi
  have hnext : (range.pairPort i).toNat + 1 < 65536 := by omega
  rw [bindPair?, Host.bind_of_local hlocal hport]
  by_cases htaken : ⟨address, range.pairPort i⟩ ∈ h.taken
  · rw [if_pos htaken, if_neg fun hfree => (isFree_pairIn.mp hfree).1 htaken]
  · rw [if_neg htaken]
    cases rtcp with
    | false =>
        rw [if_pos (isFree_pairIn.mpr ⟨htaken, fun hrtcp => absurd hrtcp Bool.false_ne_true⟩)]
        rfl
    | true =>
        have hbind := bind_next (e := ⟨address, range.pairPort i⟩) hlocal hnext
        dsimp only at hbind ⊢
        rw [Bool.not_true, if_neg Bool.false_ne_true, hbind]
        by_cases habove : ⟨address, range.pairPort i + 1⟩ ∈ h.taken
        · rw [if_pos habove, if_neg fun hfree => (isFree_pairIn.mp hfree).2 rfl habove]
          exact congrArg (Prod.mk none) (Host.release_taking h _)
        · rw [if_neg habove, if_pos (isFree_pairIn.mpr ⟨htaken, fun _ => habove⟩)]
          rfl

end

/-! ## One scan -/

theorem scanOrder_eq_rotate (n offset : Nat) :
    scanOrder n offset = (List.range n).rotate offset := by
  refine List.ext_getElem (by simp [scanOrder]) fun k hk hk' => ?_
  rw [List.getElem_rotate]
  simp [scanOrder, Nat.add_comm]

theorem scanOrder_perm (n offset : Nat) : (scanOrder n offset).Perm (List.range n) :=
  scanOrder_eq_rotate n offset ▸ List.rotate_perm _ _

theorem take_succ_scanOrder {n offset k : Nat} (hk : k < n) :
    (scanOrder n offset).take (k + 1) = (scanOrder n offset).take k ++ [(offset + k) % n] := by
  have hlength : k < (scanOrder n offset).length := by simpa [scanOrder] using hk
  rw [List.take_succ_eq_append_getElem hlength]
  simp [scanOrder]

theorem mem_take_scanOrder {n offset k i : Nat} (hk : k ≤ n) :
    i ∈ (scanOrder n offset).take k ↔ ∃ j < k, (offset + j) % n = i := by
  rw [scanOrder, ← List.map_take, List.take_range, Nat.min_eq_left hk]
  simp

/-- The indexes of the pairs that `firstFree?` tries, in turn. -/
def tried (address : IpAddress) (range : PortRange) (rtcp : Bool) : List Nat → Host → List Nat
  | [], _ => []
  | i :: rest, h =>
      match bindPair? h address (range.pairPort i) rtcp with
      | (some _, _) => [i]
      | (none, h) => i :: tried address range rtcp rest h

/-- What a scan comes to, and which pairs it has tried. -/
inductive Ports.ScanCase (p : Ports) (address : IpAddress) (range : PortRange) (rtcp : Bool) :
    Except Error PortPair × Ports → List Nat → Prop
  | exhausted (hnone : ∀ i < range.pairs, ¬ IsFree p.host (pairIn address range rtcp i)) :
      ScanCase p address range rtcp (.error (.portExhaustion (.takenRange range)), p)
        (scanOrder range.pairs (p.nextPair % range.pairs))
  | found {k i : Nat} (hk : k < range.pairs)
      (hi : i = (p.nextPair % range.pairs + k) % range.pairs)
      (hfree : IsFree p.host (pairIn address range rtcp i))
      (hfirst : ∀ j < k, ¬ IsFree p.host
        (pairIn address range rtcp ((p.nextPair % range.pairs + j) % range.pairs))) :
      ScanCase p address range rtcp
        (.ok (pairIn address range rtcp i),
          ⟨p.host.taking (pairIn address range rtcp i).endpoints, (i + 1) % range.pairs⟩)
        ((scanOrder range.pairs (p.nextPair % range.pairs)).take (k + 1))

section

variable {address : IpAddress} {range : PortRange} {rtcp : Bool}

section

variable {h : Host} {offset : Nat}

/-- A scan passes over the pairs that are not free, and leaves the host as it is. -/
theorem firstFree?_append {before : List Nat} (rest : List Nat)
    (hstart : 1 ≤ range.start.toNat) (hlocal : h.isLocal address = true)
    (hbefore : ∀ i ∈ before, i < range.pairs ∧ ¬ IsFree h (pairIn address range rtcp i)) :
    firstFree? address range rtcp (before ++ rest) h = firstFree? address range rtcp rest h ∧
      tried address range rtcp (before ++ rest) h =
        before ++ tried address range rtcp rest h := by
  induction before with
  | nil => exact ⟨rfl, rfl⟩
  | cons i before ih =>
      obtain ⟨⟨hi, htaken⟩, hbefore⟩ := List.forall_mem_cons.mp hbefore
      have hbind := bindPair?_pairPort rtcp hstart hlocal hi
      rw [if_neg htaken] at hbind
      obtain ⟨hfound, htried⟩ := ih hbefore
      rw [List.cons_append, firstFree?, tried, hbind]
      exact ⟨hfound, congrArg (i :: ·) htried⟩

theorem firstFree?_of_exhausted (hstart : 1 ≤ range.start.toNat) (hlocal : h.isLocal address = true)
    (hnone : ∀ i < range.pairs, ¬ IsFree h (pairIn address range rtcp i)) :
    firstFree? address range rtcp (scanOrder range.pairs offset) h = (none, h) ∧
      tried address range rtcp (scanOrder range.pairs offset) h =
        scanOrder range.pairs offset := by
  have hbefore : ∀ i ∈ scanOrder range.pairs offset,
      i < range.pairs ∧ ¬ IsFree h (pairIn address range rtcp i) := by
    intro i hi
    have hi := List.mem_range.mp ((scanOrder_perm _ _).mem_iff.mp hi)
    exact ⟨hi, hnone i hi⟩
  obtain ⟨hscan, htried⟩ := firstFree?_append [] hstart hlocal hbefore
  rw [List.append_nil] at hscan htried
  rw [hscan, htried, tried, List.append_nil]
  exact ⟨rfl, rfl⟩

theorem firstFree?_of_found {k : Nat} (hstart : 1 ≤ range.start.toNat)
    (hlocal : h.isLocal address = true) (hk : k < range.pairs)
    (hfree : IsFree h (pairIn address range rtcp ((offset + k) % range.pairs)))
    (hfirst : ∀ j < k, ¬ IsFree h (pairIn address range rtcp ((offset + j) % range.pairs))) :
    firstFree? address range rtcp (scanOrder range.pairs offset) h =
        (some ((offset + k) % range.pairs, pairIn address range rtcp ((offset + k) % range.pairs)),
          h.taking (pairIn address range rtcp ((offset + k) % range.pairs)).endpoints) ∧
      tried address range rtcp (scanOrder range.pairs offset) h =
        (scanOrder range.pairs offset).take (k + 1) := by
  have hlt (j : Nat) : (offset + j) % range.pairs < range.pairs :=
    Nat.mod_lt _ (Nat.zero_lt_of_lt hk)
  have hbefore : ∀ i ∈ (scanOrder range.pairs offset).take k,
      i < range.pairs ∧ ¬ IsFree h (pairIn address range rtcp i) := by
    intro i hi
    obtain ⟨j, hj, rfl⟩ := (mem_take_scanOrder hk.le).mp hi
    exact ⟨hlt j, hfirst j hj⟩
  obtain ⟨hscan, htried⟩ := firstFree?_append
    ((offset + k) % range.pairs :: (scanOrder range.pairs offset).drop (k + 1))
    hstart hlocal hbefore
  rw [List.append_cons, ← take_succ_scanOrder hk, List.take_append_drop] at hscan htried
  have hbind := bindPair?_pairPort rtcp hstart hlocal (hlt k)
  rw [if_pos hfree] at hbind
  rw [hscan, htried, firstFree?, tried, hbind]
  exact ⟨rfl, (take_succ_scanOrder hk).symm⟩

end

namespace Ports

variable {p : Ports}

theorem scanCase_bindInRange (rtcp : Bool) (hstart : 1 ≤ range.start.toNat)
    (hpairs : range.pairs ≠ 0) (hlocal : p.host.isLocal address = true) :
    ScanCase p address range rtcp (p.bindInRange address range rtcp)
      (tried address range rtcp (scanOrder range.pairs (p.nextPair % range.pairs)) p.host) := by
  rw [bindInRange, if_neg hpairs]
  by_cases hfree : ∃ k < range.pairs,
      IsFree p.host (pairIn address range rtcp ((p.nextPair % range.pairs + k) % range.pairs))
  · obtain ⟨hk, hfound⟩ := Nat.find_spec hfree
    have hfirst (j : Nat) (hj : j < Nat.find hfree) :=
      not_and.mp (Nat.find_min hfree hj) (hj.trans hk)
    obtain ⟨hscan, htried⟩ := firstFree?_of_found hstart hlocal hk hfound hfirst
    rw [hscan, htried]
    exact .found hk rfl hfound hfirst
  · have hnone (i : Nat) (hi : i < range.pairs) :
        ¬ IsFree p.host (pairIn address range rtcp i) := by
      obtain ⟨k, hk, rfl⟩ := List.mem_map.mp
        ((scanOrder_perm _ (p.nextPair % range.pairs)).mem_iff.mpr (List.mem_range.mpr hi))
      exact fun hfound => hfree ⟨k, List.mem_range.mp hk, hfound⟩
    obtain ⟨hscan, htried⟩ := firstFree?_of_exhausted hstart hlocal hnone
    rw [hscan, htried]
    exact .exhausted hnone

theorem ScanCase.exists_error_iff {result : Except Error PortPair × Ports} {indexes : List Nat}
    (hcase : ScanCase p address range rtcp result indexes) :
    (∃ error, result.1 = .error error) ↔ freeIndexes p.host address range rtcp = ∅ := by
  rw [freeIndexes_eq_empty_iff]
  cases hcase with
  | exhausted hnone => exact iff_of_true ⟨_, rfl⟩ hnone
  | @found k i hk hi hfree hfirst =>
      refine iff_of_false (fun ⟨_, herror⟩ => nomatch herror) fun hnone => ?_
      exact hnone i (hi ▸ Nat.mod_lt _ (Nat.zero_lt_of_lt hk)) hfree

/-! ## Scans in a row -/

/-- The pairs that so many scans of one range find, with nothing released in between. -/
def pairsFound (address : IpAddress) (range : PortRange) (rtcp : Bool) : Nat → Ports → List PortPair
  | 0, _ => []
  | m + 1, p =>
      match p.bindInRange address range rtcp with
      | (.ok pair, p) => pair :: pairsFound address range rtcp m p
      | (.error _, p) => pairsFound address range rtcp m p

/-- Scans in a row find different pairs, all free at the start, one each until none is left. -/
theorem exists_pairsFound_eq_map (rtcp : Bool) (m : Nat) (hstart : 1 ≤ range.start.toNat)
    (hpairs : range.pairs ≠ 0) (hlocal : p.host.isLocal address = true) :
    ∃ indexes : List Nat, indexes.Nodup ∧
      (∀ i ∈ indexes, i ∈ freeIndexes p.host address range rtcp) ∧
      pairsFound address range rtcp m p = indexes.map (pairIn address range rtcp) ∧
      indexes.length = min m (freeIndexes p.host address range rtcp).card := by
  induction m generalizing p with
  | zero => exact ⟨[], List.nodup_nil, nofun, rfl, (Nat.zero_min _).symm⟩
  | succ m ih =>
      rw [pairsFound]
      have hcase := scanCase_bindInRange rtcp hstart hpairs hlocal
      generalize tried address range rtcp _ p.host = order at hcase
      generalize p.bindInRange address range rtcp = result at hcase ⊢
      cases hcase with
      | exhausted hnone =>
          obtain ⟨indexes, hnodup, hfree, hfound, hlength⟩ := ih hlocal
          refine ⟨indexes, hnodup, hfree, hfound, ?_⟩
          rw [hlength, freeIndexes_eq_empty_iff.mpr hnone, Finset.card_empty, Nat.min_zero,
            Nat.min_zero]
      | @found k i hk hi hifree hfirst =>
          have hirange : i < range.pairs := hi ▸ Nat.mod_lt _ (Nat.zero_lt_of_lt hk)
          have hmem := mem_freeIndexes.mpr ⟨hirange, hifree⟩
          obtain ⟨indexes, hnodup, hfree, hfound, hlength⟩ :=
            @ih ⟨p.host.taking (pairIn address range rtcp i).endpoints, (i + 1) % range.pairs⟩ hlocal
          rw [freeIndexes_taking hirange] at hfree hlength
          have hcard := Finset.card_erase_add_one hmem
          refine ⟨i :: indexes, List.nodup_cons.mpr ⟨?_, hnodup⟩, ?_, ?_, ?_⟩
          · exact fun hi => Finset.notMem_erase i _ (hfree i hi)
          · exact List.forall_mem_cons.mpr
              ⟨hmem, fun j hj => Finset.mem_of_mem_erase (hfree j hj)⟩
          · exact congrArg (pairIn address range rtcp i :: ·) hfound
          · rw [List.length_cons, hlength]
            omega

/-- A scan goes once round the range and takes the first pair that is free, and scans in a row
use up every pair that was free at the start. -/
theorem scanCase_and_pairsFound (p : Ports) {address : IpAddress} {range : PortRange} (rtcp : Bool)
    (hstart : 1 ≤ range.start.toNat) (hstop : range.start.toNat + 2 ≤ range.stop.toNat)
    (hlocal : p.host.isLocal address = true) :
    (scanOrder range.pairs (p.nextPair % range.pairs)).Perm (List.range range.pairs) ∧
      (∀ i < range.pairs, (range.pairPort i).toNat = range.start.toNat + 2 * i ∧
        (range.pairPort i + 1).toNat = range.start.toNat + 2 * i + 1 ∧
        range.start.toNat + 2 * i + 1 < range.stop.toNat) ∧
      (∀ i < range.pairs, ∀ j < range.pairs, i ≠ j →
        (pairIn address range true i).endpoints.Disjoint
          (pairIn address range true j).endpoints) ∧
      ScanCase p address range rtcp (p.bindInRange address range rtcp)
        (tried address range rtcp (scanOrder range.pairs (p.nextPair % range.pairs)) p.host) ∧
      ((∃ error, (p.bindInRange address range rtcp).1 = .error error) ↔
        freeIndexes p.host address range rtcp = ∅) ∧
      ∀ m, (pairsFound address range rtcp m p).length =
          min m (freeIndexes p.host address range rtcp).card ∧
        (pairsFound address range rtcp m p).Pairwise fun pair other =>
          pair.endpoints.Disjoint other.endpoints := by
  have hpairs : range.pairs ≠ 0 := by
    rw [PortRange.pairs]
    omega
  have hscan := scanCase_bindInRange rtcp hstart hpairs hlocal
  refine ⟨scanOrder_perm _ _, fun i hi => ?_, fun i hi j hj => ?_, hscan, ?_, fun m => ?_⟩
  · exact ⟨PortRange.toNat_pairPort hi, PortRange.toNat_pairPort_add_one hi, PortRange.lt_stop hi⟩
  · exact (disjoint_endpoints_iff hi hj).mpr
  · exact hscan.exists_error_iff
  · obtain ⟨indexes, hnodup, hfree, hfound, hlength⟩ :=
      exists_pairsFound_eq_map rtcp m hstart hpairs hlocal
    rw [hfound, List.length_map, List.pairwise_map]
    refine ⟨hlength, hnodup.imp_of_mem fun hi hj hne => ?_⟩
    exact (disjoint_endpoints_iff (mem_freeIndexes.mp (hfree _ hi)).1
      (mem_freeIndexes.mp (hfree _ hj)).1).mpr hne

/-- The second port of the pair at 40004 is taken, and the cursor is from a longer range. -/
def partlyTaken : Ports where
  host := { isLocal := fun _ => true, taken := [⟨.v4 ⟨127, 0, 0, 1⟩, 40005⟩] }
  nextPair := 8

theorem scanCase_and_pairsFound_partlyTaken :
    let address : IpAddress := .v4 ⟨127, 0, 0, 1⟩
    let range : PortRange := ⟨40000, 40007⟩
    1 ≤ range.start.toNat ∧ range.start.toNat + 2 ≤ range.stop.toNat ∧
      partlyTaken.host.isLocal address = true ∧
      freeIndexes partlyTaken.host address range true = {0, 1} ∧
      ScanCase partlyTaken address range true (partlyTaken.bindInRange address range true) [2, 0] ∧
      (pairsFound address range true 5 partlyTaken).length = 2 ∧
      (pairsFound address range true 5 partlyTaken).Pairwise fun pair other =>
        pair.endpoints.Disjoint other.endpoints := by
  intro address range
  have hfree : freeIndexes partlyTaken.host address range true = {0, 1} := by decide
  have htried : tried address range true
      (scanOrder range.pairs (partlyTaken.nextPair % range.pairs)) partlyTaken.host = [2, 0] := by
    decide
  obtain ⟨-, -, -, hscan, -, hfound⟩ :=
    scanCase_and_pairsFound partlyTaken true (by decide : 1 ≤ range.start.toNat) (by decide)
      (rfl : partlyTaken.host.isLocal address = true)
  obtain ⟨hlength, hdisjoint⟩ := hfound 5
  rw [hfree] at hlength
  exact ⟨by decide, by decide, rfl, hfree, htried ▸ hscan, hlength, hdisjoint⟩

end Ports

end

end Media

end MediaTransport
