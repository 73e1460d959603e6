import MediaTransport.Proofs.Rtp.Widening
import MediaTransport.Rtp.Header
import Mathlib.Data.List.DropRight

/-!
# A packet among those before it

What a packet means for its source depends on the packets that came before it, and on
nothing else. A packet continues the source of the one before it, or turns to another
one (`History.IsTurn`). The packets since the last turn have one tracker
(`History.tracker`), and against it a packet may be late (`History.IsRegression`) or
not the next one (`History.IsStray`). `History.count` counts the packets of a list for
which such a property holds at their place.

All is said about whole lists, oldest packet first, and all is proved for one more
packet at the end.
-/

namespace MediaTransport.Rtp.History

/-! ## Properties of a packet at its place -/

/-- Whether a packet comes from the same source as the one before it. -/
def Continues (past : List Header) (h : Header) : Prop :=
  past.getLast?.map Header.ssrc = some h.ssrc

instance (past : List Header) (h : Header) : Decidable (Continues past h) :=
  inferInstanceAs (Decidable (_ = _))

/-- The longest run of packets from one source that ends with the last packet. -/
def currentRun (past : List Header) : List Header :=
  match past.getLast? with
  | none => []
  | some last => past.rtakeWhile fun h => h.ssrc = last.ssrc

/-- The tracker of the packets since the source last changed. -/
def tracker (past : List Header) : Tracker :=
  .ofNumbers ((currentRun past).map Header.sequenceNumber)

/-- A packet from another source than the one before it. -/
def IsTurn (past : List Header) (h : Header) : Prop :=
  past ≠ [] ∧ ¬ Continues past h

/-- A packet whose number the tracker refuses. -/
def IsRegression (past : List Header) (h : Header) : Prop :=
  Continues past h ∧
    (tracker past).update h.sequenceNumber =
      .error (.sequenceRegression (tracker past).last h.sequenceNumber)

/-- A packet whose number is not the one after the last that the tracker took. -/
def IsStray (past : List Header) (h : Header) : Prop :=
  Continues past h ∧ h.sequenceNumber.toNat ≠ ((tracker past).last.toNat + 1) % 65536

instance : DecidableRel IsTurn := fun _ _ => inferInstanceAs (Decidable (_ ∧ _))

instance : DecidableRel IsRegression := fun _ _ => inferInstanceAs (Decidable (_ ∧ _))

instance : DecidableRel IsStray := fun _ _ => inferInstanceAs (Decidable (_ ∧ _))

/-- How many of some packets have a property, given those that came before them. -/
def count (P : List Header → Header → Prop) [DecidableRel P] :
    List Header → List Header → Nat
  | _, [] => 0
  | past, h :: rest => (if P past h then 1 else 0) + count P (past ++ [h]) rest

theorem count_append_singleton (P : List Header → Header → Prop) [DecidableRel P]
    (past hs : List Header) (h : Header) :
    count P past (hs ++ [h]) = count P past hs + if P (past ++ hs) h then 1 else 0 := by
  induction hs generalizing past with
  | nil => rw [List.append_nil, List.nil_append, count, count, count, Nat.zero_add, Nat.add_zero]
  | cons g hs ih =>
      rw [List.cons_append, count, ih, count, List.append_assoc, List.singleton_append,
        Nat.add_assoc]

theorem count_le_count {P Q : List Header → Header → Prop} [DecidableRel P]
    [DecidableRel Q] (h : ∀ past g, P past g → Q past g) (past hs : List Header) :
    count P past hs ≤ count Q past hs := by
  induction hs generalizing past with
  | nil => exact Nat.le_refl 0
  | cons g hs ih =>
      refine Nat.add_le_add ?_ (ih _)
      by_cases hP : P past g
      · rw [if_pos hP, if_pos (h past g hP)]
      · rw [if_neg hP]
        exact Nat.zero_le _

/-! ## The tracker of a list -/

theorem currentRun_append_singleton (past : List Header) (h : Header) :
    currentRun (past ++ [h]) = (past.rtakeWhile fun g => g.ssrc = h.ssrc) ++ [h] := by
  rw [currentRun, List.getLast?_concat]
  exact List.rtakeWhile_concat_pos _ _ _ (decide_eq_true rfl)

theorem Continues.exists_eq_append {past : List Header} {h : Header}
    (hcontinues : Continues past h) :
    ∃ front last, past = front ++ [last] ∧ last.ssrc = h.ssrc := by
  obtain ⟨last, hlast, hssrc⟩ := Option.map_eq_some_iff.mp hcontinues
  obtain ⟨front, rfl⟩ := List.getLast?_eq_some_iff.mp hlast
  exact ⟨front, last, rfl, hssrc⟩

theorem tracker_append_of_continues {past : List Header} {h : Header}
    (hcontinues : Continues past h) :
    tracker (past ++ [h]) = (tracker past).advance h.sequenceNumber := by
  obtain ⟨front, last, rfl, hssrc⟩ := hcontinues.exists_eq_append
  have hrun : (front ++ [last]).rtakeWhile (fun g => g.ssrc = h.ssrc) =
      currentRun (front ++ [last]) := by
    rw [currentRun, List.getLast?_concat]
    dsimp only
    rw [hssrc]
  have hnonempty : (currentRun (front ++ [last])).map Header.sequenceNumber ≠ [] := by
    rw [currentRun_append_singleton, List.map_append]
    exact List.append_ne_nil_of_right_ne_nil _ (List.cons_ne_nil _ _)
  rw [tracker, currentRun_append_singleton, hrun, List.map_append, List.map_singleton,
    Tracker.ofNumbers_append_singleton hnonempty, tracker]

theorem tracker_append_of_not_continues {past : List Header} {h : Header}
    (hcontinues : ¬ Continues past h) : tracker (past ++ [h]) = .start h.sequenceNumber := by
  have hrun : (past.rtakeWhile fun g => g.ssrc = h.ssrc) = [] := by
    rw [List.rtakeWhile_eq_nil_iff]
    intro hpast hssrc
    refine hcontinues ?_
    rw [Continues, List.getLast?_eq_some_getLast hpast, Option.map_some]
    exact congrArg some (of_decide_eq_true hssrc)
  rw [tracker, currentRun_append_singleton, hrun]
  rfl

/-- A number that is refused is not the next one. -/
theorem IsRegression.isStray {past : List Header} {h : Header}
    (hregression : IsRegression past h) : IsStray past h := by
  refine ⟨hregression.1, ?_⟩
  intro hnext
  have hstep := ((tracker past).extended_advance_eq_iff h.sequenceNumber).mpr hnext
  rw [Tracker.advance_of_update_error hregression.2] at hstep
  omega

theorem count_isRegression_le (past hs : List Header) :
    count IsRegression past hs ≤ count IsStray past hs :=
  count_le_count (fun _ _ => IsRegression.isStray) past hs

/-! ## Streams without a gap -/

/-- Packets of one source whose numbers follow each other, from `first` on. -/
structure IsRow (ssrc : UInt32) (first : Nat) (hs : List Header) : Prop where
  ssrc_eq : ∀ h ∈ hs, h.ssrc = ssrc
  number_eq : hs.map Header.sequenceNumber =
    (List.range hs.length).map fun i => UInt16.ofNat (first + i)

namespace IsRow

variable {ssrc : UInt32} {first : Nat} {hs : List Header} {h : Header}

theorem nil (ssrc : UInt32) (first : Nat) : IsRow ssrc first [] :=
  ⟨List.forall_mem_nil _, rfl⟩

theorem cons (hssrc : h.ssrc = ssrc) (hnumber : h.sequenceNumber = UInt16.ofNat first)
    (hrow : IsRow ssrc (first + 1) hs) : IsRow ssrc first (h :: hs) := by
  refine ⟨List.forall_mem_cons.mpr ⟨hssrc, hrow.ssrc_eq⟩, ?_⟩
  rw [List.map_cons, List.length_cons, List.range_succ_eq_map, List.map_cons, List.map_map,
    hnumber, hrow.number_eq, Nat.add_zero]
  refine congrArg _ (List.map_congr_left fun i _ => ?_)
  rw [Function.comp_apply, Nat.succ_eq_add_one, Nat.add_assoc, Nat.add_comm 1]

theorem take (hrow : IsRow ssrc first hs) (m : Nat) : IsRow ssrc first (hs.take m) := by
  refine ⟨fun h hh => hrow.ssrc_eq h (List.mem_of_mem_take hh), ?_⟩
  rw [List.map_take, hrow.number_eq, ← List.map_take, List.take_range, List.length_take]

theorem of_append (hrow : IsRow ssrc first (hs ++ [h])) :
    IsRow ssrc first hs ∧ h.ssrc = ssrc ∧
      h.sequenceNumber = UInt16.ofNat (first + hs.length) := by
  obtain ⟨hssrc, hnumber⟩ := hrow
  rw [List.map_append, List.length_append, List.length_singleton, List.range_succ,
    List.map_append] at hnumber
  obtain ⟨hfront, hlast⟩ := List.append_inj' hnumber rfl
  refine ⟨⟨fun g hg => hssrc g (List.mem_append_left _ hg), hfront⟩, ?_, ?_⟩
  · exact hssrc h (List.mem_append_right _ (List.mem_singleton_self h))
  · exact (List.cons.inj hlast).1

theorem continues (hrow : IsRow ssrc first (hs ++ [h])) (hne : hs ≠ []) : Continues hs h := by
  obtain ⟨hfront, hssrc, -⟩ := hrow.of_append
  rw [Continues, List.getLast?_eq_some_getLast hne, Option.map_some, hssrc,
    hfront.ssrc_eq _ (List.getLast_mem hne)]

theorem tracker_append (hfirst : first < 65536) (hrow : IsRow ssrc first (hs ++ [h])) :
    tracker (hs ++ [h]) = .standingAt (first + hs.length) := by
  induction hs using List.reverseRecOn generalizing h with
  | nil =>
      -- Only here does the first number have to lie below the first wrap.
      obtain ⟨-, -, hseq⟩ := hrow.of_append
      rw [tracker_append_of_not_continues (by exact nofun), hseq, Tracker.start,
        Tracker.standingAt, List.length_nil, Nat.add_zero, Nat.div_eq_of_lt hfirst]
  | append_singleton hs g ih =>
      obtain ⟨hfront, -, hseq⟩ := hrow.of_append
      have hon := hrow.continues (List.append_ne_nil_of_right_ne_nil _ (List.cons_ne_nil _ _))
      rw [tracker_append_of_continues hon, ih hfront, hseq, List.length_append,
        List.length_singleton, ← Nat.add_assoc, Tracker.advance_standingAt]

theorem extended_tracker (hfirst : first < 65536) (hrow : IsRow ssrc first hs) (hne : hs ≠ []) :
    (tracker hs).extended = first + hs.length - 1 := by
  obtain ⟨front, last, rfl⟩ := (List.eq_nil_or_concat' hs).resolve_left hne
  rw [hrow.tracker_append hfirst, Tracker.extended_standingAt, List.length_append,
    List.length_singleton, ← Nat.add_assoc, Nat.add_sub_cancel]

theorem not_isStray (hfirst : first < 65536) (hrow : IsRow ssrc first (hs ++ [h])) :
    ¬ IsStray hs h := by
  intro hstray
  obtain ⟨front, last, rfl, -⟩ := hstray.1.exists_eq_append
  obtain ⟨hfront, -, hseq⟩ := hrow.of_append
  refine hstray.2 ?_
  rw [hfront.tracker_append hfirst, hseq, Tracker.standingAt, List.length_append,
    List.length_singleton, UInt16.toNat_ofNat', UInt16.toNat_ofNat']
  omega

theorem count_isStray (hfirst : first < 65536) (hrow : IsRow ssrc first hs) :
    count IsStray [] hs = 0 := by
  induction hs using List.reverseRecOn with
  | nil => rfl
  | append_singleton hs h ih =>
      rw [count_append_singleton, ih hrow.of_append.1, List.nil_append,
        if_neg (hrow.not_isStray hfirst)]

theorem count_isRegression (hfirst : first < 65536) (hrow : IsRow ssrc first hs) :
    count IsRegression [] hs = 0 := by
  have hle := count_isRegression_le [] hs
  rw [hrow.count_isStray hfirst] at hle
  exact Nat.le_zero.mp hle

theorem count_isTurn (hrow : IsRow ssrc first hs) : count IsTurn [] hs = 0 := by
  induction hs using List.reverseRecOn with
  | nil => rfl
  | append_singleton hs h ih =>
      rw [count_append_singleton, ih hrow.of_append.1, List.nil_append,
        if_neg fun hturn => hturn.2 (hrow.continues hturn.1)]

theorem append {late : List Header} (hrow : IsRow ssrc first hs)
    (hlate : IsRow ssrc (first + hs.length) late) : IsRow ssrc first (hs ++ late) := by
  refine ⟨List.forall_mem_append.mpr ⟨hrow.ssrc_eq, hlate.ssrc_eq⟩, ?_⟩
  rw [List.map_append, hrow.number_eq, hlate.number_eq, List.length_append, List.range_add,
    List.map_append, List.map_map]
  refine congrArg _ (List.map_congr_left fun i _ => ?_)
  rw [Function.comp_apply, Nat.add_assoc]

end IsRow

/-! ## Streams with gaps -/

/-- The packet with the number after that of another one. -/
def IsNext (g h : Header) : Prop :=
  h.sequenceNumber.toNat = (g.sequenceNumber.toNat + 1) % 65536

/-- Where every number so far was the next one, the tracker stands at the last of them. -/
theorem last_tracker_of_count_eq_zero {hs : List Header} (hzero : count IsStray [] hs = 0)
    {g : Header} (hlast : hs.getLast? = some g) : (tracker hs).last = g.sequenceNumber := by
  obtain ⟨front, rfl⟩ := List.getLast?_eq_some_iff.mp hlast
  by_cases hon : Continues front g
  · rw [tracker_append_of_continues hon]
    refine Tracker.last_advance_of_next ?_
    by_contra hstray
    rw [count_append_singleton, List.nil_append, if_pos ⟨hon, hstray⟩] at hzero
    exact Nat.succ_ne_zero _ hzero
  · rw [tracker_append_of_not_continues hon, Tracker.start]

/-- No packet of a source is a stray exactly when each has the number after the one before
it. -/
theorem count_isStray_eq_zero_iff {ssrc : UInt32} {hs : List Header}
    (hssrc : ∀ h ∈ hs, h.ssrc = ssrc) : count IsStray [] hs = 0 ↔ hs.IsChain IsNext := by
  induction hs using List.reverseRecOn with
  | nil => exact iff_of_true rfl .nil
  | append_singleton hs h ih =>
      obtain ⟨hfront, hlast⟩ := List.forall_mem_append.mp hssrc
      rw [count_append_singleton, List.nil_append, Nat.add_eq_zero_iff, List.isChain_append,
        ← ih hfront]
      refine and_congr_right fun hzero => ?_
      cases hend : hs.getLast? with
      | none =>
          refine iff_of_true (if_neg fun hstray => ?_) ⟨.singleton h, nofun⟩
          rw [IsStray, Continues, hend] at hstray
          cases hstray.1
      | some g =>
          have hon : Continues hs h := by
            rw [Continues, hend, Option.map_some, hfront g (List.mem_of_getLast? hend),
              hlast h (List.mem_singleton_self h)]
          have hstray : IsStray hs h ↔ ¬ IsNext g h := by
            rw [IsStray, IsNext, last_tracker_of_count_eq_zero hzero hend, and_iff_right hon]
          by_cases hnext : IsNext g h
          · rw [if_neg (mt hstray.mp (not_not_intro hnext))]
            refine iff_of_true rfl ⟨.singleton h, ?_⟩
            intro g' hg' h' hh'
            cases hg'
            cases hh'
            exact hnext
          · rw [if_pos (hstray.mpr hnext)]
            exact iff_of_false Nat.one_ne_zero fun hchain => hnext (hchain.2 g rfl h rfl)

theorem isChain_isNext_iff {hs : List Header} {places : List Nat}
    (hnumbers : hs.map Header.sequenceNumber = places.map UInt16.ofNat) :
    hs.IsChain IsNext ↔ places.IsChain fun a b => b % 65536 = (a + 1) % 65536 := by
  calc
    hs.IsChain IsNext ↔
        (hs.map Header.sequenceNumber).IsChain fun a b => b.toNat = (a.toNat + 1) % 65536 := by
      rw [List.isChain_map]
      rfl
    _ ↔ (places.map UInt16.ofNat).IsChain fun a b => b.toNat = (a.toNat + 1) % 65536 := by
      rw [hnumbers]
    _ ↔ places.IsChain fun a b => b % 65536 = (a + 1) % 65536 := by
      simp only [List.isChain_map, UInt16.toNat_ofNat', Nat.reducePow, Nat.mod_add_mod]

end MediaTransport.Rtp.History
