import MediaTransport.Media.Session
import Mathlib.Data.List.Nodup

/-!
# Taking a pair of ports

Binding an endpoint takes a port that was free, or leaves the host as it was
(`Net.Host.BindCase`). The three ways of finding a pair are built from this and from
releasing, and each of them either takes a pair or leaves every port as it was
(`PairCase`): a port that has been taken for media and has no partner is the last one
taken when it is released. So the same holds of all three together (`Ports.FindCase`),
and of a session that is opened (`Session.OpenCase`).

Which pair is taken matters too. With valid settings the control port is the next one
(`IsPair`), and a scan alone moves the place at which the next scan starts. At a given
port there is only one pair to take, and it is taken exactly if it can be
(`toOption_bindExact`).
-/

namespace MediaTransport

namespace Net.Host

/-- What binding comes to. -/
inductive BindCase (h : Host) (e : Endpoint) : Except HostFault Endpoint × Host → Prop
  | refused (fault : HostFault) : BindCase h e (.error fault, h)
  | bound {first : Endpoint} {h' : Host} (hasked : e.port ≠ 0 → first = e)
      (haddress : first.address = e.address) (hfree : first ∉ h.taken)
      (htaken : h'.taken = first :: h.taken) : BindCase h e (.ok first, h')

theorem not_mem_of_unusedPlace? {h : Host} {address : IpAddress} {n place found : Nat}
    (hfound : h.unusedPlace? address n place = some found) :
    ⟨address, dynamicPorts.start + UInt16.ofNat found⟩ ∉ h.taken := by
  induction n generalizing place with
  | zero => cases hfound
  | succ n ih =>
      rw [unusedPlace?] at hfound
      split at hfound
      · exact ih hfound
      · rename_i hunused
        cases hfound
        exact hunused

theorem bindCase (h : Host) (e : Endpoint) : BindCase h e (h.bind e) := by
  rw [bind]
  split
  · exact .refused _
  · split
    · rename_i hzero
      rw [bindAny]
      dsimp only
      split
      · exact .refused _
      · rename_i hfound
        exact .bound (fun h => absurd hzero h) rfl (not_mem_of_unusedPlace? hfound) rfl
    · split
      · exact .refused _
      · rename_i hfree
        exact .bound (fun _ => rfl) rfl hfree rfl

/-- Whoever took a port last frees it without a trace. -/
theorem taken_release {h : Host} {e : Endpoint} {rest : List Endpoint}
    (htaken : h.taken = e :: rest) : (h.release e).taken = rest := by
  rw [release, htaken]
  exact List.erase_cons_head e rest

/-- The host after these ports have been taken, in this order. -/
def taking (h : Host) (es : List Endpoint) : Host :=
  { h with taken := es.reverse ++ h.taken }

theorem release_taking (h : Host) (e : Endpoint) : (h.taking [e]).release e = h := by
  rw [taking, release]
  exact congrArg (fun taken => { h with taken }) (List.erase_cons_head e h.taken)

theorem bind_of_local {h : Host} {e : Endpoint} (hlocal : h.isLocal e.address = true)
    (hport : e.port ≠ 0) :
    h.bind e = if e ∈ h.taken then (.error .addressInUse, h) else (.ok e, h.taking [e]) := by
  rw [bind, hlocal, if_neg hport]
  rfl

theorem bind_of_not_local {h : Host} {e : Endpoint} (hlocal : h.isLocal e.address = false) :
    h.bind e = (.error .addressNotLocal, h) := by
  rw [bind, hlocal]
  rfl

end Net.Host

namespace Media

open Net

/-- No port of the pair is taken. -/
def IsFree (h : Host) (pair : PortPair) : Prop :=
  ∀ e ∈ pair.endpoints, e ∉ h.taken

instance (h : Host) (pair : PortPair) : Decidable (IsFree h pair) :=
  inferInstanceAs (Decidable (∀ e ∈ pair.endpoints, e ∉ h.taken))

/-- The pair at a given port: that one, and the next one for control packets. -/
def pairAt (e : Endpoint) (rtcp : Bool) : PortPair where
  rtp := e
  rtcp := if rtcp then some ⟨e.address, e.port + 1⟩ else none

/-- The pair at a given port can be taken. -/
def CanTake (h : Host) (e : Endpoint) (rtcp : Bool) : Prop :=
  h.isLocal e.address = true ∧ (rtcp = true → e.port.toNat + 1 < 65536) ∧
    IsFree h (pairAt e rtcp)

instance (h : Host) (e : Endpoint) (rtcp : Bool) : Decidable (CanTake h e rtcp) :=
  inferInstanceAs (Decidable (_ ∧ _ ∧ _))

/-- A pair of ports has been taken, none of which was taken before. -/
structure Takes (h : Host) (pair : PortPair) (h' : Host) : Prop where
  taken : h'.taken = pair.endpoints.reverse ++ h.taken
  free : IsFree h pair
  nodup : pair.endpoints.Nodup

/-- The second port of a pair, if there is to be one, is the next. Both are in the default
zone. -/
structure IsPair (rtcp : Bool) (pair : PortPair) : Prop where
  eq_pairAt : pair = pairAt pair.rtp rtcp
  next : rtcp = true → pair.rtp.port.toNat + 1 < 65536
  unzoned : pair.rtp.address.unzoned = pair.rtp.address

/-- What looking for a pair comes to. The ports are those of a pair if what was asked for is
valid. -/
inductive PairCase (h : Host) (valid : Prop) (rtcp : Bool) : Option PortPair → Host → Prop
  | none {h' : Host} (htaken : h'.taken = h.taken) : PairCase h valid rtcp none h'
  | some {pair : PortPair} {h' : Host} (htakes : Takes h pair h')
      (hpair : valid → IsPair rtcp pair) : PairCase h valid rtcp (some pair) h'

section

variable {h k h' : Host} {pair : PortPair}

theorem Takes.congr (htakes : Takes h pair h') (hk : h.taken = k.taken) : Takes k pair h' :=
  ⟨hk ▸ htakes.taken, fun e he => hk ▸ htakes.free e he, htakes.nodup⟩

variable {rtcp : Bool} {found : Option PortPair} {valid valid' : Prop}

theorem PairCase.congr (hcase : PairCase h valid rtcp found h') (hk : h.taken = k.taken) :
    PairCase k valid rtcp found h' := by
  cases hcase with
  | none htaken => exact .none (htaken.trans hk)
  | some htakes hpair => exact .some (htakes.congr hk) hpair

theorem PairCase.imp (hcase : PairCase h valid rtcp found h') (himp : valid' → valid) :
    PairCase h valid' rtcp found h' := by
  cases hcase with
  | none htaken => exact .none htaken
  | some htakes hpair => exact .some htakes fun hvalid => hpair (himp hvalid)

end

section

variable {h h₁ h₂ : Host} {first second above : Endpoint}

theorem next?_eq_some_iff (hzone : first.address.unzoned = first.address) :
    first.next? = some above ↔
      first.port.toNat + 1 < 65536 ∧ above = ⟨first.address, first.port + 1⟩ := by
  have hlast : first.port = 65535 ↔ first.port.toNat = 65535 := UInt16.toNat_inj.symm
  have hlt := first.port.toNat_lt
  rw [Endpoint.next?, hzone]
  split
  · rename_i h
    rw [hlast] at h
    simp only [reduceCtorEq, false_iff, not_and]
    omega
  · rename_i h
    rw [hlast] at h
    simp only [Option.some.injEq, eq_comm (a := above), iff_and_self]
    omega

theorem port_add_one_ne_zero {port : UInt16} (hnext : port.toNat + 1 < 65536) :
    port + 1 ≠ 0 := by
  intro hzero
  have hzero := congrArg UInt16.toNat hzero
  rw [UInt16.toNat_add, UInt16.toNat_one, UInt16.toNat_zero] at hzero
  omega

/-- The first port of a pair does not matter to the second. -/
theorem mem_taking_next_iff :
    ⟨first.address, first.port + 1⟩ ∈ (h.taking [first]).taken ↔
      ⟨first.address, first.port + 1⟩ ∈ h.taken := by
  refine List.mem_cons.trans (or_iff_right fun heq => ?_)
  have hports := congrArg (fun e : Endpoint => e.port.toNat) heq
  dsimp only at hports
  rw [UInt16.toNat_add, UInt16.toNat_one] at hports
  omega

theorem bind_next {e : Endpoint} (hlocal : h.isLocal e.address = true)
    (hnext : e.port.toNat + 1 < 65536) :
    (h.taking [e]).bind ⟨e.address, e.port + 1⟩ =
      if ⟨e.address, e.port + 1⟩ ∈ h.taken then (.error .addressInUse, h.taking [e])
      else (.ok ⟨e.address, e.port + 1⟩, h.taking [e, ⟨e.address, e.port + 1⟩]) := by
  have hbind := Host.bind_of_local (h := h.taking [e]) (e := ⟨e.address, e.port + 1⟩) hlocal
    (port_add_one_ne_zero hnext)
  exact hbind.trans (if_congr mem_taking_next_iff rfl rfl)

theorem isFree_pairAt {rtcp : Bool} : IsFree h (pairAt first rtcp) ↔
    first ∉ h.taken ∧ (rtcp = true → ⟨first.address, first.port + 1⟩ ∉ h.taken) := by
  cases rtcp <;> simp [IsFree, pairAt, PortPair.endpoints]

theorem takes_single (hfree : first ∉ h.taken) (htaken : h₁.taken = first :: h.taken) :
    Takes h ⟨first, none⟩ h₁ :=
  ⟨htaken, List.forall_mem_singleton.mpr hfree, List.nodup_singleton first⟩

theorem takes_both (hfree : first ∉ h.taken) (htaken : h₁.taken = first :: h.taken)
    (hfree₂ : second ∉ h₁.taken) (htaken₂ : h₂.taken = second :: h₁.taken) :
    Takes h ⟨first, some second⟩ h₂ := by
  rw [htaken, List.mem_cons, not_or] at hfree₂
  refine ⟨?_, ?_, ?_⟩
  · rw [htaken₂, htaken]
    rfl
  · exact List.forall_mem_cons.mpr ⟨hfree, List.forall_mem_singleton.mpr hfree₂.2⟩
  · exact List.nodup_cons.mpr ⟨mt List.mem_singleton.mp (Ne.symm hfree₂.1),
      List.nodup_singleton _⟩

theorem isPair_single (hzone : first.address.unzoned = first.address) :
    IsPair false ⟨first, none⟩ :=
  ⟨rfl, nofun, hzone⟩

theorem isPair_both (hzone : first.address.unzoned = first.address)
    (hnext : first.port.toNat + 1 < 65536)
    (hsecond : first.port + 1 ≠ 0 → second = ⟨first.address, first.port + 1⟩) :
    IsPair true ⟨first, some second⟩ := by
  obtain rfl := hsecond (port_add_one_ne_zero hnext)
  exact ⟨rfl, fun _ => hnext, hzone⟩

end

theorem pairCase_bindExact (h : Host) {e : Endpoint} (rtcp : Bool)
    (hzone : e.address.unzoned = e.address) :
    PairCase h True rtcp (bindExact h e rtcp).1.toOption (bindExact h e rtcp).2 := by
  rw [bindExact]
  have hfirst := h.bindCase e
  generalize h.bind e = result at hfirst ⊢
  cases hfirst with
  | refused fault => exact .none rfl
  | @bound first h₁ _ haddress hfree htaken =>
      rw [← haddress] at hzone
      cases rtcp with
      | false => exact .some (takes_single hfree htaken) fun _ => isPair_single hzone
      | true =>
          simp only [Bool.not_true, Bool.false_eq_true, if_false]
          cases hnext : first.next? with
          | none => exact .none (Host.taken_release htaken)
          | some above =>
              obtain ⟨hlt, rfl⟩ := (next?_eq_some_iff hzone).mp hnext
              dsimp only
              have hsecond := h₁.bindCase ⟨first.address, first.port + 1⟩
              generalize h₁.bind ⟨first.address, first.port + 1⟩ = result at hsecond ⊢
              cases hsecond with
              | refused fault => exact .none (Host.taken_release htaken)
              | bound habove _ hfree₂ htaken₂ =>
                  exact .some (takes_both hfree htaken hfree₂ htaken₂)
                    fun _ => isPair_both hzone hlt habove

/-- What keeps a given port from being bound is all that the result depends on. -/
theorem toOption_bindExact (h : Host) {e : Endpoint} (rtcp : Bool)
    (hzone : e.address.unzoned = e.address) (hport : e.port ≠ 0) :
    (bindExact h e rtcp).1.toOption =
      if CanTake h e rtcp then some (pairAt e rtcp) else none := by
  rw [bindExact]
  cases hlocal : h.isLocal e.address with
  | false =>
      rw [Host.bind_of_not_local hlocal, if_neg fun hcan => Bool.false_ne_true (hlocal ▸ hcan.1)]
      rfl
  | true =>
      rw [Host.bind_of_local hlocal hport]
      by_cases htaken : e ∈ h.taken
      · rw [if_pos htaken, if_neg fun hcan => (isFree_pairAt.mp hcan.2.2).1 htaken]
        rfl
      · rw [if_neg htaken]
        cases rtcp with
        | false =>
            rw [if_pos ⟨hlocal, nofun, isFree_pairAt.mpr ⟨htaken, nofun⟩⟩]
            rfl
        | true =>
            dsimp only
            rw [Bool.not_true, if_neg Bool.false_ne_true]
            by_cases hnext : e.port.toNat + 1 < 65536
            · rw [(next?_eq_some_iff hzone).mpr ⟨hnext, rfl⟩]
              dsimp only
              rw [bind_next hlocal hnext]
              by_cases habove : ⟨e.address, e.port + 1⟩ ∈ h.taken
              · rw [if_pos habove, if_neg fun hcan => (isFree_pairAt.mp hcan.2.2).2 rfl habove]
                rfl
              · have hfree := isFree_pairAt.mpr ⟨htaken, fun _ : true = true => habove⟩
                rw [if_neg habove, if_pos ⟨hlocal, fun _ => hnext, hfree⟩]
                rfl
            · have hnone : e.next? = none := by
                rw [Option.eq_none_iff_forall_ne_some]
                exact fun above habove => hnext ((next?_eq_some_iff hzone).mp habove).1
              rw [hnone, if_neg fun hcan => hnext (hcan.2.1 rfl)]
              rfl

theorem pairCase_bindPair? (h : Host) {address : IpAddress} (port : UInt16) (rtcp : Bool)
    (hzone : address.unzoned = address) :
    PairCase h (port ≠ 0 ∧ port.toNat + 1 < 65536) rtcp (bindPair? h address port rtcp).1
      (bindPair? h address port rtcp).2 := by
  rw [bindPair?]
  have hfirst := h.bindCase ⟨address, port⟩
  generalize h.bind ⟨address, port⟩ = result at hfirst ⊢
  cases hfirst with
  | refused fault => exact .none rfl
  | @bound first h₁ hasked haddress hfree htaken =>
      cases rtcp with
      | false =>
          refine .some (takes_single hfree htaken) fun _ => isPair_single ?_
          rw [haddress]
          exact hzone
      | true =>
          simp only [Bool.not_true, Bool.false_eq_true, if_false]
          have hsecond := h₁.bindCase ⟨address, port + 1⟩
          generalize h₁.bind ⟨address, port + 1⟩ = result at hsecond ⊢
          cases hsecond with
          | refused fault => exact .none (Host.taken_release htaken)
          | bound habove _ hfree₂ htaken₂ =>
              refine .some (takes_both hfree htaken hfree₂ htaken₂) ?_
              rintro ⟨hport, hnext⟩
              obtain rfl := hasked hport
              exact isPair_both hzone hnext habove

theorem pairCase_firstFree? (h : Host) {address : IpAddress} {range : PortRange} (rtcp : Bool)
    {order : List Nat} (hzone : address.unzoned = address)
    (horder : ∀ i ∈ order, i < range.pairs) :
    PairCase h (Settings.rangeFault? range = none) rtcp
      ((firstFree? address range rtcp order h).1.map Prod.snd)
      (firstFree? address range rtcp order h).2 := by
  induction order generalizing h with
  | nil => exact .none rfl
  | cons i rest ih =>
      obtain ⟨hi, hrest⟩ := List.forall_mem_cons.mp horder
      have hcase := pairCase_bindPair? h (range.pairPort i) rtcp hzone
      rw [firstFree?]
      generalize bindPair? h address (range.pairPort i) rtcp = result at hcase ⊢
      obtain ⟨found, h'⟩ := result
      cases hcase with
      | none htaken => exact (ih h' hrest).congr htaken
      | some htakes hpair =>
          refine .some htakes fun hrange => hpair ⟨?_, ?_⟩
          · exact PortRange.pairPort_ne_zero (Settings.rangeFault?_eq_none_iff.mp hrange).1 hi
          · have hlast := PortRange.lt_stop hi
            have hstop := range.stop.toNat_lt
            rw [PortRange.toNat_pairPort hi]
            omega

theorem pairCase_bindChosen? {address : IpAddress} (rtcp : Bool) (attempts : Nat) (h : Host)
    (hzone : address.unzoned = address) :
    PairCase h True rtcp (bindChosen? address rtcp attempts h).1
      (bindChosen? address rtcp attempts h).2 := by
  induction attempts generalizing h with
  | zero => exact .none rfl
  | succ attempts ih =>
      rw [bindChosen?]
      have hfirst := h.bindCase ⟨address, 0⟩
      generalize h.bind ⟨address, 0⟩ = result at hfirst ⊢
      cases hfirst with
      | refused fault => exact ih h
      | @bound first h₁ _ haddress hfree htaken =>
          have hfirst : first.address.unzoned = first.address := haddress ▸ hzone
          cases rtcp with
          | false => exact .some (takes_single hfree htaken) fun _ => isPair_single hfirst
          | true =>
              -- without a partner, `first` is the last port taken and is freed again
              have hagain := (ih (h₁.release first)).congr (Host.taken_release htaken)
              simp only [Bool.not_true, Bool.false_eq_true, if_false]
              cases hnext : first.next? with
              | none => exact hagain
              | some above =>
                  obtain ⟨hlt, rfl⟩ := (next?_eq_some_iff hfirst).mp hnext
                  rw [Option.map_some]
                  have hsecond := h₁.bindCase ⟨first.address, first.port + 1⟩
                  generalize h₁.bind ⟨first.address, first.port + 1⟩ = result at hsecond ⊢
                  cases hsecond with
                  | refused fault => exact hagain
                  | bound habove _ hfree₂ htaken₂ =>
                      exact .some (takes_both hfree htaken hfree₂ htaken₂)
                        fun _ => isPair_both hfirst hlt habove

namespace Ports

/-- What looking for a pair comes to, in whichever way. -/
inductive FindCase (p : Ports) (e : Endpoint) (s : Settings) :
    Except Error PortPair × Ports → Prop
  | refused (error : Error) {h : Host} (htaken : h.taken = p.host.taken) :
      FindCase p e s (.error error, { p with host := h })
  | found {pair : PortPair} {p' : Ports} (htakes : Takes p.host pair p'.host)
      (hpair : s.validate = .ok () → IsPair s.rtcpEnabled pair)
      (hscan : p'.nextPair ≠ p.nextPair → e.port = 0 ∧ s.portRange ≠ none) :
      FindCase p e s (.ok pair, p')

variable {p : Ports} {e : Endpoint} {s : Settings}

theorem FindCase.found_host {pair : PortPair} {h : Host} (htakes : Takes p.host pair h)
    (hpair : IsPair s.rtcpEnabled pair) : FindCase p e s (.ok pair, { p with host := h }) :=
  .found htakes (fun _ => hpair) fun hmoved => absurd rfl hmoved

theorem findCase_bindInRange {address : IpAddress} {range : PortRange}
    (hzone : address.unzoned = address) (hport : e.port = 0)
    (hsettings : s.portRange = some range) :
    FindCase p e s (p.bindInRange address range s.rtcpEnabled) := by
  rw [bindInRange]
  split
  · exact .refused _ rfl
  · rename_i hpairs
    have horder : ∀ i ∈ scanOrder range.pairs (p.nextPair % range.pairs), i < range.pairs := by
      intro i hi
      obtain ⟨step, -, rfl⟩ := List.mem_map.mp hi
      exact Nat.mod_lt _ (Nat.pos_of_ne_zero hpairs)
    have hcase := pairCase_firstFree? p.host s.rtcpEnabled hzone horder
    generalize firstFree? address range s.rtcpEnabled _ p.host = result at hcase ⊢
    obtain ⟨found, h⟩ := result
    cases found with
    | none =>
        cases hcase with
        | none htaken => exact .refused _ htaken
    | some found =>
        cases hcase with
        | some htakes hpair =>
            exact .found htakes
              (fun hvalid => hpair (Settings.rangeFault?_eq_none hvalid hsettings))
              fun _ => ⟨hport, hsettings ▸ Option.some_ne_none range⟩

theorem findCase_bindPair (p : Ports) (e : Endpoint) (s : Settings) :
    FindCase p e s (p.bindPair e s) := by
  have hzone := e.address.unzoned_unzoned
  rw [bindPair]
  split
  · have hcase := pairCase_bindExact (e := ⟨e.address.unzoned, e.port⟩) p.host s.rtcpEnabled hzone
    generalize bindExact p.host ⟨e.address.unzoned, e.port⟩ s.rtcpEnabled = result at hcase ⊢
    obtain ⟨found, h⟩ := result
    cases found with
    | error error =>
        cases hcase with
        | none htaken => exact .refused error htaken
    | ok pair =>
        cases hcase with
        | some htakes hpair => exact .found_host htakes (hpair trivial)
  · rename_i hport
    rw [Classical.not_not] at hport
    cases hsettings : s.portRange with
    | some range => exact findCase_bindInRange hzone hport hsettings
    | none =>
        have hcase := pairCase_bindChosen? s.rtcpEnabled s.bindAttempts.toNat p.host hzone
        generalize bindChosen? e.address.unzoned s.rtcpEnabled s.bindAttempts.toNat p.host = result
          at hcase ⊢
        obtain ⟨found, h⟩ := result
        cases hcase with
        | none htaken => exact .refused _ htaken
        | some htakes hpair => exact .found_host htakes (hpair trivial)

end Ports

namespace Session

/-- What opening a session comes to. -/
inductive OpenCase (p : Ports) (e : Endpoint) (s : Settings) : Except Error Session × Ports → Prop
  | refused (error : Error) {h : Host} (htaken : h.taken = p.host.taken) :
      OpenCase p e s (.error error, { p with host := h })
  | opened {pair : PortPair} {p' : Ports} (htakes : Takes p.host pair p'.host)
      (hpair : IsPair s.rtcpEnabled pair)
      (hscan : p'.nextPair ≠ p.nextPair → e.port = 0 ∧ s.portRange ≠ none) :
      OpenCase p e s (.ok (ofPair s pair), p')

theorem openCase_openAt (p : Ports) (e : Endpoint) (s : Settings) :
    OpenCase p e s (openAt p e s) := by
  rw [openAt]
  split
  · exact .refused _ rfl
  · rename_i hvalid
    have hcase := p.findCase_bindPair e s
    generalize p.bindPair e s = result at hcase ⊢
    cases hcase with
    | refused error htaken => exact .refused error htaken
    | found htakes hpair hscan => exact .opened htakes (hpair hvalid) hscan

/-- At a given port a session is opened if its settings are valid and its ports can be taken. -/
theorem toOption_openAt (p : Ports) {e : Endpoint} (s : Settings) (hport : e.port ≠ 0) :
    (openAt p e s).1.toOption =
      if s.validate = .ok () ∧ CanTake p.host ⟨e.address.unzoned, e.port⟩ s.rtcpEnabled then
        some (ofPair s (pairAt ⟨e.address.unzoned, e.port⟩ s.rtcpEnabled))
      else none := by
  have hbind := toOption_bindExact p.host (e := ⟨e.address.unzoned, e.port⟩) s.rtcpEnabled
    e.address.unzoned_unzoned hport
  rw [openAt]
  cases hvalid : s.validate with
  | error error =>
      rw [if_neg fun hcan => nomatch hcan.1]
      rfl
  | ok _ =>
      rw [if_congr (and_iff_right rfl) rfl rfl, Ports.bindPair, if_pos hport]
      generalize bindExact p.host ⟨e.address.unzoned, e.port⟩ s.rtcpEnabled = result at hbind ⊢
      obtain ⟨found, h⟩ := result
      split at hbind
      · rename_i hcan
        cases found with
        | error error => cases hbind
        | ok pair =>
            obtain rfl := Option.some.inj hbind
            rw [if_pos hcan]
            rfl
      · rename_i hcan
        cases found with
        | ok pair => cases hbind
        | error error =>
            rw [if_neg hcan]
            rfl

/-- What belongs to a session until it is closed: its port and, if it exchanges control
packets, the next one. -/
def holdings (s : Session) : List Endpoint :=
  if s.closed then [] else (pairAt s.localEndpoint s.settings.rtcpEnabled).endpoints

/-- The sockets of a session are where its own endpoint and its settings say. -/
structure IsPlaced (s : Session) : Prop where
  endpoints_eq : s.endpoints = s.holdings
  next : s.closed = false → s.settings.rtcpEnabled = true →
    s.localEndpoint.port.toNat + 1 < 65536
  unzoned : s.localEndpoint.address.unzoned = s.localEndpoint.address

theorem endpoints_ofPair (s : Settings) (pair : PortPair) :
    (ofPair s pair).endpoints = pair.endpoints := by
  obtain ⟨rtp, rtcp⟩ := pair
  cases rtcp <;> rfl

theorem isPlaced_ofPair {s : Settings} {pair : PortPair}
    (hpair : IsPair s.rtcpEnabled pair) : (ofPair s pair).IsPlaced where
  endpoints_eq := by
    rw [endpoints_ofPair, hpair.eq_pairAt]
    rfl
  next _ hrtcp := hpair.next hrtcp
  unzoned := hpair.unzoned

theorem IsPlaced.close {s : Session} (hplaced : s.IsPlaced) : s.close.IsPlaced where
  endpoints_eq := rfl
  next hclosed := absurd hclosed nofun
  unzoned := hplaced.unzoned

end Session

end Media

end MediaTransport
