import MediaTransport.Proofs.Media.Ledger

/-!
# Who owns which port

The ports of a host are taken and freed by opening, closing and dropping sessions and by
whoever holds ports from outside. After any of these, in any order and however many of them
fail, a port is taken exactly if the ledger has it in use, and it is used only once
(`Registry.Accounts`).

In between, while something is put under a name, its ports are taken and nobody owns them
yet; `Registry.Books` carries them along.
-/

namespace MediaTransport

namespace Net.Host

theorem taken_releaseAll_perm {es rest : List Endpoint} {h : Host}
    (htaken : h.taken.Perm (es ++ rest)) : (h.releaseAll es).taken.Perm rest := by
  induction es generalizing h with
  | nil => exact htaken
  | cons e es ih =>
      have hrelease : (h.release e).taken.Perm ((e :: (es ++ rest)).erase e) := htaken.erase e
      rw [List.erase_cons_head] at hrelease
      exact ih hrelease

theorem nodup_releaseAll {es : List Endpoint} {h : Host} (hnodup : h.taken.Nodup) :
    (h.releaseAll es).taken.Nodup := by
  induction es generalizing h with
  | nil => exact hnodup
  | cons e es ih => exact ih (hnodup.erase e)

end Net.Host

namespace Media

open Net

namespace Registry

/-- The endpoints of occupants. -/
def owned (occupants : List (String × Occupant)) : List Endpoint :=
  occupants.flatMap fun o => o.2.endpoints

/-- The books of a registry, with the ports that nobody owns yet. -/
structure Books (loose : List Endpoint) (r : Registry) : Prop where
  names : r.NamesDiffer
  placed : ∀ name s, (name, Occupant.session s) ∈ r.occupants → s.IsPlaced
  taken : r.ports.host.taken.Perm (loose ++ (r.held ++ owned r.occupants))
  nodup : r.ports.host.taken.Nodup

variable {loose : List Endpoint} {r : Registry} {name : String}

/-! ## Giving back -/

theorem owned_perm (hnames : r.NamesDiffer) {occupant : Occupant}
    (hfind : r.find? name = some occupant) :
    (owned r.occupants).Perm
      (occupant.endpoints ++ owned (r.occupants.filter fun o => o.1 != name)) := by
  obtain ⟨before, after, hsplit⟩ := List.append_of_mem (hnames.find?_eq_some_iff.mp hfind)
  have hother : ∀ o ∈ before ++ after, o.1 ≠ name := by
    rw [NamesDiffer, hsplit, List.map_append, List.map_cons, List.nodup_middle, List.nodup_cons,
      ← List.map_append] at hnames
    exact fun o ho heq => hnames.1 (List.mem_map.mpr ⟨o, ho, heq⟩)
  have hrest : (r.occupants.filter fun o => o.1 != name) = before ++ after := by
    rw [hsplit, List.filter_append, List.filter_cons_of_neg (by simp), ← List.filter_append]
    exact List.filter_eq_self.mpr fun o ho => bne_iff_ne.mpr (hother o ho)
  rw [hrest, hsplit]
  exact List.perm_middle.flatMap_right _

/-- When the ports under a name are given back, all others stay taken. -/
theorem Books.taken_release (hbooks : Books loose r) {occupant : Occupant}
    (hfind : r.find? name = some occupant) :
    (r.ports.release occupant.endpoints).host.taken.Perm
      (loose ++ (r.held ++ owned (r.occupants.filter fun o => o.1 != name))) := by
  refine Host.taken_releaseAll_perm (hbooks.taken.trans ?_)
  calc
    List.Perm _ (loose ++ (r.held ++ (occupant.endpoints ++ _))) :=
        ((owned_perm hbooks.names hfind).append_left r.held).append_left loose
    List.Perm _ (loose ++ (occupant.endpoints ++ (r.held ++ _))) :=
        (List.perm_append_comm_assoc ..).append_left loose
    List.Perm _ (occupant.endpoints ++ (loose ++ (r.held ++ _))) :=
        List.perm_append_comm_assoc ..

theorem Books.drop (hbooks : Books loose r) (name : String) : Books loose (r.drop name).2 := by
  cases hfind : r.find? name with
  | none =>
      rw [Registry.drop, hfind]
      exact hbooks
  | some occupant =>
      refine ⟨hbooks.names.drop name, ?_, ?_, ?_⟩
      · rw [occupants_drop]
        exact fun n s hs => hbooks.placed n s (List.mem_of_mem_filter hs)
      · rw [ports_drop hfind, held_drop, occupants_drop]
        exact hbooks.taken_release hfind
      · rw [ports_drop hfind]
        exact Host.nodup_releaseAll hbooks.nodup

theorem filter_map_closeAt (occupants : List (String × Occupant)) (name : String) :
    ((occupants.map (closeAt name)).filter fun o => o.1 != name) =
      occupants.filter fun o => o.1 != name := by
  rw [List.filter_map]
  simp only [Function.comp_def, fst_closeAt]
  refine (List.map_congr_left fun o ho => ?_).trans (List.map_id _)
  exact if_neg (bne_iff_ne.mp (List.mem_filter.mp ho).2)

/-- A closed session keeps its name, and no port. -/
theorem owned_close_perm (hnames : r.NamesDiffer) {s : Session}
    (hfind : r.find? name = some (.session s)) :
    (owned (r.close name).2.occupants).Perm
      (owned (r.occupants.filter fun o => o.1 != name)) := by
  have hfound : (r.close name).2.find? name = some (.session s.close) := by
    rw [(hnames.close name).find?_eq_some_iff, occupants_close hnames]
    exact List.mem_map.mpr ⟨_, hnames.find?_eq_some_iff.mp hfind, if_pos rfl⟩
  have hperm := owned_perm (hnames.close name) hfound
  rwa [occupants_close hnames, filter_map_closeAt, ← occupants_close hnames] at hperm

theorem Books.close (hbooks : Books [] r) (name : String) : Books [] (r.close name).2 := by
  by_cases hsession : ∃ s, r.find? name = some (.session s)
  · obtain ⟨s, hfind⟩ := hsession
    refine ⟨hbooks.names.close name, ?_, ?_, ?_⟩
    · rw [occupants_close hbooks.names]
      intro n t ht
      obtain ⟨⟨m, occupant⟩, ho, hclose⟩ := List.mem_map.mp ht
      rw [closeAt] at hclose
      split at hclose
      · cases occupant with
        | session u =>
            cases hclose
            exact (hbooks.placed _ u ho).close
        | pair p => cases hclose
      · cases hclose
        exact hbooks.placed n t ho
    · rw [ports_close hfind, held_close]
      exact (hbooks.taken_release hfind).trans
        ((owned_close_perm hbooks.names hfind).symm.append_left r.held)
    · rw [ports_close hfind]
      exact Host.nodup_releaseAll hbooks.nodup
  · rw [Registry.close]
    split
    · rename_i s hfind
      exact absurd ⟨s, hfind⟩ hsession
    · exact hbooks

theorem Books.unhold (hbooks : Books [] r) (e : Endpoint) : Books [] (r.unhold e).2 := by
  rw [Registry.unhold]
  split
  · rename_i hheld
    have htaken := hbooks.taken.erase e
    rw [List.nil_append, List.erase_append_left _ hheld] at htaken
    exact ⟨hbooks.names, hbooks.placed, htaken, hbooks.nodup.erase e⟩
  · exact hbooks

/-! ## Taking -/

theorem Books.hold (hbooks : Books [] r) (e : Endpoint) : Books [] (r.hold e).2 := by
  rw [Registry.hold]
  have hcase := r.ports.host.bindCase e
  generalize r.ports.host.bind e = result at hcase ⊢
  cases hcase with
  | refused fault => exact hbooks
  | @bound first h _ _ hfree htaken =>
      refine ⟨hbooks.names, hbooks.placed, ?_, ?_⟩
      all_goals dsimp only
      · rw [htaken]
        exact hbooks.taken.cons first
      · rw [htaken]
        exact List.nodup_cons.mpr ⟨hfree, hbooks.nodup⟩

/-- The ports of a pair are taken, and nobody has them yet. -/
theorem Books.take (hbooks : Books [] r) {pair : PortPair} {p : Ports}
    (htakes : Takes r.ports.host pair p.host) : Books pair.endpoints { r with ports := p } := by
  refine ⟨hbooks.names, hbooks.placed, ?_, ?_⟩
  all_goals dsimp only
  · rw [htakes.taken]
    exact (List.reverse_perm _).append hbooks.taken
  · rw [htakes.taken]
    refine List.nodup_append.mpr ⟨List.nodup_reverse.mpr htakes.nodup, hbooks.nodup, ?_⟩
    rintro e he _ htaken rfl
    exact htakes.free e (List.mem_reverse.mp he) htaken

theorem Books.put {occupant : Occupant} (hbooks : Books occupant.endpoints r)
    (hplaced : ∀ s, occupant = .session s → s.IsPlaced) (name : String) :
    Books [] (r.put name occupant) := by
  have hdrop := hbooks.drop name
  refine ⟨hbooks.names.put name occupant, ?_, ?_, hdrop.nodup⟩
  · intro n s hs
    rcases List.mem_cons.mp hs with heq | hs
    · exact hplaced s (Prod.mk.inj heq).2.symm
    · exact hdrop.placed n s hs
  · exact hdrop.taken.trans (List.perm_append_comm_assoc ..)

/-- What has taken a pair is put under a name. -/
theorem Books.grant (hbooks : Books [] r) {pair : PortPair} {p : Ports}
    (htakes : Takes r.ports.host pair p.host) (name : String) (occupant : Occupant)
    (hpair : occupant.endpoints = pair.endpoints)
    (hplaced : ∀ s, occupant = .session s → s.IsPlaced) :
    Books [] ({ r with ports := p }.put name occupant) := by
  have hloose := hbooks.take htakes
  rw [← hpair] at hloose
  exact hloose.put hplaced name

/-- Only the taken ports of a host matter. -/
theorem Books.congr (hbooks : Books loose r) {h : Host} (htaken : h.taken = r.ports.host.taken) :
    Books loose { r with ports := { r.ports with host := h } } :=
  ⟨hbooks.names, hbooks.placed, htaken ▸ hbooks.taken, htaken ▸ hbooks.nodup⟩

theorem Books.openSession (hbooks : Books [] r) (name : String) (e : Endpoint) (s : Settings) :
    Books [] (r.openSession name e s).2 := by
  rw [Registry.openSession]
  have hcase := Session.openCase_openAt r.ports e s
  generalize Session.openAt r.ports e s = result at hcase ⊢
  cases hcase with
  | refused error htaken => exact hbooks.congr htaken
  | @opened pair p htakes hpair hscan =>
      refine hbooks.grant htakes name (.session _) (Session.endpoints_ofPair s pair) ?_
      rintro _ ⟨⟩
      exact Session.isPlaced_ofPair hpair

theorem Books.bindPair (hbooks : Books [] r) (name : String) (e : Endpoint) (s : Settings) :
    Books [] (r.bindPair name e s).2 := by
  rw [Registry.bindPair]
  have hcase := r.ports.findCase_bindPair e s
  generalize r.ports.bindPair e s = result at hcase ⊢
  cases hcase with
  | refused error htaken => exact hbooks.congr htaken
  | @found pair p htakes hpair hscan =>
      refine hbooks.grant htakes name (.pair pair) rfl ?_
      rintro _ ⟨⟩

theorem Books.perform (hbooks : Books [] r) (operation : Operation) :
    Books [] (r.perform operation) := by
  cases operation with
  | hold e hport => exact hbooks.hold e
  | unhold e => exact hbooks.unhold e
  | openSession name e s => exact hbooks.openSession name e s
  | bindPair name e s => exact hbooks.bindPair name e s
  | close name => exact hbooks.close name
  | drop name => exact hbooks.drop name

theorem Books.run (hbooks : Books [] r) (operations : List Operation) :
    Books [] (r.run operations) := by
  induction operations generalizing r with
  | nil => exact hbooks
  | cons operation rest ih => exact ih (hbooks.perform operation)

/-! ## Whose every port is -/

/-- A registry has the books of a ledger, and the ports that are taken are those in use there,
each of them once. -/
structure Accounts (r : Registry) (l : Ledger) : Prop where
  ledger_eq : r.ledger = l
  taken : r.ports.host.taken.Perm l.endpoints
  nodup : l.endpoints.Nodup
  next : ∀ name e, (name, Lease.session e true) ∈ l.leases → e.port.toNat + 1 < 65536

/-- What is leased to an occupant is what it has. -/
theorem endpoints_leaseOf? {o : String × Occupant}
    (hplaced : ∀ s, o.2 = .session s → s.IsPlaced) :
    (leaseOf? o).toList.flatMap (fun entry => entry.2.endpoints) = o.2.endpoints := by
  obtain ⟨n, occupant⟩ := o
  cases occupant with
  | pair p => exact List.append_nil _
  | session s =>
      have hendpoints := (hplaced s rfl).endpoints_eq
      rw [Session.holdings] at hendpoints
      refine Eq.trans ?_ hendpoints.symm
      rw [leaseOf?, Occupant.lease?]
      cases s.closed with
      | true => rfl
      | false => exact List.append_nil _

theorem Books.endpoints_ledger (hbooks : Books loose r) :
    r.ledger.endpoints = r.held ++ owned r.occupants := by
  rw [Ledger.endpoints, ledger, List.filterMap_eq_flatMap_toList, List.flatMap_assoc, owned]
  refine congrArg (r.held ++ ·) (List.flatMap_congr fun o ho => endpoints_leaseOf? fun s hs => ?_)
  exact hbooks.placed o.1 s (hs ▸ ho)

theorem Books.accounts (hbooks : Books [] r) : r.Accounts r.ledger := by
  have htaken := hbooks.taken
  rw [List.nil_append, ← hbooks.endpoints_ledger] at htaken
  refine ⟨rfl, htaken, htaken.nodup_iff.mp hbooks.nodup, fun n e hlease => ?_⟩
  obtain ⟨⟨m, occupant⟩, ho, hentry⟩ := List.mem_filterMap.mp hlease
  cases occupant with
  | pair p => cases hentry
  | session s =>
      rw [leaseOf?, Occupant.lease?] at hentry
      cases hclosed : s.closed with
      | true =>
          rw [hclosed] at hentry
          cases hentry
      | false =>
          rw [hclosed] at hentry
          obtain ⟨-, hlease⟩ := Prod.mk.inj (Option.some.inj hentry)
          obtain ⟨rfl, hrtcp⟩ := Lease.session.inj hlease
          exact (hbooks.placed m s ho).next hclosed hrtcp

/-! ## What can be taken, and what moves a scan -/

/-- Someone outside can take a port of the host exactly if it is not taken. -/
theorem hold_eq_true_iff (r : Registry) {e : Endpoint} (hport : e.port ≠ 0) :
    (r.hold e).1 = true ↔ r.ports.host.isLocal e.address = true ∧ e ∉ r.ports.host.taken := by
  rw [Registry.hold]
  cases hlocal : r.ports.host.isLocal e.address with
  | false =>
      rw [Host.bind_of_not_local hlocal]
      exact iff_of_false Bool.false_ne_true fun hcan => Bool.false_ne_true hcan.1
  | true =>
      rw [Host.bind_of_local hlocal hport]
      by_cases htaken : e ∈ r.ports.host.taken
      · rw [if_pos htaken]
        exact iff_of_false Bool.false_ne_true fun hcan => hcan.2 htaken
      · rw [if_neg htaken]
        exact iff_of_true rfl ⟨rfl, htaken⟩

theorem toOption_openSession (r : Registry) (name : String) (e : Endpoint) (s : Settings) :
    (r.openSession name e s).1.toOption = (Session.openAt r.ports e s).1.toOption := by
  rw [Registry.openSession]
  split <;> rename_i hopen <;> rw [hopen]

theorem nextPair_drop (r : Registry) (name : String) :
    (r.drop name).2.ports.nextPair = r.ports.nextPair := by
  rw [Registry.drop]
  split <;> rfl

theorem nextPair_put (r : Registry) (name : String) (occupant : Occupant) :
    (r.put name occupant).ports.nextPair = r.ports.nextPair :=
  nextPair_drop r name

/-- An operation that looks for ports in a range, and finds some. -/
def ScansRange (r : Registry) : Operation → Prop
  | .openSession name e s =>
      e.port = 0 ∧ s.portRange ≠ none ∧ ∃ session, (r.openSession name e s).1 = .ok session
  | .bindPair name e s =>
      e.port = 0 ∧ s.portRange ≠ none ∧ ∃ pair, (r.bindPair name e s).1 = .ok pair
  | _ => False

theorem scansRange_of_nextPair_ne {operation : Operation}
    (hmoved : (r.perform operation).ports.nextPair ≠ r.ports.nextPair) :
    r.ScansRange operation := by
  cases operation with
  | hold e hport =>
      rw [Registry.perform, Registry.hold] at hmoved
      split at hmoved <;> exact absurd rfl hmoved
  | unhold e =>
      rw [Registry.perform, Registry.unhold] at hmoved
      split at hmoved <;> exact absurd rfl hmoved
  | openSession name e s =>
      rw [ScansRange]
      rw [Registry.perform] at hmoved
      rw [Registry.openSession] at hmoved ⊢
      have hcase := Session.openCase_openAt r.ports e s
      generalize Session.openAt r.ports e s = result at hcase hmoved ⊢
      cases hcase with
      | refused error htaken => exact absurd rfl hmoved
      | opened htakes hpair hscan =>
          dsimp only at hmoved
          rw [nextPair_put] at hmoved
          obtain ⟨hport, hrange⟩ := hscan hmoved
          exact ⟨hport, hrange, _, rfl⟩
  | bindPair name e s =>
      rw [ScansRange]
      rw [Registry.perform] at hmoved
      rw [Registry.bindPair] at hmoved ⊢
      have hcase := r.ports.findCase_bindPair e s
      generalize r.ports.bindPair e s = result at hcase hmoved ⊢
      cases hcase with
      | refused error htaken => exact absurd rfl hmoved
      | found htakes hpair hscan =>
          dsimp only at hmoved
          rw [nextPair_put] at hmoved
          obtain ⟨hport, hrange⟩ := hscan hmoved
          exact ⟨hport, hrange, _, rfl⟩
  | close name =>
      rw [Registry.perform, Registry.close] at hmoved
      split at hmoved <;> exact absurd rfl hmoved
  | drop name => exact absurd (nextPair_drop r name) hmoved

/-! ## From the start -/

/-- A host on which nothing is taken but what is held from outside. -/
def start (isLocal : IpAddress → Bool) (cursor nextPair : Nat) (held : List Endpoint) :
    Registry where
  ports := ⟨⟨isLocal, held, cursor⟩, nextPair⟩
  held := held

theorem books_start (isLocal : IpAddress → Bool) (cursor nextPair : Nat) {held : List Endpoint}
    (hheld : held.Nodup) : Books [] (start isLocal cursor nextPair held) where
  names := List.nodup_nil
  placed _ _ hmem := absurd hmem List.not_mem_nil
  taken := List.Perm.of_eq (List.append_nil held).symm
  nodup := hheld

/-- After any operations the taken ports are those that were held from outside, or given to a
session or a bare pair, and not given back; each of them was given once. A port that is not
taken can be had: it can be held from outside, and a session is opened at it if its settings
are valid and it can have the next one too. An opening that fails changes nothing, and only a
scan of a range that succeeds moves the place of the next scan. -/
theorem accounts_run_and_failed_open (isLocal : IpAddress → Bool) (cursor nextPair : Nat)
    {held : List Endpoint} (hheld : held.Nodup) (operations : List Operation) :
    let first := start isLocal cursor nextPair held
    let r := first.run operations
    r.Accounts (Ledger.after ⟨held, []⟩ first operations) ∧
      (∀ e : Endpoint, e.port ≠ 0 → ((r.hold e).1 = true ↔
        r.ports.host.isLocal e.address = true ∧ e ∉ r.ports.host.taken)) ∧
      (∀ name e s, e.port ≠ 0 → (r.openSession name e s).1.toOption =
        if s.validate = .ok () ∧
          CanTake r.ports.host ⟨e.address.unzoned, e.port⟩ s.rtcpEnabled then
          some (Session.ofPair s (pairAt ⟨e.address.unzoned, e.port⟩ s.rtcpEnabled))
        else none) ∧
      (∀ name e s error, (r.openSession name e s).1 = .error error →
        (r.openSession name e s).2.ports.host.taken = r.ports.host.taken ∧
          (r.openSession name e s).2.ports.nextPair = r.ports.nextPair ∧
          (r.openSession name e s).2.held = r.held ∧
          (r.openSession name e s).2.occupants = r.occupants) ∧
      ∀ operation, (r.perform operation).ports.nextPair ≠ r.ports.nextPair →
        r.ScansRange operation := by
  intro first r
  have hbooks := books_start isLocal cursor nextPair hheld
  refine ⟨?_, fun e => r.hold_eq_true_iff, fun name e s hport => ?_,
    fun _ _ _ _ => openSession_of_error, fun _ => scansRange_of_nextPair_ne⟩
  · have haccounts := (hbooks.run operations).accounts
    rwa [ledger_run hbooks.names] at haccounts
  · rw [toOption_openSession]
    exact Session.toOption_openAt r.ports s hport

/-- An address of every host. -/
def loopback : IpAddress := .v4 ⟨127, 0, 0, 1⟩

/-- Sessions come and go on a host of which one port is held. -/
def comeAndGo : List Operation :=
  [.openSession "exact" ⟨loopback, 5000⟩ {},
    .openSession "scan" ⟨loopback, 0⟩ { portRange := some ⟨5000, 5006⟩ },
    .openSession "media" ⟨loopback, 6000⟩ { rtcpEnabled := false },
    .openSession "last" ⟨loopback, 65535⟩ {}, .close "media",
    .hold ⟨loopback, 6000⟩ (by decide), .openSession "later" ⟨loopback, 7000⟩ {}, .drop "scan"]

/-- The port above the one that is asked for is held, and a scan passes that pair over. -/
theorem accounts_run_and_failed_open_comeAndGo :
    let first := start (fun _ => true) 0 0 [⟨loopback, 5001⟩]
    let r := first.run comeAndGo
    let l : Ledger := ⟨[⟨loopback, 6000⟩, ⟨loopback, 5001⟩],
      [("later", .session ⟨loopback, 7000⟩ true)]⟩
    Ledger.after ⟨[⟨loopback, 5001⟩], []⟩ first comeAndGo = l ∧ r.Accounts l ∧
      r.ports.nextPair = 2 ∧
      (r.hold ⟨loopback, 5002⟩).1 = true ∧
      (r.openSession "exact" ⟨loopback, 5999⟩ {}).1 =
        .error (.bind ⟨loopback, 6000⟩ .addressInUse) ∧
      (r.openSession "exact" ⟨loopback, 5999⟩ {}).2.ports.host.taken = r.ports.host.taken := by
  obtain ⟨haccounts, hhold, -, hfailed, -⟩ := accounts_run_and_failed_open (fun _ => true) 0 0
    (List.nodup_singleton (⟨loopback, 5001⟩ : Endpoint)) comeAndGo
  have hledger : Ledger.after ⟨[⟨loopback, 5001⟩], []⟩
      (start (fun _ => true) 0 0 [⟨loopback, 5001⟩]) comeAndGo =
      ⟨[⟨loopback, 6000⟩, ⟨loopback, 5001⟩], [("later", .session ⟨loopback, 7000⟩ true)]⟩ := by
    decide
  rw [hledger] at haccounts
  exact ⟨hledger, haccounts, by decide, (hhold ⟨loopback, 5002⟩ (by decide)).mpr (by decide),
    by decide, (hfailed _ _ _ _ rfl).1⟩

end Registry

end Media

end MediaTransport
