import MediaTransport.Media.Registry
import MediaTransport.Proofs.Media.Allocation

/-!
# The ledger of a host

Who may use which ports of a host follows from what has been asked for and what came of it,
without a look at the sockets: whoever holds a port from outside has it until it is let go, and
a session that was opened has its ports until its name is closed, dropped or given to something
else. `Ledger.after` keeps these books along a run of operations on a registry.

A registry keeps books of its own, in the states of its sessions (`Registry.ledger`). Each
operation changes them as the ledger says (`Registry.ledger_perform`).
-/

namespace MediaTransport.Media

open Net

/-! ## What is asked for -/

namespace Registry

/-- What can happen to the ports of a host. -/
inductive Operation
  /-- Someone outside takes a given port. -/
  | hold (endpoint : Endpoint) (hport : endpoint.port ≠ 0)
  | unhold (endpoint : Endpoint)
  | openSession (name : String) (endpoint : Endpoint) (settings : Settings)
  | bindPair (name : String) (endpoint : Endpoint) (settings : Settings)
  | close (name : String)
  | drop (name : String)

/-- The registry after an operation, which may fail. -/
def perform (r : Registry) : Operation → Registry
  | .hold e _ => (r.hold e).2
  | .unhold e => (r.unhold e).2
  | .openSession name e s => (r.openSession name e s).2
  | .bindPair name e s => (r.bindPair name e s).2
  | .close name => (r.close name).2
  | .drop name => (r.drop name).2

def run (r : Registry) (operations : List Operation) : Registry :=
  operations.foldl perform r

end Registry

/-! ## What was given out -/

/-- What ports are used for, under some name. -/
inductive Lease
  /-- An open session at `rtp`, which may exchange control packets too. -/
  | session (rtp : Endpoint) (rtcp : Bool)
  /-- Ports without a session. -/
  | pair (pair : PortPair)
  deriving DecidableEq

namespace Lease

/-- A session has its port and, for control packets, the next one. -/
def endpoints : Lease → List Endpoint
  | .session rtp rtcp => (pairAt rtp rtcp).endpoints
  | .pair p => p.endpoints

def isSession : Lease → Bool
  | .session _ _ => true
  | .pair _ => false

end Lease

/-- Who may use which ports. -/
structure Ledger where
  /-- The endpoints that are held from outside. -/
  held : List Endpoint
  /-- What was given out and has not come back, by name. -/
  leases : List (String × Lease) := []
  deriving DecidableEq

namespace Ledger

/-- All ports that are used by someone. -/
def endpoints (l : Ledger) : List Endpoint :=
  l.held ++ l.leases.flatMap fun entry => entry.2.endpoints

/-- Nothing is used under the name any more. -/
def revoke (l : Ledger) (name : String) : Ledger :=
  { l with leases := l.leases.filter fun entry => entry.1 != name }

/-- The name is used for something new. -/
def grant (l : Ledger) (name : String) (lease : Lease) : Ledger :=
  { l with leases := (name, lease) :: (l.revoke name).leases }

/-- No session is open under the name any more. -/
def shut (l : Ledger) (name : String) : Ledger :=
  { l with leases := l.leases.filter fun entry => !(entry.1 == name && entry.2.isSession) }

/-- The ledger after an operation. Of the registry it matters only whether a port can be held
and what comes of opening a session, or of binding a pair. -/
def enter (l : Ledger) (r : Registry) : Registry.Operation → Ledger
  | .hold e _ => if (r.hold e).1 then { l with held := e :: l.held } else l
  | .unhold e => { l with held := l.held.erase e }
  | .openSession name e s =>
      match (r.openSession name e s).1 with
      | .error _ => l
      | .ok session => l.grant name (.session session.localEndpoint s.rtcpEnabled)
  | .bindPair name e s =>
      match (r.bindPair name e s).1 with
      | .error _ => l
      | .ok pair => l.grant name (.pair pair)
  | .close name => l.shut name
  | .drop name => l.revoke name

/-- The ledger after some operations. -/
def after (l : Ledger) (r : Registry) : List Registry.Operation → Ledger
  | [] => l
  | operation :: rest => (l.enter r operation).after (r.perform operation) rest

end Ledger

/-! ## What a registry knows -/

namespace Occupant

/-- What an occupant is, as far as its ports are concerned: nothing, once it is closed. -/
def lease? : Occupant → Option Lease
  | .session s => if s.closed then none else some (.session s.localEndpoint s.settings.rtcpEnabled)
  | .pair p => some (.pair p)

def close : Occupant → Occupant
  | .session s => .session s.close
  | .pair p => .pair p

end Occupant

namespace Registry

/-- The lease of an entry under its name. -/
def leaseOf? (o : String × Occupant) : Option (String × Lease) :=
  o.2.lease?.map (o.1, ·)

/-- What can be read off the occupants. -/
def ledger (r : Registry) : Ledger where
  held := r.held
  leases := r.occupants.filterMap leaseOf?

/-- An entry after what is under a name has been closed. -/
def closeAt (name : String) (o : String × Occupant) : String × Occupant :=
  if o.1 = name then (o.1, o.2.close) else o

/-- No two occupants have the same name. -/
def NamesDiffer (r : Registry) : Prop :=
  (r.occupants.map Prod.fst).Nodup

variable {r : Registry} {name : String}

theorem NamesDiffer.find?_eq_some_iff (hnames : r.NamesDiffer) {occupant : Occupant} :
    r.find? name = some occupant ↔ (name, occupant) ∈ r.occupants := by
  have hmem {o : Occupant} (hfind : r.find? name = some o) : (name, o) ∈ r.occupants := by
    obtain ⟨before, after, hsplit, -⟩ := List.lookup_eq_some_iff.mp hfind
    rw [hsplit]
    exact List.mem_append_right _ List.mem_cons_self
  refine ⟨hmem, fun hoccupant => ?_⟩
  cases hfind : r.find? name with
  | none =>
      have hother := List.lookup_eq_none_iff.mp hfind _ hoccupant
      rw [bne_self_eq_false] at hother
      cases hother
  | some o =>
      have heq := List.inj_on_of_nodup_map hnames (hmem hfind) hoccupant rfl
      exact congrArg some (Prod.mk.inj heq).2

/-! ### Each operation -/

theorem held_drop (r : Registry) (name : String) : (r.drop name).2.held = r.held := by
  rw [drop]
  split <;> rfl

theorem ports_drop {occupant : Occupant} (hfind : r.find? name = some occupant) :
    (r.drop name).2.ports = r.ports.release occupant.endpoints := by
  rw [drop, hfind]

theorem occupants_drop (r : Registry) (name : String) :
    (r.drop name).2.occupants = r.occupants.filter fun o => o.1 != name := by
  rw [drop]
  cases hfind : r.find? name with
  | none =>
      refine (List.filter_eq_self.mpr fun o ho => ?_).symm
      have hother := List.lookup_eq_none_iff.mp hfind o ho
      rwa [bne_comm] at hother
  | some occupant => rfl

theorem held_close (r : Registry) (name : String) : (r.close name).2.held = r.held := by
  rw [close]
  split <;> rfl

theorem ports_close {s : Session} (hfind : r.find? name = some (.session s)) :
    (r.close name).2.ports = r.ports.release s.endpoints := by
  rw [close, hfind]

theorem fst_closeAt (name : String) (o : String × Occupant) : (closeAt name o).1 = o.1 := by
  rw [closeAt]
  split <;> rfl

theorem occupants_close (hnames : r.NamesDiffer) (name : String) :
    (r.close name).2.occupants = r.occupants.map (closeAt name) := by
  rw [close]
  split
  · rename_i s hfind
    refine List.map_congr_left fun o ho => ?_
    obtain ⟨n, occupant⟩ := o
    by_cases hname : n = name
    · subst hname
      have hself := hnames.find?_eq_some_iff.mpr ho
      rw [hfind] at hself
      cases hself
      rw [closeAt, if_pos rfl]
      exact if_pos (beq_self_eq_true n)
    · rw [closeAt, if_neg hname]
      exact if_neg (mt beq_iff_eq.mp hname)
  · rename_i hfind
    refine ((List.map_congr_left fun o ho => ?_).trans r.occupants.map_id).symm
    obtain ⟨n, occupant⟩ := o
    rw [closeAt]
    split
    · rename_i hname
      obtain rfl : n = name := hname
      cases occupant with
      | session s => exact absurd (hnames.find?_eq_some_iff.mpr ho) (hfind s)
      | pair p => rfl
    · rfl

theorem filterMap_leaseOf?_filter (occupants : List (String × Occupant)) (name : String) :
    (occupants.filter fun o => o.1 != name).filterMap leaseOf? =
      (occupants.filterMap leaseOf?).filter fun entry => entry.1 != name := by
  rw [List.filterMap_filter, List.filter_filterMap]
  refine congrArg (List.filterMap · occupants) (funext fun o => ?_)
  rw [leaseOf?]
  cases o.2.lease? with
  | none => exact ite_self none
  | some lease => rfl

theorem filterMap_leaseOf?_map_closeAt (occupants : List (String × Occupant)) (name : String) :
    (occupants.map (closeAt name)).filterMap leaseOf? =
      (occupants.filterMap leaseOf?).filter
        fun entry => !(entry.1 == name && entry.2.isSession) := by
  rw [List.filterMap_map, List.filter_filterMap]
  refine congrArg (List.filterMap · occupants) (funext fun o => ?_)
  obtain ⟨n, occupant⟩ := o
  rw [Function.comp_apply, closeAt]
  by_cases hname : n = name
  · rw [if_pos hname]
    cases occupant with
    | session s =>
        change none = (leaseOf? (n, .session s)).filter _
        rw [leaseOf?, Occupant.lease?]
        cases s.closed <;> simp [Option.filter_some, Lease.isSession, hname]
    | pair p =>
        simp [leaseOf?, Occupant.lease?, Occupant.close, Option.filter_some, Lease.isSession]
  · rw [if_neg hname]
    cases hlease : occupant.lease? <;> simp [leaseOf?, hlease, Option.filter_some, hname]

theorem ledger_drop (r : Registry) (name : String) :
    (r.drop name).2.ledger = r.ledger.revoke name := by
  rw [ledger, held_drop, occupants_drop, filterMap_leaseOf?_filter]
  rfl

theorem ledger_close (hnames : r.NamesDiffer) (name : String) :
    (r.close name).2.ledger = r.ledger.shut name := by
  rw [ledger, held_close, occupants_close hnames, filterMap_leaseOf?_map_closeAt]
  rfl

theorem ledger_put {occupant : Occupant} {lease : Lease} (hlease : occupant.lease? = some lease)
    (r : Registry) (name : String) : (r.put name occupant).ledger = r.ledger.grant name lease := by
  have hentry : leaseOf? (name, occupant) = some (name, lease) := congrArg (Option.map _) hlease
  have hdrop := ledger_drop r name
  calc
    (r.put name occupant).ledger = { (r.drop name).2.ledger with
        leases := (name, lease) :: (r.drop name).2.ledger.leases } := by
      rw [put, ledger, List.filterMap_cons_some hentry]
      rfl
    _ = r.ledger.grant name lease := by
      rw [hdrop]
      rfl

theorem ledger_hold (r : Registry) {e : Endpoint} (hport : e.port ≠ 0) :
    (r.hold e).2.ledger =
      if (r.hold e).1 then { r.ledger with held := e :: r.ledger.held } else r.ledger := by
  rw [hold]
  have hcase := r.ports.host.bindCase e
  generalize r.ports.host.bind e = result at hcase ⊢
  cases hcase with
  | refused fault => rfl
  | bound hasked =>
      obtain rfl := hasked hport
      rfl

theorem ledger_unhold (r : Registry) (e : Endpoint) :
    (r.unhold e).2.ledger = { r.ledger with held := r.ledger.held.erase e } := by
  rw [unhold]
  split
  · rfl
  · rename_i hheld
    rw [ledger, List.erase_of_not_mem hheld]

/-- An opening that fails leaves everything as it was. -/
theorem openSession_of_error {e : Endpoint} {s : Settings} {error : Error}
    (herror : (r.openSession name e s).1 = .error error) :
    (r.openSession name e s).2.ports.host.taken = r.ports.host.taken ∧
      (r.openSession name e s).2.ports.nextPair = r.ports.nextPair ∧
      (r.openSession name e s).2.held = r.held ∧
      (r.openSession name e s).2.occupants = r.occupants := by
  have hcase := Session.openCase_openAt r.ports e s
  rw [openSession] at herror ⊢
  generalize Session.openAt r.ports e s = result at hcase herror ⊢
  cases hcase with
  | refused error htaken => exact ⟨htaken, rfl, rfl, rfl⟩
  | opened => cases herror

theorem ledger_openSession (r : Registry) (name : String) (e : Endpoint) (s : Settings) :
    (r.openSession name e s).2.ledger = r.ledger.enter r (.openSession name e s) := by
  rw [Ledger.enter, openSession]
  have hcase := Session.openCase_openAt r.ports e s
  generalize Session.openAt r.ports e s = result at hcase ⊢
  cases hcase with
  | refused error => rfl
  | opened => exact ledger_put rfl _ name

theorem ledger_bindPair (r : Registry) (name : String) (e : Endpoint) (s : Settings) :
    (r.bindPair name e s).2.ledger = r.ledger.enter r (.bindPair name e s) := by
  rw [Ledger.enter, bindPair]
  have hcase := r.ports.findCase_bindPair e s
  generalize r.ports.bindPair e s = result at hcase ⊢
  cases hcase with
  | refused error => rfl
  | found => exact ledger_put rfl _ name

theorem NamesDiffer.drop (hnames : r.NamesDiffer) (name : String) :
    (r.drop name).2.NamesDiffer := by
  rw [NamesDiffer, occupants_drop]
  exact hnames.sublist (List.filter_sublist.map _)

theorem NamesDiffer.put (hnames : r.NamesDiffer) (name : String) (occupant : Occupant) :
    (r.put name occupant).NamesDiffer := by
  refine List.nodup_cons.mpr ⟨fun hmem => ?_, hnames.drop name⟩
  obtain ⟨o, ho, hname⟩ := List.mem_map.mp hmem
  rw [occupants_drop] at ho
  exact bne_iff_ne.mp (List.mem_filter.mp ho).2 hname

theorem NamesDiffer.close (hnames : r.NamesDiffer) (name : String) :
    (r.close name).2.NamesDiffer := by
  have hfst : Prod.fst ∘ closeAt name = Prod.fst := funext (fst_closeAt name)
  rw [NamesDiffer, occupants_close hnames, List.map_map, hfst]
  exact hnames

theorem NamesDiffer.perform (hnames : r.NamesDiffer) (operation : Operation) :
    (r.perform operation).NamesDiffer := by
  cases operation with
  | hold e hport =>
      rw [Registry.perform, hold]
      split <;> exact hnames
  | unhold e =>
      rw [Registry.perform, unhold]
      split <;> exact hnames
  | openSession name e s =>
      rw [Registry.perform, openSession]
      split
      · exact hnames
      · rename_i p _
        have hmoved : { r with ports := p }.NamesDiffer := hnames
        exact hmoved.put name _
  | bindPair name e s =>
      rw [Registry.perform, bindPair]
      split
      · exact hnames
      · rename_i p _
        have hmoved : { r with ports := p }.NamesDiffer := hnames
        exact hmoved.put name _
  | close name => exact hnames.close name
  | drop name => exact hnames.drop name

/-- Every operation changes the books of a registry as the ledger says. -/
theorem ledger_perform (hnames : r.NamesDiffer) (operation : Operation) :
    (r.perform operation).ledger = r.ledger.enter r operation := by
  cases operation with
  | hold e hport => exact r.ledger_hold hport
  | unhold e => exact r.ledger_unhold e
  | openSession name e s => exact r.ledger_openSession name e s
  | bindPair name e s => exact r.ledger_bindPair name e s
  | close name => exact ledger_close hnames name
  | drop name => exact r.ledger_drop name

theorem ledger_run (hnames : r.NamesDiffer) (operations : List Operation) :
    (r.run operations).ledger = r.ledger.after r operations := by
  induction operations generalizing r with
  | nil => rfl
  | cons operation rest ih =>
      rw [Ledger.after, ← ledger_perform hnames]
      exact ih (hnames.perform operation)

end Registry

end MediaTransport.Media
