import MediaTransport.Media.Session

/-!
# Sessions on one host

A registry keeps the sessions of a host under names, beside ports that others hold.
Its operations are all there is that takes and frees ports: each endpoint that is
taken is held from outside, or belongs to one session or bare pair.

Opening under a name that is in use frees what was there, after the new session has
its ports. An operation that fails leaves everything else as it was.
-/

namespace MediaTransport.Media

open Net

/-- What a name stands for. -/
inductive Occupant
  | session (session : Session)
  /-- Ports without a session. -/
  | pair (pair : PortPair)
  deriving DecidableEq

/-- The endpoints that an occupant holds. -/
def Occupant.endpoints : Occupant → List Endpoint
  | .session s => s.endpoints
  | .pair p => p.endpoints

/-- The sessions of a host. -/
structure Registry where
  ports : Ports
  /-- The endpoints that are held from outside. -/
  held : List Endpoint := []
  occupants : List (String × Occupant) := []

namespace Registry

/-- What a name stands for. -/
def find? (r : Registry) (name : String) : Option Occupant :=
  r.occupants.lookup name

/-- Takes an endpoint from outside, if it is free. -/
def hold (r : Registry) (e : Endpoint) : Bool × Registry :=
  match r.ports.host.bind e with
  | (.error _, h) => (false, { r with ports := { r.ports with host := h } })
  | (.ok e, h) => (true, { r with ports := { r.ports with host := h }, held := e :: r.held })

/-- Frees an endpoint that is held from outside. -/
def unhold (r : Registry) (e : Endpoint) : Bool × Registry :=
  if e ∈ r.held then (true, { r with ports := r.ports.release [e], held := r.held.erase e })
  else (false, r)

/-- Frees what a name stands for, and the name. -/
def drop (r : Registry) (name : String) : Bool × Registry :=
  match r.find? name with
  | none => (false, r)
  | some occupant =>
      (true,
        { r with
          ports := r.ports.release occupant.endpoints
          occupants := r.occupants.filter fun (n, _) => n != name })

/-- Puts an occupant under a name, in the place of what was there. -/
def put (r : Registry) (name : String) (occupant : Occupant) : Registry :=
  let r := (r.drop name).2
  { r with occupants := (name, occupant) :: r.occupants }

/-- Opens a session under a name. -/
def openSession (r : Registry) (name : String) (e : Endpoint) (s : Settings) :
    Except Error Session × Registry :=
  match Session.openAt r.ports e s with
  | (.error error, p) => (.error error, { r with ports := p })
  | (.ok session, p) => (.ok session, { r with ports := p }.put name (.session session))

/-- Takes a pair of ports under a name. -/
def bindPair (r : Registry) (name : String) (e : Endpoint) (s : Settings) :
    Except Error PortPair × Registry :=
  match r.ports.bindPair e s with
  | (.error error, p) => (.error error, { r with ports := p })
  | (.ok pair, p) => (.ok pair, { r with ports := p }.put name (.pair pair))

/-- Closes the session under a name, which stays there. -/
def close (r : Registry) (name : String) : Option Session × Registry :=
  match r.find? name with
  | some (.session s) =>
      (some s.close,
        { r with
          ports := r.ports.release s.endpoints
          occupants := r.occupants.map fun (n, occupant) =>
            if n == name then (n, .session s.close) else (n, occupant) })
  | _ => (none, r)

end Registry

end MediaTransport.Media
