import LspProbe.Http.Failure

/-!
# Networks

Where connections lead. A URL names a peer by scheme, host and port; the network says whether a
connection to that peer reaches the server or meets an obstacle, and the peer that the server itself
is always leads to it.
-/

namespace LspProbe.Http

/-- A server on this machine. -/
structure Server where
  port : UInt16
  listening : Bool
  deriving DecidableEq, Repr

/-- Whom a connection is meant for. -/
structure Peer where
  scheme : String
  host : Url.Host
  port : Nat
  deriving DecidableEq, Repr

/-- What a connection comes to. -/
inductive Route where
  | server
  | barred (obstacle : Obstacle)
  deriving DecidableEq, Repr

/-- The peer that a URL names. -/
def Peer.ofUrl? (u : Url) : Option Peer :=
  match u.authority, u.port? with
  | some authority, some port => some ⟨u.scheme, authority.host, port⟩
  | _, _ => none

namespace Server

/-- The address of this machine: 127.0.0.1. -/
def address : Nat := 0x7F000001

/-- The text that URLs of this server start with. -/
def origin (s : Server) : String :=
  "http://" ++ Url.ipv4Text address ++ ":" ++ toString s.port.toNat

/-- The server under its address. -/
def peer (s : Server) : Peer := ⟨"http", .ipv4 address, s.port.toNat⟩

/-- What stands for the address of this machine: the address itself, the open one and a name. -/
def hosts : List Url.Host := [.ipv4 address, .ipv4 0, .name "localhost"]

/-- Whether a host is this machine. -/
def isHere : Url.Host → Bool
  | .name text => text = "localhost"
  | .ipv4 n => n / 0x1000000 = 127 || n = 0
  | .ipv6 groups => groups = [0, 0, 0, 0, 0, 0, 0, 1] || groups.all (· = 0)

/-- The routes on a machine that is on its own: to the server under every host that stands for its
address, to nobody elsewhere on the machine, and not beyond it. -/
def localRoute (s : Server) (peer : Peer) : Route :=
  if hosts.contains peer.host && peer.port = s.port.toNat then
    if peer.scheme = "http" then .server else .barred .unsecured
  else if isHere peer.host then .barred .refused
  else
    match peer.host with
    | .name _ => .barred .unresolved
    | _ => .barred .unreachable

end Server

/-- A server, and where connections lead that are not meant for its own peer. -/
structure Network where
  server : Server
  route : Peer → Route

/-- A server alone is found from its own machine. -/
instance : Coe Server Network := ⟨fun s => ⟨s, s.localRoute⟩⟩

/-- Whether a label is one of those that names of servers consist of: up to 63 letters, digits,
hyphens and underscores, no hyphen at either end. -/
def isServerLabel (label : List Char) : Bool :=
  label ≠ [] && label.length ≤ 63 && label.all (fun c => c.isAlphanum || c = '-' || c = '_')
    && label.head? ≠ some '-' && label.getLast? ≠ some '-'

/-- Whether a server could prove that it has a name. -/
def isServerName (name : String) : Bool :=
  name.length ≤ 253 && (Url.labels name.toList).all isServerLabel

/-- Whether a secure connection for a URL is ruled out by the name of its host. -/
def isUnprovable (u : Url) : Bool :=
  u.scheme = "https" &&
    match u.authority.map Url.Authority.host with
    | some (.name name) => !isServerName name
    | _ => false

namespace Network

/-- What a connection for a URL comes to. A URL without an authority names nobody. -/
def routeTo (network : Network) (url : Url) : Route :=
  match Peer.ofUrl? url with
  | none => .barred .refused
  | some peer => if peer = network.server.peer then .server else network.route peer

/-- Why no request for a URL can be sent, told for the URL that an exchange started with. -/
def barrier? (network : Network) (start : String) (url : Url) : Option Failure :=
  if isUnprovable url then some (.badName start)
  else
    match network.routeTo url with
    | .server => if network.server.listening then none else some (.barred start .refused)
    | .barred obstacle => some (.barred start obstacle)

/-- A URL reaches the server: nothing rules out a connection, it leads there, and the server
listens. -/
structure Reaches (network : Network) (url : Url) : Prop where
  provable : isUnprovable url = false
  led : network.routeTo url = .server
  listening : network.server.listening = true

theorem barrier?_eq_none_iff {network : Network} {start : String} {url : Url} :
    network.barrier? start url = none ↔ network.Reaches url := by
  unfold barrier?
  constructor
  · intro h
    split at h
    · cases h
    · next hprovable =>
      split at h
      · next hled =>
        split at h
        · next hlistening => exact ⟨by simpa using hprovable, hled, hlistening⟩
        · cases h
      · cases h
  · intro h
    simp [h.provable, h.led, h.listening]

theorem barrier?_cases {network : Network} {start : String} {url : Url} {failure : Failure}
    (h : network.barrier? start url = some failure) :
    failure = .badName start ∨ ∃ obstacle, failure = .barred start obstacle := by
  unfold barrier? at h
  split at h
  · cases h
    exact .inl rfl
  · split at h
    · split at h
      · cases h
      · cases h
        exact .inr ⟨_, rfl⟩
    · cases h
      exact .inr ⟨_, rfl⟩

theorem statusCode?_of_barrier? {network : Network} {start : String} {url : Url}
    {failure : Failure} (h : network.barrier? start url = some failure) :
    failure.statusCode? = none := by
  rcases barrier?_cases h with rfl | ⟨obstacle, rfl⟩ <;> rfl

theorem routeTo_of_own_peer {network : Network} {url : Url}
    (h : Peer.ofUrl? url = some network.server.peer) : network.routeTo url = .server := by
  rw [routeTo, h]
  exact if_pos rfl

end Network

end LspProbe.Http
