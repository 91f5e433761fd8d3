import Mathlib.Data.List.AList
import ContainerBuilder.BuilderQueue.Pool

/-!
# The queue server: `Server.h`, `Connection.h`, `Connection.cpp` and the queue

A `Connection` is kept alive by the `self` that each of its outstanding asynchronous operations has
captured and is destroyed when the last of their handlers has returned; the destructor returns the
builder and then the stream, and with it the socket, goes. So a connection is its `builder` field and
the list of the operations it waits for.

| here | there |
| --- | --- |
| `Server.accept`            | `accept_connection` and `Connection::start` (`Server.h:36`, `Connection.cpp:139`) |
| `Connection.started`       | `read_request_string` once the handshake is done (`:142-149`) |
| `Server.request`           | the handler of `read_request_string` (`:119-136`), `request_builder`, `request_queue_stats`, `request_image_list` and `Docker::request_image_list` |
| `Server.builderReady`      | the handler given to `checkout_builder` (`:75`) and `builder_ready` (`:45`) |
| `Server.builderWritten`    | the handler of the write (`:58-66`) and `wait_for_close` (`:30`) |
| `Server.finish`            | the last `self` goes: `~Connection` (`Connection.h:22-27`) |

The network is the environment: `connectionEnds` is the end of a connection, for whatever reason.
Of Beast the model takes that the read of `wait_for_close` completes with an error only if the
connection has ended, and without one only for a message.
-/

namespace ContainerBuilder

open Lib

abbrev ConnectionId := Nat

/-- An operation of a connection whose handler has not run. -/
inductive Wait
  | accept
  | readRequest
  | checkout
  | writeBuilder (builder : BuilderData)
  | waitForClose
  | writeStats
  | imageListRead
  | imageListPosted
  | writeImageList
deriving DecidableEq

structure Connection where
  builder : Option BuilderData
  waits : List Wait
deriving DecidableEq

abbrev Connections := AList fun _ : ConnectionId => Connection

structure Server where
  pool : Pool ConnectionId
  connections : Connections
  /-- The next connection accepted. -/
  nextId : ConnectionId
  /-- The connections whose socket is closed or has failed. -/
  ended : List ConnectionId

inductive ServerEvent
  | accept
  | handshakeDone (c : ConnectionId) (error : ErrorCode)
  | requestRead (c : ConnectionId) (error : ErrorCode) (request : Bytes) (launch : ErrorCode)
  | builderReady (c : ConnectionId) (builder : BuilderData)
  | builderWritten (c : ConnectionId) (builder : BuilderData) (error : ErrorCode)
  | closeRead (c : ConnectionId) (error : ErrorCode)
  | statsWritten (c : ConnectionId)
  | imageListRead (c : ConnectionId)
  | imageListReady (c : ConnectionId)
  | imageListWritten (c : ConnectionId)
  | connectionEnds (c : ConnectionId)
  | queue (e : PoolEvent ConnectionId)

inductive ServerObs
  | pool (o : PoolObs ConnectionId)
  | written (c : ConnectionId) (builder : BuilderData)
  | ended (c : ConnectionId)

/-- The completions and timers of the queue; checkouts, returns and posted handlers are the
connections' own. -/
def PoolEvent.outside : PoolEvent ConnectionId → Bool
  | .createDone _ _ _ => true
  | .destroyDone _ _ _ => true
  | .retryReturnBuilder _ => true
  | .retryCreateReserveBuilders => true
  | _ => false

namespace Server

/-- The queue reacts to `e`. -/
def enter (s : Server) (e : PoolEvent ConnectionId) : Option (Server × List ServerObs) :=
  match s.pool.step e with
  | some (p, out) => some ({ s with pool := p }, out.map .pool)
  | none => none

/-- The connection `c` while the handler of its operation `w` runs. -/
def resume (s : Server) (c : ConnectionId) (w : Wait) : Option Connection :=
  match s.connections.lookup c with
  | some conn => if w ∈ conn.waits then some { conn with waits := conn.waits.erase w } else none
  | none => none

/-- `~Connection`, then the destructors of its members. -/
def destruct (s : Server) (c : ConnectionId) (builder : Option BuilderData) :
    Option (Server × List ServerObs) :=
  let s := { s with connections := s.connections.erase c, ended := c :: s.ended }
  match builder with
  | some b => (s.enter (.returnBuilder b)).map fun r => (r.1, r.2 ++ [.ended c])
  | none => some (s, [.ended c])

/-- A handler of `c` returns, leaving the connection as `conn`. -/
def finish (s : Server) (c : ConnectionId) (conn : Connection) :
    Option (Server × List ServerObs) :=
  if conn.waits = [] then s.destruct c conn.builder
  else some ({ s with connections := s.connections.insert c conn }, [])

end Server

/-- The connection starts one more operation. -/
def Connection.wait (conn : Connection) (w : Wait) : Connection :=
  { conn with waits := w :: conn.waits }

/-- The handler of `async_accept` (Connection.cpp:145). -/
def Connection.started (error : ErrorCode) (conn : Connection) : Connection :=
  match error with
  | none => conn.wait .readRequest
  | some _ => conn

/-- `request_image_list` (Docker.h:20): when the launch fails the handler is posted, and the read is
started all the same. -/
def Connection.requestImageList (launch : ErrorCode) (conn : Connection) : Connection :=
  match launch with
  | none => conn.wait .imageListRead
  | some _ => (conn.wait .imageListPosted).wait .imageListRead

namespace Server

/-- A new connection waits for its handshake. -/
def accept (s : Server) : Server :=
  { s with connections := s.connections.insert s.nextId ⟨none, [.accept]⟩, nextId := s.nextId + 1 }

/-- What the first message of `c` asks for. -/
def request (s : Server) (c : ConnectionId) (request : Bytes) (launch : ErrorCode)
    (conn : Connection) : Option (Server × List ServerObs) :=
  if request = ascii "checkout_builder_request" then
    ({ s with connections := s.connections.insert c (conn.wait .checkout) } : Server).enter
      (.checkoutBuilder c)
  else if request = ascii "queue_status_request" then s.finish c (conn.wait .writeStats)
  else if request = ascii "image_list_request" then s.finish c (conn.requestImageList launch)
  else s.finish c conn

/-- The posted handler of `c` runs: `builder_ready`. -/
def builderReady (s : Server) (c : ConnectionId) (builder : BuilderData) (conn : Connection) :
    Option (Server × List ServerObs) :=
  let conn := { conn with builder := some builder }.wait (.writeBuilder builder)
  ({ s with connections := s.connections.insert c conn } : Server).enter (.runHandler c builder)

/-- The builder has been written to the client, or has not. -/
def builderWritten (s : Server) (c : ConnectionId) (builder : BuilderData) (error : ErrorCode)
    (conn : Connection) : Option (Server × List ServerObs) :=
  match error with
  | none =>
    some ({ s with connections := s.connections.insert c (conn.wait .waitForClose) },
      [.written c builder])
  | some _ => s.finish c conn

def step (s : Server) : ServerEvent → Option (Server × List ServerObs)
  | .accept => some (s.accept, [])
  | .handshakeDone c error => (s.resume c .accept).bind fun conn => s.finish c (conn.started error)
  | .requestRead c error request launch =>
    (s.resume c .readRequest).bind fun conn =>
      if error = none then s.request c request launch conn else s.finish c conn
  | .builderReady c builder => (s.resume c .checkout).bind fun conn => s.builderReady c builder conn
  | .builderWritten c builder error =>
    (s.resume c (.writeBuilder builder)).bind fun conn => s.builderWritten c builder error conn
  | .closeRead c error =>
    if error ≠ none → c ∈ s.ended then (s.resume c .waitForClose).bind fun conn => s.finish c conn
    else none
  | .statsWritten c => (s.resume c .writeStats).bind fun conn => s.finish c conn
  | .imageListRead c =>
    (s.resume c .imageListRead).bind fun conn => s.finish c (conn.wait .imageListPosted)
  | .imageListReady c =>
    (s.resume c .imageListPosted).bind fun conn => s.finish c (conn.wait .writeImageList)
  | .imageListWritten c => (s.resume c .writeImageList).bind fun conn => s.finish c conn
  | .connectionEnds c =>
    if c < s.nextId then some ({ s with ended := c :: s.ended }, [.ended c]) else none
  | .queue e => if e.outside then s.enter e else none

end Server

def serverMachine : Machine Server ServerEvent ServerObs where
  init := ⟨Pool.new, ∅, 0, []⟩
  initOut := (poolMachine ConnectionId).initOut.map .pool
  step := Server.step

/-- A completion that leaves its request in flight. -/
def ServerEvent.again : ServerEvent → Bool
  | .queue e => e.again
  | _ => false

end ContainerBuilder
