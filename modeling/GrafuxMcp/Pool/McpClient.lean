import GrafuxMcp.Pool.Cancellation

/-! # The pool with its MCP clients

The wrapper of an entry keeps the session of the SDK that its connect has opened. A
round trip asks the session first and falls back to HTTP when it raises, so it ends
with what the fallback does. -/

namespace GrafuxMcp.Pool

abbrev SessionId := Nat

/-- How the connect of a wrapper ends. Any error of the SDK is raised again as a
`ConnectionError`; without the SDK the server is probed, which does not raise. -/
inductive SdkConnect where
  | opened
  | notInstalled
  | failed
  deriving DecidableEq, Repr

def SdkConnect.outcome : SdkConnect → Outcome
  | .opened | .notInstalled => .returned
  | .failed => .reconnectable

/-- How each request to the peer of a task ends. `sdk` is the method of the session;
a result of it that cannot be read counts as another error. -/
structure Peer where
  connect : SdkConnect := .opened
  sdk : Outcome := .returned
  http : Outcome := .returned
  deriving DecidableEq, Repr

/-- What the round trip of a task awaits. -/
inductive RoundTrip where
  | sdk (session : SessionId)
  | http
  deriving DecidableEq, Repr

/-- The sessions of a wrapper are numbered as they are opened. -/
structure Client where
  session : Option SessionId := none
  opened : Nat := 0
  /-- The sessions whose method has raised a reconnectable error. -/
  raised : List SessionId := []
  /-- The sessions whose disconnect has begun. -/
  disconnected : List SessionId := []
  deriving DecidableEq, Repr

namespace Client

variable (client : Client)

def connect : SdkConnect → Client
  | .opened => { client with session := some client.opened, opened := client.opened + 1 }
  | .notInstalled | .failed => client

/-- `call_tool` or `list_tools` begins. -/
def roundTrip : RoundTrip :=
  match client.session with
  | some session => .sdk session
  | none => .http

def answer (session : SessionId) : Outcome → Client
  | .reconnectable => { client with raised := session :: client.raised }
  | .returned | .otherError => client

def beginDisconnect : Client :=
  { client with disconnected := client.session.toList ++ client.disconnected }

/-- The session is given up however its disconnect ends. -/
def endDisconnect : Client :=
  { client with session := none }

/-- The session in use has raised a reconnectable error. -/
def isBroken : Bool :=
  client.session.any client.raised.contains

end Client

structure Clients where
  sessions : Sessions := {}
  client : EntryId → Client := fun _ => {}
  awaits : TaskId → RoundTrip := fun _ => .http

inductive ClientTurn where
  | tick (seconds : Nat)
  | start (task : TaskId) (operation : Operation)
  | run (task : TaskId)
  | resume (task : TaskId) (peer : Peer)
  | cancel (task : TaskId)
  deriving DecidableEq, Repr

namespace Clients

variable (runtime : Runtime) (w : Clients)

abbrev state : State :=
  w.sessions.state

def updateClient (e : EntryId) (change : Client → Client) : Clients :=
  { w with client := Function.update w.client e (change (w.client e)) }

def pool (turn : Turn) : Clients :=
  { w with sessions := w.sessions.turn runtime turn }

@[simp] theorem sessions_pool {turn : Turn} :
    (w.pool runtime turn).sessions = w.sessions.turn runtime turn := rfl

@[simp] theorem client_pool {turn : Turn} : (w.pool runtime turn).client = w.client := rfl

@[simp] theorem awaits_pool {turn : Turn} : (w.pool runtime turn).awaits = w.awaits := rfl

@[simp] theorem sessions_updateClient {e : EntryId} {change : Client → Client} :
    (w.updateClient e change).sessions = w.sessions := rfl

@[simp] theorem awaits_updateClient {e : EntryId} {change : Client → Client} :
    (w.updateClient e change).awaits = w.awaits := rfl

theorem client_updateClient {e : EntryId} {change : Client → Client} :
    (w.updateClient e change).client e = change (w.client e) :=
  Function.update_self ..

theorem client_updateClient_of_ne {e e' : EntryId} {change : Client → Client}
    (different : e' ≠ e) : (w.updateClient e change).client e' = w.client e' :=
  Function.update_of_ne different ..

/-- The running task goes on to its next control point. -/
def run (task : TaskId) : Clients :=
  let next := w.pool runtime (.move (.run task))
  match w.state.tasks task with
  | .yielding e _ =>
      { next with awaits := Function.update w.awaits task (w.client e).roundTrip }
  | .hardClose e _ =>
      if (w.state.entry e).connected then next.updateClient e Client.beginDisconnect else next
  | _ => next

/-- The request that a round trip awaits has ended. -/
def answer (task : TaskId) (e : EntryId) (peer : Peer) : Clients :=
  match w.awaits task with
  | .http => w.pool runtime (.move (.resume task peer.http))
  | .sdk session =>
      match peer.sdk with
      | .returned => w.pool runtime (.move (.resume task .returned))
      | .reconnectable | .otherError =>
          { w.updateClient e (·.answer session peer.sdk) with
            awaits := Function.update w.awaits task .http }

/-- A suspended task is resumed. -/
def resume (task : TaskId) (peer : Peer) : Clients :=
  match w.state.tasks task with
  | .connecting e _ =>
      (w.pool runtime (.move (.resume task peer.connect.outcome))).updateClient e
        (·.connect peer.connect)
  | .calling e _ => w.answer runtime task e peer
  | .disconnecting e _ =>
      (w.pool runtime (.move (.resume task .returned))).updateClient e Client.endDisconnect
  | _ => w.pool runtime (.move (.resume task .returned))

def cancel (task : TaskId) : Clients :=
  match w.state.tasks task with
  | .disconnecting e _ =>
      (w.pool runtime (.cancel task)).updateClient e Client.endDisconnect
  | _ => w.pool runtime (.cancel task)

/-- A turn that the scheduler cannot take changes nothing. -/
def turn : ClientTurn → Clients
  | .tick seconds => w.pool runtime (.move (.tick seconds))
  | .start task operation => w.pool runtime (.move (.start task operation))
  | .run task => if w.state.current = some task then w.run runtime task else w
  | .resume task peer => if w.state.current = none then w.resume runtime task peer else w
  | .cancel task => if w.state.current = none then w.cancel runtime task else w

end Clients

end GrafuxMcp.Pool
