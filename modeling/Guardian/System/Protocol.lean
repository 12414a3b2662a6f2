import Guardian.Agent.IpcServer
import Guardian.Desktop.Traffic

/-! # The client and the server over a pipe

The two programs are put together. A connection is a pair of byte queues; both sides move in any order,
and so does the runner, which updates the store. The client holds one connection at a time. The worker
may be in front of another instance of the pipe, or have lost its client: what it reads there is
anybody's bytes. The contents of the store are kept and numbered, and so is what happens on every
connection of the client.
-/

namespace Guardian.System

open Agent (LatestSnapshot LatestSnapshotStore Worker Answer)
open Desktop (LocalAgentClient LocalAgentSnapshot Effect written emitted)
open Desktop.LocalAgentClient (Event)
open Ipc (Bytes)
open Proto (Libraries)

variable {Double : Type}

/-- What the client does on one connection: the number of the store content that was current when each
request was sent, the bytes that were read, the payloads handed to the parser, and the snapshots that were
emitted. -/
structure Exchange (Double : Type) where
  sent : List ℕ := []
  received : Bytes := []
  parsed : List Bytes := []
  shown : List (LocalAgentSnapshot Double) := []
deriving DecidableEq

/-- The connection that the client holds, with the bytes on their way to the worker and to the client.
It is served until the worker closes its end. -/
structure Link (Double : Type) where
  up : Bytes := []
  down : Bytes := []
  served : Bool := true
  exchange : Exchange Double := {}
deriving DecidableEq

structure Protocol (Double : Type) where
  client : LocalAgentClient := {}
  worker : Worker := {}
  past : List (LatestSnapshotStore Double) := []
  store : LatestSnapshotStore Double := {}
  link : Option (Link Double) := none
  ended : List (Exchange Double) := []
deriving DecidableEq

/-- One move of one of the parties. -/
inductive Move (Double : Type) where
  /-- The runner updates the store. -/
  | update (snapshot : LatestSnapshot Double)
  /-- The client opens the instance of the pipe that the worker has created. -/
  | attach
  | client (event : Event)
  | agent (answer : Answer Double)

namespace Link

/-- The client has written, or taken bytes out of the queue. A request that is cut short ends the
connection and is not counted. -/
def clientMoved (link : Link Double) (version : ℕ) (event : Event) (client : LocalAgentClient)
    (effects : List (Effect Double)) : Link Double where
  up := link.up ++ written effects
  down :=
    match event with
    | .readyRead data => link.down.drop data.length
    | _ => link.down
  served := link.served
  exchange :=
    { sent :=
        if client.socket = .unconnected || (written effects).isEmpty then link.exchange.sent
        else link.exchange.sent ++ [version]
      received :=
        match event with
        | .readyRead data => link.exchange.received ++ data
        | _ => link.exchange.received
      parsed := link.exchange.parsed ++ effects.filterMap Effect.parsed
      shown := link.exchange.shown ++ emitted effects }

/-- The worker has taken bytes out of the queue, or written a part of its response. -/
def agentMoved (link : Link Double) (worker : Worker) (answer : Answer Double) (next : Worker) :
    Link Double :=
  if link.served then
    { link with
      up :=
        match answer with
        | .readReturned (.bytes data) => link.up.drop data.length
        | _ => link.up
      down :=
        match answer with
        | .writeReturned (.wrote count) =>
            link.down ++ (worker.responseFrame.drop worker.totalWritten).take count
        | _ => link.down
      served := next.pc != .loopCheck && next.pc != .finished }
  else link

end Link

namespace Protocol

/-- The contents of the store so far, the first one empty. -/
def contents (protocol : Protocol Double) : List (LatestSnapshotStore Double) :=
  protocol.past ++ [protocol.store]

/-- The number of the current content. -/
def version (protocol : Protocol Double) : ℕ := protocol.past.length

/-- Every connection of the client so far. -/
def exchanges (protocol : Protocol Double) : List (Exchange Double) :=
  protocol.ended ++ (protocol.link.map Link.exchange).toList

/-- The client is connected only over a pipe, and reads what is first in its queue. -/
def clientCan (protocol : Protocol Double) : Event → Bool
  | .connected _ => protocol.link.isSome
  | .readyRead data => protocol.link.any fun link => data.isPrefixOf link.down
  | _ => true

/-- The worker reads the current content of the store and what is first in its queue. -/
def agentCan [DecidableEq Double] (protocol : Protocol Double) : Answer Double → Bool
  | .storeRead store => store = protocol.store
  | .readReturned (.bytes data) => protocol.link.all fun link => !link.served || data.isPrefixOf link.up
  | _ => true

/-- The state after the client has reacted; a connection that is lost leaves its record. -/
def clientMoved (protocol : Protocol Double) (event : Event) (client : LocalAgentClient)
    (effects : List (Effect Double)) : Protocol Double :=
  let link := protocol.link.map fun link => link.clientMoved protocol.version event client effects
  if client.socket = .unconnected then
    { protocol with client, link := none, ended := protocol.ended ++ (link.map Link.exchange).toList }
  else { protocol with client, link }

def step [DecidableEq Double] (lib : Libraries Double) (protocol : Protocol Double) :
    Move Double → Option (Protocol Double)
  | .update snapshot =>
      some { protocol with past := protocol.contents, store := protocol.store.update snapshot }
  | .attach =>
      if protocol.client.socket = .connecting ∧ protocol.link = none ∧
          (protocol.worker.pc = .callConnect ∨ protocol.worker.pc = .inConnect) then
        some { protocol with link := some {} }
      else none
  | .client event =>
      if protocol.clientCan event then
        (protocol.client.step lib event).map fun next => protocol.clientMoved event next.1 next.2
      else none
  | .agent answer =>
      if protocol.agentCan answer then
        (protocol.worker.step lib answer).map fun next =>
          { protocol with
            worker := next
            link := protocol.link.map fun link => link.agentMoved protocol.worker answer next }
      else none

end Protocol

end Guardian.System
