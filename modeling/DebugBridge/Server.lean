import DebugBridge.Adapter.Requests
import DebugBridge.Host.Inbox
import DebugBridge.Host.Outbox

/-!
# Serving a host

The server handles the host's requests one at a time, in order. Each is answered by one response;
the response to a successful `initialize` is followed by an event of that name, and what the
adapter has to tell goes out as events too. The server ends when the host has disconnected or
terminated the session, closes its stream, or sends what cannot be read.
-/

namespace DebugBridge

open Host (Event Inbox Outbox Outgoing RequestMessage Unreadable)

/-- Why a server ended. -/
inductive Server.End where
  /-- The host ended the session. -/
  | served
  /-- The host closed its stream. -/
  | closed
  | unreadable (fault : Unreadable)
  deriving Repr, DecidableEq

/-- A server with all that it knows. -/
structure Server where
  adapter : Adapter
  inbox : Inbox
  outbox : Outbox
  /-- How many of the adapter's events the host has been told. -/
  told : Nat
  ended : Option Server.End

namespace Server

def ofAdapter (a : Adapter) (inbox : Inbox) : Server := ⟨a, inbox, .empty, 0, none⟩

/-- The failure that a server ends with. -/
def End.failure : End → Option String
  | unreadable f => some ("reading host request: " ++ f.message)
  | _ => none

/-- The failure of a server that has ended badly. -/
def failure? (s : Server) : Option String := s.ended.bind End.failure

/-- Requests after which, when they succeed, nothing more is read. -/
def endsSession (command : String) : Bool := command = "disconnect" || command = "terminate"

/-- The adapter's events that the host is told as they come. It is told otherwise that the adapter
is initialized. -/
def forwarded (e : Event) : Bool := e ≠ .initialized

/-- Tells the host what the adapter has had to tell since. -/
def forward (s : Server) : Server :=
  let fresh := (s.adapter.journal.events.drop s.told).filter forwarded
  { s with
    outbox := fresh.foldl (fun o e => o.write (.ofEvent e)) s.outbox
    told := s.adapter.journal.events.length }

/-- Handles one request. -/
def handle (s : Server) (m : RequestMessage) : Server :=
  let (result, adapter) := s.adapter.answer m
  let outbox := s.outbox.write (.toRequest m result)
  match result with
  | .error _ => { s with adapter, outbox }.forward
  | .ok _ =>
    let outbox := if m.command = "initialize" then outbox.write (.ofEvent .initialized) else outbox
    let s := { s with adapter, outbox }.forward
    if endsSession m.command then { s with ended := some .served } else s

/-- Handles one request after another until there is none or the server ends. -/
def runFor : Nat → Server → Server
  | 0, s => s
  | requests + 1, s =>
    if s.ended.isSome then s
    else
      match s.inbox.receive with
      | (.request m, inbox) => runFor requests ({ s with inbox }.handle m)
      | (.waiting, inbox) => { s with inbox }
      | (.closed, inbox) => { s with inbox, ended := some .closed }
      | (.failed f, inbox) => { s with inbox, ended := some (.unreadable f) }

/-- Handles all that has come. Every request has a byte at least, so the bytes that wait bound the
number of requests. -/
def run (s : Server) : Server := runFor (s.inbox.pending.length + 1) s

/-- The host sends bytes. -/
def receive (s : Server) (content : Bytes) : Server :=
  { s with inbox := s.inbox.feed content }.run

/-- The host closes its stream. -/
def close (s : Server) : Server := { s with inbox := s.inbox.close }.run

/-- Lets something happen on a link. A server that has ended has let go of its adapter. -/
def happen (s : Server) (number : Nat) (h : Happening) : Server :=
  if s.ended.isSome then s else { s with adapter := (s.adapter.happen number h).2 }.forward

end Server
end DebugBridge
