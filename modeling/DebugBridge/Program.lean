import DebugBridge.Config
import DebugBridge.Directories
import DebugBridge.Server
import DebugBridge.Traffic.Report

/-!
# The programs

One program serves a host that speaks over standard input and output, under a configuration. The
other shows a traffic log. Both end well or badly, and what they write is known either way.
-/

namespace DebugBridge.Program

/-- What a command line asks for. -/
inductive Invocation where
  /-- Serve a host, under the configuration in a file if one is named. -/
  | serve (config : Option String)
  /-- Show the log in a file. -/
  | showLog (file : String) (only : Option Direction)
  deriving Repr, DecidableEq

namespace Invocation

/-- The direction that a word names. -/
def direction? (word : String) : Option Direction :=
  if word = Direction.inbound.name then some .inbound
  else if word = Direction.outbound.name then some .outbound
  else none

/-- The rest of a command line that serves. -/
def serveFrom? : Option String → List String → Option Invocation
  | config, [] => some (serve config)
  | none, option :: file :: rest =>
    if option = "--config" || option = "-c" then serveFrom? (some file) rest else none
  | _, _ => none

/-- The rest of a command line that shows a log. -/
def showFrom? : Option String → Option Direction → List String → Option Invocation
  | some file, only, [] => some (showLog file only)
  | none, _, [] => none
  | file, only, [word] => if file.isNone then some (showLog word only) else none
  | file, only, word :: value :: rest =>
    if (word = "--only" || word = "-o") && only.isNone then
      match direction? value with
      | some d => showFrom? file (some d) rest
      | none => none
    else if file.isNone then showFrom? (some word) only (value :: rest)
    else none

/-- What the words of a command line ask for, if it is anything. -/
def ofWords? : List String → Option Invocation
  | "log" :: rest => showFrom? none none rest
  | words => serveFrom? none words

/-- How the command line is used. -/
def usage : String :=
  "usage: debugbridge [--config FILE]\n       debugbridge log FILE [--only inbound|outbound]"

end Invocation

/-- How a program ended and what it wrote. -/
structure Outcome where
  succeeded : Bool
  output : String
  deriving Repr, DecidableEq

/-- The exit code of an outcome. -/
def Outcome.exitCode (o : Outcome) : UInt8 := if o.succeeded then 0 else 1

/-- The failure to reach an address that no interpreter listens at. -/
def refused (host : String) (port : UInt16) : Failure :=
  .within s!"connecting to interpreter at {host}:{port}"
    (.link (.stream ⟨.other, "Connection refused (os error 111)"⟩))

/-- The adapter of a configuration. Nobody listens where it connects to. -/
def adapter (c : Config) : Adapter :=
  { Adapter.ofSettings c.settings with
    unreachable := fun t =>
      refused (t.host.getD c.interpreter.host) (t.port.getD c.interpreter.port) }

/-- Serves the host whose messages are in the input, until it ends. A log of the traffic that the
configuration names must find its place first. -/
def serve (config : Except ConfigFault Config) (directories : Directories) (input : Bytes) :
    Outcome :=
  match config with
  | .error _ => ⟨false, ""⟩
  | .ok c =>
    if c.trafficLog.all directories.admits then
      let s := (Server.ofAdapter (adapter c) (.ofReads [.bytes input] .closed)).run
      ⟨s.failure?.isNone, s.outbox.text⟩
    else ⟨false, ""⟩

/-- Shows a log. -/
def showLog (log : Bytes) (only : Option Direction) : Outcome :=
  match Traffic.entries log with
  | .error _ => ⟨false, ""⟩
  | .ok entries => ⟨true, Traffic.report only entries⟩

end DebugBridge.Program
