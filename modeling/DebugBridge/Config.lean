import DebugBridge.Adapter.Basic
import DebugBridge.Link.Greeting
import DebugBridge.Toml.Reader

/-!
# Configuration

A configuration is a TOML document with a table for the interpreter, one for the session and one
for logging. All of it may be left out, and what is not known is passed over. Numbers that must
not be zero are checked in a fixed order, and the first zero is reported.
-/

namespace DebugBridge

/-- Where the interpreter listens and how it is greeted. -/
structure Config.Interpreter where
  host : String
  port : UInt16
  version : Nat
  attempts : Nat
  deriving Repr, DecidableEq

/-- The bounds of a session. -/
structure Config.Session where
  /-- How many messages may wait to be taken in. -/
  capacity : Nat
  evaluationPatience : Nat
  maxVariables : Nat
  deriving Repr, DecidableEq

/-- A configuration. -/
structure Config where
  interpreter : Config.Interpreter
  session : Config.Session
  /-- The file in which traffic is recorded. -/
  trafficLog : Option String
  deriving Repr, DecidableEq

/-- Why there is no configuration. -/
inductive ConfigFault where
  | notFound
  /-- The file cannot be read as text. -/
  | unreadable
  /-- The text is no TOML document, or a value in it does not fit. -/
  | malformed
  /-- A number that must not be zero is zero. -/
  | zero (field : String)
  deriving Repr, DecidableEq

/-- The wording of a fault that can be named in full. -/
def ConfigFault.message : ConfigFault → String
  | notFound => "config file not found"
  | unreadable => "I/O error"
  | malformed => "TOML parse error"
  | zero field => s!"validation error: {field}: must be greater than zero"

namespace Config

open Toml (Value)

/-- The part of a record, or what stands for it when it is left out. -/
def orElse {α : Type} (standard : α) (read : Value → Option α) : Option Value → Option α
  | none => some standard
  | some v => read v

namespace Interpreter

def standard : Interpreter := ⟨"127.0.0.1", 4502, Greeting.defaultVersion, 5⟩

def ofValue? (v : Value) : Option Interpreter := do
  match ← v.parts? ["host", "port", "protocol_version", "connect_attempts"] with
  | [host, port, version, attempts] =>
    pure ⟨← orElse standard.host Value.text? host,
      ← orElse standard.port (fun v => (v.natural? UInt16.size).map UInt16.ofNat) port,
      ← orElse standard.version (Value.natural? UInt32.size) version,
      ← orElse standard.attempts (Value.natural? UInt64.size) attempts⟩
  | _ => none

end Interpreter

namespace Session

def standard : Session := ⟨256, 5000, 50⟩

def ofValue? (v : Value) : Option Session := do
  match ← v.parts? ["subscriber_capacity", "evaluate_timeout_ms", "max_variables"] with
  | [capacity, patience, most] =>
    pure ⟨← orElse standard.capacity (Value.natural? UInt64.size) capacity,
      ← orElse standard.evaluationPatience (Value.natural? UInt64.size) patience,
      ← orElse standard.maxVariables (Value.natural? UInt64.size) most⟩
  | _ => none

end Session

/-- The configuration that says nothing. -/
def standard : Config := ⟨.standard, .standard, none⟩

/-- The file for traffic that a table for logging names. -/
def trafficLog? (v : Value) : Option (Option String) := do
  match ← v.parts? ["traffic_log"] with
  | [file] => orElse none (fun v => v.text?.map some) file
  | _ => none

/-- The configuration in a document. -/
def ofValue? (v : Value) : Option Config := do
  match ← v.parts? ["interpreter", "session", "logging"] with
  | [interpreter, session, logging] =>
    pure ⟨← orElse .standard Interpreter.ofValue? interpreter,
      ← orElse .standard Session.ofValue? session, ← orElse none trafficLog? logging⟩
  | _ => none

/-- The numbers that must not be zero, with their names, in the order in which they are checked. -/
def positive (c : Config) : List (String × Nat) :=
  [("interpreter.port", c.interpreter.port.toNat),
    ("interpreter.protocol_version", c.interpreter.version),
    ("interpreter.connect_attempts", c.interpreter.attempts),
    ("session.subscriber_capacity", c.session.capacity),
    ("session.evaluate_timeout_ms", c.session.evaluationPatience),
    ("session.max_variables", c.session.maxVariables)]

/-- Checks a configuration. -/
def validated (c : Config) : Except ConfigFault Config :=
  match c.positive.find? fun f => f.2 = 0 with
  | some (field, _) => .error (.zero field)
  | none => .ok c

/-- The configuration that a text describes. -/
def ofString (s : String) : Except ConfigFault Config :=
  match (Value.ofString? s).bind ofValue? with
  | none => .error .malformed
  | some c => c.validated

/-- The configuration in a file, which may not be there. -/
def ofFile : Option Bytes → Except ConfigFault Config
  | none => .error .notFound
  | some content =>
    match Text.ofBytes? content with
    | none => .error .unreadable
    | some s => ofString s

/-- The settings of a session under a configuration. -/
def settings (c : Config) : Settings :=
  ⟨c.interpreter.version, Greeting.defaultPatience, c.session.evaluationPatience,
    c.session.maxVariables⟩

end Config
end DebugBridge
