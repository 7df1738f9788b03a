import DebugBridge.Program

/-!
# Command line

Serves a host over standard input and output, or shows a traffic log. No links are offered to the
adapter here, so a session can be readied but finds no interpreter, and a log of the traffic that
the configuration names stays empty.
-/

namespace DebugBridge.Program

/-- The bytes of a file, unless there is no such file. -/
def contentOf (file : String) : IO (Option Bytes) := do
  try
    let content ← IO.FS.readBinFile file
    return some content.data.toList
  catch _ => return none

/-- Puts an empty file at a path. Says whether that was possible. -/
def emptied (file : String) : IO Bool := do
  if file.toList.contains '\x00' then return false
  try
    IO.FS.writeFile file ""
    return true
  catch _ => return false

/-- Serves the host on standard input and output until the server ends. -/
partial def serveLive (s : Server) (input output : IO.FS.Stream) : IO Server := do
  if s.ended.isSome then return s
  let content ← input.read 1
  let next := if content.isEmpty then s.close else s.receive content.data.toList
  let fresh := next.outbox.numbered.drop s.outbox.messages.length
  output.putStr (String.join (fresh.map fun m => Host.framed (m.2.toValue m.1).compact))
  output.flush
  serveLive next input output

/-- Runs what a command line asks for. Gives the exit code. -/
def run : Invocation → IO UInt32
  | .serve file => do
    let config ← match file with
      | none => pure (.ok Config.standard)
      | some file => pure (Config.ofFile (← contentOf file))
    match config with
    | .error f => do
      IO.eprintln f.message
      return 1
    | .ok c => do
      if let some file := c.trafficLog then
        unless ← emptied file do
          IO.eprintln s!"opening traffic log {file}"
          return 1
      let start := Server.ofAdapter (adapter c) (.ofReads [] .silent)
      let s ← serveLive start (← IO.getStdin) (← IO.getStdout)
      match s.failure? with
      | some text => do
        IO.eprintln text
        return 1
      | none => return 0
  | .showLog file only => do
    match ← contentOf file with
    | none => do
      IO.eprintln s!"opening {file}"
      return 1
    | some content =>
      let outcome := showLog content only
      IO.print outcome.output
      return outcome.exitCode.toUInt32

end DebugBridge.Program

/-- Carries out a command line. -/
def main (words : List String) : IO UInt32 :=
  match DebugBridge.Program.Invocation.ofWords? words with
  | some invocation => DebugBridge.Program.run invocation
  | none => do
    IO.eprintln DebugBridge.Program.Invocation.usage
    return 2
