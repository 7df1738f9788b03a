import DebugBridge.Host.Message
import DebugBridge.Link.Inlet
import DebugBridge.Text.Blank
import DebugBridge.Text.Quoted

/-!
# Reading the host's messages

Messages are read one byte at a time, so it does not matter how the stream is cut. A header is a
block of lines that ends at a blank line; it must name the length of the message once at least,
and the last length counts. Blank lines before a header, and headers with other names, are passed
over.
-/

namespace DebugBridge.Host

/-- Why the host's stream cannot be read on. -/
inductive Unreadable where
  /-- The stream failed inside a header, or the header is no text. -/
  | header
  /-- A length that is no number. -/
  | length (value : String)
  /-- A line without a colon. -/
  | line (line : String)
  /-- The stream failed or ended inside a message. -/
  | body
  | notText
  | notRequest (content : String)
  deriving Repr, DecidableEq

/-- The wording of a fault. -/
def Unreadable.message : Unreadable → String
  | header => "reading header"
  | length value => "failed to parse content length " ++ Text.quoted value
  | line l => "malformed header line " ++ Text.quoted l
  | body => "failed to read message body"
  | notText => "invalid utf8"
  | notRequest content => "could not construct request from: " ++ content

/-- What a stream gives, byte by byte. -/
inductive Symbol where
  | byte (value : UInt8)
  | fault (fault : StreamFault)
  deriving Repr, DecidableEq

namespace Symbol

/-- What one read gives. A read that was interrupted is made again. -/
def ofRead : Read → List Symbol
  | .bytes content => content.map byte
  | .fault f => if f.kind = .interrupted then [] else [fault f]

def ofReads (reads : List Read) : List Symbol := reads.flatMap ofRead

end Symbol

/-- How far a message has been read. Bytes are collected latest first. -/
inductive Reading where
  /-- Inside a header, in which a length may have been named. -/
  | header (line : Bytes) (length : Option Nat)
  /-- Inside a message, of which so many bytes are still to come. -/
  | body (due : Nat) (content : Bytes)
  deriving Repr, DecidableEq

namespace Reading

/-- Nothing of a message has been read. -/
def start : Reading := header [] none

/-- What a step of reading comes to. -/
inductive Outcome where
  | more (reading : Reading)
  | request (message : RequestMessage)
  | failed (fault : Unreadable)

/-- The number that a text is: digits, with or without a plus sign, below `2 ^ 64`. -/
def count? (s : String) : Option Nat :=
  let digits := match s.toList with
    | '+' :: cs => cs
    | cs => cs
  if digits.isEmpty || !digits.all Char.isDigit then none
  else
    let n := Json.Number.digitsValue digits
    if n < UInt64.size then some n else none

/-- The parts of a line before and behind its first colon. -/
def splitLine (line : String) : Option (String × String) :=
  let cs := line.toList
  if cs.contains ':' then
    some (String.ofList (cs.takeWhile (· ≠ ':')), String.ofList ((cs.dropWhile (· ≠ ':')).drop 1))
  else none

/-- A message is complete. -/
def endBody (content : Bytes) : Outcome :=
  match Text.ofBytes? content with
  | none => .failed .notText
  | some text =>
    match RequestMessage.ofText? text with
    | none => .failed (.notRequest text)
    | some m => .request m

/-- A line of a header is complete. -/
def endLine (line : Bytes) (length : Option Nat) : Outcome :=
  match Text.ofBytes? line with
  | none => .failed .header
  | some text =>
    let text := Text.trimEnd text
    if text.isEmpty then
      match length with
      | none => .more start
      | some 0 => endBody []
      | some n => .more (body n [])
    else
      match splitLine text with
      | none => .failed (.line text)
      | some (key, value) =>
        if key = lengthKey then
          match count? (Text.trim value) with
          | some n => .more (header [] (some n))
          | none => .failed (.length value)
        else .more (header [] length)

/-- Takes one symbol. -/
def step : Reading → Symbol → Outcome
  | header line length, .byte b =>
    if b = 10 then endLine line.reverse length else .more (header (b :: line) length)
  | body due content, .byte b =>
    if due ≤ 1 then endBody (b :: content).reverse else .more (body (due - 1) (b :: content))
  | header .., .fault _ => .failed .header
  | body .., .fault _ => .failed .body

end Reading

/-- What a reader of the host's stream receives. -/
inductive Receipt where
  | request (message : RequestMessage)
  /-- The host has closed its stream. -/
  | closed
  /-- No message is complete, and more may come. -/
  | waiting
  | failed (fault : Unreadable)

/-- The host's stream, as far as it has not been read. -/
structure Inbox where
  reading : Reading
  pending : List Symbol
  ending : StreamEnd
  deriving Repr, DecidableEq

namespace Inbox

def ofReads (reads : List Read) (ending : StreamEnd) : Inbox :=
  ⟨.start, Symbol.ofReads reads, ending⟩

/-- More content will come. -/
def feed (i : Inbox) (content : Bytes) : Inbox :=
  { i with pending := i.pending ++ content.map .byte }

/-- Nothing more will come. -/
def close (i : Inbox) : Inbox := { i with ending := .closed }

/-- What the end of the stream comes to. A last line counts even without a line end. -/
def atEnd : Reading → Receipt
  | .body .. => .failed .body
  | .header [] _ => .closed
  | .header line length =>
    match Reading.endLine line.reverse length with
    | .more (.header ..) => .closed
    | .more (.body ..) => .failed .body
    | .request m => .request m
    | .failed f => .failed f

/-- Reads until there is something to tell. -/
def receiveFrom (ending : StreamEnd) : Reading → List Symbol → Receipt × Inbox
  | r, [] =>
    match ending with
    | .silent => (.waiting, ⟨r, [], ending⟩)
    | .closed => (atEnd r, ⟨.start, [], ending⟩)
  | r, s :: rest =>
    match r.step s with
    | .more r => receiveFrom ending r rest
    | .request m => (.request m, ⟨.start, rest, ending⟩)
    | .failed f => (.failed f, ⟨.start, rest, ending⟩)

/-- Receives the next message. -/
def receive (i : Inbox) : Receipt × Inbox := receiveFrom i.ending i.reading i.pending

/-- Receives so many messages at most. Gives the requests and what came instead of a further one. -/
def receiveSome : Nat → Inbox → List RequestMessage × Receipt
  | 0, _ => ([], .waiting)
  | messages + 1, i =>
    match i.receive with
    | (.request m, i) =>
      let (requests, last) := receiveSome messages i
      (m :: requests, last)
    | (last, _) => ([], last)

/-- Receives messages until there is something else. Every message has a byte at least, so the
bytes that wait bound the number of messages. -/
def receiveAll (i : Inbox) : List RequestMessage × Receipt := receiveSome (i.pending.length + 1) i

end Inbox
end DebugBridge.Host
