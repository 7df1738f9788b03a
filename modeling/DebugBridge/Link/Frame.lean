import DebugBridge.Link.Fault

/-!
# Frames

A frame is a header of eight bytes, four for the length of the whole frame and four for a fixed
tag, and a payload in UTF-8. Decoding looks at the start of what has been received and says what
is left of it.
-/

namespace DebugBridge.Frame

/-- The length of a header. -/
def headerLength : Nat := 8

/-- The largest frame accepted when no other limit is set: sixteen mebibytes. -/
def defaultLimit : Nat := 16 * 1024 * 1024

/-- A number below `2 ^ 32` as four bytes, most significant first. -/
def lengthBytes (n : Nat) : Bytes :=
  [UInt8.ofNat (n / 0x1000000), UInt8.ofNat (n / 0x10000), UInt8.ofNat (n / 0x100), UInt8.ofNat n]

/-- The number that four bytes are, most significant first. -/
def lengthOf (a b c d : UInt8) : Nat :=
  a.toNat * 0x1000000 + b.toNat * 0x10000 + c.toNat * 0x100 + d.toNat

/-- The frame of a payload, unless it is larger than the limit or than a length can say. -/
def encode (limit : Nat) (payload : String) : Except LinkFault Bytes :=
  let content := Text.bytes payload
  let total := headerLength + content.length
  if limit < total then .error (.tooLarge total limit)
  else if UInt32.size ≤ total then .error (.tooLarge total (UInt32.size - 1))
  else .ok (lengthBytes total ++ LinkFault.tag ++ content)

/-- What the start of the received bytes holds. -/
inductive Decoded where
  /-- No whole frame yet. -/
  | incomplete
  /-- A frame, and the bytes behind it. -/
  | frame (payload : String) (rest : Bytes)
  /-- A fault, and the bytes that stay. -/
  | fault (fault : LinkFault) (rest : Bytes)
  deriving Repr, DecidableEq

/-- Decodes the start of the received bytes. The length is judged before the tag, and a fault of
the header takes no bytes. A payload that is no text is taken with its frame. -/
def decode (limit : Nat) (received : Bytes) : Decoded :=
  match received with
  | a :: b :: c :: d :: t₁ :: t₂ :: t₃ :: t₄ :: body =>
    let total := lengthOf a b c d
    if total < headerLength then .fault (.badLength total) received
    else if limit < total then .fault (.tooLarge total limit) received
    else if [t₁, t₂, t₃, t₄] ≠ LinkFault.tag then .fault (.badTag [t₁, t₂, t₃, t₄]) received
    else
      let size := total - headerLength
      let content := body.take size
      if content.length < size then .incomplete
      else
        let rest := body.drop size
        match Text.ofBytes? content with
        | some payload => .frame payload rest
        | none => .fault (.notText ((Text.Fault.first content).getD ⟨0, none⟩)) rest
  | _ => .incomplete

/-- What is left of the received bytes after decoding their start. -/
def Decoded.rest (received : Bytes) : Decoded → Bytes
  | incomplete => received
  | frame _ rest => rest
  | fault _ rest => rest

/-- The frames at the start of the received bytes, up to the first fault or incomplete frame, and
what is left. Each frame takes at least a header, so the bytes bound the number of steps. -/
def decodeAll (limit : Nat) : Nat → Bytes → List String × Option LinkFault × Bytes
  | 0, received => ([], none, received)
  | steps + 1, received =>
    match decode limit received with
    | .incomplete => ([], none, received)
    | .fault f rest => ([], some f, rest)
    | .frame payload rest =>
      let (payloads, fault, rest) := decodeAll limit steps rest
      (payload :: payloads, fault, rest)

/-- Takes newly received bytes: the frames that are now complete, the fault that ended them, and
the bytes that stay. -/
def receive (limit : Nat) (buffer chunk : Bytes) : List String × Option LinkFault × Bytes :=
  let received := buffer ++ chunk
  decodeAll limit (received.length + 1) received

end DebugBridge.Frame
