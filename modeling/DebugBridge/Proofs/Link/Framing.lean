import DebugBridge.Link.Frame
import Mathlib.Data.List.TakeDrop
import Mathlib.Data.String.Basic
import Mathlib.Tactic.SplitIfs

/-!
# Frames and what is decoded

The frame of a payload is its `image`: how long it is in four bytes, the tag, and the payload.
Decoding gives a payload exactly where the received bytes start with its image, if that is within
the limit. What else can be found at the start of received bytes is told by what they declare.
-/

namespace DebugBridge

/-- A character has four bytes at most. -/
theorem Text.length_bytes_le (s : String) : (bytes s).length ≤ 4 * s.length := by
  have size : (bytes s).length = String.utf8Len s.toList := by
    rw [← String.utf8ByteSize_ofList, String.ofList_toList]
    exact String.size_toByteArray
  rw [size, ← String.length_toList]
  induction s.toList with
  | nil => simp
  | cons c cs ih =>
    have one := c.utf8Size_le_four
    rw [String.utf8Len_cons, List.length_cons]
    omega

namespace Frame

/-! ## Numbers in four bytes -/

/-- The number that some bytes are, most significant first. -/
def number (bytes : Bytes) : Nat := bytes.foldl (fun n b => n * 256 + b.toNat) 0

@[simp] theorem length_lengthBytes (n : Nat) : (lengthBytes n).length = 4 := rfl

theorem number_lengthBytes {n : Nat} (h : n < UInt32.size) : number (lengthBytes n) = n := by
  have bound : n < 0x100000000 := h
  simp only [number, lengthBytes, List.foldl_cons, List.foldl_nil, UInt8.toNat_ofNat']
  omega

theorem lengthOf_eq (a b c d : UInt8) : lengthOf a b c d = number [a, b, c, d] := by
  simp only [lengthOf, number, List.foldl_cons, List.foldl_nil]
  omega

theorem lengthOf_lt (a b c d : UInt8) : lengthOf a b c d < UInt32.size := by
  have ha := a.toNat_lt
  have hb := b.toNat_lt
  have hc := c.toNat_lt
  have hd := d.toNat_lt
  have size : UInt32.size = 0x100000000 := rfl
  rw [lengthOf, size]
  omega

/-- Four bytes are the bytes of the number that they are. -/
theorem lengthBytes_lengthOf (a b c d : UInt8) : lengthBytes (lengthOf a b c d) = [a, b, c, d] := by
  have ha := a.toNat_lt
  have hb := b.toNat_lt
  have hc := c.toNat_lt
  have hd := d.toNat_lt
  simp only [lengthBytes, lengthOf, List.cons.injEq, ← UInt8.toNat_inj, UInt8.toNat_ofNat']
  refine ⟨?_, ?_, ?_, ?_, trivial⟩ <;> omega

/-! ## The frame of a payload -/

/-- The length of the frame of a payload. -/
def size (payload : String) : Nat := headerLength + (Text.bytes payload).length

/-- The frame of a payload. -/
def image (payload : String) : Bytes :=
  lengthBytes (size payload) ++ LinkFault.tag ++ Text.bytes payload

/-- The frame of a payload is within the limit, and four bytes can tell its length. -/
def Fits (limit : Nat) (payload : String) : Prop :=
  size payload ≤ limit ∧ size payload < UInt32.size

instance (limit : Nat) : DecidablePred (Fits limit) :=
  fun _ => inferInstanceAs (Decidable (_ ∧ _))

theorem length_image (payload : String) : (image payload).length = size payload := by
  simp [image, size, headerLength, LinkFault.tag]
  omega

theorem fits_of_length_le {limit : Nat} {payload : String}
    (short : headerLength + 4 * payload.length ≤ limit) (sayable : limit < UInt32.size) :
    Fits limit payload := by
  have bytes := Text.length_bytes_le payload
  have within : size payload ≤ limit := by
    rw [size]
    omega
  exact ⟨within, Nat.lt_of_le_of_lt within sayable⟩

section encode
variable {limit : Nat} {payload : String} {frame : Bytes}

theorem encode_of_fits (h : Fits limit payload) : encode limit payload = .ok (image payload) := by
  have small : ¬ limit < headerLength + (Text.bytes payload).length := Nat.not_lt.mpr h.1
  have sayable : ¬ UInt32.size ≤ headerLength + (Text.bytes payload).length :=
    Nat.not_le.mpr h.2
  simp only [encode, if_neg small, if_neg sayable]
  rfl

theorem exists_error_of_not_fits (h : ¬ Fits limit payload) :
    ∃ most, encode limit payload = .error (.tooLarge (size payload) most) := by
  by_cases large : limit < headerLength + (Text.bytes payload).length
  · exact ⟨limit, by simp only [encode, if_pos large]; rfl⟩
  · have unsayable : UInt32.size ≤ headerLength + (Text.bytes payload).length :=
      Nat.not_lt.mp fun sayable => h ⟨Nat.not_lt.mp large, sayable⟩
    exact ⟨UInt32.size - 1, by simp only [encode, if_neg large, if_pos unsayable]; rfl⟩

theorem encode_eq_ok_iff :
    encode limit payload = .ok frame ↔ Fits limit payload ∧ frame = image payload := by
  by_cases h : Fits limit payload
  · rw [encode_of_fits h, Except.ok.injEq]
    exact ⟨fun same => ⟨h, same.symm⟩, fun both => both.2.symm⟩
  · obtain ⟨most, refused⟩ := exists_error_of_not_fits h
    rw [refused]
    constructor
    · intro same
      cases same
    · intro both
      exact absurd both.1 h

theorem encode_eq_error_iff :
    (∃ f, encode limit payload = .error f) ↔ ¬ Fits limit payload := by
  constructor
  · rintro ⟨f, refused⟩ fits
    rw [encode_of_fits fits] at refused
    cases refused
  · intro h
    obtain ⟨most, refused⟩ := exists_error_of_not_fits h
    exact ⟨_, refused⟩

end encode

/-! ## What received bytes declare -/

/-- The length that received bytes declare for the frame at their start. -/
def declared (received : Bytes) : Nat := number (received.take 4)

/-- What stands in the place of the tag. -/
def tagOf (received : Bytes) : Bytes := (received.drop 4).take 4

/-- What stands in the place of the payload. -/
def content (received : Bytes) : Bytes := (received.take (declared received)).drop headerLength

/-- The received bytes start with a header that is as it should be. -/
structure HasHeader (limit : Nat) (received : Bytes) : Prop where
  arrived : headerLength ≤ received.length
  covers_header : headerLength ≤ declared received
  within_limit : declared received ≤ limit
  tag : tagOf received = LinkFault.tag

section decode
variable {limit : Nat} {received rest : Bytes} {payload : String}

theorem declared_image (payload : String) (h : Fits limit payload) (rest : Bytes) :
    declared (image payload ++ rest) = size payload := by
  rw [declared, image, List.append_assoc, List.append_assoc,
    List.take_left' (length_lengthBytes _), number_lengthBytes h.2]

theorem tagOf_image (payload : String) (rest : Bytes) :
    tagOf (image payload ++ rest) = LinkFault.tag := rfl

theorem content_image (payload : String) (h : Fits limit payload) (rest : Bytes) :
    content (image payload ++ rest) = Text.bytes payload := by
  rw [content, declared_image payload h, List.take_left' (length_image payload)]
  rfl

theorem hasHeader_image (h : Fits limit payload) (rest : Bytes) :
    HasHeader limit (image payload ++ rest) where
  arrived := by
    rw [List.length_append, length_image, size]
    omega
  covers_header := by
    rw [declared_image payload h, size]
    omega
  within_limit := declared_image payload h rest ▸ h.1
  tag := tagOf_image payload rest

/-- Decoding goes by the header alone until the whole frame has arrived. -/
theorem decode_eq (arrived : headerLength ≤ received.length) :
    decode limit received =
      if declared received < headerLength then .fault (.badLength (declared received)) received
      else if limit < declared received then .fault (.tooLarge (declared received) limit) received
      else if tagOf received ≠ LinkFault.tag then .fault (.badTag (tagOf received)) received
      else if received.length < declared received then .incomplete
      else
        match Text.ofBytes? (content received) with
        | some payload => .frame payload (received.drop (declared received))
        | none =>
          .fault (.notText ((Text.Fault.first (content received)).getD ⟨0, none⟩))
            (received.drop (declared received)) := by
  match received with
  | a :: b :: c :: d :: t₁ :: t₂ :: t₃ :: t₄ :: body =>
    have number : lengthOf a b c d = declared (a :: b :: c :: d :: t₁ :: t₂ :: t₃ :: t₄ :: body) :=
      lengthOf_eq a b c d
    rw [decode, content, number]
    generalize declared (a :: b :: c :: d :: t₁ :: t₂ :: t₃ :: t₄ :: body) = total
    by_cases short : total < headerLength
    · rw [if_pos short, if_pos short]
    obtain ⟨size, rfl⟩ : ∃ size, total = size + headerLength := ⟨total - headerLength, by omega⟩
    rw [if_neg short, if_neg short]
    by_cases large : limit < size + headerLength
    · rw [if_pos large, if_pos large]
    rw [if_neg large, if_neg large]
    have tag : tagOf (a :: b :: c :: d :: t₁ :: t₂ :: t₃ :: t₄ :: body) = [t₁, t₂, t₃, t₄] := rfl
    rw [tag, Nat.add_sub_cancel]
    by_cases strange : [t₁, t₂, t₃, t₄] ≠ LinkFault.tag
    · rw [if_pos strange, if_pos strange]
    rw [if_neg strange, if_neg strange]
    have missing : (body.take size).length < size ↔
        (a :: b :: c :: d :: t₁ :: t₂ :: t₃ :: t₄ :: body).length < size + headerLength := by
      simp only [List.length_take, List.length_cons, headerLength]
      omega
    simp only [missing]
    rfl

theorem decode_of_hasHeader (h : HasHeader limit received) :
    decode limit received =
      if received.length < declared received then .incomplete
      else
        match Text.ofBytes? (content received) with
        | some payload => .frame payload (received.drop (declared received))
        | none =>
          .fault (.notText ((Text.Fault.first (content received)).getD ⟨0, none⟩))
            (received.drop (declared received)) := by
  rw [decode_eq h.arrived, if_neg (Nat.not_lt.mpr h.covers_header),
    if_neg (Nat.not_lt.mpr h.within_limit), if_neg (not_not.mpr h.tag)]

theorem decode_of_short (short : received.length < headerLength) :
    decode limit received = .incomplete := by
  unfold decode
  split
  case h_1 =>
    simp only [List.length_cons, headerLength] at short
    omega
  case h_2 => rfl

theorem decode_of_pending (h : HasHeader limit received)
    (pending : received.length < declared received) : decode limit received = .incomplete := by
  rw [decode_of_hasHeader h, if_pos pending]

/-- A whole frame is taken, be its payload text or not. -/
theorem decode_of_whole (h : HasHeader limit received)
    (whole : declared received ≤ received.length) :
    decode limit received =
      match Text.ofBytes? (content received) with
      | some payload => .frame payload (received.drop (declared received))
      | none =>
        .fault (.notText ((Text.Fault.first (content received)).getD ⟨0, none⟩))
          (received.drop (declared received)) := by
  rw [decode_of_hasHeader h, if_neg (Nat.not_lt.mpr whole)]

theorem decode_image (h : Fits limit payload) (rest : Bytes) :
    decode limit (image payload ++ rest) = .frame payload rest := by
  have whole : declared (image payload ++ rest) ≤ (image payload ++ rest).length := by
    rw [declared_image payload h, List.length_append, length_image]
    omega
  rw [decode_of_whole (hasHeader_image h rest) whole, content_image payload h,
    declared_image payload h, Text.ofBytes?_bytes, List.drop_left' (length_image payload)]

theorem lengthBytes_declared (arrived : headerLength ≤ received.length) :
    lengthBytes (declared received) = received.take 4 := by
  match received with
  | a :: b :: c :: d :: rest =>
    have number : declared (a :: b :: c :: d :: rest) = lengthOf a b c d :=
      (lengthOf_eq a b c d).symm
    rw [number, lengthBytes_lengthOf]
    rfl

theorem declared_lt (arrived : headerLength ≤ received.length) :
    declared received < UInt32.size := by
  match received with
  | a :: b :: c :: d :: rest =>
    have number : declared (a :: b :: c :: d :: rest) = lengthOf a b c d :=
      (lengthOf_eq a b c d).symm
    rw [number]
    exact lengthOf_lt a b c d

/-- A frame is its header and what stands in the place of the payload. -/
theorem take_declared (h : HasHeader limit received) :
    received.take (declared received) =
      lengthBytes (declared received) ++ LinkFault.tag ++ content received :=
  calc received.take (declared received)
    _ = (received.take (declared received)).take headerLength ++ content received :=
      (List.take_append_drop headerLength _).symm
    _ = received.take headerLength ++ content received := by
      rw [List.take_take, Nat.min_eq_left h.covers_header]
    _ = received.take 4 ++ tagOf received ++ content received := by
      rw [tagOf, ← List.take_add]
      rfl
    _ = _ := by rw [lengthBytes_declared h.arrived, h.tag]

theorem eq_image_of_decode (h : decode limit received = .frame payload rest) :
    Fits limit payload ∧ received = image payload ++ rest := by
  by_cases arrived : headerLength ≤ received.length
  case neg =>
    rw [decode_of_short (Nat.not_le.mp arrived)] at h
    cases h
  have found := h
  rw [decode_eq arrived] at h
  split_ifs at h with short large strange pending
  have header : HasHeader limit received :=
    ⟨arrived, Nat.not_lt.mp short, Nat.not_lt.mp large, not_not.mp strange⟩
  rw [decode_of_whole header (Nat.not_lt.mp pending)] at found
  cases text : Text.ofBytes? (content received) with
  | none =>
    rw [text] at found
    cases found
  | some p =>
    rw [text] at found
    obtain ⟨rfl, rfl⟩ := Decoded.frame.inj found
    have same : content received = Text.bytes p := Text.ofBytes?_eq_some_iff.mp text
    have length : declared received = size p := by
      rw [size, ← same, content, List.length_drop, List.length_take]
      have := header.covers_header
      omega
    refine ⟨⟨length ▸ header.within_limit, length ▸ declared_lt arrived⟩, ?_⟩
    calc received
      _ = received.take (declared received) ++ received.drop (declared received) :=
        (List.take_append_drop _ _).symm
      _ = image p ++ received.drop (declared received) := by
        rw [take_declared header, same, image, length]

/-- Decoding gives a payload exactly where the received bytes start with its frame. -/
theorem decode_eq_frame_iff :
    decode limit received = .frame payload rest ↔
      Fits limit payload ∧ received = image payload ++ rest := by
  constructor
  · exact eq_image_of_decode
  · rintro ⟨fits, rfl⟩
    exact decode_image fits rest

/-- Unless a whole frame has arrived, all received bytes stay. -/
theorem rest_decode (missing : ¬ (HasHeader limit received ∧ declared received ≤ received.length)) :
    (decode limit received).rest received = received := by
  by_cases arrived : headerLength ≤ received.length
  case neg => rw [decode_of_short (Nat.not_le.mp arrived), Decoded.rest]
  rw [decode_eq arrived]
  split_ifs with short large strange pending
  · rfl
  · rfl
  · rfl
  · rfl
  · exact absurd ⟨⟨arrived, Nat.not_lt.mp short, Nat.not_lt.mp large, not_not.mp strange⟩,
      Nat.not_lt.mp pending⟩ missing

end decode

/-! ## Decoding and encoding -/

/-- Decoding gives a payload exactly where the received bytes start with what encoding makes of it,
and takes these bytes. A payload is refused exactly if its frame is larger than the limit, or than
four bytes can say. Where no frame is found, the header decides: it may be missing, declare too
short or too large a frame or bear another tag, in this order, or its frame may be incomplete, and
then all bytes stay. A whole frame whose payload is no text is a fault and is taken. -/
theorem decode_inverts_encode (limit : Nat) (received : Bytes) :
    (∀ payload rest, decode limit received = .frame payload rest ↔
      ∃ frame, encode limit payload = .ok frame ∧ received = frame ++ rest) ∧
    (∀ payload, (∃ f, encode limit payload = .error f) ↔
      limit < 8 + (Text.bytes payload).length ∨ 0xFFFFFFFF < 8 + (Text.bytes payload).length) ∧
    (received.length < 8 → decode limit received = .incomplete) ∧
    (8 ≤ received.length → declared received < 8 →
      decode limit received = .fault (.badLength (declared received)) received) ∧
    (8 ≤ received.length → 8 ≤ declared received → limit < declared received →
      decode limit received = .fault (.tooLarge (declared received) limit) received) ∧
    (8 ≤ received.length → 8 ≤ declared received → declared received ≤ limit →
      tagOf received ≠ LinkFault.tag →
      decode limit received = .fault (.badTag (tagOf received)) received) ∧
    (HasHeader limit received → received.length < declared received →
      decode limit received = .incomplete) ∧
    (HasHeader limit received → declared received ≤ received.length →
      (∀ payload, content received ≠ Text.bytes payload) →
      ∃ t, decode limit received = .fault (.notText t) (received.drop (declared received))) ∧
    (¬ (HasHeader limit received ∧ declared received ≤ received.length) →
      (decode limit received).rest received = received) := by
  refine ⟨?frame, ?refused, decode_of_short, ?badLength, ?tooLarge, ?badTag, decode_of_pending,
    ?notText, rest_decode⟩
  case frame =>
    intro payload rest
    simp only [decode_eq_frame_iff, encode_eq_ok_iff]
    constructor
    · rintro ⟨fits, same⟩
      exact ⟨image payload, ⟨fits, rfl⟩, same⟩
    · rintro ⟨frame, ⟨fits, rfl⟩, same⟩
      exact ⟨fits, same⟩
  case refused =>
    intro payload
    have bound : UInt32.size = 0xFFFFFFFF + 1 := rfl
    rw [encode_eq_error_iff, Fits, size, headerLength, bound]
    omega
  case badLength =>
    intro arrived (short : declared received < headerLength)
    rw [decode_eq arrived, if_pos short]
  case tooLarge =>
    intro arrived (covers : headerLength ≤ declared received) large
    rw [decode_eq arrived, if_neg (Nat.not_lt.mpr covers), if_pos large]
  case badTag =>
    intro arrived (covers : headerLength ≤ declared received) within strange
    rw [decode_eq arrived, if_neg (Nat.not_lt.mpr covers), if_neg (Nat.not_lt.mpr within),
      if_pos strange]
  case notText =>
    intro header whole noText
    have unread : Text.ofBytes? (content received) = none := by
      rw [Option.eq_none_iff_forall_not_mem]
      intro payload text
      exact noText payload (Text.ofBytes?_eq_some_iff.mp text)
    rw [decode_of_whole header whole, unread]
    exact ⟨_, rfl⟩

end Frame
end DebugBridge
