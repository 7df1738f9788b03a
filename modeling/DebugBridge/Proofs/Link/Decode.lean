import DebugBridge.Link.Frame
import Mathlib.Data.List.TakeDrop

/-!
# Decoding the start of a stream

What decoding says of some bytes it says of them with more bytes behind, except where it waits for
more. A fault of the header takes no bytes, so it is met again; a payload that is no text is taken
with its frame.
-/

namespace DebugBridge.Frame

/-- What has been decoded, with more bytes behind what is left. -/
def Decoded.before (more : Bytes) : Decoded → Decoded
  | incomplete => incomplete
  | frame payload rest => frame payload (rest ++ more)
  | fault f rest => fault f (rest ++ more)

/-- More bytes behind do not change what is decoded, once it does not wait for them. -/
theorem decode_append {limit : Nat} {received : Bytes} (h : decode limit received ≠ .incomplete)
    (more : Bytes) : decode limit (received ++ more) = (decode limit received).before more := by
  match received with
  | a :: b :: c :: d :: t₁ :: t₂ :: t₃ :: t₄ :: body =>
    simp only [List.cons_append]
    rw [decode] at h
    rw [decode, decode]
    generalize lengthOf a b c d = total at h ⊢
    by_cases short : total < headerLength
    · rw [if_pos short, if_pos short]
      rfl
    by_cases large : limit < total
    · rw [if_neg short, if_neg short, if_pos large, if_pos large]
      rfl
    by_cases tag : [t₁, t₂, t₃, t₄] ≠ LinkFault.tag
    · rw [if_neg short, if_neg short, if_neg large, if_neg large, if_pos tag, if_pos tag]
      rfl
    rw [if_neg short, if_neg large, if_neg tag] at h
    rw [if_neg short, if_neg short, if_neg large, if_neg large, if_neg tag, if_neg tag]
    simp only [List.length_take, List.length_append] at h ⊢
    by_cases missing : min (total - headerLength) body.length < total - headerLength
    · rw [if_pos missing] at h
      exact absurd rfl h
    have whole : total - headerLength ≤ body.length := by omega
    have enough : ¬ min (total - headerLength) (body.length + more.length) <
        total - headerLength := by omega
    rw [if_neg missing, if_neg enough, List.take_append_of_le_length whole,
      List.drop_append_of_le_length whole]
    cases Text.ofBytes? (body.take (total - headerLength)) <;> rfl

/-- A fault of the header takes no bytes. -/
theorem rest_of_decode_fault {limit : Nat} {received rest : Bytes} {f : LinkFault}
    (h : decode limit received = .fault f rest) (header : ∀ t, f ≠ .notText t) :
    rest = received := by
  match received with
  | a :: b :: c :: d :: t₁ :: t₂ :: t₃ :: t₄ :: body =>
    rw [decode] at h
    generalize lengthOf a b c d = total at h
    split_ifs at h
    · exact (Decoded.fault.inj h).2.symm
    · exact (Decoded.fault.inj h).2.symm
    · exact (Decoded.fault.inj h).2.symm
    · simp only at h
      split at h
      · cases h
      · split at h
        · cases h
        · exact absurd (Decoded.fault.inj h).1.symm (header _)

end DebugBridge.Frame
