import DebugBridge.Host.Inbox

/-!
# Receiving one message after another

Every message has a byte at least, so the bytes that wait bound the number of messages, and to
receive all messages is to receive the first and then all others.
-/

namespace DebugBridge.Host

namespace Reading

/-- A message of no length is no request, so none is complete at the end of a line. -/
theorem endLine_ne_request (line : Bytes) (length : Option Nat) (m : RequestMessage) :
    endLine line length ≠ .request m := by
  have empty : endBody [] = .failed (.notRequest "") := rfl
  intro complete
  unfold endLine at complete
  split at complete
  case h_1 => cases complete
  case h_2 text _ =>
    dsimp only at complete
    split at complete
    case isTrue =>
      split at complete
      case h_2 =>
        rw [empty] at complete
        cases complete
      all_goals cases complete
    case isFalse =>
      split at complete
      case h_1 => cases complete
      case h_2 =>
        split at complete
        case isTrue => split at complete <;> cases complete
        case isFalse => cases complete

end Reading

namespace Inbox

theorem atEnd_ne_request (r : Reading) (m : RequestMessage) : atEnd r ≠ .request m := by
  intro complete
  unfold atEnd at complete
  split at complete
  case h_1 | h_2 => cases complete
  case h_3 line length _ =>
    split at complete
    case h_3 m' ended => exact Reading.endLine_ne_request _ _ m' ended
    all_goals cases complete

theorem pending_lt_of_receiveFrom {ending : StreamEnd} {r : Reading} {symbols : List Symbol}
    {m : RequestMessage} {j : Inbox} (received : receiveFrom ending r symbols = (.request m, j)) :
    j.pending.length < symbols.length := by
  induction symbols generalizing r with
  | nil =>
    unfold receiveFrom at received
    cases ending with
    | silent => cases received
    | closed => exact absurd (congrArg Prod.fst received) (atEnd_ne_request r m)
  | cons s rest ih =>
    unfold receiveFrom at received
    split at received
    case h_1 r' _ => exact Nat.lt_succ_of_lt (ih received)
    case h_2 =>
      cases received
      exact Nat.lt_succ_self _
    case h_3 => cases received

theorem pending_lt_of_receive {i j : Inbox} {m : RequestMessage}
    (received : i.receive = (.request m, j)) : j.pending.length < i.pending.length :=
  pending_lt_of_receiveFrom received

theorem receiveSome_eq {n : Nat} {i : Inbox} (enough : i.pending.length < n) :
    receiveSome n i = i.receiveAll := by
  have same (n k : Nat) (i : Inbox) (enough : i.pending.length < n)
      (enough' : i.pending.length < k) : receiveSome n i = receiveSome k i := by
    induction n generalizing k i with
    | zero => cases enough
    | succ n ih =>
      cases k with
      | zero => cases enough'
      | succ k =>
        unfold receiveSome
        split
        case h_1 m j received =>
          have less := pending_lt_of_receive received
          rw [ih k j (by omega) (by omega)]
        case h_2 => rfl
  exact same n _ i enough (Nat.lt_succ_self _)

theorem receiveAll_of_request {i j : Inbox} {m : RequestMessage}
    (received : i.receive = (.request m, j)) :
    i.receiveAll = (m :: j.receiveAll.1, j.receiveAll.2) := by
  rw [receiveAll, receiveSome, received]
  dsimp only
  rw [receiveSome_eq (pending_lt_of_receive received)]

theorem receiveAll_of_last {i j : Inbox} {last : Receipt} (received : i.receive = (last, j))
    (other : ∀ m, last ≠ .request m) : i.receiveAll = ([], last) := by
  rw [receiveAll, receiveSome, received]
  cases last with
  | request m => exact absurd rfl (other m)
  | closed | waiting | failed => rfl

/-- Who waits has read all that has come. -/
theorem receive_of_waiting {i j : Inbox} (waits : i.receive = (.waiting, j)) :
    j.receive = (.waiting, j) := by
  have still (ending : StreamEnd) (r : Reading) (symbols : List Symbol)
      (waits : receiveFrom ending r symbols = (.waiting, j)) : j.receive = (.waiting, j) := by
    induction symbols generalizing r with
    | nil =>
      unfold receiveFrom at waits
      cases ending with
      | silent =>
        cases waits
        rfl
      | closed =>
        obtain ⟨ended, -⟩ := Prod.ext_iff.mp waits
        dsimp only at ended
        unfold atEnd at ended
        split at ended
        case h_1 | h_2 => cases ended
        case h_3 => split at ended <;> cases ended
    | cons s rest ih =>
      unfold receiveFrom at waits
      split at waits
      case h_1 r' _ => exact ih r' waits
      case h_2 | h_3 => cases waits
  exact still _ _ _ waits

end Inbox
end DebugBridge.Host
