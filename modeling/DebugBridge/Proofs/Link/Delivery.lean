import DebugBridge.Proofs.Evaluation.Pace
import Mathlib.Data.List.Basic

/-!
# What becomes of published messages

Subscribers come to a feed, take their messages and go, each when it likes. The `Story` of a
subscriber is what of all this concerns it. It alone decides what the subscriber receives, and it
tells which messages are lost to it: those that are published while its buffer is full.
-/

namespace DebugBridge

/-- What has concerned a subscriber since it came. -/
inductive Story where
  /-- It came and asked for room for so many messages. -/
  | came (capacity : Nat)
  | published (before : Story) (m : Message)
  /-- It took the next message, if there was one. -/
  | tookNext (before : Story)
  | tookAll (before : Story)
  /-- It went, and left what it had not taken. -/
  | went (before : Story)
  /-- The feed was closed. -/
  | closed (before : Story)

/-- A message that is offered to a subscriber. -/
structure Offer where
  message : Message
  /-- The buffer of the subscriber held as many messages as it has room for. -/
  full : Bool

namespace Story

/-- How many messages the subscriber has room for. There is room for one at least. -/
def room : Story → Nat
  | came capacity => max capacity 1
  | published before _ | tookNext before | tookAll before | went before | closed before =>
    before.room

/-- The subscriber has not gone. -/
def isPresent : Story → Bool
  | came _ => true
  | went _ => false
  | published before _ | tookNext before | tookAll before | closed before => before.isPresent

/-- The subscriber has not gone, and the feed has not been closed. -/
def isOpen : Story → Bool
  | came _ => true
  | went _ | closed _ => false
  | published before _ | tookNext before | tookAll before => before.isOpen

/-- The feed counts the subscriber. One that has gone is counted until the next publication. -/
def isCounted : Story → Bool
  | came _ => true
  | published before _ => before.isOpen
  | closed _ => false
  | tookNext before | tookAll before | went before => before.isCounted

/-- The messages published since the subscriber came. -/
def messages : Story → List Message
  | came _ => []
  | published before m => before.messages ++ [m]
  | tookNext before | tookAll before | went before | closed before => before.messages

/-- The subscriber with this story. -/
def subscriber : Story → Subscriber
  | came capacity => .ofCapacity capacity
  | published before m => before.subscriber.offer m
  | tookNext before => { before.subscriber with buffer := before.subscriber.buffer.tail }
  | tookAll before => { before.subscriber with buffer := [] }
  | went before => { before.subscriber with listening := false, buffer := [] }
  | closed before => { before.subscriber with attached := false }

def buffer (s : Story) : List Message := s.subscriber.buffer

/-- The messages that the subscriber has taken, in order. -/
def received : Story → List Message
  | came _ => []
  | tookNext before => before.received ++ before.buffer.take 1
  | tookAll before => before.received ++ before.buffer
  | published before _ | went before | closed before => before.received

/-- The messages published while the subscriber could be offered any. -/
def offers : Story → List Offer
  | came _ => []
  | published before m =>
    before.offers ++ if before.isOpen then [⟨m, before.buffer.length = before.room⟩] else []
  | tookNext before | tookAll before | went before | closed before => before.offers

/-- The offers that found room. -/
def kept (s : Story) : List Message := (s.offers.filter (!·.full)).map Offer.message

/-- How many messages were lost to the subscriber. -/
def lost (s : Story) : Nat := s.offers.countP Offer.full

end Story

namespace Subscriber
variable (s : Subscriber) (m : Message)

@[simp] theorem capacity_offer : (s.offer m).capacity = s.capacity := by
  unfold offer
  repeat' split
  all_goals rfl

@[simp] theorem listening_offer : (s.offer m).listening = s.listening := by
  unfold offer
  repeat' split
  all_goals rfl

/-- An offer removes a subscriber that has gone, and no other. -/
@[simp] theorem attached_offer : (s.offer m).attached = (s.attached && s.listening) := by
  obtain ⟨capacity, buffer, attached, listening⟩ := s
  cases attached <;> cases listening <;> simp [offer]
  split <;> rfl

@[simp] theorem buffer_offer : (s.offer m).buffer =
    s.buffer ++ if s.attached && s.listening && !s.isFull then [m] else [] := by
  obtain ⟨capacity, buffer, attached, listening⟩ := s
  cases attached <;> cases listening <;> simp [offer]
  split <;> simp_all

end Subscriber

/-! ## One subscriber -/

namespace Story
variable (s : Story)

theorem capacity_subscriber : s.subscriber.capacity = s.room := by
  induction s with
  | came => rfl
  | published before m ih => simpa [subscriber, room] using ih
  | tookNext before ih | tookAll before ih | went before ih | closed before ih => exact ih

theorem listening_subscriber : s.subscriber.listening = s.isPresent := by
  induction s with
  | came | went => rfl
  | published before m ih => simpa [subscriber, isPresent] using ih
  | tookNext before ih | tookAll before ih | closed before ih => exact ih

theorem isOpen_eq : s.isOpen = (s.subscriber.attached && s.subscriber.listening) := by
  induction s with
  | came | closed => rfl
  | went before => simp [isOpen, subscriber]
  | published before m ih => simp [subscriber, isOpen, ih]
  | tookNext before ih | tookAll before ih => exact ih

theorem attached_subscriber : s.subscriber.attached = s.isCounted := by
  induction s with
  | came | closed => rfl
  | published before m ih => simp [subscriber, isCounted, isOpen_eq]
  | tookNext before ih | tookAll before ih | went before ih => exact ih

/-- The buffer holds no more than there is room for. -/
theorem length_buffer_le : s.buffer.length ≤ s.room := by
  induction s with
  | came => exact Nat.zero_le _
  | published before m ih =>
    have capacity := before.capacity_subscriber
    simp only [buffer, subscriber, Subscriber.buffer_offer, room] at ih ⊢
    split
    case isTrue free =>
      have less : before.subscriber.buffer.length < before.room := by
        simp_all [Subscriber.isFull]
      simpa using Nat.succ_le_of_lt less
    case isFalse => simpa using ih
  | tookNext before ih =>
    have shorter : (tookNext before).buffer.length = before.buffer.length - 1 :=
      List.length_tail
    rw [shorter]
    exact Nat.le_trans (Nat.sub_le _ _) ih
  | tookAll before | went before => exact Nat.zero_le _
  | closed before ih => exact ih

theorem isFull_subscriber : s.subscriber.isFull = decide (s.buffer.length = s.room) := by
  have within := s.length_buffer_le
  rw [Subscriber.isFull, capacity_subscriber, ← buffer]
  grind

theorem misses_subscriber :
    s.subscriber.misses = (s.isOpen && decide (s.buffer.length = s.room)) := by
  rw [Subscriber.misses, isFull_subscriber, isOpen_eq]

theorem buffer_published (m : Message) : (published s m).buffer =
    s.buffer ++ if s.isOpen && !decide (s.buffer.length = s.room) then [m] else [] := by
  rw [isOpen_eq, ← isFull_subscriber]
  exact s.subscriber.buffer_offer m

theorem kept_published (m : Message) : (published s m).kept =
    s.kept ++ if s.isOpen && !decide (s.buffer.length = s.room) then [m] else [] := by
  rw [kept, offers, kept]
  cases s.isOpen <;> cases decide (s.buffer.length = s.room) <;> simp

theorem lost_published (m : Message) :
    (published s m).lost = s.lost + s.subscriber.misses.toNat := by
  rw [lost, offers, lost, misses_subscriber]
  cases s.isOpen <;> cases decide (s.buffer.length = s.room) <;> simp

/-- What has been received and what is still buffered is what found room. -/
theorem received_append_buffer (present : s.isPresent) : s.received ++ s.buffer = s.kept := by
  induction s with
  | came => rfl
  | published before m ih =>
    rw [received, buffer_published, kept_published, ← ih present, List.append_assoc]
  | tookNext before ih =>
    have split : before.buffer.take 1 ++ (tookNext before).buffer = before.buffer := by
      simpa [buffer, subscriber] using List.take_append_drop 1 before.subscriber.buffer
    rw [received, List.append_assoc, split]
    exact ih present
  | tookAll before ih =>
    have none : (tookAll before).buffer = [] := rfl
    rw [received, none, List.append_nil]
    exact ih present
  | went => cases present
  | closed before ih => exact ih present

theorem buffer_of_gone (gone : s.isPresent = false) : s.buffer = [] := by
  induction s with
  | came => cases gone
  | published before m ih =>
    have left : before.isPresent = false := gone
    have shut : before.isOpen = false := by
      rw [isOpen_eq, listening_subscriber, left, Bool.and_false]
    rw [buffer_published, shut, ih gone]
    rfl
  | tookNext before ih => exact congrArg List.tail (ih gone)
  | tookAll | went => rfl
  | closed before ih => exact ih gone

/-- A subscriber that has gone had received the start of what found room. -/
theorem received_prefix : s.received <+: s.kept := by
  induction s with
  | came => exact List.nil_prefix
  | published before m ih =>
    rw [kept_published]
    exact ih.trans (List.prefix_append _ _)
  | tookNext before ih | tookAll before ih =>
    cases present : before.isPresent with
    | true => exact ⟨_, received_append_buffer _ present⟩
    | false =>
      have none := buffer_of_gone _ present
      simp only [received, none, List.take_nil, List.append_nil]
      exact ih
  | went before ih | closed before ih => exact ih

/-- Until the feed is closed or the subscriber goes, it is offered all that is published. -/
theorem messages_offers (h : s.isOpen) : s.offers.map Offer.message = s.messages := by
  induction s with
  | came => rfl
  | published before m ih =>
    have before_open : before.isOpen := h
    rw [offers, if_pos before_open, List.map_append, ih h]
    rfl
  | tookNext before ih | tookAll before ih => exact ih h
  | went | closed => cases h

end Story

/-! ## All subscribers of a feed -/

namespace Feed

/-- What is done with a feed. -/
inductive Use where
  | subscribe (capacity : Nat)
  | publish (m : Message)
  /-- A subscriber takes its next message, if there is one. -/
  | next (number : Nat)
  | take (number : Nat)
  | leave (number : Nat)
  | close

def use (f : Feed) : Use → Feed
  | .subscribe capacity => (f.subscribe capacity).2
  | .publish m => f.publish m
  | .next number => ((f.next? number).map Prod.snd).getD f
  | .take number => (f.take number).2.2
  | .leave number => f.leave number
  | .close => f.close

/-- The messages that a subscriber takes by a use. -/
def takenBy (f : Feed) (number : Nat) : Use → List Message
  | .next j => if j = number then ((f.next? number).map Prod.fst).toList else []
  | .take j => if j = number then (f.take number).1 else []
  | .subscribe _ | .publish _ | .leave _ | .close => []

/-- The feed that is left by uses of an empty one, the latest first. -/
def ofUses : List Use → Feed
  | [] => .empty
  | u :: earlier => (ofUses earlier).use u

/-- What a subscriber has taken, in order. -/
def received (number : Nat) : List Use → List Message
  | [] => []
  | u :: earlier => received number earlier ++ (ofUses earlier).takenBy number u

/-- The stories of the subscribers, in the order in which they came. -/
def stories : List Use → List Story
  | [] => []
  | .subscribe capacity :: earlier => stories earlier ++ [.came capacity]
  | .publish m :: earlier => (stories earlier).map (.published · m)
  | .next number :: earlier => (stories earlier).modify number .tookNext
  | .take number :: earlier => (stories earlier).modify number .tookAll
  | .leave number :: earlier => (stories earlier).modify number .went
  | .close :: earlier => (stories earlier).map .closed

theorem map_modify {α β : Type} {f : α → β} {g : α → α} {g' : β → β} (h : ∀ a, f (g a) = g' (f a))
    (l : List α) (n : Nat) : (l.modify n g).map f = (l.map f).modify n g' := by
  refine List.ext_getElem? fun k => ?_
  simp only [List.getElem?_map, List.getElem?_modify]
  cases l[k]? <;> grind

theorem map_modify_of_same {α β : Type} {f : α → β} {g : α → α} (same : ∀ a, f (g a) = f a)
    (l : List α) (n : Nat) : (l.modify n g).map f = l.map f := by
  have unchanged : (l.modify n g).map f = (l.map f).modify n id := map_modify same l n
  rw [unchanged, List.modify_id]

/-- Taking the next message changes the buffer of one subscriber. -/
theorem subscribers_next (f : Feed) (number : Nat) :
    (f.use (.next number)).subscribers =
      f.subscribers.modify number fun s => { s with buffer := s.buffer.tail } := by
  rw [List.modify_eq_set_getElem?, use, next?]
  cases found : f.subscribers[number]? with
  | none => rfl
  | some s =>
    cases buffer : s.buffer with
    | nil =>
      obtain ⟨bound, here⟩ := List.getElem?_eq_some_iff.mp found
      have same : { s with buffer := [] } = s := by
        cases s
        cases buffer
        rfl
      have kept : f.subscribers.set number s = f.subscribers := by simp [← here]
      simp [buffer, same, kept]
    | cons m rest => simp [buffer]

theorem lost_next (f : Feed) (number : Nat) : (f.use (.next number)).lost = f.lost := by
  rw [use, next?]
  cases f.subscribers[number]? with
  | none => rfl
  | some s => cases buffer : s.buffer <;> simp [buffer]

theorem subscribers_take (f : Feed) (number : Nat) :
    (f.use (.take number)).subscribers =
      f.subscribers.modify number fun s => { s with buffer := [] } := by
  rw [List.modify_eq_set_getElem?, use, take]
  cases f.subscribers[number]? <;> rfl

/-- What one use does to the subscribers, it does to their stories. -/
theorem subscribers_ofUses (uses : List Use) :
    (ofUses uses).subscribers = (stories uses).map Story.subscriber := by
  induction uses with
  | nil => rfl
  | cons u earlier ih =>
    cases u with
    | subscribe capacity => simp [ofUses, use, Feed.subscribe, stories, ih, Story.subscriber]
    | publish m => simp [ofUses, use, Feed.publish, stories, ih, Story.subscriber]
    | next number =>
      rw [ofUses, subscribers_next, ih, stories]
      refine (map_modify ?_ _ _).symm
      exact fun _ => rfl
    | take number =>
      rw [ofUses, subscribers_take, ih, stories]
      refine (map_modify ?_ _ _).symm
      exact fun _ => rfl
    | leave number =>
      rw [ofUses, use, leave, ih, stories]
      refine (map_modify ?_ _ _).symm
      exact fun _ => rfl
    | close => simp [ofUses, use, Feed.close, stories, ih, Story.subscriber]

theorem subscriber_ofUses (uses : List Use) (number : Nat) :
    (ofUses uses).subscribers[number]? = (stories uses)[number]?.map Story.subscriber := by
  rw [subscribers_ofUses, List.getElem?_map]

theorem takenBy_next (f : Feed) (number : Nat) :
    f.takenBy number (.next number) =
      (f.subscribers[number]?.map (·.buffer.take 1)).getD [] := by
  rw [takenBy, if_pos rfl, next?]
  cases f.subscribers[number]? with
  | none => rfl
  | some s => cases buffer : s.buffer <;> simp [buffer]

theorem takenBy_take (f : Feed) (number : Nat) :
    f.takenBy number (.take number) = (f.subscribers[number]?.map (·.buffer)).getD [] := by
  rw [takenBy, if_pos rfl, take]
  cases f.subscribers[number]? <;> rfl

/-- What a subscriber has taken is told by its story. -/
theorem received_eq (number : Nat) (uses : List Use) :
    received number uses = ((stories uses)[number]?.map Story.received).getD [] := by
  induction uses with
  | nil => rfl
  | cons u earlier ih =>
    have subscriber := subscriber_ofUses earlier number
    rw [received, ih]
    cases u with
    | subscribe capacity =>
      rw [stories, takenBy, List.append_nil, List.getElem?_append]
      split
      case isTrue => rfl
      case isFalse late =>
        rw [List.getElem?_eq_none (Nat.le_of_not_lt late)]
        cases number - (stories earlier).length <;> rfl
    | publish m | close =>
      rw [stories, takenBy, List.append_nil, List.getElem?_map]
      cases (stories earlier)[number]? <;> rfl
    | leave j =>
      rw [stories, takenBy, List.append_nil, List.getElem?_modify]
      cases (stories earlier)[number]? <;> grind [Story.received]
    | next j =>
      rw [stories, List.getElem?_modify]
      by_cases same : j = number
      · subst same
        rw [takenBy_next, subscriber]
        cases (stories earlier)[j]? <;> simp [Story.received, Story.buffer]
      · simp [takenBy, same]
    | take j =>
      rw [stories, List.getElem?_modify]
      by_cases same : j = number
      · subst same
        rw [takenBy_take, subscriber]
        cases (stories earlier)[j]? <;> simp [Story.received, Story.buffer]
      · simp [takenBy, same]

/-- How many messages are lost to subscribers with these stories, all together. -/
def lostToAll : List Story → Nat
  | [] => 0
  | s :: others => s.lost + lostToAll others

theorem lostToAll_append (l k : List Story) : lostToAll (l ++ k) = lostToAll l + lostToAll k := by
  induction l with
  | nil => simp [lostToAll]
  | cons s l ih => rw [List.cons_append, lostToAll, lostToAll, ih, Nat.add_assoc]

theorem lostToAll_congr {l k : List Story} (same : l.map Story.lost = k.map Story.lost) :
    lostToAll l = lostToAll k := by
  induction l generalizing k with
  | nil =>
    obtain rfl := List.map_eq_nil_iff.mp same.symm
    rfl
  | cons s l ih =>
    cases k with
    | nil => cases same
    | cons s' k =>
      obtain ⟨first, others⟩ := List.cons.inj same
      rw [lostToAll, lostToAll, first, ih others]

theorem lostToAll_published (l : List Story) (m : Message) :
    lostToAll (l.map (.published · m)) =
      lostToAll l + (l.map Story.subscriber).countP Subscriber.misses := by
  induction l with
  | nil => rfl
  | cons s l ih =>
    simp only [List.map_cons, lostToAll, ih, Story.lost_published, List.countP_cons]
    cases s.subscriber.misses <;> simp <;> omega

/-- The feed counts what is lost to any subscriber. -/
theorem lost_ofUses (uses : List Use) : (ofUses uses).lost = lostToAll (stories uses) := by
  induction uses with
  | nil => rfl
  | cons u earlier ih =>
    cases u with
    | subscribe capacity =>
      rw [stories, lostToAll_append, ← ih]
      rfl
    | publish m =>
      rw [stories, lostToAll_published, ← ih, ← subscribers_ofUses]
      rfl
    | next j =>
      have same (s : Story) : (Story.tookNext s).lost = s.lost := rfl
      rw [stories, lostToAll_congr (map_modify_of_same same _ _), ← ih, ofUses, lost_next]
    | take j =>
      have same (s : Story) : (Story.tookAll s).lost = s.lost := rfl
      rw [stories, lostToAll_congr (map_modify_of_same same _ _), ← ih, ofUses, use, take]
      split <;> rfl
    | leave j =>
      have same (s : Story) : (Story.went s).lost = s.lost := rfl
      rw [stories, lostToAll_congr (map_modify_of_same same _ _), ← ih]
      rfl
    | close =>
      have same : ((stories earlier).map Story.closed).map Story.lost =
          (stories earlier).map Story.lost := List.map_map
      rw [stories, lostToAll_congr same, ofUses, use, close, ih]

theorem count_ofUses (uses : List Use) :
    (ofUses uses).count = (stories uses).countP Story.isCounted := by
  rw [count, subscribers_ofUses, List.countP_map]
  exact List.countP_congr fun s _ => by simp [s.attached_subscriber]

/-- Whatever is done with a feed, what a subscriber has taken and still buffers are the messages
published since it came, but for those published while its buffer held as many as there is room
for; the feed counts these over all subscribers. Who has gone is counted until the next publication
and is offered nothing more. What a subscriber takes and buffers is told by its own story: it does
not depend on who else is there, with what room, and when they take their messages. -/
theorem published_taken_or_lost (uses : List Use) :
    (ofUses uses).subscribers = (stories uses).map Story.subscriber ∧
    (∀ number story, (stories uses)[number]? = some story →
      (story.isOpen → story.offers.map Offer.message = story.messages) ∧
      (story.isPresent → received number uses ++ story.buffer = story.kept) ∧
      received number uses <+: story.kept) ∧
    (ofUses uses).lost = lostToAll (stories uses) ∧
    (ofUses uses).count = (stories uses).countP Story.isCounted ∧
    (∀ number, (ofUses (.leave number :: uses)).count = (ofUses uses).count) ∧
    (∀ m, (ofUses (.publish m :: uses)).count = (stories uses).countP Story.isOpen) ∧
    ∀ others number number',
      (stories uses)[number]? = (stories others)[number']? →
      received number uses = received number' others ∧
      (ofUses uses).subscribers[number]? = (ofUses others).subscribers[number']? := by
  refine ⟨subscribers_ofUses uses, ?each, lost_ofUses uses, count_ofUses uses, ?leave, ?publish,
    ?alone⟩
  case each =>
    intro number story told
    have taken : received number uses = story.received := by
      rw [received_eq, told, Option.map_some, Option.getD_some]
    rw [taken]
    exact ⟨story.messages_offers, story.received_append_buffer, story.received_prefix⟩
  case leave =>
    intro number
    have same (s : Story) : (Story.went s).isCounted = s.isCounted := rfl
    have counted (l : List Story) :
        l.countP Story.isCounted = (l.map Story.isCounted).countP id := by
      rw [List.countP_map]
      rfl
    rw [count_ofUses, count_ofUses, stories, counted, map_modify_of_same same, ← counted]
  case publish =>
    intro m
    rw [count_ofUses, stories, List.countP_map]
    rfl
  case alone =>
    intro others number number' same
    rw [received_eq, received_eq, subscriber_ofUses, subscriber_ofUses, same]
    exact ⟨rfl, rfl⟩

/-- Of three messages a subscriber that asked for no room gets the first; nobody else loses any, and
one that has gone is no longer counted. -/
example :
    let uses : List Use := [.take 0, .publish (.raw "c"), .publish (.raw "b"), .publish (.raw "a"),
      .leave 2, .subscribe 4, .subscribe 8, .subscribe 0]
    received 0 uses = [.raw "a"] ∧ (ofUses uses).lost = 2 ∧ (ofUses uses).count = 2 ∧
      (ofUses uses).subscribers.map Subscriber.buffer = [[], [.raw "a", .raw "b", .raw "c"], []] :=
  ⟨rfl, rfl, rfl, rfl⟩

end Feed
end DebugBridge
