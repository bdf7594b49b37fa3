import Lecoo.Effects.Machine
import Mathlib.Logic.Function.Basic

namespace Lecoo.Effects

/-! # Feeds

A publisher stores a value and then emits an event for it.  A subscriber asks once
for the stored value and listens to the events from some point on.  The answer and
the events travel independently, the events among themselves in the order they were
emitted in.
-/

/-- What has become of the question for the stored value. -/
inductive Answer (V : Type) where
  | asked
  | onTheWay (value : V)
  | delivered (value : V)
deriving Repr, DecidableEq

/-- A subscriber: the events on their way to it, those it has received, and its state. -/
structure Subscriber (V E β : Type) where
  answer : Answer V
  listening : Bool
  inbox : List E
  heard : List E
  state : β

structure Feed (ι V E β : Type) where
  stored : V
  /-- The event that is stored and not yet emitted. -/
  unsent : Option E
  subscriber : ι → Subscriber V E β

namespace Feed

/-- What is stored for an event, which events may come next, and what a subscriber
does with an answer, with an event and on its own. -/
structure Roles (V E A β : Type) where
  keep : E → V
  follows : V → E → Bool
  onAnswer : β → V → β
  onEvent : β → E → β
  onAction : β → A → β

inductive Step (ι E A : Type) where
  | store (event : E)
  | emit
  | read (i : ι)
  | answer (i : ι)
  | listen (i : ι)
  | receive (i : ι)
  | act (i : ι) (action : A)
deriving Repr, DecidableEq

variable {ι V E A β : Type} [DecidableEq ι] {roles : Roles V E A β} {feed after : Feed ι V E β}
  {step : Step ι E A}

def start (stored : V) (state : β) : Feed ι V E β where
  stored := stored
  unsent := none
  subscriber := fun _ => { answer := .asked, listening := false, inbox := [], heard := [], state }

/-- An event reaches the subscribers that listen when it is emitted. -/
def hear (event : E) (subscriber : Subscriber V E β) : Subscriber V E β :=
  if subscriber.listening then { subscriber with inbox := subscriber.inbox ++ [event] }
  else subscriber

def put (feed : Feed ι V E β) (i : ι) (subscriber : Subscriber V E β) : Feed ι V E β :=
  { feed with subscriber := Function.update feed.subscriber i subscriber }

def next (roles : Roles V E A β) : Machine (Feed ι V E β) (Step ι E A)
  | feed, .store event =>
      match feed.unsent with
      | none =>
          if roles.follows feed.stored event then
            some { feed with stored := roles.keep event, unsent := some event }
          else none
      | some _ => none
  | feed, .emit =>
      match feed.unsent with
      | some event =>
          some { feed with unsent := none, subscriber := fun i => hear event (feed.subscriber i) }
      | none => none
  | feed, .read i =>
      match (feed.subscriber i).answer with
      | .asked => some (feed.put i { feed.subscriber i with answer := .onTheWay feed.stored })
      | _ => none
  | feed, .answer i =>
      match (feed.subscriber i).answer with
      | .onTheWay value =>
          some (feed.put i { feed.subscriber i with
            answer := .delivered value
            state := roles.onAnswer (feed.subscriber i).state value })
      | _ => none
  | feed, .listen i =>
      if (feed.subscriber i).listening then none
      else some (feed.put i { feed.subscriber i with listening := true })
  | feed, .receive i =>
      match (feed.subscriber i).inbox with
      | event :: rest =>
          some (feed.put i { feed.subscriber i with
            inbox := rest
            heard := (feed.subscriber i).heard ++ [event]
            state := roles.onEvent (feed.subscriber i).state event })
      | [] => none
  | feed, .act i action =>
      some (feed.put i { feed.subscriber i with
        state := roles.onAction (feed.subscriber i).state action })

/-- What each step can do, with what has to be the case before it. -/
inductive Moves (roles : Roles V E A β) (feed : Feed ι V E β) :
    Step ι E A → Feed ι V E β → Prop where
  | store {event : E} (sent : feed.unsent = none)
      (follows : roles.follows feed.stored event = true) :
      Moves roles feed (.store event)
        { feed with stored := roles.keep event, unsent := some event }
  | emit {event : E} (unsent : feed.unsent = some event) :
      Moves roles feed .emit
        { feed with unsent := none, subscriber := fun i => hear event (feed.subscriber i) }
  | read {i : ι} (asked : (feed.subscriber i).answer = .asked) :
      Moves roles feed (.read i)
        (feed.put i { feed.subscriber i with answer := .onTheWay feed.stored })
  | answer {i : ι} {value : V} (answered : (feed.subscriber i).answer = .onTheWay value) :
      Moves roles feed (.answer i) (feed.put i { feed.subscriber i with
        answer := .delivered value
        state := roles.onAnswer (feed.subscriber i).state value })
  | listen {i : ι} (deaf : (feed.subscriber i).listening = false) :
      Moves roles feed (.listen i) (feed.put i { feed.subscriber i with listening := true })
  | receive {i : ι} {event : E} {rest : List E}
      (first : (feed.subscriber i).inbox = event :: rest) :
      Moves roles feed (.receive i) (feed.put i { feed.subscriber i with
        inbox := rest
        heard := (feed.subscriber i).heard ++ [event]
        state := roles.onEvent (feed.subscriber i).state event })
  | act (i : ι) (action : A) :
      Moves roles feed (.act i action) (feed.put i { feed.subscriber i with
        state := roles.onAction (feed.subscriber i).state action })

theorem moves_of_next (stepped : next roles feed step = some after) :
    Moves roles feed step after := by
  cases step with
  | store event =>
      cases unsent : feed.unsent with
      | some _ => simp [next, unsent] at stepped
      | none =>
          by_cases follows : roles.follows feed.stored event = true
          · simp only [next, unsent, follows, if_true, Option.some.injEq] at stepped
            subst stepped
            exact .store unsent follows
          · simp [next, unsent, follows] at stepped
  | emit =>
      cases unsent : feed.unsent with
      | none => simp [next, unsent] at stepped
      | some event =>
          simp only [next, unsent, Option.some.injEq] at stepped
          subst stepped
          exact .emit unsent
  | read i =>
      cases answer : (feed.subscriber i).answer with
      | asked =>
          simp only [next, answer, Option.some.injEq] at stepped
          subst stepped
          exact .read answer
      | onTheWay value => simp [next, answer] at stepped
      | delivered value => simp [next, answer] at stepped
  | answer i =>
      cases answer : (feed.subscriber i).answer with
      | asked => simp [next, answer] at stepped
      | onTheWay value =>
          simp only [next, answer, Option.some.injEq] at stepped
          subst stepped
          exact .answer answer
      | delivered value => simp [next, answer] at stepped
  | listen i =>
      cases listening : (feed.subscriber i).listening with
      | true => simp [next, listening] at stepped
      | false =>
          simp only [next, listening, Bool.false_eq_true, if_false, Option.some.injEq] at stepped
          subst stepped
          exact .listen listening
  | receive i =>
      cases inbox : (feed.subscriber i).inbox with
      | nil => simp [next, inbox] at stepped
      | cons event rest =>
          simp only [next, inbox, Option.some.injEq] at stepped
          subst stepped
          exact .receive inbox
  | act i action =>
      cases stepped
      exact .act i action

section Put

variable {i j : ι} {subscriber : Subscriber V E β}

@[simp] theorem put_unsent : (feed.put i subscriber).unsent = feed.unsent := rfl

@[simp] theorem put_same : (feed.put i subscriber).subscriber i = subscriber := by simp [put]

@[simp] theorem put_other (other : j ≠ i) :
    (feed.put i subscriber).subscriber j = feed.subscriber j := by
  simp [put, other]

theorem forall_put {holds : Subscriber V E β → Prop} (all : ∀ k, holds (feed.subscriber k))
    (changed : holds (feed.subscriber i) → holds subscriber) (k : ι) :
    holds ((feed.put i subscriber).subscriber k) := by
  by_cases same : k = i
  · subst same
    rw [put_same]
    exact changed (all k)
  · rw [put_other same]
    exact all k

end Put

/-- Nothing reaches a subscriber that does not listen, and once everything is emitted
the last event on its way is the one that is stored. -/
structure Supplied (roles : Roles V E A β) (stored : V) (unsent : Option E)
    (subscriber : Subscriber V E β) : Prop where
  deaf : subscriber.listening = false → subscriber.inbox = []
  last : unsent = none → ∀ event, subscriber.inbox.getLast? = some event →
    roles.keep event = stored

structure Regular (roles : Roles V E A β) (feed : Feed ι V E β) : Prop where
  unsent : ∀ event, feed.unsent = some event → roles.keep event = feed.stored
  supplied : ∀ i, Supplied roles feed.stored feed.unsent (feed.subscriber i)

omit [DecidableEq ι] in
theorem regular_start (roles : Roles V E A β) (stored : V) (state : β) :
    Regular (ι := ι) roles (start stored state) := by
  refine ⟨?_, fun i => ⟨fun _ => rfl, ?_⟩⟩
  · intro event impossible
    cases impossible
  · intro _ event impossible
    cases impossible

/-- The event that is emitted is the last one for those who listen. -/
theorem Supplied.hear {stored : V} {event : E} {subscriber : Subscriber V E β}
    (supplied : Supplied roles stored (some event) subscriber)
    (isStored : roles.keep event = stored) :
    Supplied roles stored none (hear event subscriber) := by
  cases listening : subscriber.listening with
  | false =>
      have empty := supplied.deaf listening
      simp only [Feed.hear, listening, Bool.false_eq_true, if_false]
      refine ⟨fun _ => empty, ?_⟩
      intro _ event' last
      rw [empty] at last
      cases last
  | true =>
      simp only [Feed.hear, listening, if_true]
      refine ⟨?_, ?_⟩
      · intro silent
        cases silent
      · intro _ event' last
        rw [List.getLast?_append, List.getLast?_singleton, Option.some_or] at last
        cases last
        exact isStored

theorem Regular.moves (regular : Regular roles feed) (moved : Moves roles feed step after) :
    Regular roles after := by
  obtain ⟨unsent, supplied⟩ := regular
  cases moved with
  | @store event sent follows =>
      refine ⟨?_, fun i => ⟨(supplied i).deaf, ?_⟩⟩
      · intro event' same
        cases same
        rfl
      · intro impossible
        cases impossible
  | @emit event isUnsent =>
      refine ⟨?_, fun i => ?_⟩
      · intro event' impossible
        cases impossible
      · have supplied := supplied i
        rw [isUnsent] at supplied
        exact supplied.hear (unsent event isUnsent)
  | read _ => exact ⟨unsent, forall_put supplied fun fits => ⟨fits.deaf, fits.last⟩⟩
  | answer _ => exact ⟨unsent, forall_put supplied fun fits => ⟨fits.deaf, fits.last⟩⟩
  | listen _ =>
      refine ⟨unsent, forall_put supplied fun fits => ⟨?_, fits.last⟩⟩
      intro silent
      cases silent
  | @receive i event rest first =>
      refine ⟨unsent, forall_put supplied fun fits => ⟨?_, ?_⟩⟩
      · intro silent
        have empty := fits.deaf silent
        rw [first] at empty
        cases empty
      · intro sent event' last
        refine fits.last sent event' ?_
        rw [first, List.getLast?_cons, last]
        rfl
  | act _ _ => exact ⟨unsent, forall_put supplied fun fits => ⟨fits.deaf, fits.last⟩⟩

/-- The events for one subscriber, from the first it has received to the one that is
about to be emitted. -/
def course (feed : Feed ι V E β) (i : ι) : List E :=
  (feed.subscriber i).heard ++ (feed.subscriber i).inbox ++ feed.unsent.toList

/-- The events come in an order, and what may be stored next comes after them. -/
structure Sequenced (roles : Roles V E A β) (earlier : E → E → Prop) (stored : V)
    (course : List E) : Prop where
  ordered : course.Pairwise earlier
  ahead : ∀ event ∈ course, ∀ new, roles.follows stored new = true → earlier event new

/-- A step adds the event it stores to a course, or leaves the course as it is, but for an
event that is missed. -/
theorem course_moves (moved : Moves roles feed step after) (i : ι) :
    (∃ event, after.course i = feed.course i ++ [event] ∧ after.stored = roles.keep event ∧
      roles.follows feed.stored event = true) ∨
    ((after.course i).Sublist (feed.course i) ∧ after.stored = feed.stored) := by
  have same : ∀ {j subscriber}, subscriber.heard ++ subscriber.inbox =
      (feed.subscriber j).heard ++ (feed.subscriber j).inbox →
      ((feed.put j subscriber).course i).Sublist (feed.course i) := by
    intro j subscriber kept
    by_cases own : i = j
    · subst own
      simp only [course, put_same, put_unsent, kept, List.Sublist.refl]
    · simp only [course, put_other own, put_unsent, List.Sublist.refl]
  cases moved with
  | @store event sent follows => exact .inl ⟨event, by simp [course, sent], rfl, follows⟩
  | @emit event isUnsent =>
      refine .inr ⟨?_, rfl⟩
      by_cases listening : (feed.subscriber i).listening = true <;>
        simp [course, hear, listening, isUnsent]
  | read _ => exact .inr ⟨same rfl, rfl⟩
  | answer _ => exact .inr ⟨same rfl, rfl⟩
  | listen _ => exact .inr ⟨same rfl, rfl⟩
  | receive first => exact .inr ⟨same (by simp [first]), rfl⟩
  | act _ _ => exact .inr ⟨same rfl, rfl⟩

/-- Events that may only be stored in order arrive in order. -/
theorem Sequenced.moves {earlier : E → E → Prop} [IsTrans E earlier] {i : ι}
    (sequenced : Sequenced roles earlier feed.stored (feed.course i))
    (inOrder : ∀ event new, roles.follows (roles.keep event) new = true → earlier event new)
    (moved : Moves roles feed step after) :
    Sequenced roles earlier after.stored (after.course i) := by
  obtain ⟨ordered, ahead⟩ := sequenced
  rcases course_moves moved i with ⟨event, extended, stored, follows⟩ | ⟨part, stored⟩
  · rw [extended, stored]
    refine ⟨?_, ?_⟩
    · rw [List.pairwise_append]
      refine ⟨ordered, List.pairwise_singleton _ _, ?_⟩
      intro old oldMem new newMem
      rw [List.mem_singleton.mp newMem]
      exact ahead old oldMem event follows
    · intro old oldMem new newFollows
      have last := inOrder event new newFollows
      rcases List.mem_append.mp oldMem with before | isLast
      · exact IsTrans.trans _ _ _ (ahead old before event follows) last
      · rw [List.mem_singleton.mp isLast]
        exact last
  · rw [stored]
    exact ⟨ordered.sublist part, fun event mem => ahead event (part.subset mem)⟩

end Feed

end Lecoo.Effects
