import Vigil.Bus.Hub

/-!
# The history of a bus

Handlers publish, subscribe and unsubscribe while messages are being delivered, so the calls of a
bus nest.  Here the bus is watched: whatever happens is noted, one happening after the other, with
the bus at that moment.

What a handler does may depend on more than the message and the results of its own actions: handlers
may share a state, which other calls change while the handler waits for a publication to return.  So
on a watched bus a handler's conduct may look, before each action, at all that has happened so far.

* `live` -- the subscriptions that have been made and not been removed since;
* `about` -- what a history tells of one publication;
* `Conduct` and `Reaction` -- what handlers do, with an eye on what has happened;
* `Watched.publish?` -- publishing on a watched bus;
* `publish?_watched` and `perform_watched` -- if handlers follow their own scripts, watching changes
  nothing;
* `publish?_of_le` -- the bound on the depth of nesting does not matter, as long as it suffices.
-/

namespace Vigil.Bus

variable {ν : Type}

/-! ## Happenings -/

/-- Something that happens on a bus.  Publications are numbered as they begin. -/
inductive Happening (ν : Type) where
  | subscribed (s : Subscription ν)
  | unsubscribed (id : Nat) (found : Bool)
  | began (publication : Nat) (message : Message ν)
  /-- A handler is called. -/
  | called (publication : Nat) (s : Subscription ν)
  /-- A handler that was called gets to its end, or fails. -/
  | ended (publication id : Nat) (finished : Bool)
  | returned (publication delivered : Nat)

namespace Happening

/-- The publication that a happening is part of. -/
def publication? : Happening ν → Option Nat
  | subscribed _ | unsubscribed .. => none
  | began n _ | called n _ | ended n .. | returned n _ => some n

/-- The subscription that is made. -/
def subscription? : Happening ν → Option (Subscription ν)
  | subscribed s => some s
  | _ => none

/-- Is this subscription to be removed? -/
def removes (id : Nat) : Happening ν → Bool
  | unsubscribed old _ => old == id
  | _ => false

end Happening

/-- The subscriptions that have been made. -/
def issued (h : List (Happening ν)) : List (Subscription ν) :=
  h.filterMap (·.subscription?)

/-- The subscriptions that have been made and not been removed since, in order. -/
def live : List (Happening ν) → List (Subscription ν)
  | [] => []
  | .subscribed s :: rest => if rest.any (·.removes s.id) then live rest else s :: live rest
  | _ :: rest => live rest

/-- What is told of a publication. -/
def about (n : Nat) (h : List (Happening ν)) : List (Happening ν) :=
  h.filter (·.publication? == some n)

/-! ## The watched bus -/

/-- A bus, the number of publications so far, and what has happened, each with the bus at that
moment. -/
structure Watched (ν : Type) where
  bus : Bus ν
  publications : Nat := 0
  history : List (Happening ν × Bus ν) := []

/-- What has happened, without the bus at each moment. -/
def told (history : List (Happening ν × Bus ν)) : List (Happening ν) :=
  history.map (·.1)

theorem told_append (history history' : List (Happening ν × Bus ν)) :
    told (history ++ history') = told history ++ told history' :=
  List.map_append

/-- What a handler or a client does: one action, and what follows from its result and from all that
has happened until then. -/
inductive Conduct (ν : Type) where
  | done
  | fail
  | publish (message : Message ν) (next : Nat → List (Happening ν) → Conduct ν)
  | subscribe (topic : String) (handler : Handler ν) (next : Nat → List (Happening ν) → Conduct ν)
  | unsubscribe (id : Nat) (next : Bool → List (Happening ν) → Conduct ν)

/-- Whoever follows a script does not look at what has happened. -/
def Conduct.ofScript : Script ν → Conduct ν
  | .done => .done
  | .fail => .fail
  | .publish m next => .publish m fun delivered _ => ofScript (next delivered)
  | .subscribe topic handler next => .subscribe topic handler fun id _ => ofScript (next id)
  | .unsubscribe id next => .unsubscribe id fun found _ => ofScript (next found)

/-- What a handler does when it is called, after all that has happened. -/
abbrev Reaction (ν : Type) := List (Happening ν) → Subscription ν → Message ν → Conduct ν

/-- Handlers follow their own scripts. -/
def Reaction.own : Reaction ν := fun _ s m => .ofScript (s.handler m)

namespace Watched

/-- Note what has happened. -/
def note (w : Watched ν) (e : Happening ν) : Watched ν :=
  { w with history := w.history ++ [(e, w.bus)] }

/-- Subscribe a handler. -/
def subscribe (w : Watched ν) (topic : String) (handler : Handler ν) : Watched ν :=
  { w with bus := (w.bus.subscribe topic handler).2 }.note
    (.subscribed ⟨w.bus.nextId, topic, handler⟩)

/-- Remove a subscription. -/
def unsubscribe (w : Watched ν) (id : Nat) : Watched ν :=
  { w with bus := (w.bus.unsubscribe id).2 }.note (.unsubscribed id (w.bus.unsubscribe id).1)

/-- Begin a publication. -/
def begin (w : Watched ν) (m : Message ν) : Watched ν :=
  { w with bus := w.bus.keep m, publications := w.publications + 1 }.note
    (.began w.publications m)

/-- Carry out a conduct; did it get to its end? -/
def perform (publish : Watched ν → Message ν → Option (Watched ν × Nat)) :
    Conduct ν → Watched ν → Option (Watched ν × Bool)
  | .done, w => some (w, true)
  | .fail, w => some (w, false)
  | .publish m next, w =>
    match publish w m with
    | none => none
    | some (w, delivered) => perform publish (next delivered (told w.history)) w
  | .subscribe topic handler next, w =>
    let w' := w.subscribe topic handler
    perform publish (next w.bus.nextId (told w'.history)) w'
  | .unsubscribe id next, w =>
    let w' := w.unsubscribe id
    perform publish (next (w.bus.unsubscribe id).1 (told w'.history)) w'

/-- Hand the message of a publication to some subscribers; how many got to their end? -/
def deliver (react : Reaction ν) (publish : Watched ν → Message ν → Option (Watched ν × Nat))
    (n : Nat) (m : Message ν) : List (Subscription ν) → Watched ν → Option (Watched ν × Nat)
  | [], w => some (w, 0)
  | s :: rest, w =>
    match perform publish (react (told w.history) s m) (w.note (.called n s)) with
    | none => none
    | some (w, finished) =>
      (deliver react publish n m rest (w.note (.ended n s.id finished))).map fun (w, delivered) =>
        (w, delivered + if finished then 1 else 0)

/-- Publish a message, with publications nested at most to the given depth. -/
def publish? (react : Reaction ν) : Nat → Watched ν → Message ν → Option (Watched ν × Nat)
  | 0, _, _ => none
  | depth + 1, w, m =>
    (deliver react (publish? react depth) w.publications m (w.bus.subscribers m.topic)
      (w.begin m)).map fun (w', delivered) =>
        (w'.note (.returned w.publications delivered), delivered)

end Watched

/-! ## Watching changes nothing -/

section Watching

variable {publish : Bus ν → Message ν → Option (Publication ν)}
  {publish' : Watched ν → Message ν → Option (Watched ν × Nat)}

/-- Publishing on a watched bus comes to the same as on the bus itself. -/
def Watches (publish' : Watched ν → Message ν → Option (Watched ν × Nat))
    (publish : Bus ν → Message ν → Option (Publication ν)) : Prop :=
  ∀ w m, (publish' w m).map (fun p => (p.1.bus, p.2)) =
    (publish w.bus m).map fun p => (p.bus, p.delivered)

theorem perform_of_watches (h : Watches publish' publish) (id : Nat) (script : Script ν)
    (w : Watched ν) :
    (Watched.perform publish' (.ofScript script) w).map (fun q => (q.1.bus, q.2)) =
      (perform publish id script w.bus).map fun q => (q.bus, q.finished) := by
  induction script generalizing w with
  | done => rfl
  | fail => rfl
  | publish m next ih =>
    have hpublish := h w m
    rw [Conduct.ofScript, Watched.perform, perform]
    cases hw : publish' w m with
    | none =>
      rw [hw, Option.map_none] at hpublish
      rw [Option.map_eq_none_iff.1 hpublish.symm]
      rfl
    | some p =>
      rw [hw, Option.map_some] at hpublish
      obtain ⟨q, hq, hsame⟩ := Option.map_eq_some_iff.1 hpublish.symm
      obtain ⟨hbus, hdelivered⟩ := Prod.mk.inj hsame
      have hrest := ih q.delivered p.1
      rw [hq, Option.map_map]
      dsimp only
      rw [← hdelivered, hrest, hbus]
      rfl
  | subscribe topic handler next _ ih => exact ih _ _
  | unsubscribe old next ih => exact ih _ _

theorem deliver_of_watches (h : Watches publish' publish) (n : Nat) (m : Message ν)
    (subscribers : List (Subscription ν)) (w : Watched ν) :
    (Watched.deliver .own publish' n m subscribers w).map (fun p => (p.1.bus, p.2)) =
      (deliver publish m subscribers w.bus).map fun p => (p.bus, p.delivered) := by
  induction subscribers generalizing w with
  | nil => rfl
  | cons s rest ih =>
    have hperform := perform_of_watches h s.id (s.handler m) (w.note (.called n s))
    have hcalled : (w.note (.called n s)).bus = w.bus := rfl
    rw [hcalled] at hperform
    rw [Watched.deliver, deliver, Reaction.own]
    cases hw : Watched.perform publish' (.ofScript (s.handler m)) (w.note (.called n s)) with
    | none =>
      rw [hw, Option.map_none] at hperform
      rw [Option.map_eq_none_iff.1 hperform.symm]
      rfl
    | some p =>
      rw [hw, Option.map_some] at hperform
      obtain ⟨q, hq, hsame⟩ := Option.map_eq_some_iff.1 hperform.symm
      obtain ⟨hbus, hfinished⟩ := Prod.mk.inj hsame
      have hrest := congrArg (Option.map fun p : Bus ν × Nat =>
        (p.1, p.2 + if q.finished then 1 else 0)) (ih (p.1.note (.ended n s.id q.finished)))
      have hended : (p.1.note (.ended n s.id q.finished)).bus = q.bus := hbus.symm
      rw [Option.map_map, Option.map_map, hended] at hrest
      rw [hq, Option.map_map, Option.map_map]
      dsimp only
      rw [← hfinished]
      exact hrest

/-- **If handlers follow their own scripts, watching a publication changes nothing.** -/
theorem publish?_watched (depth : Nat) :
    Watches (Watched.publish? (ν := ν) .own depth) (publish? depth) := by
  induction depth with
  | zero => exact fun w m => rfl
  | succ depth ih =>
    intro w m
    have hdeliver := deliver_of_watches ih w.publications m (w.bus.subscribers m.topic) (w.begin m)
    rw [Watched.publish?, publish?, Option.map_map]
    exact hdeliver

/-- So watching a client changes nothing, either. -/
theorem perform_watched (depth id : Nat) (client : Script ν) (w : Watched ν) :
    (Watched.perform (Watched.publish? .own depth) (.ofScript client) w).map
        (fun q => (q.1.bus, q.2)) =
      (perform (publish? depth) id client w.bus).map fun q => (q.bus, q.finished) :=
  perform_of_watches (publish?_watched depth) id client w

end Watching

/-! ## The depth of nesting -/

section Depth

variable {publish publish' : Watched ν → Message ν → Option (Watched ν × Nat)}

/-- Whatever one way of publishing comes to, the other comes to as well. -/
def Extends (publish publish' : Watched ν → Message ν → Option (Watched ν × Nat)) : Prop :=
  ∀ w m p, publish w m = some p → publish' w m = some p

theorem perform_of_extends (h : Extends publish publish') {conduct : Conduct ν} {w : Watched ν}
    {q : Watched ν × Bool} (hq : Watched.perform publish conduct w = some q) :
    Watched.perform publish' conduct w = some q := by
  induction conduct generalizing w with
  | done => exact hq
  | fail => exact hq
  | publish m next ih =>
    rw [Watched.perform] at hq ⊢
    cases hp : publish w m with
    | none =>
      rw [hp] at hq
      cases hq
    | some p =>
      rw [hp] at hq
      rw [h w m p hp]
      exact ih _ _ hq
  | subscribe topic handler next ih => exact ih _ _ hq
  | unsubscribe old next ih => exact ih _ _ hq

theorem deliver_of_extends (h : Extends publish publish') {react : Reaction ν} {n : Nat}
    {m : Message ν} {subscribers : List (Subscription ν)} {w : Watched ν} {p : Watched ν × Nat}
    (hp : Watched.deliver react publish n m subscribers w = some p) :
    Watched.deliver react publish' n m subscribers w = some p := by
  induction subscribers generalizing w p with
  | nil => exact hp
  | cons s rest ih =>
    rw [Watched.deliver] at hp ⊢
    cases hq : Watched.perform publish (react (told w.history) s m) (w.note (.called n s)) with
    | none =>
      rw [hq] at hp
      cases hp
    | some q =>
      rw [hq] at hp
      rw [perform_of_extends h hq]
      obtain ⟨p', hp', rfl⟩ := Option.map_eq_some_iff.1 hp
      exact Option.map_eq_some_iff.2 ⟨p', ih hp', rfl⟩

theorem publish?_succ (react : Reaction ν) (depth : Nat) :
    Extends (Watched.publish? react depth) (Watched.publish? react (depth + 1)) := by
  induction depth with
  | zero => exact fun w m p hp => by cases hp
  | succ depth ih =>
    intro w m p hp
    obtain ⟨p', hp', rfl⟩ := Option.map_eq_some_iff.1 hp
    exact Option.map_eq_some_iff.2 ⟨p', deliver_of_extends ih hp', rfl⟩

/-- **The bound on the depth of nesting does not matter**, as long as it suffices. -/
theorem publish?_of_le (react : Reaction ν) {depth depth' : Nat} (h : depth ≤ depth') :
    Extends (Watched.publish? react depth) (Watched.publish? react depth') := by
  induction h with
  | refl => exact fun w m p hp => hp
  | step _ ih => exact fun w m p hp => publish?_succ react _ w m p (ih w m p hp)

end Depth

end Vigil.Bus
