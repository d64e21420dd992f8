import Vigil.Proofs.Bus.Delivery

/-!
# What a bus remembers

A publication puts its message into the ring of its topic before any handler is called, and
handlers publish in their turn.  So while publications nest, the rings fill in the order in which
the publications begin.

* `IsNewest` -- the last of some elements, as many as there is room for; `IsNewest.pushRing` says
  that a ring stays so, although it looks only at whether it is full;
* `publishedOn` -- the messages whose publications have begun on a topic, in order;
* `Watched.Conserved` -- a property that each single action conserves; so does every publication,
  however deep its handlers make others nest (`Watched.publish?_conserves`);
* `Recalls` and `recalls_perform` -- **the main result**: at every moment, the history of a topic is
  the newest part of what has been published there.
-/

namespace Vigil.Bus

variable {ν : Type}

/-! ## The newest of some elements -/

/-- The last of some elements, as many as there is room for. -/
structure IsNewest {α : Type} (room : Nat) (all kept : List α) : Prop where
  suffix : kept <:+ all
  length : kept.length = min room all.length

namespace IsNewest

variable {α : Type} {room : Nat} {all kept kept' : List α}

theorem nil (room : Nat) : IsNewest room ([] : List α) [] :=
  ⟨List.suffix_refl _, (Nat.min_zero _).symm⟩

/-- There is only one newest part. -/
theorem eq (h : IsNewest room all kept) (h' : IsNewest room all kept') : kept = kept' := by
  have hlength : kept.length = kept'.length := h.length.trans h'.length.symm
  have hsuffix := List.suffix_of_suffix_length_le h.suffix h'.suffix (Nat.le_of_eq hlength)
  exact hsuffix.eq_of_length hlength

/-- Where there is no room, nothing is kept. -/
theorem eq_nil (h : IsNewest 0 all kept) : kept = [] :=
  List.eq_nil_of_length_eq_zero (h.length.trans (Nat.zero_min _))

/-- **A ring stays the newest part.**  That it is full shows in its length being its capacity, since
it is never longer. -/
theorem pushRing {messages ring : List (Message ν)} (h : IsNewest room messages ring)
    (m : Message ν) : IsNewest room (messages ++ [m]) (pushRing room ring m) := by
  have hlength := h.length
  obtain ⟨older, rfl⟩ := h.suffix
  rw [List.length_append] at hlength
  rw [Bus.pushRing]
  by_cases hroom : room = 0
  · obtain rfl := List.eq_nil_of_length_eq_zero (l := ring) (by omega)
    rw [if_pos hroom]
    exact ⟨List.nil_suffix, by rw [hroom, Nat.zero_min, List.length_nil]⟩
  rw [if_neg hroom]
  by_cases hfull : ring.length = room
  · cases ring with
    | nil => exact absurd hfull.symm hroom
    | cons oldest rest =>
      rw [if_pos hfull, List.tail_cons]
      refine ⟨⟨older ++ [oldest], by simp⟩, ?_⟩
      simp only [List.length_append, List.length_cons, List.length_nil] at hfull ⊢
      omega
  · -- There is room, so nothing has given way so far.
    rw [if_neg hfull]
    refine ⟨⟨older, (List.append_assoc ..).symm⟩, ?_⟩
    simp only [List.length_append, List.length_cons, List.length_nil]
    omega

end IsNewest

/-! ## Published messages -/

/-- The message whose publication begins. -/
def Happening.message? : Happening ν → Option (Message ν)
  | began _ m => some m
  | _ => none

/-- The messages whose publications have begun on a topic, in the order in which they began. -/
def publishedOn (topic : String) (h : List (Happening ν)) : List (Message ν) :=
  (h.filterMap (·.message?)).filter (·.topic == topic)

theorem publishedOn_append (topic : String) (h h' : List (Happening ν)) :
    publishedOn topic (h ++ h') = publishedOn topic h ++ publishedOn topic h' := by
  rw [publishedOn, List.filterMap_append, List.filter_append, publishedOn, publishedOn]

theorem publishedOn_of_silent (topic : String) {e : Happening ν} (he : e.message? = none) :
    publishedOn topic [e] = [] := by
  rw [publishedOn, List.filterMap_cons_none he, List.filterMap_nil, List.filter_nil]

/-! ## What every action conserves -/

namespace Watched

/-- Whatever happens on a bus, it keeps a property. -/
structure Conserved (I : Watched ν → Prop) : Prop where
  begin : ∀ w m, I w → I (w.begin m)
  subscribe : ∀ w topic handler, I w → I (w.subscribe topic handler)
  unsubscribe : ∀ w id, I w → I (w.unsubscribe id)
  note : ∀ w e, e.message? = none → I w → I (w.note e)

section Conserved

variable {I : Watched ν → Prop}
  {publish : Watched ν → Message ν → Option (Watched ν × Nat)}

theorem perform_conserves (hI : Conserved I)
    (hpublish : ∀ w m p, I w → publish w m = some p → I p.1) {conduct : Conduct ν}
    {w : Watched ν} {q : Watched ν × Bool} (h : I w)
    (hq : perform publish conduct w = some q) : I q.1 := by
  induction conduct generalizing w with
  | done =>
    obtain rfl := Option.some.inj hq
    exact h
  | fail =>
    obtain rfl := Option.some.inj hq
    exact h
  | publish m next ih =>
    rw [perform] at hq
    cases hp : publish w m with
    | none =>
      rw [hp] at hq
      cases hq
    | some p =>
      rw [hp] at hq
      exact ih _ _ (hpublish w m p h hp) hq
  | subscribe topic handler next ih => exact ih _ _ (hI.subscribe w topic handler h) hq
  | unsubscribe id next ih => exact ih _ _ (hI.unsubscribe w id h) hq

theorem deliver_conserves (hI : Conserved I)
    (hpublish : ∀ w m p, I w → publish w m = some p → I p.1) {react : Reaction ν} {n : Nat}
    {m : Message ν} {subscribers : List (Subscription ν)} {w : Watched ν} {p : Watched ν × Nat}
    (h : I w) (hp : deliver react publish n m subscribers w = some p) : I p.1 := by
  induction subscribers generalizing w p with
  | nil =>
    obtain rfl := Option.some.inj hp
    exact h
  | cons s rest ih =>
    rw [deliver] at hp
    cases hq : perform publish (react (told w.history) s m) (w.note (.called n s)) with
    | none =>
      rw [hq] at hp
      cases hp
    | some q =>
      rw [hq] at hp
      obtain ⟨p', hp', rfl⟩ := Option.map_eq_some_iff.1 hp
      have hcalled : I (w.note (.called n s)) := hI.note w _ rfl h
      have hacted : I q.1 := perform_conserves hI hpublish hcalled hq
      have hrest : I p'.1 := ih (hI.note q.1 (.ended n s.id q.2) rfl hacted) hp'
      exact hrest

/-- **What every single action keeps, every publication keeps**, whatever the handlers do. -/
theorem publish?_conserves (hI : Conserved I) (react : Reaction ν) (depth : Nat) :
    ∀ w m p, I w → publish? react depth w m = some p → I p.1 := by
  induction depth with
  | zero => exact fun w m p _ hp => by cases hp
  | succ depth ih =>
    intro w m p h hp
    obtain ⟨p', hp', rfl⟩ := Option.map_eq_some_iff.1 hp
    have hdelivered : I p'.1 := deliver_conserves hI ih (hI.begin w m h) hp'
    exact hI.note p'.1 (.returned w.publications p'.2) rfl hdelivered

end Conserved

/-! ## The rings of a watched bus -/

/-- Each ring holds the newest part of what has been published on its topic, and so it did at each
earlier moment. -/
structure Remembers (capacity : Nat) (w : Watched ν) : Prop where
  capacity_eq : w.bus.capacity = capacity
  now : ∀ topic, IsNewest capacity (publishedOn topic (told w.history)) (w.bus.history topic)
  moments : ∀ before e b after, w.history = before ++ (e, b) :: after → ∀ topic,
    IsNewest capacity (publishedOn topic (told before ++ [e])) (b.history topic)

theorem remembers_new (capacity : Nat) : (new capacity : Watched ν).Remembers capacity where
  capacity_eq := rfl
  now _ := IsNewest.nil capacity
  moments before e b after h := by cases before <;> cases h

variable {capacity : Nat} {w : Watched ν}

/-- One more happening, noted with the bus at its moment. -/
theorem Remembers.concat (h : w.Remembers capacity) {b : Bus ν} {e : Happening ν}
    {publications : Nat} (hcapacity : b.capacity = w.bus.capacity)
    (hnow : ∀ topic, IsNewest capacity (publishedOn topic (told w.history ++ [e]))
      (b.history topic)) :
    Remembers capacity ⟨b, publications, w.history ++ [(e, b)]⟩ where
  capacity_eq := hcapacity.trans h.capacity_eq
  now topic := by
    rw [told_append]
    exact hnow topic
  moments before e' b' after hsplit := by
    rcases split_concat hsplit with ⟨rfl, heq⟩ | ⟨after', hearlier⟩
    · obtain ⟨rfl, rfl⟩ := Prod.mk.inj heq
      exact hnow
    · exact h.moments before e' b' after' hearlier

/-- What is no publication leaves the rings as they are. -/
theorem Remembers.concat_silent (h : w.Remembers capacity) {b : Bus ν} {e : Happening ν}
    {publications : Nat} (hcapacity : b.capacity = w.bus.capacity) (hkept : b.kept = w.bus.kept)
    (he : e.message? = none) :
    Remembers capacity ⟨b, publications, w.history ++ [(e, b)]⟩ := by
  refine h.concat hcapacity fun topic => ?_
  have hhistory : b.history topic = w.bus.history topic := congrFun hkept topic
  rw [publishedOn_append, publishedOn_of_silent topic he, List.append_nil, hhistory]
  exact h.now topic

/-- A publication puts its message into the ring of its topic. -/
theorem Remembers.begin (h : w.Remembers capacity) (m : Message ν) :
    (w.begin m).Remembers capacity := by
  refine h.concat rfl fun topic => ?_
  rw [publishedOn_append]
  by_cases htopic : m.topic = topic
  · subst htopic
    have hbegan : publishedOn m.topic [.began w.publications m] = [m] := by
      simp [publishedOn, Happening.message?]
    rw [hbegan, history_keep_self, h.capacity_eq]
    exact (h.now m.topic).pushRing m
  · have hbegan : publishedOn topic [.began w.publications m] = [] := by
      simp [publishedOn, Happening.message?, htopic]
    rw [hbegan, List.append_nil, history_keep_of_ne (Ne.symm htopic)]
    exact h.now topic

theorem conserved_remembers (capacity : Nat) :
    Conserved (Remembers capacity : Watched ν → Prop) where
  begin _ m h := h.begin m
  subscribe _ _ _ h := h.concat_silent rfl rfl rfl
  unsubscribe _ _ h := h.concat_silent rfl rfl rfl
  note _ _ he h := h.concat_silent rfl rfl he

end Watched

/-! ## Histories -/

/-- What a bus recalls, wherever one looks at its history. -/
structure Recalls (capacity : Nat) (history : List (Happening ν × Bus ν)) : Prop where
  /-- The history of a topic is the newest part of what has been published there, in the order in
  which the publications began. -/
  newest : ∀ before e b after, history = before ++ (e, b) :: after → ∀ topic,
    IsNewest capacity (publishedOn topic (told before ++ [e])) (b.history topic)
  /-- Without capacity there is none. -/
  nothing : capacity = 0 → ∀ e b, (e, b) ∈ history → ∀ topic, b.history topic = []
  /-- From one moment to another, the history of a topic stays as it is if no publication begins
  there, whatever is published elsewhere. -/
  isolated : ∀ before e b between e' b' after,
    history = before ++ (e, b) :: (between ++ (e', b') :: after) → ∀ topic,
    publishedOn topic (told between ++ [e']) = [] → b'.history topic = b.history topic

theorem Watched.Remembers.recalls {capacity : Nat} {w : Watched ν} (h : w.Remembers capacity) :
    Recalls capacity w.history where
  newest := h.moments
  nothing := by
    rintro rfl e b hmem topic
    obtain ⟨before, after, hsplit⟩ := List.append_of_mem hmem
    exact (h.moments before e b after hsplit topic).eq_nil
  isolated := by
    intro before e b between e' b' after hsplit topic hnone
    have hearlier := h.moments before e b _ hsplit topic
    have hsplit' : w.history = (before ++ (e, b) :: between) ++ (e', b') :: after := by
      rw [hsplit, List.append_assoc, List.cons_append]
    have hlater := h.moments _ e' b' after hsplit' topic
    have htold : told (before ++ (e, b) :: between) ++ [e'] =
        (told before ++ [e]) ++ (told between ++ [e']) := by
      simp [told]
    rw [htold, publishedOn_append, hnone, List.append_nil] at hlater
    exact hlater.eq hearlier

/-- **What a bus remembers**, whatever the client and the handlers do: at every moment and in the
end the history of a topic is the newest part of what has been published there.  If they follow
scripts, it is a history of the bus itself.  Reactions may look at the history, so whatever has
happened up to some moment is also how a run begins that stops there. -/
theorem recalls_perform (react : Reaction ν) (capacity depth : Nat) (client : Conduct ν)
    {w : Watched ν} {finished : Bool}
    (h : Watched.perform (Watched.publish? react depth) client (.new capacity) =
      some (w, finished)) :
    Recalls capacity w.history ∧
      (∀ topic, IsNewest capacity (publishedOn topic (told w.history)) (w.bus.history topic)) ∧
      ∀ script id, react = .own → client = .ofScript script →
        (perform (publish? depth) id script { capacity }).map (fun q => (q.bus, q.finished)) =
          some (w.bus, finished) := by
  have hconserved : (Watched.Remembers capacity : Watched ν → Prop) w :=
    Watched.perform_conserves (Watched.conserved_remembers capacity)
      (Watched.publish?_conserves (Watched.conserved_remembers capacity) react depth)
      (Watched.remembers_new capacity) h
  refine ⟨hconserved.recalls, hconserved.now, ?_⟩
  rintro script id rfl rfl
  have hwatched := perform_watched depth id script (.new capacity)
  rw [h, Option.map_some] at hwatched
  exact hwatched.symm

/-- A client one of whose handlers answers the first alert by another one. -/
def answering : Script Unit :=
  .subscribe "alerts" (fun _ => .unsubscribe 0 fun _ =>
    .publish ⟨"alerts", "handler", .findings []⟩ fun _ => .done) fun _ =>
  .publish ⟨"alerts", "client", .findings []⟩ fun _ =>
  .publish ⟨"digest", "client", .findings []⟩ fun _ => .done

theorem recalls_perform_answering :
    ∃ w, Watched.perform (Watched.publish? .own 2) (.ofScript answering) (.new 1) =
        some (w, true) ∧
      (w.bus.history "alerts").map (·.producer) = ["handler"] ∧ Recalls 1 w.history :=
  ⟨_, rfl, rfl, (recalls_perform .own 1 2 (.ofScript answering) rfl).1⟩

end Vigil.Bus
