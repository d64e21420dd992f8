import Mathlib.Data.List.Basic
import Mathlib.Data.List.Induction
import Vigil.Proofs.Bus.History

/-!
# What a bus delivers

Publications nest: while a message is delivered, its handlers change the table of subscriptions and
publish further messages, and some fail.  Still each publication serves just the subscriptions of
the moment at which it begins.

* `Watched.Sound` -- the table of a watched bus, its ids and its numbers are those of its history;
  each single happening keeps it so;
* `Delivered` -- all that a history tells of a publication that is over;
* `Advances` -- from one moment to a later one the bus stays sound, what was told of earlier
  publications stays as it is, and all that have begun meanwhile are delivered; it is closed under
  composition, so a handler, a delivery and a publication can each be looked at by itself;
* `Lawful` and `lawful_perform` -- **the main result**: whatever the handlers do, the history of a
  bus is lawful.
-/

namespace Vigil.Bus

variable {ν : Type}

/-! ## Live subscriptions -/

theorem live_concat_subscribed (h : List (Happening ν)) (s : Subscription ν) :
    live (h ++ [.subscribed s]) = live h ++ [s] := by
  induction h with
  | nil => rfl
  | cons e rest ih =>
    cases e with
    | subscribed t =>
      rw [List.cons_append, live, live, List.any_append, ih]
      have hlast : ([.subscribed s] : List (Happening ν)).any (·.removes t.id) = false := rfl
      rw [hlast, Bool.or_false]
      split <;> rfl
    | _ => exact ih

theorem live_concat_unsubscribed (h : List (Happening ν)) (id : Nat) (found : Bool) :
    live (h ++ [.unsubscribed id found]) = (live h).filter (·.id != id) := by
  induction h with
  | nil => rfl
  | cons e rest ih =>
    cases e with
    | subscribed t =>
      rw [List.cons_append, live, live, List.any_append, ih]
      have hlast : ([.unsubscribed id found] : List (Happening ν)).any (·.removes t.id) =
          (id == t.id) := Bool.or_false _
      rw [hlast]
      by_cases hrest : rest.any (·.removes t.id) = true
      · rw [hrest, Bool.true_or, if_pos rfl, if_pos rfl]
      · rw [Bool.not_eq_true] at hrest
        rw [hrest, Bool.false_or, if_neg Bool.false_ne_true, List.filter_cons]
        by_cases hid : id = t.id
        · rw [if_pos (beq_iff_eq.2 hid), if_neg (by simp [hid])]
        · rw [if_neg (by simpa using hid), if_pos (by simpa using Ne.symm hid)]
    | _ => exact ih

/-- What is part of a publication leaves the subscriptions as they are. -/
theorem live_concat_of_publication (h : List (Happening ν)) {e : Happening ν} {n : Nat}
    (he : e.publication? = some n) : live (h ++ [e]) = live h := by
  have hnone (id : Nat) : e.removes id = false := by
    cases e <;> first | rfl | cases he
  induction h with
  | nil => cases e <;> first | rfl | cases he
  | cons e' rest ih =>
    cases e' with
    | subscribed t =>
      rw [List.cons_append, live, live, List.any_append, ih, List.any_cons, hnone, List.any_nil,
        Bool.or_false, Bool.or_false]
    | _ => exact ih

theorem issued_concat (h : List (Happening ν)) (e : Happening ν) :
    issued (h ++ [e]) = issued h ++ e.subscription?.toList := by
  rw [issued, issued, List.filterMap_append]
  cases hs : e.subscription? with
  | none => rw [List.filterMap_cons_none hs]; rfl
  | some s => rw [List.filterMap_cons_some hs]; rfl

/-- A subscription that was made and then removed is not live again, as long as no id is used
twice. -/
theorem ne_id_of_mem_live {before after : List (Happening ν)} {id : Nat} {found : Bool}
    (hnodup : ((issued (before ++ .unsubscribed id found :: after)).map (·.id)).Nodup)
    (hissued : id ∈ (issued before).map (·.id)) :
    ∀ s ∈ live (before ++ .unsubscribed id found :: after), s.id ≠ id := by
  induction after using List.reverseRecOn with
  | nil =>
    intro s hs
    rw [live_concat_unsubscribed] at hs
    simpa using (List.mem_filter.1 hs).2
  | append_singleton after e ih =>
    have hsplit : before ++ .unsubscribed id found :: (after ++ [e]) =
        (before ++ .unsubscribed id found :: after) ++ [e] := by
      rw [List.append_assoc, List.cons_append]
    rw [hsplit, issued_concat, List.map_append] at hnodup
    obtain ⟨hearlier, -, hfresh⟩ := List.nodup_append.1 hnodup
    have ih := ih hearlier
    intro s hs
    rw [hsplit] at hs
    cases hpublication : e.publication? with
    | some n =>
      rw [live_concat_of_publication _ hpublication] at hs
      exact ih s hs
    | none =>
      cases e with
      | subscribed t =>
        rw [live_concat_subscribed] at hs
        rcases List.mem_append.1 hs with hs | hs
        · exact ih s hs
        · obtain rfl := List.mem_singleton.1 hs
          rintro rfl
          have hagain : s.id ∈ (issued (before ++ .unsubscribed s.id found :: after)).map
              (·.id) := by
            rw [issued, List.filterMap_append, List.map_append]
            exact List.mem_append_left _ hissued
          exact hfresh _ hagain _ (List.mem_singleton.2 rfl) rfl
      | unsubscribed old found' =>
        rw [live_concat_unsubscribed] at hs
        exact ih s (List.mem_filter.1 hs).1
      | _ => cases hpublication

/-! ## Sound moments -/

/-- After this history, a happening is noted with the subscriptions that are live then; and a
removal says whether there was such a subscription. -/
structure NotedAfter (before : List (Happening ν × Bus ν)) (p : Happening ν × Bus ν) : Prop where
  subscriptions : p.2.subscriptions = live (told before ++ [p.1])
  found : ∀ id found, p.1 = .unsubscribed id found →
    (found = true ↔ ∃ s ∈ live (told before), s.id = id)

/-- A place in a list with one more element is a place in the list, or it is at the end. -/
theorem split_concat {α : Type} {l before after : List α} {x y : α}
    (h : l ++ [x] = before ++ y :: after) :
    (l = before ∧ x = y) ∨ ∃ after', l = before ++ y :: after' := by
  cases after using List.reverseRecOn with
  | nil =>
    obtain ⟨hl, hx⟩ := List.append_inj' h rfl
    exact Or.inl ⟨hl, List.singleton_inj.1 hx⟩
  | append_singleton after' z =>
    rw [← List.cons_append, ← List.append_assoc] at h
    exact Or.inr ⟨after', (List.append_inj' h rfl).1⟩

namespace Watched

/-- The table of the bus, the ids that it has given and the numbers of the publications are those of
the history, and so they were at each earlier moment. -/
structure Sound (w : Watched ν) : Prop where
  subscriptions : w.bus.subscriptions = live (told w.history)
  ids : (issued (told w.history)).map (·.id) = List.range w.bus.nextId
  numbers : ∀ e ∈ told w.history, ∀ n, e.publication? = some n → n < w.publications
  moments : ∀ before p after, w.history = before ++ p :: after → NotedAfter before p

/-- A bus to which nothing has happened yet. -/
def new (capacity : Nat) : Watched ν where
  bus := { capacity }

theorem sound_new (capacity : Nat) : (new capacity : Watched ν).Sound where
  subscriptions := rfl
  ids := rfl
  numbers := fun e he => by cases he
  moments := fun before p after h => by cases before <;> cases h

/-- **What one happening preserves**: it is noted with a bus whose table and ids are those of the
history that it belongs to. -/
theorem Sound.concat {w : Watched ν} (h : w.Sound) {b : Bus ν} {e : Happening ν}
    {publications : Nat}
    (hsubscriptions : b.subscriptions = live (told w.history ++ [e]))
    (hids : List.range b.nextId =
      List.range w.bus.nextId ++ e.subscription?.toList.map (·.id))
    (hfound : ∀ id found, e = .unsubscribed id found →
      (found = true ↔ ∃ s ∈ live (told w.history), s.id = id))
    (hpublications : w.publications ≤ publications)
    (hnumber : ∀ n, e.publication? = some n → n < publications) :
    Sound ⟨b, publications, w.history ++ [(e, b)]⟩ where
  subscriptions := by
    rw [told_append]
    exact hsubscriptions
  ids := by
    have hissued : issued (told w.history ++ told [(e, b)]) =
        issued (told w.history) ++ e.subscription?.toList := issued_concat _ e
    rw [told_append, hissued, List.map_append, h.ids]
    exact hids.symm
  numbers := by
    intro e' he' n hn
    rw [told_append] at he'
    rcases List.mem_append.1 he' with he' | he'
    · exact Nat.lt_of_lt_of_le (h.numbers e' he' n hn) hpublications
    · obtain rfl := List.mem_singleton.1 he'
      exact hnumber n hn
  moments := by
    intro before p after hsplit
    rcases split_concat hsplit with ⟨rfl, rfl⟩ | ⟨after', hearlier⟩
    · exact ⟨hsubscriptions, hfound⟩
    · exact h.moments before p after' hearlier

section Steps

variable {w : Watched ν}

/-- A happening that is part of a publication. -/
theorem Sound.note (h : w.Sound) {e : Happening ν} {n : Nat} (he : e.publication? = some n)
    (hn : n < w.publications) : (w.note e).Sound := by
  have hnone : e.subscription? = none := by
    cases e <;> first | rfl | cases he
  refine h.concat ?_ ?_ ?_ (Nat.le_refl _) ?_
  · rw [live_concat_of_publication _ he]
    exact h.subscriptions
  · rw [hnone]
    exact (List.append_nil _).symm
  · rintro id found rfl
    cases he
  · intro n' hn'
    rw [he] at hn'
    exact Option.some.inj hn' ▸ hn

theorem Sound.begin (h : w.Sound) (m : Message ν) : (w.begin m).Sound := by
  refine h.concat ?_ (List.append_nil _).symm ?_ (Nat.le_succ _) ?_
  · rw [live_concat_of_publication _ rfl]
    exact h.subscriptions
  · intro id found he
    cases he
  · intro n hn
    obtain rfl := Option.some.inj hn
    exact Nat.lt_succ_self _

theorem Sound.subscribe (h : w.Sound) (topic : String) (handler : Handler ν) :
    (w.subscribe topic handler).Sound := by
  refine h.concat ?_ List.range_succ ?_ (Nat.le_refl _) ?_
  · rw [live_concat_subscribed, ← h.subscriptions]
    rfl
  · intro id found he
    cases he
  · intro n hn
    cases hn

theorem Sound.unsubscribe (h : w.Sound) (id : Nat) : (w.unsubscribe id).Sound := by
  refine h.concat ?_ (List.append_nil _).symm ?_ (Nat.le_refl _) ?_
  · rw [live_concat_unsubscribed, ← h.subscriptions]
    rfl
  · intro id' found he
    obtain ⟨rfl, rfl⟩ := Happening.unsubscribed.inj he
    rw [← h.subscriptions]
    simp [Bus.unsubscribe]
  · intro n hn
    cases hn

end Steps

end Watched

/-! ## Publications that are over -/

theorem about_append (n : Nat) (h h' : List (Happening ν)) :
    about n (h ++ h') = about n h ++ about n h' :=
  List.filter_append h h'

theorem about_concat_of_ne {n : Nat} {e : Happening ν} (he : e.publication? ≠ some n)
    (h : List (Happening ν)) : about n (h ++ [e]) = about n h := by
  have hlast : about n [e] = [] := by
    rw [about, List.filter_cons_of_neg (by simpa using he), List.filter_nil]
  rw [about_append, hlast, List.append_nil]

theorem about_concat_of_eq {n : Nat} {e : Happening ν} (he : e.publication? = some n)
    (h : List (Happening ν)) : about n (h ++ [e]) = about n h ++ [e] := by
  have hlast : about n [e] = [e] := by
    rw [about, List.filter_cons_of_pos (by simpa using he), List.filter_nil]
  rw [about_append, hlast]

/-- Nothing is told of a publication that has not begun. -/
theorem Watched.Sound.about_eq_nil {w : Watched ν} (h : w.Sound) {n : Nat}
    (hn : w.publications ≤ n) : about n (told w.history) = [] := by
  refine List.filter_eq_nil_iff.2 fun e he hpublication => ?_
  have hlt := h.numbers e he n (by simpa using hpublication)
  omega

/-- Handlers are called one after the other, and each gets to its end or fails before the next one
is called. -/
def calls (n : Nat) (reactions : List (Subscription ν × Bool)) : List (Happening ν) :=
  reactions.flatMap fun r => [.called n r.1, .ended n r.1.id r.2]

theorem mem_calls {n : Nat} {reactions : List (Subscription ν × Bool)} {e : Happening ν} :
    e ∈ calls n reactions ↔ ∃ r ∈ reactions, e = .called n r.1 ∨ e = .ended n r.1.id r.2 := by
  simp [calls]

/-- From its beginning on, a publication calls the handlers that are subscribed to its topic at that
moment, and no others, each once, in order; and it returns how many of them got to their end. -/
def Serves (before : List (Happening ν × Bus ν)) (n : Nat) (m : Message ν)
    (after : List (Happening ν × Bus ν)) : Prop :=
  ∃ reactions : List (Subscription ν × Bool),
    reactions.map (·.1) = (live (told before)).filter (·.topic == m.topic) ∧
      about n (told before) = [] ∧
      about n (told after) = calls n reactions ++ [.returned n (reactions.countP (·.2))]

/-- The publication has begun, and it is over. -/
def Delivered (n : Nat) (history : List (Happening ν × Bus ν)) : Prop :=
  ∃ before m b after, history = before ++ (.began n m, b) :: after ∧ Serves before n m after

/-- A publication that is over stays as it is. -/
theorem Delivered.extend {n : Nat} {history history' : List (Happening ν × Bus ν)}
    (h : Delivered n history) (hextends : history <+: history')
    (habout : about n (told history') = about n (told history)) : Delivered n history' := by
  obtain ⟨before, m, b, after, rfl, reactions, hreactions, hbefore, hafter⟩ := h
  obtain ⟨more, rfl⟩ := hextends
  rw [told_append, about_append, List.append_right_eq_self] at habout
  refine ⟨before, m, b, after ++ more, ?_, reactions, hreactions, hbefore, ?_⟩
  · rw [List.append_assoc, List.cons_append]
  · rw [told_append, about_append, habout, List.append_nil, hafter]

/-! ## From one moment to a later one -/

namespace Watched

theorem told_note (w : Watched ν) (e : Happening ν) :
    told (w.note e).history = told w.history ++ [e] :=
  told_append _ _

theorem told_begin (w : Watched ν) (m : Message ν) :
    told (w.begin m).history = told w.history ++ [.began w.publications m] :=
  told_append _ _

/-- From a moment to a later one, the bus stays sound, nothing more is told of earlier publications
-- except of the own one, which is still going on --, and all that have begun meanwhile are over. -/
structure Advances (own : Option Nat) (w w' : Watched ν) : Prop where
  sound : w'.Sound
  publications_le : w.publications ≤ w'.publications
  extends_history : w.history <+: w'.history
  quiet : ∀ n < w.publications, own ≠ some n →
    about n (told w'.history) = about n (told w.history)
  delivered : ∀ n, w.publications ≤ n → n < w'.publications → Delivered n w'.history

section Advances

variable {own : Option Nat} {w w' w'' : Watched ν}

theorem Advances.refl (h : w.Sound) (own : Option Nat) : Advances own w w where
  sound := h
  publications_le := Nat.le_refl _
  extends_history := List.prefix_refl _
  quiet := fun _ _ _ => rfl
  delivered := fun _ hle hlt => absurd hlt (Nat.not_lt.2 hle)

/-- Moments follow one another, as long as the own publication had begun before the first. -/
theorem Advances.trans (h : Advances own w w') (h' : Advances own w' w'')
    (hown : ∀ n, own = some n → n < w.publications) : Advances own w w'' where
  sound := h'.sound
  publications_le := Nat.le_trans h.publications_le h'.publications_le
  extends_history := h.extends_history.trans h'.extends_history
  quiet := fun n hn hne =>
    (h'.quiet n (Nat.lt_of_lt_of_le hn h.publications_le) hne).trans (h.quiet n hn hne)
  delivered := by
    intro n hle hlt
    by_cases hn : n < w'.publications
    · have hne : own ≠ some n := fun heq => absurd (hown n heq) (Nat.not_lt.2 hle)
      exact (h.delivered n hle hn).extend h'.extends_history (h'.quiet n hn hne)
    · exact h'.delivered n (Nat.not_lt.1 hn) hlt

theorem Advances.weaken (h : Advances none w w') (own : Option Nat) : Advances own w w' :=
  { h with quiet := fun n hn _ => h.quiet n hn (by simp) }

/-- A subscription or an unsubscription is part of no publication. -/
theorem advances_of_silent {e : Happening ν} {b : Bus ν} (he : e.publication? = none)
    (hsound : Sound ⟨b, w.publications, w.history ++ [(e, b)]⟩) :
    Advances none w ⟨b, w.publications, w.history ++ [(e, b)]⟩ where
  sound := hsound
  publications_le := Nat.le_refl _
  extends_history := List.prefix_append _ _
  quiet := by
    intro n _ _
    rw [told_append]
    exact about_concat_of_ne (by rw [he]; simp) _
  delivered := fun n hle hlt => absurd hlt (Nat.not_lt.2 hle)

/-- A happening of the own publication. -/
theorem advances_note (h : w.Sound) {e : Happening ν} {n : Nat} (he : e.publication? = some n)
    (hn : n < w.publications) : Advances (some n) w (w.note e) where
  sound := h.note he hn
  publications_le := Nat.le_refl _
  extends_history := List.prefix_append _ _
  quiet := by
    intro n' _ hne
    rw [told_note]
    exact about_concat_of_ne (by rw [he]; exact hne) _
  delivered := fun n hle hlt => absurd hlt (Nat.not_lt.2 hle)

theorem about_note {e : Happening ν} {n : Nat} (he : e.publication? = some n) (w : Watched ν) :
    about n (told (w.note e).history) = about n (told w.history) ++ [e] := by
  rw [told_note, about_concat_of_eq he]

end Advances

/-! ## Handlers, deliveries and publications -/

section Runs

variable {publish : Watched ν → Message ν → Option (Watched ν × Nat)}

/-- **What a handler preserves**, if each publication preserves it. -/
theorem perform_advances
    (hpublish : ∀ w m p, w.Sound → publish w m = some p → Advances none w p.1)
    {conduct : Conduct ν} {w : Watched ν} {q : Watched ν × Bool} (h : w.Sound)
    (hq : perform publish conduct w = some q) : Advances none w q.1 := by
  have hnone (w : Watched ν) : ∀ n, none = some n → n < w.publications := fun _ hn => by cases hn
  induction conduct generalizing w with
  | done =>
    obtain rfl := Option.some.inj hq
    exact .refl h none
  | fail =>
    obtain rfl := Option.some.inj hq
    exact .refl h none
  | publish m next ih =>
    rw [perform] at hq
    cases hp : publish w m with
    | none =>
      rw [hp] at hq
      cases hq
    | some p =>
      rw [hp] at hq
      have hfirst := hpublish w m p h hp
      exact hfirst.trans (ih _ _ hfirst.sound hq) (hnone w)
  | subscribe topic handler next ih =>
    have hfirst : Advances none w (w.subscribe topic handler) :=
      advances_of_silent rfl (h.subscribe topic handler)
    exact hfirst.trans (ih _ _ hfirst.sound hq) (hnone w)
  | unsubscribe id next ih =>
    have hfirst : Advances none w (w.unsubscribe id) :=
      advances_of_silent rfl (h.unsubscribe id)
    exact hfirst.trans (ih _ _ hfirst.sound hq) (hnone w)

/-- **What a delivery preserves**: of its own publication it tells that the subscribers are called,
each once and in order, and it counts those that get to their end. -/
theorem deliver_advances
    (hpublish : ∀ w m p, w.Sound → publish w m = some p → Advances none w p.1)
    {react : Reaction ν} {n : Nat} {m : Message ν} {subscribers : List (Subscription ν)}
    {w : Watched ν} {p : Watched ν × Nat} (h : w.Sound) (hn : n < w.publications)
    (hp : deliver react publish n m subscribers w = some p) :
    Advances (some n) w p.1 ∧ ∃ reactions : List (Subscription ν × Bool),
      reactions.map (·.1) = subscribers ∧ p.2 = reactions.countP (·.2) ∧
        about n (told p.1.history) = about n (told w.history) ++ calls n reactions := by
  have hown (w : Watched ν) (hn : n < w.publications) :
      ∀ n', some n = some n' → n' < w.publications :=
    fun n' hn' => Option.some.inj hn' ▸ hn
  induction subscribers generalizing w p with
  | nil =>
    obtain rfl := Option.some.inj hp
    exact ⟨.refl h _, [], rfl, rfl, (List.append_nil _).symm⟩
  | cons s rest ih =>
    rw [deliver] at hp
    cases hq : perform publish (react (told w.history) s m) (w.note (.called n s)) with
    | none =>
      rw [hq] at hp
      cases hp
    | some q =>
      rw [hq] at hp
      obtain ⟨p', hp', rfl⟩ := Option.map_eq_some_iff.1 hp
      -- The handler is called, acts, and comes to its end.
      have hcalled := advances_note h (e := .called n s) rfl hn
      have hacts := perform_advances hpublish hcalled.sound hq
      have hn' : n < q.1.publications := Nat.lt_of_lt_of_le hn hacts.publications_le
      have hended := advances_note hacts.sound (e := .ended n s.id q.2) rfl hn'
      have hfirst := (hcalled.trans (hacts.weaken _) (hown w hn)).trans hended (hown w hn)
      have habout : about n (told (q.1.note (.ended n s.id q.2)).history) =
          about n (told w.history) ++ [.called n s, .ended n s.id q.2] := by
        rw [about_note rfl, hacts.quiet n hn (by simp), about_note rfl, List.append_assoc]
        rfl
      obtain ⟨hrest, reactions, hreactions, hcount, hcalls⟩ := ih hended.sound hn' hp'
      refine ⟨hfirst.trans hrest (hown w hn), (s, q.2) :: reactions, ?_, ?_, ?_⟩
      · rw [List.map_cons, hreactions]
      · rw [List.countP_cons, ← hcount]
      · rw [hcalls, habout, List.append_assoc]
        rfl

/-- **What a publication preserves**, however deep its handlers make publications nest. -/
theorem publish?_advances (react : Reaction ν) (depth : Nat) :
    ∀ w m p, w.Sound → publish? react depth w m = some p → Advances none w p.1 := by
  induction depth with
  | zero => exact fun w m p _ hp => by cases hp
  | succ depth ih =>
    intro w m p h hp
    obtain ⟨p', hp', rfl⟩ := Option.map_eq_some_iff.1 hp
    have hbegun : w.publications < (w.begin m).publications := Nat.lt_succ_self _
    obtain ⟨hadvances, reactions, hreactions, hcount, habout⟩ :=
      deliver_advances ih (h.begin m) hbegun hp'
    have hn := Nat.lt_of_lt_of_le hbegun hadvances.publications_le
    have hreturned := advances_note hadvances.sound (e := .returned w.publications p'.2) rfl hn
    have hwhole := hadvances.trans hreturned fun n hown => Option.some.inj hown ▸ hbegun
    refine ⟨hwhole.sound, Nat.le_trans (Nat.le_succ _) hwhole.publications_le,
      (List.prefix_append _ _).trans hwhole.extends_history, ?_, ?_⟩
    · -- The publication is none of the earlier ones.
      intro n hlt _
      have hne : some w.publications ≠ some n := by simpa using Nat.ne_of_gt hlt
      rw [hwhole.quiet n (Nat.lt_succ_of_lt hlt) hne, told_begin,
        about_concat_of_ne (e := .began w.publications m) hne]
    · intro n hle hlt
      by_cases heq : n = w.publications
      · subst heq
        obtain ⟨after, hafter⟩ := hwhole.extends_history
        refine ⟨w.history, m, w.bus.keep m, after, ?_, reactions, ?_, ?_, ?_⟩
        · rw [← hafter, begin, note, List.append_assoc, List.singleton_append]
        · rw [hreactions, ← h.subscriptions]
          rfl
        · exact h.about_eq_nil (Nat.le_refl _)
        · have htold := about_note (e := .returned w.publications p'.2) rfl p'.1
          rw [← hafter, told_append, about_append, habout, hcount, List.append_assoc] at htold
          exact List.append_cancel_left htold
      · exact hwhole.delivered n (Nat.lt_of_le_of_ne hle (Ne.symm heq)) hlt

end Runs

end Watched

/-! ## Lawful histories -/

/-- What is true of the history of a bus, wherever one looks at it. -/
structure Lawful (history : List (Happening ν × Bus ν)) : Prop where
  /-- Each publication serves the subscriptions of the moment at which it begins. -/
  delivered : ∀ before n m b after, history = before ++ (.began n m, b) :: after →
    Serves before n m after
  /-- A removal is told to be one just if the subscription was made and not removed since. -/
  removed : ∀ before id found b after, history = before ++ (.unsubscribed id found, b) :: after →
    (found = true ↔ ∃ s ∈ live (told before), s.id = id)
  /-- No publication that begins after a removal calls the handler. -/
  silenced : ∀ before id found b between n m b' after,
    history = (before ++ (.unsubscribed id found, b) :: between) ++ (.began n m, b') :: after →
    id ∈ (issued (told before)).map (·.id) → ∀ s, .called n s ∈ told after → s.id ≠ id
  /-- At each moment a topic has as many subscribers as there are live subscriptions to it. -/
  counted : ∀ before e b after, history = before ++ (e, b) :: after → ∀ topic,
    (b.subscribers topic).length = (live (told before ++ [e])).countP (·.topic == topic)
  /-- No id is given twice. -/
  ids : ((issued (told history)).map (·.id)).Nodup

theorem fst_mem_of_called_mem {n : Nat} {s : Subscription ν}
    {reactions : List (Subscription ν × Bool)} {count : Nat}
    (h : .called n s ∈ calls n reactions ++ [.returned n count]) : s ∈ reactions.map (·.1) := by
  rcases List.mem_append.1 h with h | h
  · obtain ⟨r, hr, hcalled | hended⟩ := mem_calls.1 h
    · exact List.mem_map.2 ⟨r, hr, (Happening.called.inj hcalled).2.symm⟩
    · cases hended
  · cases List.mem_singleton.1 h

theorem began_notMem_calls {n : Nat} {m : Message ν} {reactions : List (Subscription ν × Bool)}
    {count : Nat} : .began n m ∉ calls n reactions ++ [.returned n count] := by
  intro h
  rcases List.mem_append.1 h with h | h
  · obtain ⟨r, -, hcalled | hended⟩ := mem_calls.1 h
    · cases hcalled
    · cases hended
  · cases List.mem_singleton.1 h

/-- A happening of a publication is among what is told of it. -/
theorem mem_about {history : List (Happening ν × Bus ν)} {e : Happening ν} {n : Nat}
    (he : e.publication? = some n) (h : e ∈ told history) : e ∈ about n (told history) :=
  List.mem_filter.2 ⟨h, by simpa using he⟩

/-- A publication that is over began only once, so any place at which it begins is that one. -/
theorem Delivered.serves {n : Nat} {history before after : List (Happening ν × Bus ν)}
    {m : Message ν} {b : Bus ν} (h : Delivered n history)
    (hsplit : history = before ++ (.began n m, b) :: after) : Serves before n m after := by
  obtain ⟨before', m', b', after', rfl, reactions, hreactions, hbefore, hafter⟩ := h
  have hnotBefore : (Happening.began n m, b) ∉ before' := by
    intro hmem
    have habout := mem_about (n := n) rfl (List.mem_map_of_mem (f := (·.1)) hmem)
    rw [hbefore] at habout
    cases habout
  have hnotAfter : (Happening.began n m, b) ∉ after' := by
    intro hmem
    have habout := mem_about (n := n) rfl (List.mem_map_of_mem (f := (·.1)) hmem)
    rw [hafter] at habout
    exact began_notMem_calls habout
  obtain ⟨rfl, hbegan, rfl⟩ := (List.append_cons_inj_of_notMem hnotBefore hnotAfter).1 hsplit
  obtain ⟨⟨-, rfl⟩, -⟩ := Prod.mk.inj hbegan
  exact ⟨reactions, hreactions, hbefore, hafter⟩

/-- At a sound moment at which every publication is over, the history is lawful. -/
theorem Watched.Sound.lawful {w : Watched ν} (h : w.Sound)
    (hdelivered : ∀ n < w.publications, Delivered n w.history) : Lawful w.history := by
  have hids : ((issued (told w.history)).map (·.id)).Nodup := h.ids ▸ List.nodup_range
  have hserves : ∀ before n m b after, w.history = before ++ (.began n m, b) :: after →
      Serves before n m after := by
    intro before n m b after hsplit
    have hmem : .began n m ∈ told w.history := by
      rw [hsplit, told_append]
      exact List.mem_append_right _ List.mem_cons_self
    exact (hdelivered n (h.numbers _ hmem n rfl)).serves hsplit
  refine ⟨hserves, ?_, ?_, ?_, hids⟩
  · intro before id found b after hsplit
    exact (h.moments _ _ _ hsplit).found id found rfl
  · intro before id found b between n m b' after hsplit hissued s hcalled
    obtain ⟨reactions, hreactions, -, hafter⟩ := hserves _ _ _ _ _ hsplit
    have hmem := mem_about rfl hcalled
    rw [hafter] at hmem
    have hlive := fst_mem_of_called_mem hmem
    rw [hreactions, told_append] at hlive
    refine ne_id_of_mem_live ?_ hissued s (List.mem_filter.1 hlive).1
    rw [hsplit, told_append, told_append, issued, List.filterMap_append, List.map_append] at hids
    exact (List.nodup_append.1 hids).1
  · intro before e b after hsplit topic
    have hsubscriptions := (h.moments _ _ _ hsplit).subscriptions
    rw [List.countP_eq_length_filter, ← hsubscriptions]
    rfl

/-- **What a bus delivers**, whatever the client and the handlers do: the history is lawful.  If
they follow scripts, it is a history of the bus itself. -/
theorem lawful_perform (react : Reaction ν) (capacity depth : Nat) (client : Conduct ν)
    {w : Watched ν} {finished : Bool}
    (h : Watched.perform (Watched.publish? react depth) client (.new capacity) =
      some (w, finished)) :
    Lawful w.history ∧ ∀ script id, react = .own → client = .ofScript script →
      (perform (publish? depth) id script { capacity }).map (fun q => (q.bus, q.finished)) =
        some (w.bus, finished) := by
  constructor
  · have hadvances := Watched.perform_advances (Watched.publish?_advances react depth)
      (Watched.sound_new capacity) h
    exact hadvances.sound.lawful fun n hn => hadvances.delivered n (Nat.zero_le n) hn
  · rintro script id rfl rfl
    have hwatched := perform_watched depth id script (.new capacity)
    rw [h, Option.map_some] at hwatched
    exact hwatched.symm

/-- A client whose handlers remove themselves, fail, forward and subscribe others. -/
def restless : Script Unit :=
  .subscribe "alerts" (fun _ => .unsubscribe 0 fun _ => .done) fun _ =>
  .subscribe "alerts" failing fun _ =>
  .subscribe "alerts" (forwarding "digest" "relay") fun _ =>
  .subscribe "digest" (fun _ => .subscribe "alerts" listening fun _ => .done) fun _ =>
  .publish ⟨"alerts", "client", .findings []⟩ fun _ =>
  .publish ⟨"alerts", "client", .findings []⟩ fun _ => .done

theorem lawful_perform_restless :
    ∃ w, Watched.perform (Watched.publish? .own 3) (.ofScript restless) (.new 128) =
        some (w, true) ∧
      (w.bus.subscribers "alerts").map (·.id) = [1, 2, 4, 5] ∧ Lawful w.history :=
  ⟨_, rfl, rfl, (lawful_perform .own 128 3 (.ofScript restless) rfl).1⟩

end Vigil.Bus
