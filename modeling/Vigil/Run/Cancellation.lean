/-!
# Cancellation

A token can be cancelled, and with it all tokens derived from it.  A token knows its lineage: the
tokens from which it was derived, itself included.  Deadlines cancel tokens when the clock has come
so far.
-/

namespace Vigil

/-- A token: its own number and those of the tokens it was derived from. -/
structure Token where
  id : Nat
  ancestors : List Nat
deriving DecidableEq, Repr, Inhabited

namespace Token

/-- The token itself and those it was derived from. -/
def lineage (t : Token) : List Nat :=
  t.id :: t.ancestors

end Token

/-- The tokens that were cancelled, and the deadlines to come. -/
structure Cancellation where
  issued : Nat := 0
  cancelled : List Nat := []
  deadlines : List (Nat × Nat) := []
  now : Nat := 0
deriving DecidableEq, Repr, Inhabited

namespace Cancellation

/-- A new token that is derived from no other. -/
def fresh (c : Cancellation) : Token × Cancellation :=
  (⟨c.issued, []⟩, { c with issued := c.issued + 1 })

/-- A new token that is derived from another. -/
def child (c : Cancellation) (t : Token) : Token × Cancellation :=
  (⟨c.issued, t.lineage⟩, { c with issued := c.issued + 1 })

/-- Has the token, or one that it was derived from, been cancelled? -/
def isCancelled (c : Cancellation) (t : Token) : Bool :=
  t.lineage.any c.cancelled.contains

/-- Cancel a token. -/
def cancel (c : Cancellation) (t : Token) : Cancellation :=
  { c with cancelled := t.id :: c.cancelled }

/-- Cancel the tokens whose deadlines have come. -/
def expire (c : Cancellation) : Cancellation :=
  let due := c.deadlines.filter fun d => d.1 ≤ c.now
  { c with
    cancelled := due.map (·.2) ++ c.cancelled
    deadlines := c.deadlines.filter fun d => c.now < d.1 }

/-- Cancel a token after some time. -/
def cancelAfter (c : Cancellation) (t : Token) (time : Nat) : Cancellation :=
  expire { c with deadlines := c.deadlines ++ [(c.now + time, t.id)] }

/-- Let time pass. -/
def advance (c : Cancellation) (time : Nat) : Cancellation :=
  expire { c with now := c.now + time }

/-! ## Laws -/

theorem isCancelled_iff {c : Cancellation} {t : Token} :
    c.isCancelled t = true ↔ ∃ n ∈ t.lineage, n ∈ c.cancelled := by
  simp [isCancelled]

theorem mem_cancelled_expire {c : Cancellation} {n : Nat} :
    n ∈ c.expire.cancelled ↔ (∃ d ∈ c.deadlines, d.1 ≤ c.now ∧ d.2 = n) ∨ n ∈ c.cancelled := by
  simp [expire, and_assoc]

theorem mem_deadlines_expire {c : Cancellation} {d : Nat × Nat} :
    d ∈ c.expire.deadlines ↔ d ∈ c.deadlines ∧ c.now < d.1 := by
  simp [expire]

/-- The deadlines that have come cancel the tokens derived from theirs. -/
theorem isCancelled_expire {c : Cancellation} {t : Token} :
    c.expire.isCancelled t = true ↔
      c.isCancelled t = true ∨ ∃ d ∈ c.deadlines, d.1 ≤ c.now ∧ d.2 ∈ t.lineage := by
  simp only [isCancelled_iff, mem_cancelled_expire]
  constructor
  · rintro ⟨n, hlineage, ⟨d, hd, hcome, rfl⟩ | hold⟩
    · exact .inr ⟨d, hd, hcome, hlineage⟩
    · exact .inl ⟨n, hlineage, hold⟩
  · rintro (⟨n, hlineage, hold⟩ | ⟨d, hd, hcome, hlineage⟩)
    · exact ⟨n, hlineage, .inr hold⟩
    · exact ⟨d.2, hlineage, .inl ⟨d, hd, hcome, rfl⟩⟩

/-- A token that is not cancelled itself is cancelled if the one that it was derived from is. -/
theorem isCancelled_eq_of_ancestors {c : Cancellation} {s t : Token}
    (hancestors : s.ancestors = t.lineage) (hself : s.id ∉ c.cancelled) :
    c.isCancelled s = c.isCancelled t := by
  simp [isCancelled, Token.lineage, hancestors, hself]

theorem isCancelled_cancel_self (c : Cancellation) (t : Token) :
    (c.cancel t).isCancelled t = true := by
  simp [isCancelled, cancel, Token.lineage]

theorem isCancelled_child (c : Cancellation) (t : Token) (h : c.isCancelled t = true) :
    (c.child t).2.isCancelled (c.child t).1 = true := by
  simp only [isCancelled, child, Token.lineage, List.any_cons] at h ⊢
  simp only [h, Bool.or_true]

theorem isCancelled_cancel_of_isCancelled {c : Cancellation} {t : Token}
    (h : c.isCancelled t = true) (s : Token) : (c.cancel s).isCancelled t = true := by
  simp only [isCancelled, cancel, List.any_eq_true, List.contains_eq_mem, decide_eq_true_eq,
    List.mem_cons] at h ⊢
  obtain ⟨n, hn, hc⟩ := h
  exact ⟨n, hn, .inr hc⟩

end Cancellation

end Vigil
