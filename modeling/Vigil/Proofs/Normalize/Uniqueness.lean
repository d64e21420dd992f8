import Vigil.Proofs.Normalize.Batch

/-!
# Which ids can be equal

Within a batch the ordinals keep the ids apart, and how many findings share an id does not depend on
their order.  Across agents nothing but the name at the front of an id does so, and a name may hold
the colon that ends it:

* `ids_of_batch` -- **the ids of one batch are all different, and its order does not matter to
  them**;
* `shared_id` -- **findings of two agents can only have the same id if the name of one takes over
  the front of the other's type and file**;
* `not_ids_differ` -- and this does happen.
-/

namespace Vigil.Normalize

variable {ν : Type}

/-! ## Within a batch -/

/-- Only how often an id was seen matters. -/
theorem numberIds_congr {seen seen' : List String} (h : seen.Perm seen')
    (l : List (Finding ν)) : numberIds seen l = numberIds seen' l := by
  induction l generalizing seen seen' with
  | nil => rfl
  | cons f rest ih => rw [numberIds, numberIds, h.count_eq, ih (h.cons f.id)]

theorem ids_swap (f g : Finding ν) (rest : List (Finding ν)) (seen : List String) :
    ((numberIds seen (f :: g :: rest)).map (·.id)).Perm
      ((numberIds seen (g :: f :: rest)).map (·.id)) := by
  simp only [numberIds, List.map_cons]
  rw [numberIds_congr (List.Perm.swap f.id g.id seen) rest]
  by_cases h : f.id = g.id
  · -- Whichever comes first gets the smaller ordinal.
    rw [h]
  · rw [List.count_cons_of_ne h, List.count_cons_of_ne (Ne.symm h)]
    exact List.Perm.swap ..

theorem ids_perm {l l' : List (Finding ν)} (h : l.Perm l') (seen : List String) :
    ((numberIds seen l).map (·.id)).Perm ((numberIds seen l').map (·.id)) := by
  induction h generalizing seen with
  | nil => exact List.Perm.refl _
  | cons f _ ih => exact (ih (f.id :: seen)).cons _
  | swap f g rest => exact ids_swap g f rest seen
  | trans _ _ ih₁ ih₂ => exact (ih₁ seen).trans (ih₂ seen)

theorem accepted_perm {l l' : List (Except RejectReason (Finding ν))} (h : l.Perm l') :
    (accepted l).Perm (accepted l') := by
  rw [accepted_eq_filterMap, accepted_eq_filterMap]
  exact h.filterMap _

/-- **The ids of one batch are all different, and its order does not matter to them.** -/
theorem ids_of_batch [Quantity ν] (agent : String) (batch : List (RawFinding ν)) :
    ((normalize agent batch).findings.map (·.id)).Nodup ∧
    ∀ batch', batch.Perm batch' →
      ((normalize agent batch).findings.map (·.id)).Perm
        ((normalize agent batch').findings.map (·.id)) :=
  ⟨nodup_ids_normalize agent batch,
    fun _ h => ids_perm (accepted_perm (h.map (one agent))) []⟩

/-- Two equal leaks, before a broken record and around it. -/
theorem ids_of_batch_twoLeaks :
    [typedRecord "leak", typedRecord "leak", .undecodable ""].Perm
      [typedRecord "leak", .undecodable "", typedRecord "leak"] ∧
    ((normalize "scan" [typedRecord "leak", typedRecord "leak", .undecodable ""]).findings.map
        (·.id)).Perm
      ((normalize "scan" [typedRecord "leak", .undecodable "", typedRecord "leak"]).findings.map
        (·.id)) :=
  have h : [typedRecord "leak", typedRecord "leak", .undecodable ""].Perm
      [typedRecord "leak", .undecodable "", typedRecord "leak"] := (List.Perm.swap ..).cons _
  ⟨h, (ids_of_batch "scan" _).2 _ h⟩

/-! ## Across agents -/

/-- What stands in an id between the agent and the lines. -/
def subject (f : Finding ν) : String :=
  f.findingType ++ ":" ++ f.location.file

/-- The second name is the first with the front of a subject behind a colon, and what is left of
this subject is the other one. -/
def TakesOver (agent subject agent' subject' : String) : Prop :=
  ∃ front, agent' = agent ++ ":" ++ front ∧ subject = front ++ ":" ++ subject'

/-- Different names before a colon, in texts that are equal. -/
theorem takesOver_of_append_eq {agent agent' p q : String} (hne : agent ≠ agent')
    (h : agent ++ ":" ++ p = agent' ++ ":" ++ q) :
    TakesOver agent p agent' q ∨ TakesOver agent' q agent p := by
  have htakes : ∀ {a a' x y : String} {c : List Char}, a ≠ a' → a'.toList = a.toList ++ c →
      ':' :: x.toList = c ++ ':' :: y.toList → TakesOver a x a' y := by
    intro a a' x y c hne' hname hrest
    cases c with
    | nil => exact absurd (String.toList_inj.1 (by simpa using hname.symm)) hne'
    | cons d front =>
      obtain ⟨rfl, hx⟩ := List.cons.inj hrest
      exact ⟨String.ofList front, String.toList_inj.1 (by simpa using hname),
        String.toList_inj.1 (by simpa using hx)⟩
  have hlist : agent.toList ++ ':' :: p.toList = agent'.toList ++ ':' :: q.toList := by
    simpa using congrArg String.toList h
  rcases List.append_eq_append_iff.1 hlist with ⟨c, hname, hrest⟩ | ⟨c, hname, hrest⟩
  · exact .inl (htakes hne hname hrest)
  · exact .inr (htakes (Ne.symm hne) hname hrest)

/-- An id without its ordinal tells the lines, and the rest as one text. -/
theorem Reported.parts_of_id_eq {agent agent' : String} {f g : Finding ν}
    (hf : Reported agent f) (hg : Reported agent' g) (h : f.id = g.id) :
    agent ++ ":" ++ subject f = agent' ++ ":" ++ subject g ∧
      f.location.startLine = g.location.startLine ∧ f.location.endLine = g.location.endLine := by
  have hparts : ∀ {a : String} {k : Finding ν}, Reported a k → k.id.toList =
      ((a ++ ":" ++ subject k).toList ++ ':' :: k.location.startLine.toNat.repr.toList) ++
        '-' :: k.location.endLine.toNat.repr.toList := by
    intro a k hk
    rw [hk.id, toList_baseId]
    simp [stem, subject]
  have hlist := congrArg String.toList h
  rw [hparts hf, hparts hg] at hlist
  obtain ⟨hfront, -, hend⟩ := append_digits_inj (by decide) (by decide)
    (fun _ => isDigit_of_mem_repr) (fun _ => isDigit_of_mem_repr) hlist
  obtain ⟨htext, -, hstart⟩ := append_digits_inj (by decide) (by decide)
    (fun _ => isDigit_of_mem_repr) (fun _ => isDigit_of_mem_repr) hfront
  exact ⟨String.toList_inj.1 htext, UInt32.toNat_inj.1 (repr_inj hstart),
    UInt32.toNat_inj.1 (repr_inj hend)⟩

/-- **If findings of two agents have the same id, then the name of one agent takes over the front of
the other's type and file, and the findings agree in their lines but not in type and file.** -/
theorem shared_id [Quantity ν] {agent agent' : String} (hne : agent ≠ agent')
    {batch batch' : List (RawFinding ν)} {f g : Finding ν}
    (hf : f ∈ (normalize agent batch).findings) (hg : g ∈ (normalize agent' batch').findings)
    (hid : f.id = g.id) :
    (TakesOver agent (subject f) agent' (subject g) ∨
        TakesOver agent' (subject g) agent (subject f)) ∧
      f.location.startLine = g.location.startLine ∧ f.location.endLine = g.location.endLine ∧
      ¬(f.findingType = g.findingType ∧ f.location.file = g.location.file) := by
  obtain ⟨r, -, f, m, hone, rfl⟩ := exists_of_mem_normalize hf
  obtain ⟨r', -, g, n, hone', rfl⟩ := exists_of_mem_normalize hg
  have hrep := reported_of_one hone
  have hrep' := reported_of_one hone'
  have hbase : f.id = g.id := by
    rw [hrep.id, hrep'.id]
    rw [hrep.id, hrep'.id] at hid
    exact (ordinalId_inj hid).1
  obtain ⟨htext, hstart, hend⟩ := hrep.parts_of_id_eq hrep' hbase
  refine ⟨takesOver_of_append_eq hne htext, hstart, hend, fun ⟨htype, hfile⟩ => hne ?_⟩
  rw [hrep.id, hrep'.id, htype] at hbase
  exact baseId_agent_inj hfile hstart hbase

/-- What one agent calls a race between locks is a lock to the agent for races. -/
theorem exists_shared_id :
    ∃ f ∈ (normalize "scan" [typedRecord "race:lock"]).findings,
      ∃ g ∈ (normalize "scan:race" [typedRecord "lock"]).findings, f.id = g.id := by
  refine ⟨_, List.mem_singleton_self _, _, List.mem_singleton_self _, ?_⟩
  decide +kernel

theorem shared_id_raceLock :
    ∃ f ∈ (normalize "scan" [typedRecord "race:lock"]).findings,
      ∃ g ∈ (normalize "scan:race" [typedRecord "lock"]).findings, f.id = g.id ∧
        (TakesOver "scan" (subject f) "scan:race" (subject g) ∨
          TakesOver "scan:race" (subject g) "scan" (subject f)) ∧
        f.location.startLine = g.location.startLine ∧ f.location.endLine = g.location.endLine ∧
        ¬(f.findingType = g.findingType ∧ f.location.file = g.location.file) := by
  obtain ⟨f, hf, g, hg, hid⟩ := exists_shared_id
  exact ⟨f, hf, g, hg, hid, shared_id (by decide) hf hg hid⟩

/-- The ids of different agents need not be different. -/
theorem not_ids_differ :
    ¬∀ (agent agent' : String) (batch batch' : List (RawFinding Float)), agent ≠ agent' →
      ∀ f ∈ (normalize agent batch).findings, ∀ g ∈ (normalize agent' batch').findings,
        f.id ≠ g.id := by
  intro h
  obtain ⟨f, hf, g, hg, hid⟩ := exists_shared_id
  exact h "scan" "scan:race" _ _ (by decide) f hf g hg hid

end Vigil.Normalize
