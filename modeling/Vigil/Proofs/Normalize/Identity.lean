import Mathlib.Data.List.Nodup
import Vigil.Finding.Normalize

/-!
# What normalization reports, and under which ids

An id is a text: the agent, the type, the file and the lines, and an ordinal where several findings
of a batch share these.  Agents, types and files may hold any characters, also those that separate
the parts, so an id cannot in general be taken apart again.  What can be told is its end:

* `ordinalId_inj` -- the last character that is no digit tells whether there is an ordinal, so that
  equal ids have the same ordinal and are equal without it;
* `baseId_agent_inj` -- ids for one type, file and lines differ as soon as the agents do;
* `nodup_ids_normalize` -- **the ids of one batch are all different**.

`Reported` says what all accepted findings have in common; `exists_of_mem_normalize` and
`exists_mem_normalize` tell which findings normalization gives.
-/

namespace Vigil.Normalize

/-! ## Numerals at the end of a text -/

theorem isDigit_of_mem_repr {n : Nat} {c : Char} (h : c ∈ n.repr.toList) : c.isDigit = true := by
  rw [Nat.toList_repr] at h
  exact Nat.isDigit_of_mem_toDigits (by decide) (by decide) h

theorem repr_inj {m n : Nat} (h : m.repr.toList = n.repr.toList) : m = n := by
  rw [Nat.toList_repr, Nat.toList_repr] at h
  rw [← Nat.ofDigitChars_ten_toDigits (n := m), h, Nat.ofDigitChars_ten_toDigits]

/-- The first character that is no digit splits a text in one way. -/
theorem digits_append_inj {c d : Char} (hc : c.isDigit = false) (hd : d.isDigit = false)
    {p q : List Char} : ∀ {ds es : List Char}, (∀ x ∈ ds, x.isDigit = true) →
    (∀ x ∈ es, x.isDigit = true) → ds ++ c :: p = es ++ d :: q → ds = es ∧ c = d ∧ p = q
  | [], [], _, _, h => by simpa using h
  | [], e :: es, _, hes, h => by
    rw [List.nil_append, List.cons_append, List.cons.injEq] at h
    have he := hes e (List.mem_cons_self ..)
    rw [← h.1, hc] at he
    cases he
  | x :: ds, [], hds, _, h => by
    rw [List.nil_append, List.cons_append, List.cons.injEq] at h
    have hx := hds x (List.mem_cons_self ..)
    rw [h.1, hd] at hx
    cases hx
  | x :: ds, e :: es, hds, hes, h => by
    rw [List.cons_append, List.cons_append, List.cons.injEq] at h
    obtain ⟨he, hcd, hpq⟩ := digits_append_inj hc hd
      (fun y hy => hds y (List.mem_cons_of_mem _ hy))
      (fun y hy => hes y (List.mem_cons_of_mem _ hy)) h.2
    exact ⟨by rw [h.1, he], hcd, hpq⟩

/-- The last character that is no digit splits a text in one way. -/
theorem append_digits_inj {c d : Char} (hc : c.isDigit = false) (hd : d.isDigit = false)
    {p q ds es : List Char} (hds : ∀ x ∈ ds, x.isDigit = true) (hes : ∀ x ∈ es, x.isDigit = true)
    (h : p ++ c :: ds = q ++ d :: es) : p = q ∧ c = d ∧ ds = es := by
  have hrev : ds.reverse ++ c :: p.reverse = es.reverse ++ d :: q.reverse := by
    simpa using congrArg List.reverse h
  obtain ⟨h₁, h₂, h₃⟩ := digits_append_inj hc hd (by simpa using hds) (by simpa using hes) hrev
  exact ⟨List.reverse_inj.1 h₃, h₂, List.reverse_inj.1 h₁⟩

/-! ## The parts of an id -/

/-- What stands in an id between the agent and the last line. -/
def stem (findingType : String) (l : Location) : List Char :=
  ':' :: (findingType.toList ++ ':' :: (l.file.toList ++ ':' :: l.startLine.toNat.repr.toList))

theorem toList_baseId (agent findingType : String) (l : Location) :
    (baseId agent findingType l).toList =
      (agent.toList ++ stem findingType l) ++ '-' :: l.endLine.toNat.repr.toList := by
  have h : baseId agent findingType l = agent ++ ":" ++ findingType ++ ":" ++ l.file ++ ":" ++
    l.startLine.toNat.repr ++ "-" ++ l.endLine.toNat.repr := rfl
  rw [h]
  simp [stem]

theorem ordinalId_of_le {n : Nat} (h : n ≤ 1) (id : String) : ordinalId id n = id :=
  if_pos h

theorem toList_ordinalId_of_lt {n : Nat} (h : 1 < n) (id : String) :
    (ordinalId id n).toList = id.toList ++ '#' :: n.repr.toList := by
  have hid : ordinalId id n = id ++ "#" ++ n.repr := if_neg (Nat.not_le.2 h)
  rw [hid]
  simp

/-- An id without an ordinal ends in a dash and a numeral, so it is none with an ordinal. -/
theorem baseId_ne_ordinalId (agent findingType : String) (l : Location) (id : String) {n : Nat}
    (hn : 1 < n) : baseId agent findingType l ≠ ordinalId id n := by
  intro h
  have hlist := congrArg String.toList h
  rw [toList_baseId, toList_ordinalId_of_lt hn] at hlist
  obtain ⟨-, hc, -⟩ := append_digits_inj (by decide) (by decide)
    (fun _ => isDigit_of_mem_repr) (fun _ => isDigit_of_mem_repr) hlist
  exact absurd hc (by decide)

/-- **Equal ids are equal without their ordinals, and have the same ordinal.** -/
theorem ordinalId_inj {agent agent' type type' : String} {l l' : Location} {m n : Nat}
    (h : ordinalId (baseId agent type l) m = ordinalId (baseId agent' type' l') n) :
    baseId agent type l = baseId agent' type' l' ∧ max 1 m = max 1 n := by
  rcases Nat.lt_or_ge 1 m with hm | hm <;> rcases Nat.lt_or_ge 1 n with hn | hn
  · have hlist := congrArg String.toList h
    rw [toList_ordinalId_of_lt hm, toList_ordinalId_of_lt hn] at hlist
    obtain ⟨hid, -, hmn⟩ := append_digits_inj (by decide) (by decide)
      (fun _ => isDigit_of_mem_repr) (fun _ => isDigit_of_mem_repr) hlist
    exact ⟨String.toList_inj.1 hid, by rw [repr_inj hmn]⟩
  · rw [ordinalId_of_le hn] at h
    exact absurd h.symm (baseId_ne_ordinalId _ _ _ _ hm)
  · rw [ordinalId_of_le hm] at h
    exact absurd h (baseId_ne_ordinalId _ _ _ _ hn)
  · rw [ordinalId_of_le hm, ordinalId_of_le hn] at h
    exact ⟨h, by omega⟩

/-- Ids for one type, file and lines tell the agent, whatever characters its name holds. -/
theorem baseId_agent_inj {agent agent' type : String} {l l' : Location}
    (hfile : l.file = l'.file) (hstart : l.startLine = l'.startLine)
    (h : baseId agent type l = baseId agent' type l') : agent = agent' := by
  have hlist := congrArg String.toList h
  rw [toList_baseId, toList_baseId] at hlist
  obtain ⟨hfront, -, -⟩ := append_digits_inj (by decide) (by decide)
    (fun _ => isDigit_of_mem_repr) (fun _ => isDigit_of_mem_repr) hlist
  have hstem : stem type l = stem type l' := by rw [stem, stem, hfile, hstart]
  rw [hstem] at hfront
  exact String.toList_inj.1 (List.append_cancel_right hfront)

/-! ## Accepted records -/

variable {ν : Type}

/-- What all findings have in common that come from records of an agent. -/
structure Reported (agent : String) (f : Finding ν) : Prop where
  id : f.id = baseId agent f.findingType f.location
  agents : f.agents = OrderedSet.singleton agent
  status : f.status = .pending
  lines : f.location.startLine ≤ f.location.endLine

theorem Reported.mem_agents_iff {agent : String} {f : Finding ν} (h : Reported agent f)
    {a : String} : a ∈ f.agents ↔ a = agent := by
  rw [h.agents, OrderedSet.mem_singleton]

theorem mem_accepted {f : Finding ν} {l : List (Except RejectReason (Finding ν))} :
    f ∈ accepted l ↔ .ok f ∈ l := by
  induction l with
  | nil => simp [accepted]
  | cons r rest ih =>
    cases r with
    | ok g => simp [accepted, ih]
    | error e => simp [accepted, ih]

/-- The findings of a batch are those given to it, each with an ordinal above the number of those
before it with the same id. -/
theorem exists_of_mem_numberIds {l : List (Finding ν)} {seen : List String} {g : Finding ν}
    (hg : g ∈ numberIds seen l) :
    ∃ f ∈ l, ∃ n, seen.count f.id < n ∧ g = { f with id := ordinalId f.id n } := by
  induction l generalizing seen with
  | nil => cases hg
  | cons f rest ih =>
    rcases List.mem_cons.1 hg with rfl | hg
    · exact ⟨f, List.mem_cons_self .., _, Nat.lt_succ_self _, rfl⟩
    · obtain ⟨f', hf', n, hn, rfl⟩ := ih hg
      refine ⟨f', List.mem_cons_of_mem _ hf', n, ?_, rfl⟩
      exact Nat.lt_of_le_of_lt (List.count_le_count_cons ..) hn

theorem exists_mem_numberIds {l : List (Finding ν)} {seen : List String} {f : Finding ν}
    (hf : f ∈ l) : ∃ n, { f with id := ordinalId f.id n } ∈ numberIds seen l := by
  induction l generalizing seen with
  | nil => cases hf
  | cons g rest ih =>
    rcases List.mem_cons.1 hf with rfl | hf
    · exact ⟨_, List.mem_cons_self ..⟩
    · obtain ⟨n, hn⟩ := ih hf
      exact ⟨n, List.mem_cons_of_mem _ hn⟩

theorem nodup_ids_numberIds {agent : String} {l : List (Finding ν)}
    (hrep : ∀ f ∈ l, Reported agent f) (seen : List String) :
    ((numberIds seen l).map (·.id)).Nodup := by
  induction l generalizing seen with
  | nil => exact List.nodup_nil
  | cons f rest ih =>
    have hf := hrep f (List.mem_cons_self ..)
    have hrest : ∀ g ∈ rest, Reported agent g := fun g hg => hrep g (List.mem_cons_of_mem _ hg)
    rw [numberIds, List.map_cons, List.nodup_cons]
    refine ⟨fun hmem => ?_, ih hrest _⟩
    obtain ⟨g, hg, hid⟩ := List.mem_map.1 hmem
    obtain ⟨f', hf', n, hn, rfl⟩ := exists_of_mem_numberIds hg
    simp only [hf.id, (hrest f' hf').id] at hid hn
    obtain ⟨hbase, hord⟩ := ordinalId_inj hid
    -- Behind `f`, its id has been counted once more.
    rw [hbase, List.count_cons_self] at hn
    omega

variable [Quantity ν]

theorem exists_ok_of_bind {ε α β : Type} {x : Except ε α} {k : α → Except ε β} {b : β}
    (h : x >>= k = .ok b) : ∃ a, x = .ok a ∧ k a = .ok b := by
  cases x with
  | error e => cases h
  | ok a => exact ⟨a, rfl, h⟩

theorem reported_of_one {agent : String} {r : RawFinding ν} {f : Finding ν}
    (h : one agent r = .ok f) : Reported agent f := by
  cases r with
  | undecodable reason => cases h
  | record r =>
    obtain ⟨type, -, h⟩ := exists_ok_of_bind h
    obtain ⟨file, -, h⟩ := exists_ok_of_bind h
    obtain ⟨line, -, h⟩ := exists_ok_of_bind h
    obtain ⟨severity, -, h⟩ := exists_ok_of_bind h
    obtain ⟨confidence, -, h⟩ := exists_ok_of_bind h
    obtain rfl := Except.ok.inj h
    exact ⟨rfl, rfl, rfl, Location.between_ordered ..⟩

/-- The findings of a batch are those of its acceptable records, up to their ordinals. -/
theorem exists_of_mem_normalize {agent : String} {batch : List (RawFinding ν)} {g : Finding ν}
    (hg : g ∈ (normalize agent batch).findings) :
    ∃ r ∈ batch, ∃ f n, one agent r = .ok f ∧ g = { f with id := ordinalId f.id n } := by
  obtain ⟨f, hf, n, -, rfl⟩ := exists_of_mem_numberIds hg
  obtain ⟨r, hr, hrf⟩ := List.mem_map.1 (mem_accepted.1 hf)
  exact ⟨r, hr, f, n, hrf, rfl⟩

theorem exists_mem_normalize {agent : String} {batch : List (RawFinding ν)} {r : RawFinding ν}
    {f : Finding ν} (hr : r ∈ batch) (h : one agent r = .ok f) :
    ∃ n, { f with id := ordinalId f.id n } ∈ (normalize agent batch).findings :=
  exists_mem_numberIds (mem_accepted.2 (List.mem_map.2 ⟨r, hr, h⟩))

/-- **The ids of one batch are all different.** -/
theorem nodup_ids_normalize (agent : String) (batch : List (RawFinding ν)) :
    ((normalize agent batch).findings.map (·.id)).Nodup := by
  have hrep : ∀ f ∈ accepted (batch.map (one agent)), Reported agent f := by
    intro f hf
    obtain ⟨r, -, hrf⟩ := List.mem_map.1 (mem_accepted.1 hf)
    exact reported_of_one hrf
  exact nodup_ids_numberIds hrep []

end Vigil.Normalize
