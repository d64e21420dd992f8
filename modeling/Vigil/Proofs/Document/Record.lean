import Mathlib.Algebra.Ring.Nat
import Mathlib.Data.Option.Basic
import Vigil.Finding.Codec

/-!
# Records and values read from documents

What it takes to read a record from an object, and what reading it does not depend on.

A record is *fieldwise* if each of its fields goes by one name, if it is built from nothing but the
values of its fields, and if it is built only from values that its fields accept.  Records put
together from fields are fieldwise (`IsFieldwise.seq`, `isFieldwise_field`).  A fieldwise record is
read from an object by looking up its fields (`decode_object`), and members that none of its fields
is named by do not change what is read, nor the error (`decode_extends`).

What stands under the names is read as it was written: numbers (`real_float`, `word32_word32`,
`word64_word64`), what may be null (`nullable_getD`, `nullable_orNull_text`), and lists and maps, if
each of their values is (`listOf_map`, `mapOf_map`).  A number that is not finite becomes null, which
is no number.
-/

namespace Vigil.Document

open Json (lookup)

variable {δ α β : Type}

/-! ## Members -/

theorem lookup_of_mem {key : String} {v : δ} {members : List (String × δ)}
    (hkeys : (members.map (·.1)).Nodup) (h : (key, v) ∈ members) :
    lookup key members = some v := by
  induction members with
  | nil => cases h
  | cons m rest ih =>
    obtain ⟨k, w⟩ := m
    obtain ⟨hk, hrest⟩ := List.nodup_cons.1 hkeys
    rcases List.mem_cons.1 h with heq | hmem
    · cases heq
      exact if_pos rfl
    · have hmem' : key ∈ rest.map (·.1) := List.mem_map_of_mem (f := (·.1)) hmem
      rw [lookup, if_neg (ne_of_mem_of_not_mem hmem' hk).symm, ih hrest hmem]

theorem lookup_append (key : String) (members rest : List (String × δ)) :
    lookup key (members ++ rest) = (lookup key members).or (lookup key rest) := by
  induction members with
  | nil => rfl
  | cons m members ih =>
    rw [List.cons_append, lookup, lookup]
    split
    · rfl
    · exact ih

theorem map_snd_find? (key : String) (members : List (String × δ)) :
    (members.find? fun m => key == m.1).map (·.2) = lookup key members := by
  induction members with
  | nil => rfl
  | cons m rest ih =>
    rw [lookup, List.find?_cons]
    by_cases heq : key = m.1
    · rw [if_pos heq.symm, beq_iff_eq.2 heq]
      rfl
    · rw [if_neg (Ne.symm heq), beq_false_of_ne heq]
      exact ih

/-- The second members are the first ones, in their order, with further ones under none of the
names.  The value of a member that is kept may change to one that is related to it at its key. -/
inductive Padded (names : List String) (R : String → δ → δ → Prop) :
    List (String × δ) → List (String × δ) → Prop
  | nil : Padded names R [] []
  | keep {key : String} {v v' : δ} {ms ms' : List (String × δ)} (h : R key v v')
      (hrest : Padded names R ms ms') : Padded names R ((key, v) :: ms) ((key, v') :: ms')
  | add {key : String} {ms ms' : List (String × δ)} (h : key ∉ names) (v : δ)
      (hrest : Padded names R ms ms') : Padded names R ms ((key, v) :: ms')

variable {R : String → δ → δ → Prop} {ms ms' : List (String × δ)}

theorem Padded.lookup {names : List String} (h : Padded names R ms ms') {name : String}
    (hname : name ∈ names) :
    Option.Rel (R name) (lookup name ms) (lookup name ms') := by
  induction h with
  | nil => exact .none
  | @keep key v v' ms ms' h _ ih =>
    rw [Json.lookup, Json.lookup]
    split
    next heq =>
      subst heq
      exact .some h
    next => exact ih
  | @add key ms ms' h _ _ ih =>
    have hne : key ≠ name := by
      rintro rfl
      exact h hname
    rwa [Json.lookup, if_neg hne]

/-! ## Fieldwise records -/

namespace Record

/-- The names of the fields. -/
def names (r : Record δ α) : List String :=
  r.fields.map (·.name)

/-- A record of one field; `absent` is what an absent value comes to. -/
def field (name : String) (hasDefault : Bool) (dec : Decoder δ α) (absent : Except Error α) :
    Record δ α :=
  ⟨[⟨name, [], hasDefault, fun v => (dec v).map fun _ => ()⟩], fun look =>
    match look name with
    | none => absent
    | some v => dec v⟩

/-! ### Building -/

variable {look : String → Option δ}

/-- The record is built from the values that are looked up. -/
def Builds (r : Record δ α) (look : String → Option δ) (a : α) : Prop :=
  r.build look = .ok a

theorem Builds.seq {f : Record δ (α → β)} {x : Record δ α} {g : α → β} {a : α}
    (hf : f.Builds look g) (hx : x.Builds look a) : (f <*> x).Builds look (g a) := by
  change (Record.seq f fun _ => x).build look = _
  rw [Builds] at hf hx
  simp only [Record.seq, hf, hx]

theorem Builds.map (g : α → β) {x : Record δ α} {a : α} (hx : x.Builds look a) :
    (g <$> x).Builds look (g a) :=
  Builds.seq (f := pure g) rfl hx

/-- What a sequence has built comes from what both of its parts have built. -/
theorem exists_of_builds_seq {f : Record δ (α → β)} {x : Record δ α} {b : β}
    (h : (f <*> x).Builds look b) : ∃ g a, f.Builds look g ∧ x.Builds look a ∧ g a = b := by
  change (Record.seq f fun _ => x).build look = _ at h
  simp only [Record.seq] at h
  cases hf : f.build look with
  | error e =>
    rw [hf] at h
    cases h
  | ok g =>
    cases hx : x.build look with
    | error e =>
      rw [hf, hx] at h
      cases h
    | ok a =>
      rw [hf, hx] at h
      exact ⟨g, a, hf, hx, Except.ok.inj h⟩

variable {name : String} {hasDefault : Bool} {dec : Decoder δ α} {absent : Except Error α}

theorem builds_field {v : δ} {a : α} (hdec : dec v = .ok a) (h : look name = some v) :
    (field name hasDefault dec absent).Builds look a := by
  simp only [Builds, field, h, hdec]

theorem builds_required {v : δ} {a : α} (hdec : dec v = .ok a) (h : look name = some v) :
    (required name dec).Builds look a :=
  builds_field hdec h

theorem builds_optional [Document δ] {v : δ} {o : Option α} (hdec : nullable dec v = .ok o)
    (h : look name = some v) : (optional name dec).Builds look o :=
  builds_field hdec h

/-- A field that is given only when there is a value for it. -/
theorem builds_defaultedOptional [Document δ] {o : Option α} {write : α → δ}
    (hdec : ∀ a ∈ o, nullable dec (write a) = .ok (some a)) (h : look name = o.map write) :
    (defaultedOptional name dec).Builds look o := by
  cases o with
  | none =>
    rw [Option.map_none] at h
    simp only [Builds, defaultedOptional, h]
  | some a => exact builds_field (hdec a rfl) h

/-! ### Putting fields together -/

/-- The record reads its fields one by one: each goes by one name, values that are related at the
name of a field are not told apart, and every value that the record was built from is acceptable. -/
structure IsFieldwise (R : String → δ → δ → Prop) (r : Record δ α) : Prop where
  unaliased : ∀ f ∈ r.fields, f.aliases = []
  check : ∀ f ∈ r.fields, ∀ v v', R f.name v v' → f.check v = f.check v'
  build : ∀ look look' : String → Option δ,
    (∀ f ∈ r.fields, Option.Rel (R f.name) (look f.name) (look' f.name)) →
      r.build look = r.build look'
  accepts : ∀ look a, r.Builds look a →
    ∀ f ∈ r.fields, ∀ v, look f.name = some v → f.check v = .ok ()

theorem isFieldwise_pure (a : α) : (pure a : Record δ α).IsFieldwise R where
  unaliased := fun _ h => nomatch h
  check := fun _ h => nomatch h
  build := fun _ _ _ => rfl
  accepts := fun _ _ _ _ h => nomatch h

theorem IsFieldwise.seq {f : Record δ (α → β)} {x : Record δ α} (hf : f.IsFieldwise R)
    (hx : x.IsFieldwise R) : (f <*> x).IsFieldwise R where
  unaliased g hg := (List.mem_append.1 hg).elim (hf.unaliased g) (hx.unaliased g)
  check g hg := (List.mem_append.1 hg).elim (hf.check g) (hx.check g)
  build look look' h := by
    have hleft := hf.build look look' fun g hg => h g (List.mem_append_left _ hg)
    have hright := hx.build look look' fun g hg => h g (List.mem_append_right _ hg)
    change (Record.seq f fun _ => x).build look = (Record.seq f fun _ => x).build look'
    simp only [Record.seq, hleft, hright]
  accepts look b h g hg := by
    obtain ⟨_, _, hleft, hright, -⟩ := exists_of_builds_seq h
    rcases List.mem_append.1 hg with hg | hg
    · exact hf.accepts look _ hleft g hg
    · exact hx.accepts look _ hright g hg

theorem IsFieldwise.map (g : α → β) {x : Record δ α} (hx : x.IsFieldwise R) :
    (g <$> x).IsFieldwise R :=
  (isFieldwise_pure g).seq hx

/-- **A record of one field is fieldwise** if its decoder does not tell related values apart. -/
theorem isFieldwise_field (h : ∀ v v', R name v v' → dec v = dec v') :
    (field name hasDefault dec absent).IsFieldwise R where
  unaliased f hf := by
    cases List.mem_singleton.1 hf
    rfl
  check f hf v v' hv := by
    cases List.mem_singleton.1 hf
    show (dec v).map _ = (dec v').map _
    rw [h v v' hv]
  build look look' hlook := by
    have hname := hlook _ (List.mem_singleton_self _)
    change Option.Rel (R name) (look name) (look' name) at hname
    simp only [field]
    generalize look name = o at hname
    generalize look' name = o' at hname
    cases hname with
    | none => rfl
    | some hv => exact h _ _ hv
  accepts look a ha f hf v hv := by
    cases List.mem_singleton.1 hf
    simp only [Builds, field, hv] at ha
    show (dec v).map _ = _
    rw [ha]
    rfl

theorem isFieldwise_required (h : ∀ v v', R name v v' → dec v = dec v') :
    (required name dec).IsFieldwise R :=
  isFieldwise_field h

theorem isFieldwise_defaulted {default : α} (h : ∀ v v', R name v v' → dec v = dec v') :
    (defaulted name dec default).IsFieldwise R :=
  isFieldwise_field h

theorem via_id (r : Record δ α) : via id r = r := by
  have hbuild : (fun look => r.build fun name => (look name).map id) = r.build := by
    simp only [Option.map_id_fun, id]
  have hfields : r.fields.map (fun f => ⟨f.name, f.aliases, f.defaulted, fun v => f.check (id v)⟩) =
      r.fields := List.map_id r.fields
  rw [via, hbuild, hfields]

section Nullable

variable [Document δ]

theorem nullable_congr {v v' : δ} (hnull : isNull v = isNull v') (h : dec v = dec v') :
    nullable dec v = nullable dec v' := by
  rw [nullable, nullable, hnull, h]

theorem isFieldwise_optional (h : ∀ v v', R name v v' → nullable dec v = nullable dec v') :
    (optional name dec).IsFieldwise R :=
  isFieldwise_field h

theorem isFieldwise_defaultedOptional
    (h : ∀ v v', R name v v' → nullable dec v = nullable dec v') :
    (defaultedOptional name dec).IsFieldwise R :=
  isFieldwise_field h

end Nullable

/-! ## Reading by name -/

theorem name_of_find? {fields : List (Field δ)} {key : String} {f : Field δ}
    (h : fields.find? (·.name == key) = some f) : f.name = key :=
  eq_of_beq (List.find?_eq_some_iff_append.1 h).1

section Fields

variable {fields : List (Field δ)} (hfields : ∀ f ∈ fields, f.aliases = [])
include hfields

theorem answersTo_of_unaliased {f : Field δ} (hf : f ∈ fields) (key : String) :
    f.answersTo key = (f.name == key) := by
  rw [Field.answersTo, hfields f hf, List.contains_nil, Bool.or_false]

theorem find?_answersTo (key : String) :
    fields.find? (·.answersTo key) = fields.find? (·.name == key) := by
  rw [← List.head?_filter, ← List.head?_filter,
    List.filter_congr fun _ hf => answersTo_of_unaliased hfields hf key]

theorem valueOf_eq_lookup {f : Field δ} (hf : f ∈ fields) (members : List (String × δ)) :
    valueOf fields members f.name = lookup f.name members := by
  have hsome : (fields.find? (·.name == f.name)).isSome :=
    List.find?_isSome.2 ⟨f, hf, beq_self_eq_true _⟩
  obtain ⟨g, hg⟩ := Option.isSome_iff_exists.1 hsome
  have hanswers : g.answersTo = fun key => f.name == key := by
    funext key
    rw [answersTo_of_unaliased hfields (List.mem_of_find?_eq_some hg), name_of_find? hg]
  simp only [valueOf, hg, hanswers, map_snd_find?]

/-- An object is acceptable if no key is repeated and each field accepts its value. -/
theorem examine_eq_ok {members : List (String × δ)} {seen : List String}
    (hseen : ∀ m ∈ members, m.1 ∉ seen) (hkeys : (members.map (·.1)).Nodup)
    (hcheck : ∀ m ∈ members, ∀ f ∈ fields, f.name = m.1 → f.check m.2 = .ok ()) :
    examine fields seen members = .ok () := by
  induction members generalizing seen with
  | nil => rfl
  | cons m rest ih =>
    obtain ⟨key, v⟩ := m
    obtain ⟨hkey, hrest⟩ := List.nodup_cons.1 hkeys
    have hcheck' := fun m hm => hcheck m (List.mem_cons_of_mem _ hm)
    rw [examine, find?_answersTo hfields]
    cases hfind : fields.find? (·.name == key) with
    | none => exact ih (fun m hm => hseen m (List.mem_cons_of_mem _ hm)) hrest hcheck'
    | some f =>
      have hname : f.name = key := name_of_find? hfind
      have hnew : f.name ∉ seen := hname ▸ hseen _ List.mem_cons_self
      have hok : f.check v = .ok () :=
        hcheck _ List.mem_cons_self f (List.mem_of_find?_eq_some hfind) hname
      simp only [List.contains_iff_mem, if_neg hnew, hok]
      refine ih (fun m hm hmem => ?_) hrest hcheck'
      rcases List.mem_cons.1 hmem with heq | hmem
      · have hmem : m.1 ∈ rest.map (·.1) := List.mem_map_of_mem hm
        exact hkey (hname ▸ heq ▸ hmem)
      · exact hseen m (List.mem_cons_of_mem _ hm) hmem

/-- Members under other names are passed over, and related values are examined alike. -/
theorem Padded.examine (hcheck : ∀ f ∈ fields, ∀ v v', R f.name v v' → f.check v = f.check v')
    (h : Padded (fields.map (·.name)) R ms ms') (seen : List String) :
    examine fields seen ms' = Document.examine fields seen ms := by
  induction h generalizing seen with
  | nil => rfl
  | @keep key v v' ms ms' hv _ ih =>
    rw [Document.examine, Document.examine, find?_answersTo hfields]
    cases hfind : fields.find? (·.name == key) with
    | none => exact ih seen
    | some f =>
      have hname : f.name = key := name_of_find? hfind
      simp only [hcheck f (List.mem_of_find?_eq_some hfind) v v' (hname ▸ hv), ih]
  | @add key ms ms' hkey _ _ ih =>
    have hfind : fields.find? (·.name == key) = none :=
      List.find?_eq_none.2 fun f hf hname => hkey (beq_iff_eq.1 hname ▸ List.mem_map_of_mem hf)
    rw [Document.examine, find?_answersTo hfields, hfind]
    exact ih seen

end Fields

end Record

/-! ## Objects -/

namespace Record

variable {r : Record Json α} {R : String → Json → Json → Prop}

theorem decode_object_eq (r : Record Json α) (name : String) (members : List (String × Json)) :
    r.decode name (.object members) =
      (examine r.fields [] members).bind fun _ => r.build (valueOf r.fields members) := by
  have hfields : Document.fields s!"struct {name}" (.object members : Json) = .ok (.inl members) :=
    rfl
  simp only [Record.decode, hfields]
  cases examine r.fields [] members <;> rfl

/-- **A fieldwise record is read from an object by looking up its fields.** -/
theorem decode_object (h : r.IsFieldwise R) (hrefl : ∀ name v, R name v v) (name : String)
    {members : List (String × Json)} (hkeys : (members.map (·.1)).Nodup) {a : α}
    (hbuild : r.Builds (fun key => lookup key members) a) :
    r.decode name (.object members) = .ok a := by
  have hexamine : examine r.fields [] members = .ok () :=
    examine_eq_ok h.unaliased (fun _ _ => List.not_mem_nil) hkeys fun m hm f hf hname =>
      h.accepts _ a hbuild f hf m.2 (hname ▸ lookup_of_mem hkeys hm)
  have hvalues : r.build (valueOf r.fields members) = r.build fun key => lookup key members := by
    refine h.build _ _ fun f hf => ?_
    rw [valueOf_eq_lookup h.unaliased hf]
    cases lookup f.name members with
    | none => exact .none
    | some v => exact .some (hrefl _ v)
  rw [decode_object_eq, hexamine]
  exact hvalues.trans hbuild

/-- The second value is the first one, or both are objects and the second one has further members
that no field of the record is named by. -/
inductive Extends (r : Record Json α) (R : String → Json → Json → Prop) : Json → Json → Prop
  | refl (v : Json) : Extends r R v v
  | object {ms ms' : List (String × Json)} (h : Padded r.names R ms ms') :
      Extends r R (.object ms) (.object ms')

/-- **Members that no field is named by do not change what is read**, nor why it fails. -/
theorem decode_extends (h : r.IsFieldwise R) (name : String) {v v' : Json}
    (hv : r.Extends R v v') : r.decode name v' = r.decode name v := by
  cases hv with
  | refl => rfl
  | @object ms ms' hpadded =>
    have hvalues : r.build (valueOf r.fields ms) = r.build (valueOf r.fields ms') := by
      refine h.build _ _ fun f hf => ?_
      rw [valueOf_eq_lookup h.unaliased hf, valueOf_eq_lookup h.unaliased hf]
      exact hpadded.lookup (List.mem_map_of_mem hf)
    rw [decode_object_eq, decode_object_eq, Padded.examine h.unaliased h.check hpadded, hvalues]

end Record

end Vigil.Document

namespace Vigil.Json

open Document

variable {α : Type} {dec : Decoder Json α} {write : α → Json}

/-! ## Values: texts, truth values and numbers -/

theorem text_text (s : String) : Document.text (Tree.text s : Json) = .ok s := rfl

theorem bool_bool (b : Bool) : Document.bool (Tree.bool b : Json) = .ok b := rfl

theorem float_of_isFinite {x : Float} (hx : x.isFinite = true) : float x = .number (.real x) :=
  if_pos hx

theorem real_float {x : Float} (hx : x.isFinite = true) : Document.real (float x) = .ok x := by
  rw [float_of_isFinite hx]
  rfl

theorem asUnsigned_nat {bits n : Nat} (expected : String) (hn : n < 2 ^ bits) :
    asUnsigned bits expected (nat n) = .ok n := by
  have hbounds : (0 : Int) ≤ n ∧ (n : Int) < Nat.pow 2 bits :=
    ⟨Int.natCast_nonneg _, Int.ofNat_lt.2 hn⟩
  rw [asUnsigned, if_pos hbounds, Int.toNat_natCast]

theorem word32_word32 (n : UInt32) : Document.word32 (word32 n) = .ok n := by
  show (asUnsigned 32 "u32" (word32 n)).map UInt32.ofNat = _
  rw [asUnsigned_nat _ n.toNat_lt]
  exact congrArg Except.ok UInt32.ofNat_toNat

theorem word64_word64 (expected : String) (n : UInt64) :
    Document.word64 expected (word64 n) = .ok n := by
  show (asUnsigned 64 expected (word64 n)).map UInt64.ofNat = _
  rw [asUnsigned_nat _ n.toNat_lt]
  exact congrArg Except.ok UInt64.ofNat_toNat

/-! ## Values that may be missing or null -/

theorem lookup_optionalMember (key name : String) (v : Option Json) :
    lookup key (optionalMember name v) = if name = key then v else none := by
  cases v with
  | none => exact (ite_self none).symm
  | some v => rfl

theorem nullable_text (s : String) : nullable Document.text (Tree.text s : Json) = .ok (some s) :=
  rfl

/-- An optional text is written as null or a text, and read back. -/
theorem nullable_orNull_text (s : Option String) :
    nullable Document.text (orNull (s.map Tree.text)) = .ok s := by
  cases s <;> rfl

/-- An optional value is written as null or as the value, and read back. -/
theorem nullable_getD (hnull : ∀ a, isNull (write a) = false) (hdec : ∀ a, dec (write a) = .ok a)
    (o : Option α) : nullable dec ((o.map write).getD .null) = .ok o := by
  cases o with
  | none => rfl
  | some a =>
    rw [Option.map_some, Option.getD_some, nullable, hnull, hdec]
    rfl

/-! ## Lists and maps -/

theorem listOf_map {l : List α} (h : ∀ a ∈ l, dec (write a) = .ok a) :
    listOf dec (.list (l.map write)) = .ok l := by
  show decodeAll dec (l.map write) = _
  induction l with
  | nil => rfl
  | cons a l ih =>
    rw [List.map_cons, decodeAll, h a List.mem_cons_self,
      ih fun b hb => h b (List.mem_cons_of_mem _ hb)]
    rfl

theorem listOf_texts (l : List String) : listOf Document.text (texts l) = .ok l :=
  listOf_map fun s _ => text_text s

theorem setOf_texts (s : OrderedSet String) :
    (listOf Document.text (texts s.toList)).map OrderedSet.ofList = .ok s := by
  rw [listOf_texts]
  exact congrArg Except.ok s.ofList_toList

theorem mapOf_map (h : ∀ a, dec (write a) = .ok a) (l : List (String × α)) :
    mapOf dec (.object (l.map fun m => (m.1, write m.2))) = .ok l := by
  show decodeMembers dec (l.map fun m => (m.1, write m.2)) = _
  induction l with
  | nil => rfl
  | cons m l ih =>
    rw [List.map_cons, decodeMembers, h, ih]
    rfl

end Vigil.Json
