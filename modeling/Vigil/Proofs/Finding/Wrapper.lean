import Mathlib.Data.List.TakeWhile
import Vigil.Finding.Wrapper
import Vigil.Proofs.Json.Texts
import Vigil.Proofs.Related
import Vigil.Proofs.Text.SmallLetters

/-!
# The two shapes of a wrapper's output

A wrapper may print a list of records, or an object in which a member `findings` is that list.  Both
are read to the same records: which text the list has decides, and not what stands around it.

* `records?_eq_some_iff`, `readRecords_eq_ok_iff` -- which values and which texts have records;
* `parse_of_holds` -- blanks around the text do not matter;
* `holds_of_parse` -- whatever is accepted is a text of one of the two shapes;
* `parse_shapes` -- **the two shapes are interchangeable, and there is no third**.
-/

namespace Vigil.Wrapper

open Json (Tree Reading Reads IsGap IsText IsPiece IsBody IsMember bind_eq_ok_iff)

/-! ## Values with records -/

/-- A value is the list of the records, or an object with one member for it. -/
inductive Holds : Json → List Json → Prop
  | list (items : List Json) : Holds (.list items) items
  | object {before after : List (String × Json)} (items : List Json)
      (hbefore : ∀ m ∈ before, m.1 ≠ findingsKey) (hafter : ∀ m ∈ after, m.1 ≠ findingsKey) :
      Holds (.object (before ++ (findingsKey, .list items) :: after)) items

theorem filter_findings_eq_nil_iff {ms : List (String × Json)} :
    ms.filter (·.1 == findingsKey) = [] ↔ ∀ m ∈ ms, m.1 ≠ findingsKey := by
  simp [List.filter_eq_nil_iff]

theorem records?_eq_some_iff {v : Json} {items : List Json} :
    records? v = some items ↔ Holds v items := by
  constructor
  · intro h
    unfold records? at h
    split at h
    · cases h
      exact .list items
    · rename_i members
      split at h
      · rename_i k items' hmembers
        cases h
        obtain ⟨before, after, rfl, hbefore, hkey, hafter⟩ := List.filter_eq_cons_iff.1 hmembers
        obtain rfl := beq_iff_eq.1 hkey
        refine .object items (fun m hm heq => hbefore m hm (beq_iff_eq.2 heq)) ?_
        exact filter_findings_eq_nil_iff.1 hafter
      · cases h
    · cases h
  · rintro (_ | ⟨_, hbefore, hafter⟩)
    · rfl
    · rw [records?, List.filter_append, List.filter_cons_of_pos (by simp),
        filter_findings_eq_nil_iff.2 hbefore, filter_findings_eq_nil_iff.2 hafter]
      rfl

/-- A text has records if it is read as a value that has them. -/
theorem readRecords_eq_ok_iff {text : List Char} {items : List Json} :
    readRecords text = .ok items ↔
      ∃ v, Json.parseTree Reading.exact text = .ok v ∧ Holds v items := by
  constructor
  · intro h
    rw [readRecords] at h
    split at h
    · cases h
    · rename_i v rest hv
      split at h
      · cases h
      · rename_i items' hitems
        split at h
        · cases h
        · rename_i hrest
          cases h
          refine ⟨v, bind_eq_ok_iff.2 ⟨_, hv, ?_⟩, records?_eq_some_iff.1 hitems⟩
          exact bind_eq_ok_iff.2 ⟨_, hrest, rfl⟩
  · rintro ⟨v, hparse, hholds⟩
    obtain ⟨⟨v', rest⟩, hv, hfinish⟩ := bind_eq_ok_iff.1 hparse
    obtain ⟨_, hrest, heq⟩ := bind_eq_ok_iff.1 hfinish
    cases heq
    have hitems := records?_eq_some_iff.2 hholds
    simp only [readRecords, hv, hitems, hrest]

/-! ## Outputs with records -/

/-- A text of nothing but blanks. -/
def Blank (s : List Char) : Prop :=
  ∀ c ∈ s, Text.isBlank c = true

instance (s : List Char) : Decidable (Blank s) :=
  List.decidableBAll _ s

theorem Blank.append {s t : List Char} (hs : Blank s) (ht : Blank t) : Blank (s ++ t) :=
  fun c hc => (List.mem_append.1 hc).elim (hs c) (ht c)

theorem blank_of_isGap {g : List Char} (hg : IsGap g) : Blank g := by
  intro c hc
  have hspace := hg c hc
  simp only [Json.isSpace, Bool.or_eq_true, beq_iff_eq] at hspace
  rcases hspace with ((rfl | rfl) | rfl) | rfl <;> decide

/-- The raw records of a list of values. -/
def rawRecords (items : List Json) : List (RawFinding Float) :=
  items.map fun v => RawFinding.ofJson v.tidy

theorem parse_of_trimChars {s : List Char} (h : Text.trimChars s ≠ []) :
    parse (String.ofList s) = (readRecords (Text.trimChars s)).map rawRecords := by
  rw [parse, String.toList_ofList]
  split
  · rename_i hnil
    exact absurd hnil h
  · rfl

/-- **Blanks around a text do not matter.** -/
theorem parse_of_holds {u s v : List Char} {w : Json} {items : List Json} (hu : Blank u)
    (hv : Blank v) (hs : Text.IsTrimmed s) (hread : Json.parseTree Reading.exact s = .ok w)
    (hw : Holds w items) : parse (String.ofList (u ++ s ++ v)) = .ok (rawRecords items) := by
  have hne : s ≠ [] := by
    rintro rfl
    cases hread
  have htrim : Text.trimChars (u ++ s ++ v) = s := hs.trimChars_append hne hu hv
  rw [parse_of_trimChars (htrim.symm ▸ hne), htrim, readRecords_eq_ok_iff.2 ⟨w, hread, hw⟩]
  rfl

/-- **Nothing but blanks is read as no records.** -/
theorem parse_of_blank {s : String} (h : Blank s.toList) : parse s = .ok [] := by
  have hstart : Text.trimStart s.toList = [] := List.dropWhile_eq_nil_iff.2 h
  have htrim : Text.trimChars s.toList = [] := by
    rw [Text.trimChars, hstart]
    rfl
  rw [parse, htrim]

/-! ## Outputs without records -/

/-- The code points of the digits. -/
def digitSpan : Text.Span := (48, 57, 1)

theorem isBlank_of_isDigit {c : Char} (h : c.isDigit = true) : Text.isBlank c = false := by
  have hdigit : digitSpan.holds c.toNat = true := by
    rw [Char.isDigit, Bool.and_eq_true, decide_eq_true_eq, decide_eq_true_eq] at h
    have hlow : 48 ≤ c.toNat := UInt32.le_iff_toNat_le.1 h.1
    have hhigh : c.toNat ≤ 57 := UInt32.le_iff_toNat_le.1 h.2
    simp [digitSpan, Text.Span.holds, hlow, hhigh, Nat.mod_one]
  have hapart : Text.blankSpans.all digitSpan.isApart = true := by decide
  rw [Text.isBlank, Text.inSpans, List.any_eq_false]
  intro span hspan
  have hnot := Text.Span.not_holds_of_isApart (List.all_eq_true.1 hapart span hspan) hdigit
  exact Bool.eq_false_iff.1 hnot

theorem isBlank_of_start {c : Char}
    (h : c.isDigit = true ∨ c ∈ ['n', 't', 'f', '-', '"', '[', '\x7b']) :
    Text.isBlank c = false := by
  rcases h with h | h
  · exact isBlank_of_isDigit h
  · have hall : ['n', 't', 'f', '-', '"', '[', '\x7b'].all (!Text.isBlank ·) = true := by decide
    simpa using List.all_eq_true.1 hall c h

theorem isNumeralChar_of_isBlank {c : Char} (h : Text.isBlank c = true) :
    Json.isNumeralChar c = false := by
  refine Bool.eq_false_iff.2 fun hc => ?_
  have hnot : Text.isBlank c = false := by
    simp only [Json.isNumeralChar, Json.isFractionChar, Bool.or_eq_true, beq_iff_eq] at hc
    rcases hc with ((hdigit | rfl) | rfl) | rfl
    · exact isBlank_of_isDigit hdigit
    all_goals decide
  rw [h] at hnot
  cases hnot

theorem Blank.stops {s : List Char} (hs : Blank s) : Json.Stops Json.isNumeralChar s :=
  fun c hc => isNumeralChar_of_isBlank (hs c (List.mem_of_mem_head? hc))

theorem framed_escape : Json.Framed Json.never Reading.exact.escape :=
  Json.escape_framed

/-- In front of a value there are no other blanks than spaces. -/
theorem isGap_of_blank {a m r : List Char} {d : Nat} {w : Json} (ha : Blank a)
    (h : Json.value Reading.exact d (a ++ m) = .ok (w, r)) : IsGap a := by
  obtain ⟨c, rest, hs, hc⟩ := Json.start_of_value h
  obtain ⟨g, heq, hg⟩ := Json.exists_gap (a ++ m)
  rw [hs] at heq
  rcases List.append_eq_append_iff.1 heq with ⟨g', rfl, -⟩ | ⟨a', rfl, ha'⟩
  · exact fun c hc => hg c (List.mem_append_left g' hc)
  · cases a' with
    | nil => simpa using hg
    | cons c' a' =>
      obtain ⟨rfl, -⟩ := List.cons.inj ha'
      have hblank := ha c (List.mem_append_right g List.mem_cons_self)
      rw [isBlank_of_start hc] at hblank
      cases hblank

/-- **Whatever is accepted as records has one of the two shapes.** -/
theorem holds_of_parse {s rest : List Char} {d : Nat} {w : Json} {raws : List (RawFinding Float)}
    (hs : Json.value Reading.exact d s = .ok (w, rest)) (hrest : Json.finish rest = .ok ())
    (h : parse (String.ofList s) = .ok raws) : ∃ items, Holds w items := by
  obtain ⟨a, z, heq, ha, hz⟩ :
      ∃ a z, s = a ++ Text.trimChars s ++ z ∧ Blank a ∧ Blank z := Text.exists_append_trimChars s
  have hgap : IsGap a := by
    rw [heq, List.append_assoc] at hs
    exact isGap_of_blank ha hs
  by_cases hne : Text.trimChars s = []
  · -- No value is read from blanks alone.
    rw [hne, List.append_nil] at heq
    have hblank : Blank (a ++ z) := ha.append hz
    rw [heq] at hs
    obtain ⟨c, rest', hstart, -⟩ := Json.start_of_value hs
    rw [← List.append_nil (a ++ z)] at hs
    rw [Json.skipSpaces_gap (isGap_of_blank hblank hs)] at hstart
    cases hstart
  · rw [parse_of_trimChars hne] at h
    obtain ⟨items, hitems, -⟩ := Json.map_eq_ok_iff.1 h
    obtain ⟨w', hparse, hholds⟩ := readRecords_eq_ok_iff.1 hitems
    -- The trimmed text is one of the same value, since a text has only one.
    obtain ⟨-, c', g', htrim, hg', hc'⟩ := (Json.parseTree_eq_ok_iff framed_escape).1 hparse
    obtain ⟨-, c, g, rfl, hg, hc⟩ := (Json.isText_iff framed_escape).2 ⟨rest, hs, hrest⟩
    have hw : w = w' := by
      refine hc.unique (hc'.gap hgap) (g' ++ z) hg.stops (hg'.stops.append hz.stops) ?_
      rw [heq, htrim]
      simp
    exact ⟨items, hw ▸ hholds⟩

/-! ## The text of a list -/

/-- The text is a list with these texts for its items. -/
def IsListText (t : List Char) (es : List (List Char)) : Prop :=
  ∃ g b g', t = g ++ '[' :: b ++ ']' :: g' ∧ IsGap g ∧ IsGap g' ∧
    (es = [] ∧ IsGap b ∨ es ≠ [] ∧ b = Json.joined es)

/-- The text is read by itself as a value, and what the value decodes to stands for it: the record,
or a placeholder with the reason why there is none. -/
inductive DecodesTo (e : List Char) : RawFinding Float → Prop
  | record {v : Json} {fields : RawFields Float} (hread : Json.parse (String.ofList e) = .ok v)
      (hdecode : RawFinding.fields.decode "RawFinding" v = .ok fields) :
      DecodesTo e (.record fields)
  | undecodable {v : Json} {error : Document.Error}
      (hread : Json.parse (String.ofList e) = .ok v)
      (hdecode : RawFinding.fields.decode "RawFinding" v = .error error) :
      DecodesTo e (.undecodable s!"undecodable record: {error.message}")

theorem decodesTo_of_isText {e : List Char} {v : Json} (hdepth : v.depth ≤ Json.depthLimit)
    (he : IsText (IsPiece Reading.exact) v e) : DecodesTo e (RawFinding.ofJson v.tidy) := by
  have hparse := (Json.parseTree_eq_ok_iff framed_escape).2 ⟨hdepth, he⟩
  have hread : Json.parse (String.ofList e) = .ok v.tidy := by
    rw [Json.parse, String.toList_ofList, hparse]
    rfl
  rw [RawFinding.ofJson]
  split
  · rename_i hdecode
    exact .record hread hdecode
  · rename_i hdecode
    exact .undecodable hread hdecode

section

variable {t : List Char} {items : List Json}

/-- A list that is read has a text for each item, and is read again without what is around it. -/
theorem exists_listText (ht : Json.parseTree Reading.exact t = .ok (.list items)) :
    ∃ g b g', t = g ++ ('[' :: b ++ [']']) ++ g' ∧ IsGap g ∧ IsGap g' ∧
      IsBody (IsPiece Reading.exact) items b ∧
      Json.parseTree Reading.exact ('[' :: b ++ [']']) = .ok (.list items) := by
  obtain ⟨⟨v, g'⟩, hv, hfinish⟩ := bind_eq_ok_iff.1 ht
  obtain ⟨_, hg', heq⟩ := bind_eq_ok_iff.1 hfinish
  cases heq
  obtain ⟨hdepth, -⟩ := (Json.parseTree_eq_ok_iff framed_escape).1 ht
  obtain ⟨g, b, rfl, hg, hb⟩ := Json.value_list framed_escape hv
  refine ⟨g, b, g', by simp, hg, Json.finish_eq_ok_iff.1 hg', hb, ?_⟩
  exact (Json.parseTree_eq_ok_iff framed_escape).2
    ⟨hdepth, _, [], (List.append_nil _).symm, Json.isGap_nil, Json.isPiece_list hb⟩

/-- **Each item of a list that is read decodes as it would alone.** -/
theorem exists_decodesTo (ht : Json.parseTree Reading.exact t = .ok (.list items)) :
    ∃ es, IsListText t es ∧ List.Forall₂ DecodesTo es (rawRecords items) := by
  obtain ⟨hdepth, -⟩ := (Json.parseTree_eq_ok_iff framed_escape).1 ht
  have hitems : ∀ v ∈ items, v.depth ≤ Json.depthLimit :=
    Json.itemsDepth_le_iff.1 (Nat.le_of_succ_le hdepth)
  obtain ⟨g, b, g', rfl, hg, hg', hb, -⟩ := exists_listText ht
  rcases hb with ⟨rfl, hb⟩ | ⟨hne, es, hes, rfl⟩
  · exact ⟨[], ⟨g, b, g', by simp, hg, hg', .inl ⟨rfl, hb⟩⟩, .nil⟩
  · refine ⟨es, ⟨g, _, g', by simp, hg, hg', .inr ⟨?_, rfl⟩⟩, ?_⟩
    · rintro rfl
      cases hes
      exact hne rfl
    · have hdecode := ((List.forall₂_and_left items es).2 ⟨hitems, hes⟩).imp
        fun v e ⟨hv, he⟩ => decodesTo_of_isText hv he
      exact (List.forall₂_map_right_iff.2 hdecode.flip).imp fun _ _ => id

/-- A text between two characters that are no blanks is trimmed. -/
theorem isTrimmed_between {a z : Char} (ha : Text.isBlank a = false) (hz : Text.isBlank z = false)
    (b : List Char) : Text.IsTrimmed (a :: b ++ [z]) where
  head c hc := Option.some.inj hc ▸ ha
  last c hc := by
    rw [List.getLast?_concat] at hc
    exact Option.some.inj hc ▸ hz

/-- A list is read to its records, whatever blanks stand around it. -/
theorem parse_listText (ht : Json.parseTree Reading.exact t = .ok (.list items)) {u v : List Char}
    (hu : Blank u) (hv : Blank v) :
    parse (String.ofList (u ++ t ++ v)) = .ok (rawRecords items) := by
  obtain ⟨g, b, g', rfl, hg, hg', -, hread⟩ := exists_listText ht
  have hu' : Blank (u ++ g) := hu.append (blank_of_isGap hg)
  have hv' : Blank (g' ++ v) := (blank_of_isGap hg').append hv
  have htext : u ++ (g ++ ('[' :: b ++ [']']) ++ g') ++ v =
      u ++ g ++ ('[' :: b ++ [']']) ++ (g' ++ v) := by
    simp
  rw [htext]
  exact parse_of_holds hu' hv' (isTrimmed_between (by decide) (by decide) b) hread (.list items)

end

/-! ## The text of an object -/

/-- The text of a member of an object: a text for its key and one for its value. -/
structure MemberText where
  key : List Char
  value : List Char

namespace MemberText

def text (m : MemberText) : List Char :=
  m.key ++ ':' :: m.value

/-- By themselves, the two texts are read as a key and a value, nested so deep at most. -/
structure HasTexts (m : MemberText) (depth : Nat) (k : String) (v : Json) : Prop where
  key : Json.parseTree Reading.exact m.key = .ok (.text k)
  value : Json.parseTree Reading.exact m.value = .ok v
  depth_le : v.depth ≤ depth

/-- A well-formed member that is not the one with the findings. -/
def IsFurther (m : MemberText) (depth : Nat) : Prop :=
  ∃ k v, m.HasTexts depth k v ∧ k ≠ findingsKey

end MemberText

/-- The text of an object from the texts of its members. -/
def objectText (ms : List MemberText) : List Char :=
  '\x7b' :: Json.joined (ms.map MemberText.text) ++ ['\x7d']

/-- The members of an object, from their texts. -/
def HaveTexts (members : List (String × Json)) (ms : List MemberText) : Prop :=
  List.Forall₂ (fun m t => t.HasTexts 126 m.1 m.2) members ms

theorem isMember_of_hasTexts {m : MemberText} {depth : Nat} {k : String} {v : Json}
    (h : m.HasTexts depth k v) : IsText (IsMember Reading.exact) (k, v) m.text := by
  obtain ⟨-, hkey⟩ := (Json.parseTree_eq_ok_iff framed_escape).1 h.key
  obtain ⟨-, c, g, hvalue, hg, hc⟩ := (Json.parseTree_eq_ok_iff framed_escape).1 h.value
  refine ⟨m.key ++ ':' :: c, g, ?_, hg, m.key, c, rfl, hkey, hc⟩
  rw [MemberText.text, hvalue]
  simp

/-- An object is read from the texts of its members. -/
theorem parseTree_objectText {ms : List MemberText} {members : List (String × Json)}
    (hne : members ≠ []) (h : HaveTexts members ms) :
    Json.parseTree Reading.exact (objectText ms) = .ok (.object members) := by
  have hdepth : ∀ m ∈ members, m.2.depth ≤ 126 := by
    intro m hm
    obtain ⟨t, -, ht⟩ := exists_right_of_forall₂ h hm
    exact ht.depth_le
  have htexts : List.Forall₂ (IsText (IsMember Reading.exact)) members (ms.map MemberText.text) :=
    List.forall₂_map_right_iff.2 (h.imp fun _ _ => isMember_of_hasTexts)
  exact (Json.parseTree_eq_ok_iff framed_escape).2
    ⟨Nat.succ_le_succ (Json.membersDepth_le_iff.2 hdepth), objectText ms, [],
      (List.append_nil _).symm, Json.isGap_nil, Json.isPiece_object (.inr ⟨hne, _, htexts, rfl⟩)⟩

theorem exists_haveTexts {ms : List MemberText} (h : ∀ m ∈ ms, m.IsFurther 126) :
    ∃ members, HaveTexts members ms ∧ ∀ m ∈ members, m.1 ≠ findingsKey := by
  induction ms with
  | nil => exact ⟨[], .nil, fun _ hm => absurd hm List.not_mem_nil⟩
  | cons m ms ih =>
    obtain ⟨⟨k, v, hm, hk⟩, hms⟩ := List.forall_mem_cons.1 h
    obtain ⟨members, hmembers, hkeys⟩ := ih hms
    exact ⟨(k, v) :: members, .cons hm hmembers, List.forall_mem_cons.2 ⟨hk, hkeys⟩⟩

/-- An object with a list of findings is read to the records of the list. -/
theorem parse_objectText {items : List Json} {m : MemberText} {before after : List MemberText}
    (hm : m.HasTexts 126 findingsKey (.list items)) (hbefore : ∀ m ∈ before, m.IsFurther 126)
    (hafter : ∀ m ∈ after, m.IsFurther 126) {u v : List Char} (hu : Blank u) (hv : Blank v) :
    parse (String.ofList (u ++ objectText (before ++ m :: after) ++ v)) =
      .ok (rawRecords items) := by
  obtain ⟨front, hfront, hfrontKeys⟩ := exists_haveTexts hbefore
  obtain ⟨back, hback, hbackKeys⟩ := exists_haveTexts hafter
  have htexts : HaveTexts (front ++ (findingsKey, .list items) :: back) (before ++ m :: after) :=
    List.rel_append hfront (.cons hm hback)
  exact parse_of_holds hu hv (isTrimmed_between (by decide) (by decide) _)
    (parseTree_objectText (by simp) htexts) (.object items hfrontKeys hbackKeys)

/-! ## The two shapes -/

/-- **The two shapes of an output are interchangeable, and there is no third.**

A list that is read by itself, nested no deeper than 126 levels, is read to the same records with
any blanks around it, and as the findings of any object whose further members are well-formed and
nested no deeper; each item has its record in its place, decoded as it would be alone.  A value of
any other kind is refused, however deep it is nested. -/
theorem parse_shapes :
    (∀ t items, Json.parseTree Reading.exact t = .ok (.list items) →
      (Tree.list items).depth ≤ 126 →
      ∃ es raws, IsListText t es ∧ List.Forall₂ DecodesTo es raws ∧
        ∀ u v, Blank u → Blank v →
          parse (String.ofList (u ++ t ++ v)) = .ok raws ∧
          ∀ key gap before after, Json.parseTree Reading.exact key = .ok (.text findingsKey) →
            IsGap gap → (∀ m ∈ before, m.IsFurther 126) → (∀ m ∈ after, m.IsFurther 126) →
            parse (String.ofList (u ++ objectText (before ++ ⟨key, gap ++ t⟩ :: after) ++ v)) =
              .ok raws) ∧
    ∀ s w d rest, Json.value Reading.exact d s = .ok (w, rest) → Json.finish rest = .ok () →
      (¬∃ items, Holds w items) → ∃ e, parse (String.ofList s) = .error e := by
  refine ⟨fun t items ht hdepth => ?_, fun s w d rest hs hrest hw => ?_⟩
  · obtain ⟨es, hes, hraws⟩ := exists_decodesTo ht
    refine ⟨es, rawRecords items, hes, hraws, fun u v hu hv => ⟨parse_listText ht hu hv, ?_⟩⟩
    intro key gap before after hkey hgap hbefore hafter
    have hvalue : Json.parseTree Reading.exact (gap ++ t) = .ok (.list items) := by
      obtain ⟨hlimit, htext⟩ := (Json.parseTree_eq_ok_iff framed_escape).1 ht
      exact (Json.parseTree_eq_ok_iff framed_escape).2 ⟨hlimit, htext.gap hgap⟩
    exact parse_objectText ⟨hkey, hvalue, hdepth⟩ hbefore hafter hu hv
  · cases hparse : parse (String.ofList s) with
    | error e => exact ⟨e, rfl⟩
    | ok raws => exact absurd (holds_of_parse hs hrest hparse) hw

/-- That a text is read as a text can be computed. -/
theorem parseTree_text {e : List Char} {k : String}
    (h : ((Json.parseTree Reading.exact e).toOption.bind fun v => (Json.asText v).toOption) =
      some k) : Json.parseTree Reading.exact e = .ok (.text k) := by
  cases hread : Json.parseTree Reading.exact e with
  | error e => rw [hread] at h; cases h
  | ok v =>
    rw [hread] at h
    cases v with
    | text s => rw [Option.some.inj h]
    | _ => cases h

/-- So can it that a text is read as a list that is nested no deeper than some levels. -/
theorem exists_parseTree_list {e : List Char} {d : Nat}
    (h : (Json.parseTree Reading.exact e).toOption.any
      (fun v => (Json.asItems v).toBool && decide (v.depth ≤ d)) = true) :
    ∃ items, Json.parseTree Reading.exact e = .ok (.list items) ∧
      (Tree.list items).depth ≤ d := by
  cases hread : Json.parseTree Reading.exact e with
  | error e => rw [hread] at h; cases h
  | ok v =>
    rw [hread] at h
    obtain ⟨hlist, hdepth⟩ := Bool.and_eq_true_iff.1 h
    cases v with
    | list items => exact ⟨items, rfl, of_decide_eq_true hdepth⟩
    | _ => cases hlist

/-- A list with a record, and one whose line is a text. -/
def reported : List Char :=
  ("[\x7b\"type\": \"reentrancy\", \"file\": \"a.sol\", \"line\": 4\x7d, " ++
    "\x7b\"type\": \"overflow\", \"file\": \"a.sol\", \"line\": \"12\"\x7d]").toList

/-- What is read from this list. -/
def reportedRecords : List (RawFinding Float) :=
  [.record { findingType := some "reentrancy", file := some "a.sol", line := some 4 },
    .undecodable "undecodable record: invalid type: string \"12\", expected u32"]

/-- A member that names a tool. -/
def toolMember : MemberText :=
  ⟨"\"tool\"".toList, " \"lint\"".toList⟩

/-- The list has its records between other blanks than spaces, and behind the name of the tool; a
text alone is refused. -/
theorem parse_shapes_reported :
    (∃ es, IsListText reported es ∧ List.Forall₂ DecodesTo es reportedRecords) ∧
      parse (String.ofList ("\u3000".toList ++ reported ++ "\n".toList)) = .ok reportedRecords ∧
      parse (String.ofList ("\u3000".toList ++
        objectText ([toolMember] ++ [⟨"\"findings\"".toList, [' '] ++ reported⟩]) ++ "\n".toList)) =
          .ok reportedRecords ∧
      ∃ e, parse (String.ofList "\"x\"".toList) = .error e := by
  obtain ⟨hlists, hothers⟩ := parse_shapes
  obtain ⟨items, hread, hdepth⟩ := exists_parseTree_list (e := reported) (d := 126)
    (by decide +kernel)
  have htool : toolMember.IsFurther 126 :=
    ⟨"tool", .text "lint", ⟨parseTree_text (by decide +kernel), parseTree_text (by decide +kernel),
      by decide⟩, by decide⟩
  have hkey : Json.parseTree Reading.exact "\"findings\"".toList = .ok (.text findingsKey) :=
    parseTree_text (by decide +kernel)
  have htext : Json.parseTree Reading.exact "\"x\"".toList = .ok (.text "x") :=
    parseTree_text (by decide +kernel)
  obtain ⟨es, raws, hes, hdecode, hraws⟩ := hlists reported items hread hdepth
  obtain ⟨hlist, hobject⟩ := hraws "\u3000".toList "\n".toList (by decide +kernel)
    (by decide +kernel)
  have hrecords : (parse (String.ofList ("\u3000".toList ++ reported ++ "\n".toList))).toOption =
      some reportedRecords := by
    decide +kernel
  obtain rfl : raws = reportedRecords := by
    rw [hlist] at hrecords
    exact Option.some.inj hrecords
  refine ⟨⟨es, hes, hdecode⟩, hlist, hobject _ [' '] [toolMember] [] hkey (by decide)
    (by simpa using htool) (by simp), ?_⟩
  obtain ⟨⟨w, rest⟩, hvalue, hfinish⟩ := bind_eq_ok_iff.1 htext
  obtain ⟨_, hrest, heq⟩ := bind_eq_ok_iff.1 hfinish
  cases heq
  exact hothers _ _ _ rest hvalue hrest (by rintro ⟨items, hholds⟩; cases hholds)

end Vigil.Wrapper
