import Vigil.Proofs.Json.Sequences

/-!
# The texts of a JSON value

Which text a value is read from does not depend on what stands around it.  A text that is read by
itself is read in the same way inside a list or an object, whatever stands before and behind it, as
long as the containers are not nested too deeply there.

* `Tree.depth` -- how many containers are inside each other;
* `IsPiece` -- a text is read as a value with every limit that allows its depth;
* `value_sound` -- whatever is read is such a text;
* `isPiece_list`, `isPiece_object` -- **the texts of a container are made of those of its values**;
* `parseTree_eq_ok_iff` -- what it means that a whole text is read.
-/

namespace Vigil.Json

variable {ν : Type}

/-! ## Depth -/

mutual

/-- How many containers are inside each other. -/
def Tree.depth : Tree ν → Nat
  | .list items => itemsDepth items + 1
  | .object members => membersDepth members + 1
  | _ => 0

/-- The greatest depth of an item. -/
def itemsDepth : List (Tree ν) → Nat
  | [] => 0
  | t :: rest => max t.depth (itemsDepth rest)

/-- The greatest depth of a member. -/
def membersDepth : List (String × Tree ν) → Nat
  | [] => 0
  | (_, t) :: rest => max t.depth (membersDepth rest)

end

theorem itemsDepth_le_iff {items : List (Tree ν)} {d : Nat} :
    itemsDepth items ≤ d ↔ ∀ t ∈ items, t.depth ≤ d := by
  induction items with
  | nil => simp [itemsDepth]
  | cons t rest ih => rw [itemsDepth, Nat.max_le, ih, List.forall_mem_cons]

theorem membersDepth_le_iff {members : List (String × Tree ν)} {d : Nat} :
    membersDepth members ≤ d ↔ ∀ m ∈ members, m.2.depth ≤ d := by
  induction members with
  | nil => simp [membersDepth]
  | cons m rest ih => rw [membersDepth, Nat.max_le, ih, List.forall_mem_cons]

/-! ## Scalars -/

variable {read : Reading ν}

/-- Read a value that begins with the given character. -/
def valueFrom (read : Reading ν) (nested : Scan (Tree ν)) (c : Char) (rest : List Char) :
    Except Failure (Tree ν × List Char) :=
  if c == 'n' then (word ['u', 'l', 'l'] rest).map fun r => (.null, r)
  else if c == 't' then (word ['r', 'u', 'e'] rest).map fun r => (.bool true, r)
  else if c == 'f' then (word ['a', 'l', 's', 'e'] rest).map fun r => (.bool false, r)
  else if c == '-' then signedNumber read true rest
  else if c.isDigit then signedNumber read false (c :: rest)
  else if c == '"' then (stringRest read.escape rest).map fun (s, r) => (.text s, r)
  else if c == '[' || c == '\x7b' then nested (c :: rest)
  else failNext .expectedValue (c :: rest)

theorem scalarOr_of_skipSpaces (nested : Scan (Tree ν)) {s rest : List Char} {c : Char}
    (h : skipSpaces s = c :: rest) : scalarOr read nested s = valueFrom read nested c rest := by
  rw [scalarOr, h]
  rfl

/-- What is read is a piece that is read so in any other place, and holds no container. -/
def ScalarScan (scan : Scan (Tree ν)) : Prop :=
  ∀ s v r, scan s = .ok (v, r) → v.depth = 0 ∧ ∃ p, s = p ++ r ∧ Reads isNumeralChar scan v p

theorem scalarScan_word (w : List Char) {v : Tree ν} (hv : v.depth = 0) :
    ScalarScan fun rest => (word w rest).map fun r => (v, r) := by
  intro s v' r h
  obtain ⟨r', hr, heq⟩ := map_eq_ok_iff.1 h
  cases heq
  exact ⟨hv, w, word_eq_ok_iff.1 hr, fun r' _ => map_eq_ok_iff.2 ⟨r', word_eq_ok_iff.2 rfl, rfl⟩⟩

theorem scalarScan_string (hesc : Framed never read.escape) :
    ScalarScan (ν := ν) fun rest =>
      (stringRest read.escape rest).map fun (s, r) => (.text s, r) := by
  intro s v r h
  obtain ⟨⟨x, r'⟩, hx, heq⟩ := map_eq_ok_iff.1 h
  cases heq
  obtain ⟨p, hp, hread⟩ := stringRest_framed hesc s x r hx
  exact ⟨rfl, p, hp, fun r' _ => map_eq_ok_iff.2 ⟨_, hread r' (stops_never r'), rfl⟩⟩

theorem signedNumber_framed (negative : Bool) {s r : List Char} {v : Tree ν}
    (h : signedNumber read negative s = .ok (v, r)) :
    v.depth = 0 ∧ ∃ p, s = p ++ r ∧ p ≠ [] ∧
      Reads isNumeralChar (signedNumber read negative) v p := by
  obtain ⟨⟨n, s₁⟩, hn, hend⟩ := bind_eq_ok_iff.1 h
  obtain ⟨p, rfl, hp, hread⟩ := numeral_framed negative s n s₁ hn
  dsimp only at hend
  split at hend
  · rename_i x hx
    cases hend
    refine ⟨rfl, p, rfl, hp, fun r' hr' => bind_eq_ok_iff.2 ⟨_, hread r' hr', ?_⟩⟩
    dsimp only
    rw [hx]
  · cases hend

theorem scalarScan_negative : ScalarScan (signedNumber read true) := by
  intro s v r h
  obtain ⟨hv, p, hp, -, hread⟩ := signedNumber_framed true h
  exact ⟨hv, p, hp, hread⟩

theorem scalarScan_digit (read : Reading ν) (c : Char) :
    ScalarScan fun rest => signedNumber read false (c :: rest) := by
  intro s v r h
  obtain ⟨hv, p, hp, hne, hread⟩ := signedNumber_framed false h
  obtain ⟨d, p', rfl⟩ := List.exists_cons_of_ne_nil hne
  obtain ⟨rfl, rfl⟩ := List.cons.inj hp
  exact ⟨hv, p', rfl, hread⟩

/-- The first character says whether a scalar or a container is read. -/
theorem valueFrom_cases (hesc : Framed never read.escape) (c : Char) :
    (∃ scan, ScalarScan scan ∧ ∀ nested rest, valueFrom read nested c rest = scan rest) ∨
      ((c = '[' ∨ c = '\x7b') ∧
        ∀ nested rest, valueFrom read nested c rest = nested (c :: rest)) := by
  by_cases hn : c = 'n'
  · subst hn
    exact .inl ⟨_, scalarScan_word _ rfl, fun _ _ => rfl⟩
  by_cases ht : c = 't'
  · subst ht
    exact .inl ⟨_, scalarScan_word _ rfl, fun _ _ => rfl⟩
  by_cases hf : c = 'f'
  · subst hf
    exact .inl ⟨_, scalarScan_word _ rfl, fun _ _ => rfl⟩
  by_cases hminus : c = '-'
  · subst hminus
    exact .inl ⟨_, scalarScan_negative, fun _ _ => rfl⟩
  by_cases hdigit : c.isDigit = true
  · refine .inl ⟨_, scalarScan_digit read c, fun _ _ => ?_⟩
    simp only [valueFrom, beq_false_of_ne hn, beq_false_of_ne ht, beq_false_of_ne hf,
      beq_false_of_ne hminus, hdigit, if_true, Bool.false_eq_true, if_false]
  by_cases hquote : c = '"'
  · subst hquote
    exact .inl ⟨_, scalarScan_string hesc, fun _ _ => rfl⟩
  by_cases hbracket : c = '[' ∨ c = '\x7b'
  · refine .inr ⟨hbracket, fun _ _ => ?_⟩
    rcases hbracket with rfl | rfl <;> rfl
  · refine .inl ⟨fun rest => failNext .expectedValue (c :: rest), fun _ _ _ h => (by cases h),
      fun _ _ => ?_⟩
    rw [not_or] at hbracket
    simp only [valueFrom, beq_false_of_ne hn, beq_false_of_ne ht, beq_false_of_ne hf,
      beq_false_of_ne hminus, hdigit, beq_false_of_ne hquote, beq_false_of_ne hbracket.1,
      beq_false_of_ne hbracket.2, Bool.or_self, Bool.false_eq_true, if_false]

/-! ## Pieces -/

/-- The text is read as the value with every limit that allows the depth of the value. -/
def IsPiece (read : Reading ν) (v : Tree ν) (c : List Char) : Prop :=
  ∀ d, v.depth ≤ d → Reads isNumeralChar (value read d) v c

/-- The reader of what stands inside a container, with a limit for what is inside it. -/
def nestedValue (read : Reading ν) : Nat → Scan (Tree ν)
  | 0 => failNext .tooDeep
  | d + 1 => fun s =>
    match s with
    | '[' :: rest =>
      (listItems (value read d) (rest.length + 1) true rest).map fun (xs, r) => (.list xs, r)
    | _ :: rest =>
      (objectMembers read.escape (fun _ => value read d) (rest.length + 1) true rest).map
        fun (ms, r) => (.object ms, r)
    | [] => failNext .endOfValue []

theorem value_eq (read : Reading ν) (d : Nat) :
    value read d = scalarOr read (nestedValue read d) := by
  cases d <;> rfl

theorem value_of_skipSpaces {s rest : List Char} {c : Char} (h : skipSpaces s = c :: rest)
    (d : Nat) : value read d s = valueFrom read (nestedValue read d) c rest := by
  rw [value_eq, scalarOr_of_skipSpaces _ h]

theorem value_of_gap {s : List Char} (h : skipSpaces s = []) (d : Nat) (y : Tree ν × List Char) :
    value read d s ≠ .ok y := by
  rw [value_eq, scalarOr, h]
  intro h
  cases h

theorem value_skipSpaces (read : Reading ν) (d : Nat) (s : List Char) :
    value read d (skipSpaces s) = value read d s := by
  rw [value_eq, scalarOr, scalarOr, skipSpaces_skipSpaces]

theorem value_itemwise (read : Reading ν) (d : Nat) : Itemwise ']' (value read d) where
  skip := value_skipSpaces read d
  nil := value_of_gap rfl d
  close s y h := by
    rw [value_eq] at h
    cases h

theorem IsPiece.gap {v : Tree ν} {g c : List Char} (h : IsPiece read v c) (hg : IsGap g) :
    IsPiece read v (g ++ c) := by
  intro d hd r hr
  rw [List.append_assoc, ← value_skipSpaces, skipSpaces_append hg, value_skipSpaces]
  exact h d hd r hr

theorem IsText.gap {v : Tree ν} {g e : List Char} (h : IsText (IsPiece read) v e) (hg : IsGap g) :
    IsText (IsPiece read) v (g ++ e) := by
  obtain ⟨c, g', rfl, hg', hc⟩ := h
  exact ⟨g ++ c, g', (List.append_assoc ..).symm, hg', hc.gap hg⟩

theorem isEnd_bracket : IsEnd ']' :=
  ⟨by decide, by decide⟩

theorem isEnd_brace : IsEnd '\x7d' :=
  ⟨by decide, by decide⟩

/-- **A list is read from texts of its items**, with commas between them and brackets around. -/
theorem isPiece_list {items : List (Tree ν)} {b : List Char}
    (hb : IsBody (IsPiece read) items b) : IsPiece read (.list items) ('[' :: b ++ [']']) := by
  intro d hd r _
  obtain ⟨d, rfl⟩ := Nat.exists_eq_add_of_le' (Nat.lt_of_lt_of_le (Nat.succ_pos _) hd)
  have hdepth : ∀ t ∈ items, t.depth ≤ d := itemsDepth_le_iff.1 (Nat.le_of_succ_le_succ hd)
  have hreads : IsBody (Reads isNumeralChar (value read d)) items b :=
    (isBody_and_left.2 ⟨hdepth, hb⟩).imp fun t c ⟨ht, hc⟩ => hc d ht
  have hitems := (listItems_listing (value_itemwise read d)).complete isEnd_bracket (r := r) hreads
    (Nat.lt_succ_self _)
  have htext : '[' :: b ++ [']'] ++ r = '[' :: (b ++ ']' :: r) := by simp
  rw [htext, value_of_skipSpaces (skipSpaces_cons (by decide) _)]
  exact map_eq_ok_iff.2 ⟨_, hitems, rfl⟩

/-- A text of a member: its key, a colon, and a text of its value. -/
def IsMember (read : Reading ν) (m : String × Tree ν) (c : List Char) : Prop :=
  ∃ key v, c = key ++ ':' :: v ∧ IsText (IsPiece read) (.text m.1) key ∧ IsPiece read m.2 v

theorem number_of_signedNumber {negative : Bool} {s r : List Char} {v : Tree ν}
    (h : signedNumber read negative s = .ok (v, r)) : ∃ x, v = .number x := by
  obtain ⟨⟨n, s₁⟩, -, hend⟩ := bind_eq_ok_iff.1 h
  dsimp only at hend
  split at hend
  · rename_i x _
    cases hend
    exact ⟨x, rfl⟩
  · cases hend

theorem container_of_nestedValue {d : Nat} {s r : List Char} {v : Tree ν}
    (h : nestedValue read d s = .ok (v, r)) : (∃ xs, v = .list xs) ∨ ∃ ms, v = .object ms := by
  cases d with
  | zero => cases h
  | succ d =>
    dsimp only [nestedValue] at h
    split at h
    · obtain ⟨⟨xs, _⟩, -, heq⟩ := map_eq_ok_iff.1 h
      cases heq
      exact .inl ⟨xs, rfl⟩
    · obtain ⟨⟨ms, _⟩, -, heq⟩ := map_eq_ok_iff.1 h
      cases heq
      exact .inr ⟨ms, rfl⟩
    · cases h

/-- Only what begins with a quote is read as a text. -/
theorem quote_of_valueFrom {d : Nat} {c : Char} {rest r : List Char} {k : String}
    (h : valueFrom read (nestedValue read d) c rest = .ok (.text k, r)) : c = '"' := by
  unfold valueFrom at h
  split at h
  · obtain ⟨_, -, heq⟩ := map_eq_ok_iff.1 h
    cases heq
  split at h
  · obtain ⟨_, -, heq⟩ := map_eq_ok_iff.1 h
    cases heq
  split at h
  · obtain ⟨_, -, heq⟩ := map_eq_ok_iff.1 h
    cases heq
  split at h
  · obtain ⟨_, heq⟩ := number_of_signedNumber h
    cases heq
  split at h
  · obtain ⟨_, heq⟩ := number_of_signedNumber h
    cases heq
  split at h
  · rename_i hc
    exact beq_iff_eq.1 hc
  split at h
  · rcases container_of_nestedValue h with ⟨_, heq⟩ | ⟨_, heq⟩ <;> cases heq
  · cases h

theorem value_text_iff {d : Nat} {s r : List Char} {k : String} :
    value read d s = .ok (.text k, r) ↔
      ∃ rest, skipSpaces s = '"' :: rest ∧ stringRest read.escape rest = .ok (k, r) := by
  constructor
  · intro h
    cases hs : skipSpaces s with
    | nil => exact absurd h (value_of_gap hs d _)
    | cons c rest =>
      rw [value_of_skipSpaces hs] at h
      obtain rfl := quote_of_valueFrom h
      obtain ⟨⟨k', r'⟩, hk, heq⟩ := map_eq_ok_iff.1 h
      cases heq
      exact ⟨rest, rfl, hk⟩
  · rintro ⟨rest, hs, hk⟩
    rw [value_of_skipSpaces hs]
    exact map_eq_ok_iff.2 ⟨_, hk, rfl⟩

/-- Reading a member is reading a text, a colon and a value. -/
theorem quoted_member_eq_ok_iff {item : String → Scan (Tree ν)} {s r : List Char}
    {m : String × Tree ν} (d : Nat) :
    quoted (member read.escape item) s = .ok (m, r) ↔
      ∃ rest rest', value read d s = .ok (.text m.1, rest) ∧ skipSpaces rest = ':' :: rest' ∧
        item m.1 rest' = .ok (m.2, r) := by
  rw [quoted_eq_ok_iff]
  constructor
  · rintro ⟨rest, hs, hm⟩
    obtain ⟨⟨k, rest'⟩, hk, hrest⟩ := bind_eq_ok_iff.1 hm
    dsimp only at hrest
    split at hrest
    · cases hrest
    · rename_i c t ht
      split at hrest
      · rename_i hc
        obtain ⟨⟨x, r'⟩, hx, heq⟩ := bind_eq_ok_iff.1 hrest
        cases heq
        exact ⟨rest', t, value_text_iff.2 ⟨rest, hs, hk⟩, beq_iff_eq.1 hc ▸ ht, hx⟩
      · cases hrest
  · rintro ⟨rest, rest', hk, hcolon, hx⟩
    obtain ⟨t, hs, hk⟩ := value_text_iff.1 hk
    refine ⟨t, hs, bind_eq_ok_iff.2 ⟨_, hk, ?_⟩⟩
    dsimp only
    rw [hcolon]
    exact bind_eq_ok_iff.2 ⟨_, hx, rfl⟩

theorem isEnd_colon : IsEnd ':' :=
  ⟨by decide, by decide⟩

/-- A member is read so if the limit allows the depth of its value. -/
theorem IsMember.reads {m : String × Tree ν} {c : List Char} (h : IsMember read m c) {d : Nat}
    (hd : m.2.depth ≤ d) :
    Reads isNumeralChar (quoted (member read.escape fun _ => value read d)) m c := by
  obtain ⟨key, v, rfl, ⟨k, g, rfl, hg, hk⟩, hv⟩ := h
  intro r hr
  refine (quoted_member_eq_ok_iff 0).2 ⟨g ++ ':' :: (v ++ r), v ++ r, ?_, ?_, hv d hd r hr⟩
  · have htext : k ++ g ++ ':' :: v ++ r = k ++ (g ++ ':' :: (v ++ r)) := by simp
    rw [htext]
    exact hk 0 (Nat.le_refl 0) _ (hg.stops.append (isEnd_colon.stops _))
  · rw [skipSpaces_append hg, skipSpaces_cons isEnd_colon.space]

/-- **An object is read from texts of its members**, with commas between them and braces around. -/
theorem isPiece_object {members : List (String × Tree ν)} {b : List Char}
    (hb : IsBody (IsMember read) members b) :
    IsPiece read (.object members) ('\x7b' :: b ++ ['\x7d']) := by
  intro d hd r _
  obtain ⟨d, rfl⟩ := Nat.exists_eq_add_of_le' (Nat.lt_of_lt_of_le (Nat.succ_pos _) hd)
  have hdepth : ∀ m ∈ members, m.2.depth ≤ d := membersDepth_le_iff.1 (Nat.le_of_succ_le_succ hd)
  have hreads := (isBody_and_left.2 ⟨hdepth, hb⟩).imp fun m c ⟨hm, hc⟩ => hc.reads hm
  have hmembers := objectMembers_listing.complete isEnd_brace (r := r) hreads
    (Nat.lt_succ_self _)
  have htext : '\x7b' :: b ++ ['\x7d'] ++ r = '\x7b' :: (b ++ '\x7d' :: r) := by simp
  rw [htext, value_of_skipSpaces (skipSpaces_cons (by decide) _)]
  exact map_eq_ok_iff.2 ⟨_, hmembers, rfl⟩

/-! ## Whatever is read -/

/-- What is read with this limit is a piece that is no deeper. -/
def Sound (read : Reading ν) (d : Nat) : Prop :=
  ∀ s v r, value read d s = .ok (v, r) → ∃ c, s = c ++ r ∧ v.depth ≤ d ∧ IsPiece read v c

theorem Sound.member {d : Nat} (hsound : Sound read d) (s : List Char) (m : String × Tree ν)
    (r : List Char) (h : quoted (member read.escape fun _ => value read d) s = .ok (m, r)) :
    ∃ c, s = c ++ r ∧ m.2.depth ≤ d ∧ IsMember read m c := by
  obtain ⟨rest, rest', hkey, hcolon, hvalue⟩ := (quoted_member_eq_ok_iff d).1 h
  obtain ⟨k, rfl, -, hk⟩ := hsound _ _ _ hkey
  obtain ⟨g, hrest, hg⟩ := exists_gap rest
  obtain ⟨v, rfl, hd, hv⟩ := hsound _ _ _ hvalue
  refine ⟨k ++ g ++ ':' :: v, ?_, hd, k ++ g, v, rfl, ⟨k, g, rfl, hg, hk⟩, hv⟩
  rw [hrest, hcolon]
  simp

/-- Behind its bracket or brace, a container is read from texts of what is inside it. -/
theorem Sound.nested {d : Nat} (hsound : Sound read d) {c : Char} (hc : c = '[' ∨ c = '\x7b')
    {rest r : List Char} {v : Tree ν} (h : nestedValue read (d + 1) (c :: rest) = .ok (v, r)) :
    ∃ p, c :: rest = p ++ r ∧ v.depth ≤ d + 1 ∧ IsPiece read v p := by
  rcases hc with rfl | rfl
  · obtain ⟨⟨items, r'⟩, hitems, heq⟩ := map_eq_ok_iff.1 h
    cases heq
    obtain ⟨b, rfl, hb⟩ := (listItems_listing (value_itemwise read d)).sound hsound hitems
    obtain ⟨hdepth, hb⟩ := isBody_and_left.1 hb
    exact ⟨_, by simp, Nat.succ_le_succ (itemsDepth_le_iff.2 hdepth), isPiece_list hb⟩
  · obtain ⟨⟨members, r'⟩, hmembers, heq⟩ := map_eq_ok_iff.1 h
    cases heq
    obtain ⟨b, rfl, hb⟩ := objectMembers_listing.sound hsound.member hmembers
    obtain ⟨hdepth, hb⟩ := isBody_and_left.1 hb
    exact ⟨_, by simp, Nat.succ_le_succ (membersDepth_le_iff.2 hdepth), isPiece_object hb⟩

/-- What is read with a limit is a piece of the text if every container that is read is one. -/
theorem sound_of_nested (hesc : Framed never read.escape) {d : Nat}
    (hnested : ∀ c rest r v, c = '[' ∨ c = '\x7b' → nestedValue read d (c :: rest) = .ok (v, r) →
      ∃ p, c :: rest = p ++ r ∧ v.depth ≤ d ∧ IsPiece read v p) : Sound read d := by
  intro s v r h
  obtain ⟨g, hs, hg⟩ := exists_gap s
  suffices ∃ p, skipSpaces s = p ++ r ∧ v.depth ≤ d ∧ IsPiece read v p by
    obtain ⟨p, hp, hd, hpiece⟩ := this
    exact ⟨g ++ p, by rw [List.append_assoc, ← hp, ← hs], hd, hpiece.gap hg⟩
  cases hfirst : skipSpaces s with
  | nil => exact absurd h (value_of_gap hfirst d _)
  | cons c rest =>
    rw [value_of_skipSpaces hfirst] at h
    rcases valueFrom_cases hesc c with ⟨scan, hscan, heq⟩ | ⟨hbracket, heq⟩
    · rw [heq] at h
      obtain ⟨hv, p, rfl, hread⟩ := hscan rest v r h
      refine ⟨c :: p, rfl, hv ▸ Nat.zero_le d, fun d' _ r' hr' => ?_⟩
      have hc : isSpace c = false := skipSpaces_eq_cons hfirst
      rw [List.cons_append, value_of_skipSpaces (skipSpaces_cons hc _), heq]
      exact hread r' hr'
    · rw [heq] at h
      exact hnested c rest r v hbracket h

/-- **Whatever is read is a piece of the text that is read so anywhere**, and no deeper than the
limit. -/
theorem value_sound (hesc : Framed never read.escape) (d : Nat) : Sound read d := by
  induction d with
  | zero => exact sound_of_nested hesc fun _ _ _ _ _ h => by cases h
  | succ d ih => exact sound_of_nested hesc fun _ _ _ _ hc h => ih.nested hc h

/-- A list that is read stands between brackets. -/
theorem value_list (hesc : Framed never read.escape) {d : Nat} {s r : List Char}
    {items : List (Tree ν)} (h : value read d s = .ok (.list items, r)) :
    ∃ g b, s = g ++ '[' :: b ++ ']' :: r ∧ IsGap g ∧ IsBody (IsPiece read) items b := by
  obtain ⟨g, hs, hg⟩ := exists_gap s
  cases hfirst : skipSpaces s with
  | nil => exact absurd h (value_of_gap hfirst d _)
  | cons c rest =>
    rw [value_of_skipSpaces hfirst] at h
    rcases valueFrom_cases hesc c with ⟨scan, hscan, heq⟩ | ⟨hbracket, heq⟩
    · rw [heq] at h
      cases (hscan rest _ r h).1
    · rw [heq] at h
      cases d with
      | zero => cases h
      | succ d =>
        rcases hbracket with rfl | rfl
        · obtain ⟨⟨items', r'⟩, hitems, heq⟩ := map_eq_ok_iff.1 h
          cases heq
          obtain ⟨b, rfl, hb⟩ :=
            (listItems_listing (value_itemwise read d)).sound (value_sound hesc d) hitems
          refine ⟨g, b, ?_, hg, (isBody_and_left.1 hb).2⟩
          rw [List.append_assoc, List.cons_append, ← hfirst]
          exact hs
        · obtain ⟨_, -, heq⟩ := map_eq_ok_iff.1 h
          cases heq

/-! ## Whole texts -/

theorem finish_eq_ok_iff {s : List Char} : finish s = .ok () ↔ IsGap s := by
  rw [finish]
  split
  · rename_i hs
    obtain ⟨g, heq, hg⟩ := exists_gap s
    rw [hs, List.append_nil] at heq
    exact ⟨fun _ => heq ▸ hg, fun _ => rfl⟩
  · rename_i hne
    exact ⟨fun h => (by cases h), fun hs => absurd (skipSpaces_gap hs) hne⟩

/-- A text is read to its end with a limit if it is a text of the value, and the value no deeper. -/
theorem isText_iff (hesc : Framed never read.escape) {d : Nat} {v : Tree ν} {e : List Char} :
    v.depth ≤ d ∧ IsText (IsPiece read) v e ↔
      ∃ rest, value read d e = .ok (v, rest) ∧ finish rest = .ok () := by
  constructor
  · rintro ⟨hd, c, g, rfl, hg, hc⟩
    exact ⟨g, hc d hd g hg.stops, finish_eq_ok_iff.2 hg⟩
  · rintro ⟨rest, hv, hrest⟩
    obtain ⟨c, rfl, hd, hc⟩ := value_sound hesc d _ _ _ hv
    exact ⟨hd, c, rest, rfl, finish_eq_ok_iff.1 hrest, hc⟩

theorem parseTree_eq_ok_iff (hesc : Framed never read.escape) {v : Tree ν} {e : List Char} :
    parseTree read e = .ok v ↔ v.depth ≤ depthLimit ∧ IsText (IsPiece read) v e := by
  rw [isText_iff hesc, parseTree, bind_eq_ok_iff]
  constructor
  · rintro ⟨⟨v', rest⟩, hv, h⟩
    obtain ⟨_, hrest, heq⟩ := bind_eq_ok_iff.1 h
    cases heq
    exact ⟨rest, hv, hrest⟩
  · rintro ⟨rest, hv, hrest⟩
    exact ⟨_, hv, bind_eq_ok_iff.2 ⟨_, hrest, rfl⟩⟩

/-- A text is the text of one value only. -/
theorem IsPiece.unique {v w : Tree ν} {c e r : List Char} (hc : IsPiece read v c)
    (he : IsPiece read w e) (r' : List Char) (hr : Stops isNumeralChar r)
    (hr' : Stops isNumeralChar r') (heq : c ++ r = e ++ r') : v = w := by
  have hv := hc (max v.depth w.depth) (Nat.le_max_left _ _) r hr
  have hw := he (max v.depth w.depth) (Nat.le_max_right _ _) r' hr'
  rw [heq, hw] at hv
  cases hv
  rfl

/-- Where the spaces end, a value begins with a digit or one of seven other characters. -/
theorem start_of_value {d : Nat} {s r : List Char} {v : Tree ν}
    (h : value read d s = .ok (v, r)) :
    ∃ c rest, skipSpaces s = c :: rest ∧
      (c.isDigit = true ∨ c ∈ ['n', 't', 'f', '-', '"', '[', '\x7b']) := by
  cases hs : skipSpaces s with
  | nil => exact absurd h (value_of_gap hs d _)
  | cons c rest =>
    refine ⟨c, rest, rfl, Decidable.by_contra fun hne => ?_⟩
    rw [value_of_skipSpaces hs] at h
    simp only [List.mem_cons, List.not_mem_nil, or_false, not_or, Bool.not_eq_true] at hne
    obtain ⟨hdigit, hn, ht, hf, hminus, hquote, hbracket, hbrace⟩ := hne
    simp only [valueFrom, hdigit, beq_false_of_ne hn, beq_false_of_ne ht, beq_false_of_ne hf,
      beq_false_of_ne hminus, beq_false_of_ne hquote, beq_false_of_ne hbracket,
      beq_false_of_ne hbrace, Bool.or_self, Bool.false_eq_true, if_false] at h
    cases h

end Vigil.Json
