import Vigil.Proofs.Exact
import Vigil.Proofs.Text.SmallLetters
import Vigil.Triage.Verdict

/-!
# Verdicts between other words

A provider that is asked for a JSON object often wraps it: in blanks, in a code fence, in an
introduction or a remark.  As long as the wrapping holds no brace, it has no influence.

The reason is the same for each step on the way to the object.  A step only ever takes off an end of
the text that holds no brace, so it stops before the object, whatever stands inside it.

* `Around.of_append`, `Around.of_append_right` -- an end without braces does not reach into the
  object;
* `around_unfenced` -- trimming and the code fence leave the object whole;
* `objectText?_of_around` -- the first opening and the last closing brace are its own;
* `parse_among_words` -- **a verdict object decides alone**, whether its word is known or not.
-/

namespace Vigil.Verdict

/-! ## An object between other words -/

/-- A text holds no brace. -/
def Braceless (s : List Char) : Prop :=
  '\x7b' ∉ s ∧ '\x7d' ∉ s

instance (s : List Char) : Decidable (Braceless s) :=
  inferInstanceAs (Decidable (_ ∧ _))

/-- A text begins with an opening and ends with a closing brace. -/
structure Braced (j : List Char) : Prop where
  first : j.head? = some '\x7b'
  last : j.getLast? = some '\x7d'

/-- An object text stands between words without braces. -/
def Around (j s : List Char) : Prop :=
  ∃ p q, s = p ++ j ++ q ∧ Braceless p ∧ Braceless q

theorem Braceless.reverse {s : List Char} (h : Braceless s) : Braceless s.reverse :=
  ⟨mt List.mem_reverse.1 h.1, mt List.mem_reverse.1 h.2⟩

theorem Braceless.of_append {s t : List Char} (h : Braceless (s ++ t)) :
    Braceless s ∧ Braceless t :=
  ⟨⟨mt (List.mem_append_left t) h.1, mt (List.mem_append_left t) h.2⟩,
    ⟨mt (List.mem_append_right s) h.1, mt (List.mem_append_right s) h.2⟩⟩

theorem around_append {j p q : List Char} (hp : Braceless p) (hq : Braceless q) :
    Around j (p ++ j ++ q) :=
  ⟨p, q, rfl, hp, hq⟩

theorem Around.reverse {j s : List Char} (h : Around j s) : Around j.reverse s.reverse := by
  obtain ⟨p, q, rfl, hp, hq⟩ := h
  exact ⟨q.reverse, p.reverse, by simp, hq.reverse, hp.reverse⟩

/-- **What is taken off in front does not reach into the object**: it would hold its first
character. -/
theorem Around.of_append {j l s : List Char} {b : Char} (h : Around j (l ++ s))
    (hj : j.head? = some b) (hl : b ∉ l) : Around j s := by
  obtain ⟨p, q, heq, hp, hq⟩ := h
  rw [List.append_assoc] at heq
  rcases List.append_eq_append_iff.1 heq with ⟨p', rfl, hs⟩ | ⟨l', rfl, hjq⟩
  · exact ⟨p', q, by rw [hs, List.append_assoc], hp.of_append.2, hq⟩
  · cases l' with
    | nil => exact ⟨[], q, by simpa using hjq.symm, ⟨List.not_mem_nil, List.not_mem_nil⟩, hq⟩
    | cons c rest =>
      have hc : (j ++ q).head? = some c := by rw [hjq]; rfl
      rw [List.head?_append, hj, Option.some_or] at hc
      exact absurd (List.mem_append_right p (Option.some.inj hc ▸ List.mem_cons_self)) hl

/-- **Nor does what is taken off behind**, which would hold its last character. -/
theorem Around.of_append_right {j s l : List Char} {b : Char} (h : Around j (s ++ l))
    (hj : j.getLast? = some b) (hl : b ∉ l) : Around j s := by
  have hrev := h.reverse
  rw [List.reverse_append] at hrev
  have hj' : j.reverse.head? = some b := by rw [List.head?_reverse, hj]
  have hs := (hrev.of_append hj' (mt List.mem_reverse.1 hl)).reverse
  rwa [List.reverse_reverse, List.reverse_reverse] at hs

/-! ## Trimming -/

theorem Around.dropWhile {j s : List Char} {b : Char} {drops : Char → Bool} (h : Around j s)
    (hj : j.head? = some b) (hb : drops b = false) : Around j (s.dropWhile drops) := by
  have hsplit : s.takeWhile drops ++ s.dropWhile drops = s := List.takeWhile_append_dropWhile
  have hlead : b ∉ s.takeWhile drops := by
    intro hmem
    have hdrops := List.all_eq_true.1 List.all_takeWhile b hmem
    rw [hb] at hdrops
    cases hdrops
  exact (hsplit.symm ▸ h : Around j _).of_append hj hlead

theorem Around.trimChars {j s : List Char} (h : Around j s) (hj : Braced j) :
    Around j (Text.trimChars s) := by
  have hstart : Around j (Text.trimStart s) := h.dropWhile hj.first (by decide)
  have hlast : j.reverse.head? = some '\x7d' := by rw [List.head?_reverse, hj.last]
  have hend : Around j.reverse ((Text.trimStart s).reverse.dropWhile Text.isBlank) :=
    hstart.reverse.dropWhile hlast (by decide)
  have htrimmed := hend.reverse
  rwa [List.reverse_reverse] at htrimmed

/-! ## Code fences -/

theorem eq_append_of_afterPrefix? {lead s t : List Char} (h : afterPrefix? lead s = some t) :
    s = lead ++ t := by
  rw [afterPrefix?] at h
  split at h
  · rename_i hlead
    obtain rfl := Option.some.inj h
    exact (List.prefix_iff_eq_append.1 (List.isPrefixOf_iff_prefix.1 hlead)).symm
  · cases h

theorem eq_append_of_beforeSuffix? {tail s t : List Char} (h : beforeSuffix? tail s = some t) :
    s = t ++ tail := by
  rw [beforeSuffix?] at h
  split at h
  · rename_i htail
    obtain rfl := Option.some.inj h
    exact (List.suffix_iff_eq_append.1 (List.isSuffixOf_iff_suffix.1 htail)).symm
  · cases h

theorem Around.afterPrefix? {lead j s t : List Char} (h : Around j s) (hj : Braced j)
    (hlead : Braceless lead) (ht : afterPrefix? lead s = some t) : Around j t :=
  (eq_append_of_afterPrefix? ht ▸ h : Around j (lead ++ t)).of_append hj.first hlead.1

theorem Around.beforeSuffix? {tail j s t : List Char} (h : Around j s) (hj : Braced j)
    (htail : Braceless tail) (ht : beforeSuffix? tail s = some t) : Around j t :=
  (eq_append_of_beforeSuffix? ht ▸ h : Around j (t ++ tail)).of_append_right hj.last htail.2

/-- **Trimming and the code fence leave the object whole**, also when the fence is only opened or
only closed. -/
theorem around_unfenced {j s : List Char} (h : Around j s) (hj : Braced j) :
    Around j (unfenced s) := by
  have htrimmed := h.trimChars hj
  have hopened : ∀ t, (afterPrefix? (fence ++ ['j', 's', 'o', 'n']) (Text.trimChars s) <|>
      afterPrefix? fence (Text.trimChars s)) = some t → Around j t := by
    intro t ht
    rcases (Option.orElse_eq_some _ _ t).1 ht with ht | ⟨-, ht⟩
    · exact htrimmed.afterPrefix? hj (by decide) ht
    · exact htrimmed.afterPrefix? hj (by decide) ht
  rw [unfenced]
  cases hinner : (afterPrefix? (fence ++ ['j', 's', 'o', 'n']) (Text.trimChars s) <|>
      afterPrefix? fence (Text.trimChars s)).bind (beforeSuffix? fence) with
  | none => exact htrimmed
  | some inner =>
    obtain ⟨t, ht, hclosed⟩ := Option.bind_eq_some_iff.1 hinner
    exact ((hopened t ht).beforeSuffix? hj (by decide) hclosed).trimChars hj

/-! ## From the first to the last brace -/

theorem dropWhile_append_braced {l s : List Char} {b : Char} (hl : b ∉ l)
    (hs : s.head? = some b) : (l ++ s).dropWhile (· != b) = s := by
  have hdrop : ∀ c ∈ l, (c != b) = true := fun c hc => bne_iff_ne.2 (ne_of_mem_of_not_mem hc hl)
  obtain ⟨rest, rfl⟩ := List.head?_eq_some_iff.1 hs
  rw [List.dropWhile_append_of_pos hdrop, List.dropWhile_cons_of_neg (by simp)]

/-- **The first opening and the last closing brace of the text are those of the object.** -/
theorem objectText?_of_around {j s : List Char} (h : Around j s) (hj : Braced j) :
    objectText? s = some j := by
  obtain ⟨p, q, rfl, hp, hq⟩ := h
  have hfirst : (j ++ q).head? = some '\x7b' := by rw [List.head?_append, hj.first, Option.some_or]
  have hlast : j.reverse.head? = some '\x7d' := by rw [List.head?_reverse, hj.last]
  have hne : j ≠ [] := by
    rintro rfl
    cases hj.first
  rw [objectText?, List.append_assoc, dropWhile_append_braced hp.1 hfirst, List.reverse_append,
    dropWhile_append_braced hq.reverse.2 hlast, List.reverse_reverse]
  exact if_neg (mt List.isEmpty_iff.1 hne)

/-! ## The verdict -/

variable {ν : Type} [Quantity ν]

theorem parse_of_around {j content : String} {f : Fields} (hj : Braced j.toList)
    (hf : fields? j.toList = some f) (h : Around j.toList content.toList) :
    parse (ν := ν) content = ofFields f := by
  have hobject := objectText?_of_around (around_unfenced h hj) hj
  have hread : (objectText? (unfenced content.toList)).bind fields? = some f := by
    rw [hobject, Option.bind_some, hf]
  unfold parse
  simp only [hread]

/-- **A verdict object decides alone.**  An answer in which it stands between words without braces
has the verdict of its fields, or is refused for its verdict word, as the object by itself: no
trimming and no code fence cuts into it, whatever its texts hold, and the words around it are never
searched for a verdict. -/
theorem parse_among_words (p j q : String) (f : Fields) (hj : Braced j.toList)
    (hf : fields? j.toList = some f) (hp : Braceless p.toList) (hq : Braceless q.toList) :
    parse (ν := ν) (p ++ j ++ q) = parse j ∧ parse (ν := ν) j = ofFields f := by
  have hnone : Braceless ([] : List Char) := ⟨List.not_mem_nil, List.not_mem_nil⟩
  have halone : parse (ν := ν) j = ofFields f :=
    parse_of_around hj hf ⟨[], [], (List.append_nil _).symm, hnone, hnone⟩
  refine ⟨?_, halone⟩
  rw [halone]
  refine parse_of_around hj hf ?_
  rw [String.toList_append, String.toList_append]
  exact around_append hp hq

/-- An object with an unknown verdict word, whose rationale holds a code fence and braces. -/
def undecided : String :=
  "\x7b\"verdict\": \"Not sure\", \"rationale\": \"\x60\x60\x60 \x7d if (x) \x7b\"\x7d"

/-- In a code fence, with words behind it that name a verdict, it is refused as by itself. -/
theorem parse_among_words_undecided :
    (∃ f, fields? undecided.toList = some f) ∧
      parse (ν := ℚ) ("\x60\x60\x60json\n" ++ undecided ++ "\n\x60\x60\x60\nA false positive.") =
        .error "unknown verdict 'not_sure'" := by
  have hread : (fields? undecided.toList).isSome = true := by decide +kernel
  have hrefused : parse (ν := ℚ) undecided = .error "unknown verdict 'not_sure'" := by
    decide +kernel
  obtain ⟨f, hf⟩ := Option.isSome_iff_exists.1 hread
  have hbraced : Braced undecided.toList := ⟨by decide +kernel, by decide +kernel⟩
  have h := parse_among_words (ν := ℚ) "\x60\x60\x60json\n" undecided
    "\n\x60\x60\x60\nA false positive." f hbraced hf (by decide +kernel) (by decide +kernel)
  exact ⟨⟨f, hf⟩, h.1.trans hrefused⟩

end Vigil.Verdict
