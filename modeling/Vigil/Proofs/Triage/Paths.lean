import Vigil.Path
import Vigil.Proofs.Pattern.Meaning
import Vigil.Triage.Rules

/-!
# What the signatures for paths are after

Two of the built-in signatures look at the path of a finding: one for tests and mocks, one for the
code of others.  Their patterns are searched for anywhere in the path, but what they are after are
folders, the last part of the path and its ending.

* `IsTestCode` and `IsThirdParty` -- what the two signatures are after;
* `parse?_testCode` and `parse?_thirdParty` -- how their patterns are read;
* `isMatch_testPattern` and `isMatch_thirdPartyPattern` -- **the main results**: the patterns are
  found in just these paths.
-/

namespace Vigil

open Vigil.Path (splitSlash ofFolders IsStart)
open Text (folded)

/-! ## Paths of tests and of the code of others -/

/-- The path leads through a folder for tests or mocks, its last part begins with `mock`, or it ends
with `.t.sol`, up to case. -/
def IsTestCode (path : List Char) : Prop :=
  (∃ d ∈ (splitSlash path).dropLast,
    ∃ name ∈ ["test", "tests", "mock", "mocks"], folded d = folded name.toList) ∨
  (∃ v ∈ (splitSlash path).getLast?, folded "mock".toList <+: folded v) ∨
  folded ".t.sol".toList <:+ folded path

/-- The path leads through a folder for the code of others. -/
def IsThirdParty (path : List Char) : Prop :=
  "node_modules".toList ∈ (splitSlash path).dropLast ∨
  "vendor".toList ∈ (splitSlash path).dropLast ∨
  ["lib".toList, "openzeppelin-contracts".toList] <:+: (splitSlash path).dropLast

instance (path : List Char) : Decidable (IsTestCode path) :=
  inferInstanceAs (Decidable (_ ∨ _ ∨ _))

instance (path : List Char) : Decidable (IsThirdParty path) :=
  inferInstanceAs (Decidable (_ ∨ _ ∨ _))

/-! ## Patterns behind a slash -/

namespace Pattern

variable {p q : Pattern} {ps : List Pattern} {t u v w : List Char} {m n : Nat}

/-- A stretch of the text is matched. -/
def Found (p : Pattern) (t : List Char) : Prop :=
  ∃ u v w, t = u ++ (v ++ w) ∧ p.Covers u v w

theorem found_choice : (choice p q).Found t ↔ p.Found t ∨ q.Found t := by
  simp only [Found, covers_choice]
  grind

/-- The beginning of a text or a slash. -/
def start (n : Nat) : Pattern :=
  .group n (.choice (.look .textStart) (.literal ['/']))

theorem covers_start : (start n).Covers u v w ↔ (v = [] ∧ u = []) ∨ v = ['/'] := by
  rw [start, covers_group, covers_choice, covers_textStart, covers_literal]

/-- What is found behind the start of a part of a path. -/
theorem found_start :
    (sequence (start n) q).Found t ↔ ∃ a v w, IsStart a ∧ t = a ++ (v ++ w) ∧ q.Covers a v w := by
  simp only [Found, covers_sequence, covers_start]
  constructor
  · rintro ⟨u, _, w, rfl, v₁, v₂, rfl, ⟨rfl, rfl⟩ | rfl, hq⟩
    · exact ⟨[], v₂, w, .inl rfl, rfl, hq⟩
    · exact ⟨u ++ ['/'], v₂, w, .inr ⟨u, rfl⟩, by simp, hq⟩
  · rintro ⟨a, v, w, rfl | ⟨u, rfl⟩, rfl, hq⟩
    · exact ⟨[], v, w, rfl, [], v, rfl, .inl ⟨rfl, rfl⟩, hq⟩
    · exact ⟨u, '/' :: v, w, by simp, ['/'], v, rfl, .inr rfl, hq⟩

/-- Some alternatives between the start of a part of a path and a slash. -/
def folder (n m : Nat) (ps : List Pattern) : Pattern :=
  .sequence (start n) (.sequence (.group m (ofAlternatives ps)) (.literal ['/']))

theorem found_folder :
    (folder n m ps).Found t ↔
      ∃ a x b, IsStart a ∧ t = a ++ (x ++ '/' :: b) ∧ ∃ p ∈ ps, p.Covers a x ('/' :: b) := by
  rw [folder, found_start]
  simp only [covers_sequence, covers_group, covers_ofAlternatives, covers_literal]
  constructor
  · rintro ⟨a, _, b, ha, rfl, x, _, rfl, hx, rfl⟩
    exact ⟨a, x, b, ha, by simp, hx⟩
  · rintro ⟨a, x, b, ha, rfl, hx⟩
    exact ⟨a, x ++ ['/'], b, ha, by simp, x, ['/'], rfl, hx, rfl⟩

theorem boundsInOrder_folder (h : ∀ p ∈ ps, p.boundsInOrder = true) :
    (folder n m ps).boundsInOrder = true := by
  have hps : (ofAlternatives ps).boundsInOrder = true := boundsInOrder_ofAlternatives h
  simp [folder, start, boundsInOrder, hps]

end Pattern

/-! ## The two patterns -/

namespace Pattern

variable {t x : List Char} {names : List String}

/-- All characters but the slash. -/
def noSlash : CharSet :=
  ⟨[(0, 46), (48, CharSet.lastPoint)]⟩

theorem holds_noSlash {c : Char} : noSlash.holds c.toNat = true ↔ c ≠ '/' := by
  have hlast : c.toNat ≤ CharSet.lastPoint := by
    show c.val.toNat ≤ 0x10ffff
    rcases c.valid with h | h <;> omega
  rw [Ne, ← Char.toNat_inj, noSlash, CharSet.holds]
  simp [CharSet.holdsIn, hlast]
  omega

/-- Folders with one of some names, up to case. -/
def namedFolder (n m : Nat) (names : List String) : Pattern :=
  folder n m (names.map fun name => ofSteps (letters name.toList))

theorem found_namedFolder {n m : Nat}
    (hnames : ∀ name ∈ names, Text.foldPoint '/'.toNat ∉ folded name.toList) :
    (namedFolder n m names).Found t ↔
      ∃ d ∈ (splitSlash t).dropLast, ∃ name ∈ names, folded d = folded name.toList := by
  simp only [namedFolder, found_folder, List.mem_map, exists_exists_and_eq_and, covers_letters,
    Path.mem_folders_iff]
  constructor
  · rintro ⟨a, d, b, ha, rfl, name, hname, hd⟩
    exact ⟨d, ⟨Text.not_mem_of_folded_eq hd (hnames name hname), a, b, ha, rfl⟩, name, hname, hd⟩
  · rintro ⟨d, ⟨-, a, b, ha, rfl⟩, name, hname, hd⟩
    exact ⟨a, d, b, ha, rfl, name, hname, hd⟩

theorem boundsInOrder_namedFolder {n m : Nat} : (namedFolder n m names).boundsInOrder = true := by
  refine boundsInOrder_folder fun p hp => ?_
  obtain ⟨name, -, rfl⟩ := List.mem_map.1 hp
  exact boundsInOrder_ofSteps fun q hq => boundsInOrder_of_mem_letters hq

/-- Folders, one or more, written just so. -/
def literalFolder (n m : Nat) (names : List String) : Pattern :=
  folder n m (names.map fun name => .literal name.toList)

theorem found_literalFolder {n m : Nat} :
    (literalFolder n m names).Found t ↔
      ∃ name ∈ names, ∃ a b, IsStart a ∧ t = a ++ (name.toList ++ '/' :: b) := by
  simp only [literalFolder, found_folder, List.mem_map, exists_exists_and_eq_and, covers_literal]
  constructor
  · rintro ⟨a, _, b, ha, rfl, name, hname, rfl⟩
    exact ⟨name, hname, a, b, ha, rfl⟩
  · rintro ⟨name, hname, a, b, ha, rfl⟩
    exact ⟨a, _, b, ha, rfl, name, hname, rfl⟩

/-- An ending, up to case. -/
def ending (x : List Char) : Pattern :=
  ofSteps (letters x ++ [.look .textEnd])

theorem found_ending : (ending x).Found t ↔ folded x <:+ folded t := by
  simp only [Found, ending, covers_ofSteps_append, covers_letters, ofSteps, covers_textEnd,
    Text.folded_suffix_iff]
  constructor
  · rintro ⟨u, _, w, rfl, v, _, rfl, hv, rfl, rfl⟩
    exact ⟨u, v, by simp, hv⟩
  · rintro ⟨u, v, rfl, hv⟩
    exact ⟨u, v, [], by simp, v, [], by simp, hv, rfl, rfl⟩

theorem boundsInOrder_ending : (ending x).boundsInOrder = true := by
  refine boundsInOrder_ofSteps fun p hp => ?_
  obtain hp | hp := List.mem_append.1 hp
  · exact boundsInOrder_of_mem_letters hp
  · obtain rfl := List.mem_singleton.1 hp
    rfl

/-- The beginning of the last part of a path, up to case. -/
def fileStart (n : Nat) (x : List Char) : Pattern :=
  ofSteps (start n ::
    (letters x ++ [.repetition (.chars noSlash) 0 none false, .look .textEnd]))

theorem found_fileStart {n : Nat} (hx : Text.foldPoint '/'.toNat ∉ folded x) :
    (fileStart n x).Found t ↔ ∃ v ∈ (splitSlash t).getLast?, folded x <+: folded v := by
  have hsequence : (fileStart n x).Found t ↔ (sequence (start n) (ofSteps (letters x ++
      [.repetition (.chars noSlash) 0 none false, .look .textEnd]))).Found t := by
    simp only [Found, fileStart, covers_ofSteps_cons]
  rw [hsequence, found_start]
  simp only [covers_ofSteps_append, covers_letters, ofSteps, covers_sequence, covers_star,
    covers_textEnd, holds_noSlash, Option.mem_def, Path.getLast?_splitSlash_iff,
    Text.folded_prefix_iff]
  constructor
  · rintro ⟨a, _, w, ha, rfl, m, _, rfl, hm, r, _, rfl, hr, rfl, rfl⟩
    refine ⟨m ++ r, ⟨?_, a, ha, by simp⟩, m, r, rfl, hm⟩
    rw [List.mem_append, not_or]
    exact ⟨Text.not_mem_of_folded_eq hm hx, fun hslash => hr '/' hslash rfl⟩
  · rintro ⟨_, ⟨hslash, a, ha, rfl⟩, m, r, rfl, hm⟩
    refine ⟨a, m ++ r, [], ha, by simp, m, r, rfl, hm, r, [], by simp, ?_, rfl, rfl⟩
    rintro c hc rfl
    exact hslash (List.mem_append_right m hc)

theorem boundsInOrder_fileStart {n : Nat} : (fileStart n x).boundsInOrder = true := by
  refine boundsInOrder_ofSteps fun p hp => ?_
  rw [List.mem_cons, List.mem_append, List.mem_pair] at hp
  obtain rfl | hp | rfl | rfl := hp
  · rfl
  · exact boundsInOrder_of_mem_letters hp
  · rfl
  · rfl

end Pattern

/-! ## Reading the signatures -/

namespace FalsePositiveSignature

open Pattern

/-- The pattern for tests and mocks. -/
def testPattern : Pattern :=
  .choice (namedFolder 1 2 ["test", "tests", "mock", "mocks"])
    (.choice (ending ".t.sol".toList) (fileStart 3 "mock".toList))

/-- The pattern for the code of others. -/
def thirdPartyPattern : Pattern :=
  literalFolder 1 2 ["node_modules", "vendor", "lib/openzeppelin-contracts"]

theorem parse?_testCode : Pattern.parse? testCode.pattern = some testPattern := by
  decide +kernel

theorem parse?_thirdParty : Pattern.parse? thirdParty.pattern = some thirdPartyPattern := by
  decide +kernel

/-- **The pattern for tests and mocks is found in just their paths.** -/
theorem isMatch_testPattern {path : String} :
    testPattern.isMatch path = true ↔ IsTestCode path.toList := by
  have hbounds : testPattern.boundsInOrder = true := by
    simp [testPattern, boundsInOrder, boundsInOrder_namedFolder, boundsInOrder_ending,
      boundsInOrder_fileStart]
  have hnames : ∀ name ∈ ["test", "tests", "mock", "mocks"],
      Text.foldPoint '/'.toNat ∉ folded name.toList := by
    decide +kernel
  rw [isMatch_iff_covers hbounds]
  show testPattern.Found path.toList ↔ _
  rw [testPattern, found_choice, found_choice, found_namedFolder hnames, found_ending,
    found_fileStart (hnames "mock" (by simp)), IsTestCode, or_comm (a := _ <:+ _)]

example : IsTestCode "MOCKS/a.c".toList := by
  decide +kernel

/-- **The pattern for the code of others is found in just their paths.** -/
theorem isMatch_thirdPartyPattern {path : String} :
    thirdPartyPattern.isMatch path = true ↔ IsThirdParty path.toList := by
  have hbounds : thirdPartyPattern.boundsInOrder = true := by decide
  rw [isMatch_iff_covers hbounds]
  show thirdPartyPattern.Found path.toList ↔ _
  have hsingle {d : List Char} (hd : '/' ∉ d) :
      (∃ a b, IsStart a ∧ path.toList = a ++ (d ++ '/' :: b)) ↔
        d ∈ (splitSlash path.toList).dropLast := by
    rw [Path.mem_folders_iff, and_iff_right hd]
  have hpair : (∃ a b, IsStart a ∧
      path.toList = a ++ ("lib/openzeppelin-contracts".toList ++ '/' :: b)) ↔
        ["lib".toList, "openzeppelin-contracts".toList] <:+:
          (splitSlash path.toList).dropLast := by
    rw [Path.infix_folders_iff, and_iff_right (by decide)]
    rfl
  rw [thirdPartyPattern, found_literalFolder]
  simp only [List.exists_mem_cons_iff, List.not_mem_nil, false_and, exists_false, or_false]
  rw [hsingle (by decide), hsingle (by decide), hpair, IsThirdParty]

end FalsePositiveSignature

end Vigil
