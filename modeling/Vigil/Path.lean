/-!
# File paths

A path is split at slashes.  Empty components and inner components `.` do not count, so that
`a//b/./` and `a/b` have the same components.
-/

namespace Vigil.Path

/-- The parts of a text between its slashes. -/
def splitSlash : List Char → List (List Char)
  | [] => [[]]
  | '/' :: rest => [] :: splitSlash rest
  | c :: rest =>
    match splitSlash rest with
    | [] => [[c]]
    | p :: ps => (c :: p) :: ps

/-- One step of a path. -/
inductive Component where
  | root
  | current
  | parent
  | normal (name : List Char)
deriving DecidableEq, Repr

/-- A part of a path that is neither empty nor a single dot. -/
def component? (part : List Char) : Option Component :=
  if part = [] || part = ['.'] then none
  else if part = ['.', '.'] then some .parent
  else some (.normal part)

/-- The components of a path.  A dot counts only at the very beginning. -/
def components (path : List Char) : List Component :=
  let parts := splitSlash path
  let start :=
    match parts with
    | [] :: _ :: _ => [Component.root]
    | ['.'] :: _ => [Component.current]
    | _ => []
  start ++ parts.filterMap component?

/-- The name of the last component, if it is a plain name. -/
def fileName? (path : List Char) : Option (List Char) :=
  match (components path).getLast? with
  | some (.normal name) => some name
  | _ => none

/-- What follows the last dot of the file name; a dot at the beginning of the name does not
count. -/
def extension? (path : List Char) : Option (List Char) :=
  match fileName? path with
  | none => none
  | some name =>
    let back := name.reverse.takeWhile (· != '.')
    if name.length ≤ back.length + 1 then none else some back.reverse

/-- The path without slashes and single dots at its end; the path is written from its end. -/
def trimmedBack : List Char → List Char
  | '/' :: rest => trimmedBack rest
  | '.' :: '/' :: rest => trimmedBack rest
  | s => s

/-- The path with an ending added to its file name, if it has one. -/
def withEnding? (path ending : List Char) : Option (List Char) :=
  (fileName? path).map fun _ => (trimmedBack path.reverse).reverse ++ '.' :: ending

/-! ## Laws -/

theorem splitSlash_ne_nil (s : List Char) : splitSlash s ≠ [] := by
  cases s with
  | nil => simp [splitSlash]
  | cons c rest =>
    by_cases h : c = '/'
    · subst h; simp [splitSlash]
    · unfold splitSlash
      split
      · simp
      · simp
      · split <;> simp

/-!
## Folders and the last part of a path

Split at its slashes, a path has any number of folders and one last part, either of which may be
empty.  What stands among the folders can be told from the path itself: it begins where the path
begins or behind a slash, and a slash follows it.
-/

variable {s t v : List Char} {ds : List (List Char)}

/-! ### Splitting -/

theorem splitSlash_cons_of_ne {c : Char} (hc : c ≠ '/') {p : List Char} {ps : List (List Char)}
    (h : splitSlash s = p :: ps) : splitSlash (c :: s) = (c :: p) :: ps := by
  rw [splitSlash, h]
  simpa using hc

theorem splitSlash_append_slash (s t : List Char) :
    splitSlash (s ++ '/' :: t) = splitSlash s ++ splitSlash t := by
  induction s with
  | nil => simp [splitSlash]
  | cons c s ih =>
    by_cases hc : c = '/'
    · subst hc
      simp only [List.cons_append, splitSlash, ih]
    · obtain ⟨p, ps, hs⟩ := List.exists_cons_of_ne_nil (splitSlash_ne_nil s)
      rw [hs] at ih
      rw [List.cons_append, splitSlash_cons_of_ne hc ih, splitSlash_cons_of_ne hc hs]
      rfl

theorem splitSlash_of_no_slash (h : '/' ∉ s) : splitSlash s = [s] := by
  induction s with
  | nil => rfl
  | cons c s ih =>
    rw [List.mem_cons, not_or] at h
    exact splitSlash_cons_of_ne (Ne.symm h.1) (ih h.2)

theorem no_slash_of_mem_splitSlash (h : v ∈ splitSlash s) : '/' ∉ v := by
  induction s generalizing v with
  | nil =>
    obtain rfl := List.mem_singleton.1 h
    exact List.not_mem_nil
  | cons c s ih =>
    by_cases hc : c = '/'
    · subst hc
      rw [splitSlash] at h
      rcases List.mem_cons.1 h with rfl | h
      · exact List.not_mem_nil
      · exact ih h
    · obtain ⟨p, ps, hs⟩ := List.exists_cons_of_ne_nil (splitSlash_ne_nil s)
      rw [splitSlash_cons_of_ne hc hs] at h
      rw [hs] at ih
      rcases List.mem_cons.1 h with rfl | h
      · simpa [Ne.symm hc] using ih List.mem_cons_self
      · exact ih (List.mem_cons_of_mem _ h)

/-! ### Putting together -/

/-- Some folders, with a slash behind each. -/
def ofFolders (ds : List (List Char)) : List Char :=
  ds.flatMap (· ++ ['/'])

theorem ofFolders_cons (d : List Char) (ds : List (List Char)) :
    ofFolders (d :: ds) = d ++ '/' :: ofFolders ds := by
  simp [ofFolders]

theorem ofFolders_append (ds es : List (List Char)) :
    ofFolders (ds ++ es) = ofFolders ds ++ ofFolders es :=
  List.flatMap_append

theorem splitSlash_ofFolders (h : ∀ d ∈ ds, '/' ∉ d) (t : List Char) :
    splitSlash (ofFolders ds ++ t) = ds ++ splitSlash t := by
  induction ds with
  | nil => rfl
  | cons d ds ih =>
    obtain ⟨hd, hds⟩ := List.forall_mem_cons.1 h
    rw [ofFolders_cons, List.append_assoc, List.cons_append, splitSlash_append_slash, ih hds,
      splitSlash_of_no_slash hd]
    rfl

/-- **A path is its folders, with a slash behind each, and its last part.** -/
theorem exists_folders (s : List Char) :
    ∃ ds v, splitSlash s = ds ++ [v] ∧ s = ofFolders ds ++ v := by
  induction s with
  | nil => exact ⟨[], [], rfl, rfl⟩
  | cons c s ih =>
    obtain ⟨ds, v, hsplit, hs⟩ := ih
    by_cases hc : c = '/'
    · subst hc
      refine ⟨[] :: ds, v, ?_, ?_⟩
      · rw [splitSlash, hsplit, List.cons_append]
      · rw [ofFolders_cons, List.nil_append, List.cons_append, ← hs]
    · cases ds with
      | nil => exact ⟨[], c :: v, splitSlash_cons_of_ne hc hsplit, congrArg (c :: ·) hs⟩
      | cons d ds =>
        refine ⟨(c :: d) :: ds, v, splitSlash_cons_of_ne hc hsplit, ?_⟩
        rw [ofFolders_cons] at hs ⊢
        rw [List.cons_append, List.cons_append, ← hs]

/-! ### Where the parts are found -/

/-- A part of a path begins behind this: the beginning of the path, or a slash. -/
def IsStart (s : List Char) : Prop :=
  s = [] ∨ ∃ t, s = t ++ ['/']

theorem isStart_ofFolders (ds : List (List Char)) : IsStart (ofFolders ds) := by
  rcases List.eq_nil_or_concat ds with rfl | ⟨ds, d, rfl⟩
  · exact .inl rfl
  · refine .inr ⟨ofFolders ds ++ d, ?_⟩
    rw [List.concat_eq_append, ofFolders_append, ofFolders_cons, List.append_assoc]
    rfl

/-- The parts before a start and those behind it do not touch each other. -/
theorem exists_splitSlash_append (h : IsStart s) :
    ∃ ds, ∀ t, splitSlash (s ++ t) = ds ++ splitSlash t := by
  rcases h with rfl | ⟨s, rfl⟩
  · exact ⟨[], fun _ => rfl⟩
  · refine ⟨splitSlash s, fun t => ?_⟩
    rw [List.append_assoc, List.singleton_append, splitSlash_append_slash]

/-- **Where the folders of a path are found.** -/
theorem infix_folders_iff :
    ds <:+: (splitSlash s).dropLast ↔
      (∀ d ∈ ds, '/' ∉ d) ∧ ∃ a b, IsStart a ∧ s = a ++ (ofFolders ds ++ b) := by
  constructor
  · intro h
    refine ⟨fun d hd => ?_, ?_⟩
    · exact no_slash_of_mem_splitSlash ((List.dropLast_sublist _).subset (h.subset hd))
    · obtain ⟨es, v, hsplit, hs⟩ := exists_folders s
      rw [hsplit, List.dropLast_concat] at h
      obtain ⟨before, behind, rfl⟩ := h
      refine ⟨ofFolders before, ofFolders behind ++ v, isStart_ofFolders before, ?_⟩
      simp only [hs, ofFolders_append, List.append_assoc]
  · rintro ⟨hds, a, b, ha, rfl⟩
    obtain ⟨before, hbefore⟩ := exists_splitSlash_append ha
    refine ⟨before, (splitSlash b).dropLast, ?_⟩
    rw [hbefore, splitSlash_ofFolders hds, ← List.append_assoc,
      List.dropLast_append_of_ne_nil (splitSlash_ne_nil b)]

theorem mem_folders_iff {d : List Char} :
    d ∈ (splitSlash s).dropLast ↔
      '/' ∉ d ∧ ∃ a b, IsStart a ∧ s = a ++ (d ++ '/' :: b) := by
  have hsingle : d ∈ (splitSlash s).dropLast ↔ [d] <:+: (splitSlash s).dropLast := by
    simp [List.mem_iff_append, List.IsInfix, eq_comm]
  rw [hsingle, infix_folders_iff]
  simp [ofFolders]

/-- **Where the last part of a path is found.** -/
theorem getLast?_splitSlash_iff :
    (splitSlash s).getLast? = some v ↔ '/' ∉ v ∧ ∃ a, IsStart a ∧ s = a ++ v := by
  constructor
  · intro h
    refine ⟨no_slash_of_mem_splitSlash (List.mem_of_getLast? h), ?_⟩
    obtain ⟨ds, w, hsplit, hs⟩ := exists_folders s
    rw [hsplit, List.getLast?_concat] at h
    obtain rfl := Option.some.inj h
    exact ⟨ofFolders ds, isStart_ofFolders ds, hs⟩
  · rintro ⟨hv, a, ha, rfl⟩
    obtain ⟨before, hbefore⟩ := exists_splitSlash_append ha
    rw [hbefore, splitSlash_of_no_slash hv, List.getLast?_concat]

end Vigil.Path
