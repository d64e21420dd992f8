import Mathlib.Data.List.Basic
import Vigil.CommandLine.Arguments

/-!
# The grammar of the arguments

An option takes the argument behind it for its value, whatever that looks like, so what an argument
means depends on everything in front of it.  The arguments are therefore split into *items* from the
left: an option with its value, the switch for the providers, or a target.

* `parseFrom_append` -- items are read by taking them into the draft, one after the other;
* `Ends` -- what may stand behind the items, and what the call then is;
* `parse_eq_iff` -- **any arguments are items and such an end**, and this decides their outcome;
* `parse_accepts_grammar` -- so what is accepted are the items with one target, and whole items may
  change places.
-/

namespace Vigil.CommandLine

/-! ## Items -/

/-- The two names of an option. -/
def ValueOption.names : ValueOption → List String
  | config => ["--config", "-c"]
  | language => ["--language", "-l"]

/-- The name of the switch for the providers. -/
def switchName : String := "--no-ai"

/-- The two ways to ask for help. -/
def helpNames : List String := ["--help", "-h"]

/-- The argument looks like an option. -/
def Dashed (argument : String) : Prop :=
  argument.toList.head? = some '-'

instance (argument : String) : Decidable (Dashed argument) :=
  inferInstanceAs (Decidable (_ = _))

/-- The argument is no name of an option, of the switch or of help. -/
structure Unnamed (argument : String) : Prop where
  option : ∀ option : ValueOption, argument ∉ option.names
  switch : argument ≠ switchName
  help : argument ∉ helpNames

/-- Arguments that belong together: an option under one of its names with any value, the switch for
the providers, or a target. -/
inductive Item where
  | value (option : ValueOption) (name : String) (hname : name ∈ option.names) (text : String)
  | noProviders
  | target (text : String) (hplain : ¬Dashed text)
deriving DecidableEq

namespace Item

/-- The arguments of an item. -/
def words : Item → List String
  | value _ name _ text => [name, text]
  | noProviders => [switchName]
  | target text _ => [text]

/-- The target that an item is. -/
def target? : Item → Option String
  | target text _ => some text
  | value .. | noProviders => none

/-- The value that an item gives for an option. -/
def value? (option : ValueOption) : Item → Option String
  | value o _ _ text => if o = option then some text else none
  | noProviders | target .. => none

end Item

/-- The arguments of some items. -/
def words (items : List Item) : List String :=
  items.flatMap Item.words

/-- The targets among some items. -/
def targets (items : List Item) : List String :=
  items.filterMap Item.target?

/-- The values given for an option, under either name. -/
def values (option : ValueOption) (items : List Item) : List String :=
  items.filterMap (Item.value? option)

/-- What some items ask for: their only target, the last value of each option, and no providers if
the switch is among them. -/
structure Gives (items : List Item) (options : Options) : Prop where
  target : targets items = [options.target]
  config : options.config = (values .config items).getLast?
  language : options.language = (values .language items).getLast?
  noProviders : options.noProviders = true ↔ .noProviders ∈ items

/-! ## Single arguments -/

section

variable {argument name : String} {option : ValueOption}

theorem classify_of_mem_names (h : name ∈ option.names) : classify name = .value option := by
  cases option with
  | config | language =>
    rcases List.mem_pair.1 h with rfl | rfl <;> decide

theorem classify_switchName : classify switchName = .noProviders := by
  decide

theorem classify_of_mem_helpNames (h : name ∈ helpNames) : classify name = .help := by
  rcases List.mem_pair.1 h with rfl | rfl <;> decide

theorem unnamed_of_not_dashed (h : ¬Dashed argument) : Unnamed argument where
  option option hmem := by
    cases option with
    | config | language => rcases List.mem_pair.1 hmem with rfl | rfl <;> exact h (by decide)
  switch heq := h (heq ▸ by decide)
  help hmem := by rcases List.mem_pair.1 hmem with rfl | rfl <;> exact h (by decide)

theorem classify_of_unnamed (h : Unnamed argument) :
    classify argument = if Dashed argument then .unknown else .target := by
  have hconfig := h.option .config
  have hlanguage := h.option .language
  have hswitch := h.switch
  have hhelp := h.help
  simp only [ValueOption.names, List.mem_pair] at hconfig hlanguage
  simp only [switchName, helpNames, List.mem_pair] at hswitch hhelp
  rw [classify, if_neg hconfig, if_neg hlanguage, if_neg hswitch, if_neg hhelp]
  rfl

theorem argument_cases (argument : String) :
    (∃ option : ValueOption, argument ∈ option.names) ∨ argument = switchName ∨
      argument ∈ helpNames ∨ (Dashed argument ∧ Unnamed argument) ∨ ¬Dashed argument := by
  by_cases hplain : Dashed argument
  · by_cases hoption : ∃ option : ValueOption, argument ∈ option.names
    · exact .inl hoption
    by_cases hswitch : argument = switchName
    · exact .inr (.inl hswitch)
    by_cases hhelp : argument ∈ helpNames
    · exact .inr (.inr (.inl hhelp))
    · exact .inr (.inr (.inr (.inl ⟨hplain, fun option h => hoption ⟨option, h⟩, hswitch, hhelp⟩)))
  · exact .inr (.inr (.inr (.inr hplain)))

/-! ## What a single argument does to a draft -/

variable (d : Draft) (rest : List String)

theorem parseFrom_value (h : name ∈ option.names) (text : String) :
    parseFrom d (name :: text :: rest) = parseFrom (d.set text option) rest := by
  rw [parseFrom, classify_of_mem_names h]

theorem parseFrom_missingValue (h : name ∈ option.names) :
    parseFrom d [name] = .error (.missingValue option) := by
  rw [parseFrom, classify_of_mem_names h]

theorem parseFrom_switch :
    parseFrom d (switchName :: rest) = parseFrom { d with noProviders := true } rest := by
  rw [parseFrom, classify_switchName]

theorem parseFrom_help (h : name ∈ helpNames) : parseFrom d (name :: rest) = .ok .help := by
  rw [parseFrom, classify_of_mem_helpNames h]

theorem parseFrom_unknown (hdashed : Dashed argument) (h : Unnamed argument) :
    parseFrom d (argument :: rest) = .error (.unknownOption argument) := by
  rw [parseFrom, classify_of_unnamed h, if_pos hdashed]

theorem parseFrom_target (h : ¬Dashed argument) :
    parseFrom d (argument :: rest) =
      if d.target = none then parseFrom { d with target := some argument } rest
      else .error .secondTarget := by
  rw [parseFrom, classify_of_unnamed (unnamed_of_not_dashed h), if_neg h]
  cases d.target <;> rfl

end

/-! ## Reading items -/

/-- A draft with what an item says. -/
def Draft.take (d : Draft) : Item → Draft
  | .value option _ _ text => d.set text option
  | .noProviders => { d with noProviders := true }
  | .target text _ => { d with target := some text }

/-- The value of an option, if one has been given. -/
def Draft.value? (d : Draft) : ValueOption → Option String
  | .config => d.config
  | .language => d.language

theorem Draft.eq_of_fields {d d' : Draft} (htarget : d.target = d'.target)
    (hvalue : ∀ option, d.value? option = d'.value? option)
    (hswitch : d.noProviders = d'.noProviders) : d = d' := by
  obtain ⟨target, config, language, noProviders⟩ := d
  obtain ⟨target', config', language', noProviders'⟩ := d'
  obtain rfl : target = target' := htarget
  obtain rfl : config = config' := hvalue .config
  obtain rfl : language = language' := hvalue .language
  obtain rfl : noProviders = noProviders' := hswitch
  rfl

/-- How many targets there are, with the one of the draft. -/
def Draft.count (d : Draft) (items : List Item) : Nat :=
  d.target.toList.length + (targets items).length

theorem words_cons (item : Item) (items : List Item) :
    words (item :: items) = item.words ++ words items :=
  List.flatMap_cons

theorem targets_append (items more : List Item) :
    targets (items ++ more) = targets items ++ targets more :=
  List.filterMap_append

namespace Draft

variable (d : Draft)

theorem length_target_le : d.target.toList.length ≤ 1 := by
  cases d.target with
  | none => exact Nat.zero_le 1
  | some _ => exact Nat.le_refl 1

theorem count_nil_le : d.count [] ≤ 1 :=
  d.length_target_le

theorem count_target_le_iff {text : String} (hplain : ¬Dashed text) :
    d.count [.target text hplain] ≤ 1 ↔ d.target = none := by
  cases htarget : d.target <;> simp [count, targets, Item.target?, htarget]

/-- With a further item there is no second target if neither it is one nor one is behind it. -/
theorem count_cons_le_iff (item : Item) (items : List Item) :
    d.count (item :: items) ≤ 1 ↔ d.count [item] ≤ 1 ∧ (d.take item).count items ≤ 1 := by
  have hd := d.length_target_le
  cases item with
  | value option =>
    have hset (text : String) : (d.set text option).target = d.target := by cases option <;> rfl
    simp only [count, targets, take, hset, List.filterMap_cons, Item.target?, List.filterMap_nil,
      List.length_nil]
    omega
  | noProviders =>
    simp only [count, targets, take, List.filterMap_cons, Item.target?, List.filterMap_nil,
      List.length_nil]
    omega
  | target text =>
    simp only [count, targets, take, List.filterMap_cons, Item.target?, List.filterMap_nil,
      List.length_cons, List.length_nil, Option.toList_some]
    omega

end Draft

/-- An item is read by taking it into the draft, unless it is a second target. -/
theorem parseFrom_item (d : Draft) (item : Item) (rest : List String) :
    parseFrom d (item.words ++ rest) =
      if d.count [item] ≤ 1 then parseFrom (d.take item) rest else .error .secondTarget := by
  cases item with
  | value option name hname text =>
    exact (parseFrom_value d rest hname text).trans (if_pos d.length_target_le).symm
  | noProviders => exact (parseFrom_switch d rest).trans (if_pos d.length_target_le).symm
  | target text hplain =>
    simp only [d.count_target_le_iff hplain]
    exact parseFrom_target d rest hplain

/-- **Items are read by taking them into the draft**, one after the other, as long as there is no
second target. -/
theorem parseFrom_append (d : Draft) (items : List Item) (rest : List String) :
    parseFrom d (words items ++ rest) =
      if d.count items ≤ 1 then parseFrom (items.foldl .take d) rest else .error .secondTarget := by
  induction items generalizing d with
  | nil => exact (if_pos d.count_nil_le).symm
  | cons item items ih =>
    rw [words_cons, List.append_assoc, parseFrom_item, ih, List.foldl_cons]
    simp only [Draft.count_cons_le_iff d item items, ite_and]

/-! ## The draft behind some items -/

namespace Draft

variable {d : Draft} {items : List Item}

theorem target_foldl (h : d.count items ≤ 1) :
    (items.foldl take d).target = d.target.or (targets items).head? := by
  induction items generalizing d with
  | nil => exact (Option.or_none ..).symm
  | cons item items ih =>
    obtain ⟨hitem, hitems⟩ := (d.count_cons_le_iff item items).1 h
    rw [List.foldl_cons, ih hitems]
    cases item with
    | value option => cases option <;> rfl
    | noProviders => rfl
    | target text hplain =>
      rw [(count_target_le_iff d hplain).1 hitem]
      rfl

/-- The last value of an option counts, and what the draft had if there is none. -/
theorem value?_foldl (d : Draft) (items : List Item) (option : ValueOption) :
    (items.foldl take d).value? option =
      (values option items).getLast?.or (d.value? option) := by
  induction items generalizing d with
  | nil => rfl
  | cons item items ih =>
    rw [List.foldl_cons, ih]
    have hitem : (d.take item).value? option = (item.value? option).or (d.value? option) := by
      cases item with
      | value o => cases o <;> cases option <;> rfl
      | noProviders | target => cases option <;> rfl
    rw [hitem, ← Option.or_assoc, values, values, List.filterMap_cons]
    cases item.value? option with
    | none => rw [Option.or_none]
    | some text => rw [List.getLast?_cons]; cases (List.getLast? _) <;> rfl

theorem noProviders_foldl (d : Draft) (items : List Item) :
    (items.foldl take d).noProviders = true ↔ d.noProviders = true ∨ .noProviders ∈ items := by
  induction items generalizing d with
  | nil => simp
  | cons item items ih =>
    rw [List.foldl_cons, ih, List.mem_cons]
    cases item with
    | value option => cases option <;> simp [take, set]
    | noProviders => simp [take]
    | target => simp [take]

end Draft

/-- The draft behind some items that stand at the start. -/
def draftOf (items : List Item) : Draft :=
  items.foldl .take {}

section

variable {items : List Item}

theorem parse_append (h : (targets items).length ≤ 1) (rest : List String) :
    parse (words items ++ rest) = parseFrom (draftOf items) rest := by
  have hcount : ({} : Draft).count items ≤ 1 := by
    rwa [Draft.count, Option.toList_none, List.length_nil, Nat.zero_add]
  rw [parse, parseFrom_append, if_pos hcount, draftOf]

theorem target_draftOf (h : (targets items).length ≤ 1) :
    (draftOf items).target = (targets items).head? := by
  have hcount : ({} : Draft).count items ≤ 1 := by
    rwa [Draft.count, Option.toList_none, List.length_nil, Nat.zero_add]
  exact Draft.target_foldl hcount

theorem Gives.length_targets {options : Options} (h : Gives items options) :
    (targets items).length = 1 := by
  rw [h.target, List.length_singleton]

/-- Items with a target make a call with what they give. -/
theorem finish_draftOf {options : Options} (h : Gives items options) :
    (draftOf items).finish = .ok (.run options) := by
  have htarget : (draftOf items).target = some options.target := by
    rw [target_draftOf (Nat.le_of_eq h.length_targets), h.target, List.head?_cons]
  have hvalue (option : ValueOption) :
      (draftOf items).value? option = (values option items).getLast? := by
    have hfold := Draft.value?_foldl {} items option
    cases option <;> exact hfold.trans (Option.or_none ..)
  have hswitch : (draftOf items).noProviders = options.noProviders := by
    rw [Bool.eq_iff_iff, h.noProviders, draftOf, Draft.noProviders_foldl]
    exact or_iff_right Bool.false_ne_true
  have hconfig : (draftOf items).config = options.config := (hvalue .config).trans h.config.symm
  have hlanguage : (draftOf items).language = options.language :=
    (hvalue .language).trans h.language.symm
  rw [Draft.finish, htarget, hconfig, hlanguage, hswitch]

end

/-! ## Whole calls -/

/-- What stands behind some items, and what the call then is.  The items end with the arguments or
where the first one stands that cannot be read. -/
inductive Ends : List Item → List String → Except ArgumentError Invocation → Prop
  | complete {items : List Item} {options : Options} (h : Gives items options) :
    Ends items [] (.ok (.run options))
  | help {items : List Item} {name : String} (hname : name ∈ helpNames) (rest : List String) :
    Ends items (name :: rest) (.ok .help)
  | missingTarget {items : List Item} (h : targets items = []) :
    Ends items [] (.error .missingTarget)
  | missingValue {items : List Item} {option : ValueOption} {name : String}
    (hname : name ∈ option.names) : Ends items [name] (.error (.missingValue option))
  | unknownOption {items : List Item} {argument : String} (hdashed : Dashed argument)
    (h : Unnamed argument) (rest : List String) :
    Ends items (argument :: rest) (.error (.unknownOption argument))
  | secondTarget {items : List Item} {argument : String} (h : targets items ≠ [])
    (hplain : ¬Dashed argument) (rest : List String) :
    Ends items (argument :: rest) (.error .secondTarget)

variable {items : List Item} {rest : List String} {outcome : Except ArgumentError Invocation}

theorem parse_of_ends (hcount : (targets items).length ≤ 1) (h : Ends items rest outcome) :
    parse (words items ++ rest) = outcome := by
  have htarget := target_draftOf hcount
  rw [parse_append hcount]
  cases h with
  | complete h => exact finish_draftOf h
  | help hname rest => exact parseFrom_help _ rest hname
  | missingTarget h =>
    rw [parseFrom, Draft.finish, htarget, h]
    rfl
  | missingValue hname => exact parseFrom_missingValue _ hname
  | unknownOption hdashed h rest => exact parseFrom_unknown _ rest hdashed h
  | secondTarget h hplain rest =>
    have hsome : (draftOf items).target ≠ none := by
      rwa [htarget, Ne, List.head?_eq_none_iff]
    rw [parseFrom_target _ rest hplain, if_neg hsome]

theorem exists_gives (h : (targets items).length = 1) : ∃ options, Gives items options := by
  obtain ⟨target, htarget⟩ := List.length_eq_one_iff.1 h
  exact ⟨⟨target, (values .config items).getLast?, (values .language items).getLast?,
    decide (.noProviders ∈ items)⟩, htarget, rfl, rfl, decide_eq_true_iff⟩

/-- Where the arguments end, the items have a target or lack one. -/
theorem exists_ends_nil (h : (targets items).length ≤ 1) : ∃ outcome, Ends items [] outcome := by
  rcases Nat.le_one_iff_eq_zero_or_eq_one.1 h with hzero | hone
  · exact ⟨_, .missingTarget (List.length_eq_zero_iff.1 hzero)⟩
  · obtain ⟨options, hoptions⟩ := exists_gives hone
    exact ⟨_, .complete hoptions⟩

/-- Behind some items that have been found already, the arguments are further items and an end. -/
def Splits (before : List Item) (arguments : List String) : Prop :=
  ∃ items rest outcome, arguments = words items ++ rest ∧
    (targets (before ++ items)).length ≤ 1 ∧ Ends (before ++ items) rest outcome

theorem splits_of_ends (hcount : (targets items).length ≤ 1) (h : Ends items rest outcome) :
    Splits items rest :=
  ⟨[], rest, outcome, rfl, by rwa [List.append_nil], by rwa [List.append_nil]⟩

theorem splits_item (item : Item) (h : Splits (items ++ [item]) rest) :
    Splits items (item.words ++ rest) := by
  obtain ⟨more, rest', outcome, rfl, hcount, hends⟩ := h
  rw [List.append_assoc] at hcount hends
  exact ⟨item :: more, rest', outcome, by rw [words_cons, List.append_assoc], hcount, hends⟩

/-- **From the left, any arguments are items** up to where they end or one cannot be read. -/
theorem splits (before : List Item) (hbefore : (targets before).length ≤ 1) :
    ∀ arguments, Splits before arguments
  | [] => by
    obtain ⟨outcome, h⟩ := exists_ends_nil hbefore
    exact splits_of_ends hbefore h
  | argument :: rest => by
    have hcount {item : Item} (h : item.target? = none) :
        (targets (before ++ [item])).length ≤ 1 := by
      rwa [targets_append, targets, targets, List.filterMap_cons_none h, List.filterMap_nil,
        List.append_nil]
    rcases argument_cases argument with ⟨option, h⟩ | rfl | h | ⟨hdashed, h⟩ | hplain
    · cases rest with
      | nil => exact splits_of_ends hbefore (.missingValue h)
      | cons text rest =>
        exact splits_item (.value option argument h text) (splits _ (hcount rfl) rest)
    · exact splits_item .noProviders (splits _ (hcount rfl) rest)
    · exact splits_of_ends hbefore (.help h rest)
    · exact splits_of_ends hbefore (.unknownOption hdashed h rest)
    · by_cases hfirst : targets before = []
      · have hone : (targets (before ++ [.target argument hplain])).length ≤ 1 := by
          rw [targets_append, hfirst]
          exact Nat.le_refl 1
        exact splits_item (.target argument hplain) (splits _ hone rest)
      · exact splits_of_ends hbefore (.secondTarget hfirst hplain rest)
  termination_by arguments => arguments.length

/-- **Any arguments are items and an end, which decides their outcome.** -/
theorem parse_eq_iff {arguments : List String} :
    parse arguments = outcome ↔ ∃ items rest, arguments = words items ++ rest ∧
      (targets items).length ≤ 1 ∧ Ends items rest outcome := by
  constructor
  · rintro rfl
    obtain ⟨items, rest, outcome, rfl, hcount, hends⟩ := splits [] (Nat.zero_le 1) arguments
    exact ⟨items, rest, rfl, hcount, (parse_of_ends hcount hends).symm ▸ hends⟩
  · rintro ⟨items, rest, rfl, hcount, hends⟩
    exact parse_of_ends hcount hends

/-! ## What is accepted -/

/-- Help is asked for behind some items without a second target. -/
def AsksForHelp (arguments : List String) : Prop :=
  ∃ items name rest, arguments = words items ++ name :: rest ∧ (targets items).length ≤ 1 ∧
    name ∈ helpNames

theorem parse_eq_help_iff {arguments : List String} :
    parse arguments = .ok .help ↔ AsksForHelp arguments := by
  rw [parse_eq_iff]
  constructor
  · rintro ⟨items, rest, rfl, hcount, hends⟩
    cases hends with
    | help hname rest => exact ⟨items, _, rest, rfl, hcount, hname⟩
  · rintro ⟨items, name, rest, rfl, hcount, hname⟩
    exact ⟨items, name :: rest, rfl, hcount, .help hname rest⟩

theorem parse_words (items : List Item) :
    parse (words items) =
      if (targets items).length ≤ 1 then (draftOf items).finish else .error .secondTarget := by
  have h := parseFrom_append {} items []
  rw [List.append_nil, Draft.count, Option.toList_none, List.length_nil, Nat.zero_add] at h
  exact h

theorem parse_words_eq_ok_iff {options : Options} :
    parse (words items) = .ok (.run options) ↔ Gives items options := by
  constructor
  · intro h
    rw [parse_words] at h
    split at h
    · rename_i hcount
      obtain ⟨outcome, hends⟩ := exists_ends_nil hcount
      have houtcome : (draftOf items).finish = outcome := by
        have hparse := parse_of_ends hcount hends
        rwa [List.append_nil, parse_words, if_pos hcount] at hparse
      rw [houtcome] at h
      subst h
      cases hends with
      | complete hgives => exact hgives
    · cases h
  · intro h
    rw [parse_words, if_pos (Nat.le_of_eq h.length_targets), finish_draftOf h]

/-- Items in another order leave the same draft, if the values of each option are still in order. -/
theorem draftOf_eq_of_perm {items' : List Item} (hcount : (targets items).length ≤ 1)
    (hperm : items'.Perm items) (hvalues : ∀ option, values option items' = values option items) :
    draftOf items' = draftOf items := by
  have htargets : targets items' = targets items := by
    have h : (targets items').Perm (targets items) := hperm.filterMap _
    rcases Nat.le_one_iff_eq_zero_or_eq_one.1 hcount with hzero | hone
    · rw [List.length_eq_zero_iff] at hzero
      rw [hzero] at h ⊢
      exact h.eq_nil
    · obtain ⟨target, htarget⟩ := List.length_eq_one_iff.1 hone
      rw [htarget] at h ⊢
      exact List.perm_singleton.1 h
  have htarget : (draftOf items').target = (draftOf items).target := by
    rw [target_draftOf (htargets ▸ hcount), target_draftOf hcount, htargets]
  have hvalue (option : ValueOption) :
      (draftOf items').value? option = (draftOf items).value? option := by
    rw [draftOf, draftOf, Draft.value?_foldl, Draft.value?_foldl, hvalues option]
  have hswitch : (draftOf items').noProviders = (draftOf items).noProviders := by
    rw [Bool.eq_iff_iff, draftOf, draftOf, Draft.noProviders_foldl, Draft.noProviders_foldl,
      hperm.mem_iff]
  exact Draft.eq_of_fields htarget hvalue hswitch

/-- **Whole items may change places**, as long as the values of each option stay in order. -/
theorem parse_words_of_perm {items' : List Item} (hperm : items'.Perm items)
    (hvalues : ∀ option, values option items' = values option items) :
    parse (words items') = parse (words items) := by
  have hlength : (targets items').length = (targets items).length :=
    (hperm.filterMap _).length_eq
  rw [parse_words, parse_words, hlength]
  split
  · rename_i hcount
    rw [draftOf_eq_of_perm hcount hperm hvalues]
  · rfl

/-- **The arguments are accepted exactly if they are items with one target, or help is reached.**

From the left they are items up to where they end or one cannot be read, and that place decides what
the call is or which error is given.  If help is not reached, the call is accepted exactly if there
are nothing but items and one of them is a target; then it runs with that target, the last value of
each option, and without providers if the switch is given.  Items may change places as long as the
values of each option stay in order. -/
theorem parse_accepts_grammar (arguments : List String) :
    (∀ outcome, parse arguments = outcome ↔ ∃ items rest, arguments = words items ++ rest ∧
      (targets items).length ≤ 1 ∧ Ends items rest outcome) ∧
    (¬AsksForHelp arguments →
      ((∃ invocation, parse arguments = .ok invocation) ↔
        ∃ items, arguments = words items ∧ (targets items).length = 1)) ∧
    ∀ items, arguments = words items →
      (∀ options, parse arguments = .ok (.run options) ↔ Gives items options) ∧
        ∀ items', items'.Perm items → (∀ option, values option items' = values option items) →
          parse (words items') = parse arguments := by
  refine ⟨fun _ => parse_eq_iff, fun hhelp => ⟨?_, ?_⟩, ?_⟩
  · rintro ⟨invocation, h⟩
    obtain ⟨items, rest, rfl, -, hends⟩ := parse_eq_iff.1 h
    cases hends with
    | complete hgives =>
      exact ⟨items, List.append_nil _, hgives.length_targets⟩
    | help => exact absurd (parse_eq_help_iff.1 h) hhelp
  · rintro ⟨items, rfl, hone⟩
    obtain ⟨options, hgives⟩ := exists_gives hone
    exact ⟨.run options, parse_words_eq_ok_iff.2 hgives⟩
  · rintro items rfl
    exact ⟨fun _ => parse_words_eq_ok_iff, fun _ => parse_words_of_perm⟩

/-- Two values for one option, both of which look like options, with a target between them. -/
def dashedValues : List Item :=
  [.value .config "-c" (by decide) "--no-ai", .target "m.c" (by decide),
    .value .config "--config" (by decide) "-l"]

/-- The same items with the target in front. -/
def targetFirst : List Item :=
  [.target "m.c" (by decide), .value .config "-c" (by decide) "--no-ai",
    .value .config "--config" (by decide) "-l"]

/-- The values are no switch and no option, the last of them counts, and the target may come
first. -/
theorem parse_accepts_grammar_dashedValues :
    words dashedValues = ["-c", "--no-ai", "m.c", "--config", "-l"] ∧
      ¬AsksForHelp (words dashedValues) ∧
      (∃ invocation, parse (words dashedValues) = .ok invocation) ∧
      parse (words dashedValues) = .ok (.run { target := "m.c", config := some "-l" }) ∧
      targetFirst.Perm dashedValues ∧ parse (words targetFirst) = parse (words dashedValues) := by
  obtain ⟨-, haccepted, hitems⟩ := parse_accepts_grammar (words dashedValues)
  obtain ⟨hgives, hperm⟩ := hitems dashedValues rfl
  have hrun := (hgives { target := "m.c", config := some "-l" }).2
    ⟨by decide, by decide, by decide, by decide⟩
  have hhelp : ¬AsksForHelp (words dashedValues) := by
    rw [← parse_eq_help_iff, hrun]
    intro h
    cases h
  have hswap : targetFirst.Perm dashedValues := List.Perm.swap _ _ _
  exact ⟨rfl, hhelp, (haccepted hhelp).2 ⟨dashedValues, rfl, by decide⟩, hrun, hswap,
    hperm targetFirst hswap fun option => by cases option <;> decide⟩

end Vigil.CommandLine
