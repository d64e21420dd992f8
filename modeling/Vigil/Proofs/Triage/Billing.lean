import Vigil.Proofs.Triage.Spending
import Vigil.Proofs.Triage.Trail
import Vigil.Triage.Service

/-!
# Billed completions

A service for completions bills the tokens that it has used, whatever they have come to.  The bill
reaches the ledger of triage only with a response, and a completion makes a response only if its
first choice has a content; so a verdict that cannot be read is paid for, and a completion without
content is not.

* `Billed` -- a call of a service that has brought a completion and the number of tokens it used;
* `Billed.chargeAnswer` -- what such a call does to a budget;
* `billed_completion_charged` -- **the main result**: so it does in a call of triage, and what it
  leaves of the budget is all that the later calls find;
* `add_price_le_cost` -- over exact numbers, the summary includes the bill.
-/

namespace Vigil

variable {σ ν : Type} [Quantity ν]

/-- The content that a completion is taken for: that of its first choice. -/
def Completion.content? (completion : Completion) : Option String :=
  completion.choices.head?.join

/-- A service with a key has answered a call with a completion, and says how many tokens it used. -/
structure Billed (s : CompletionService ν) (network : Network σ) (c : Call σ ν)
    (completion : Completion) (prompted completed : UInt32) : Prop where
  provider : c.provider = s.provider network
  key : s.key.isSome = true
  reply : ∃ status body, (network (s.message c.request) c.world).1 = .reply status body ∧
    Delivery.isSuccess status = true ∧ Completion.ofBody? body = some completion
  usage : completion.usage = some (prompted, completed)

namespace Billed

variable {s : CompletionService ν} {network : Network σ} {c : Call σ ν} {completion : Completion}
  {prompted completed : UInt32}

/-- What a billed call has brought: a response with the bill, or a failure without one. -/
theorem answer_eq (h : Billed s network c completion prompted completed) :
    c.answer = match completion.content? with
      | some content => .ok ⟨content, Quantity.decimal 7 1, s.name, s.model,
          s.price (prompted.toNat + completed.toNat)⟩
      | none => .error (.invalidResponse "empty completion") := by
  obtain ⟨status, body, hreply, hsuccess, hbody⟩ := h.reply
  obtain ⟨key, hkey⟩ := Option.isSome_iff_exists.1 h.key
  have hread : c.answer = s.response c.request completion := by
    simp [Call.answer, h.provider, CompletionService.provider, hkey, CompletionService.read,
      hreply, hsuccess, hbody]
  rw [hread, CompletionService.response, Completion.billedTokens?, h.usage, Completion.content?]
  rcases completion.choices with _ | ⟨_ | content, choices⟩ <;> rfl

/-- **A billed call charges its bill if its completion has a content**, and nothing otherwise. -/
theorem chargeAnswer (h : Billed s network c completion prompted completed) (b : Budget ν) :
    b.chargeAnswer c.answer =
      if completion.content?.isSome then b.charge (s.price (prompted.toNat + completed.toNat))
      else b := by
  rw [h.answer_eq]
  cases completion.content? <;> rfl

end Billed

namespace TriageEngine

/-- **Billed completions are charged if they have a content.**  Wherever a billed call stands among
the calls of triage, it charges its bill, so much for each thousand of tokens, to what it finds of
the budget if the first choice of the completion has a content, whether or not a verdict can be read
from it, and nothing otherwise; the later calls find what it has left; and the cost in the summary
is what has been charged in the end. -/
theorem billed_completion_charged (e : TriageEngine σ ν) (l : List (Finding ν)) (w : σ)
    {before later : List (Call σ ν)} {c : Call σ ν}
    (hsplit : e.calls l w = before ++ c :: later) {s : CompletionService ν} {network : Network σ}
    {completion : Completion} {prompted completed : UInt32}
    (hbilled : Billed s network c completion prompted completed) :
    let found := (e.start w).after before
    let left := (e.start w).after (before ++ [c])
    left.budget = (if completion.content?.isSome then
        found.budget.charge (Quantity.ofNat (prompted.toNat + completed.toNat) /
          Quantity.ofNat 1000 * s.costPerThousandTokens)
        else found.budget) ∧
      (∀ between d rest, later = between ++ d :: rest → e.MadeAt (left.after between) d) ∧
      (e.triage l w).summary.cost = (left.after later).budget.spent := by
  intro found left
  have hledger := e.ledger_triage l w
  have hleft : left.budget = found.budget.chargeAnswer c.answer :=
    congrArg Moment.budget (Moment.after_append _ before [c])
  refine ⟨hleft.trans (hbilled.chargeAnswer _), ?_, ?_⟩
  · intro between d rest hlater
    have hsplit' : e.calls l w = (before ++ [c] ++ between) ++ d :: rest := by
      rw [hsplit, hlater, List.append_assoc, List.append_assoc, List.singleton_append]
    rw [← Moment.after_append]
    exact hledger.madeAt hsplit'
  · rw [← Moment.after_append, ← List.append_cons, ← hsplit]
    exact e.cost_eq_spent_after l w

/-! ## A service that bills -/

/-- A triage that asks one provider about one finding makes one call. -/
theorem calls_of_single {e : TriageEngine σ ν} {h : Handle σ ν} {f : Finding ν} {w : σ}
    (hai : e.config.aiEnabled = true) (hproviders : e.providers = [h]) (henabled : h.enabled = true)
    (hf : f.status = .pending)
    (hr : h.refuses (e.requestFor f) (e.start w).budget.remaining w = false) :
    e.calls [f] w = [⟨h.provider, e.requestFor f, w⟩] := by
  have hproviders' : e.recorded.providers = [h.recorded] := congrArg (List.map _) hproviders
  have henabled' : h.recorded.enabled = true := henabled
  have hr' : h.recorded.refuses (e.requestFor f)
      (Budget.full e.config.totalCostCeiling).remaining (w, []) = false := hr
  have hai' : e.recorded.config.aiEnabled = true := hai
  have hattempt : h.recorded.attempt (e.recorded.requestFor f)
      (Budget.full e.recorded.config.totalCostCeiling).remaining (w, []) = _ :=
    Handle.attempt_of_not_refuses hr'
  rw [calls, triage, triageWith, judge_cons_of_pending hf, hai']
  dsimp only [consultation, if_true, Outcome.judged, judge]
  rw [if_pos rfl, hproviders', consult_cons, if_pos henabled', hattempt]
  cases (h.recorded.provider.classify (e.recorded.requestFor f) (w, [])).1 with
  | error error => cases error <;> rfl
  | ok response =>
    dsimp only [Attempt.ofAnswer]
    split <;> rfl

/-- A service that bills one half for a thousand tokens. -/
def meteredService : CompletionService Float where
  name := "cloud"
  model := "gpt"
  base := CompletionService.standardBase
  key := some "key"
  costPerThousandTokens := 0.5
  timeoutMs := 30000

/-- A network on which every request has the same reply. -/
def replying (body : String) : Network Unit :=
  fun _ w => (.reply 200 body, w)

/-- A triage that asks the service, which always replies the same. -/
def meteredEngine (body : String) : TriageEngine Unit Float :=
  (TriageEngine.of .standard).addProviders [⟨meteredService.provider (replying body), 0, 1, true⟩]

/-- A finding to ask about. -/
def suspicion : Finding Float where
  id := "scan:leak:m.c:7-7"
  findingType := "leak"
  severity := .medium
  confidence := 0.5
  location := { file := "m.c", startLine := 7, endLine := 7 }
  description := ""
  agents := OrderedSet.singleton "scan"
  status := .pending

/-- A thousand tokens, and nothing to choose. -/
def emptyReply : String :=
  "\x7b\"id\":\"\",\"object\":\"\",\"created\":1,\"model\":\"\",\"choices\":[],\"usage\":" ++
    "\x7b\"prompt_tokens\":1000,\"completion_tokens\":0,\"total_tokens\":1000\x7d\x7d"

/-- A thousand tokens, and words that are no verdict. -/
def vagueReply : String :=
  "\x7b\"id\":\"\",\"object\":\"\",\"created\":1,\"model\":\"\",\"choices\":[\x7b\"index\":0," ++
    "\"message\":\x7b\"role\":\"assistant\",\"content\":\"perhaps\"\x7d\x7d],\"usage\":" ++
    "\x7b\"prompt_tokens\":900,\"completion_tokens\":100,\"total_tokens\":1000\x7d\x7d"

/-- Such a triage makes one call, and it is a billed one. -/
theorem exists_billed_meteredEngine (body : String) (completion : Completion)
    {prompted completed : UInt32} (hbody : Completion.ofBody? body = some completion)
    (husage : completion.usage = some (prompted, completed)) :
    ∃ c, (meteredEngine body).calls [suspicion] () = [c] ∧
      Billed meteredService (replying body) c completion prompted completed := by
  have hproviders : (meteredEngine body).providers =
      [⟨meteredService.provider (replying body), 0, 1, true⟩] := rfl
  have hr : Handle.refuses ⟨meteredService.provider (replying body), 0, 1, true⟩
      ((meteredEngine body).requestFor suspicion)
      ((meteredEngine body).start ()).budget.remaining () = false := by
    have hconfig : (meteredEngine body).config = TriageConfig.standard := rfl
    rw [Handle.refuses, Handle.limit, requestFor, start, hconfig]
    dsimp only [CompletionService.provider]
    decide +kernel
  have hcalls := calls_of_single (f := suspicion) rfl hproviders rfl rfl hr
  exact ⟨_, hcalls, rfl, rfl, ⟨200, body, rfl, rfl, hbody⟩, husage⟩

theorem billed_completion_charged_vagueReply :
    ∃ c, (meteredEngine vagueReply).calls [suspicion] () = [c] ∧
      Billed meteredService (replying vagueReply) c ⟨[some "perhaps"], some (900, 100)⟩ 900 100 ∧
      ((meteredEngine vagueReply).triage [suspicion] ()).summary.cost = 0.5 := by
  obtain ⟨c, hc, hbilled⟩ := exists_billed_meteredEngine vagueReply
    ⟨[some "perhaps"], some (900, 100)⟩ (by decide +kernel) rfl
  have hsplit : (meteredEngine vagueReply).calls [suspicion] () = [] ++ c :: [] := hc
  obtain ⟨hcharged, -, hcost⟩ :=
    billed_completion_charged (meteredEngine vagueReply) [suspicion] () hsplit hbilled
  refine ⟨c, hc, hbilled, hcost.trans ?_⟩
  rw [Moment.after_nil, hcharged]
  decide +kernel

/-- Not every billed completion is charged: one without a content is not. -/
theorem exists_billed_not_charged :
    ¬∀ (e : TriageEngine Unit Float) (l : List (Finding Float)) (w : Unit)
      (before later : List (Call Unit Float)) (c : Call Unit Float) (s : CompletionService Float)
      (network : Network Unit) (completion : Completion) (prompted completed : UInt32),
      e.calls l w = before ++ c :: later →
      Billed s network c completion prompted completed →
      s.costPerThousandTokens.isFinite = true → 0.0 < s.costPerThousandTokens →
      ((e.start w).after (before ++ [c])).budget =
        ((e.start w).after before).budget.charge
          (Quantity.ofNat (prompted.toNat + completed.toNat) / Quantity.ofNat 1000 *
            s.costPerThousandTokens) := by
  intro hall
  obtain ⟨c, hc, hbilled⟩ := exists_billed_meteredEngine emptyReply ⟨[], some (1000, 0)⟩
    (by decide +kernel) rfl
  have hcharged := hall (meteredEngine emptyReply) [suspicion] () [] [] c meteredService
    (replying emptyReply) _ _ _ hc hbilled (by decide +kernel) (by decide +kernel)
  have hfree := hbilled.chargeAnswer ((meteredEngine emptyReply).start ()).budget
  have hspent := congrArg Budget.spent (hfree.symm.trans hcharged)
  exact absurd hspent (by decide +kernel)

/-! ## Bills as numbers -/

theorem spent_le_after (m : Moment σ ℚ) (calls : List (Call σ ℚ)) :
    m.budget.spent ≤ (m.after calls).budget.spent := by
  induction calls generalizing m with
  | nil => exact le_rfl
  | cons c rest ih =>
    refine le_trans ?_ (ih ⟨m.budget.chargeAnswer c.answer, c.worldAfter⟩)
    cases c.answer with
    | error e => exact le_rfl
    | ok r =>
      rw [Budget.chargeAnswer, spent_charge]
      exact le_add_of_nonneg_right (le_max_right _ _)

/-- **The summary includes the bill of every completion that has a content**, on top of what the
calls before it have cost. -/
theorem add_price_le_cost (e : TriageEngine σ ℚ) (l : List (Finding ℚ)) (w : σ)
    {before later : List (Call σ ℚ)} {c : Call σ ℚ}
    (hsplit : e.calls l w = before ++ c :: later) {s : CompletionService ℚ} {network : Network σ}
    {completion : Completion} {prompted completed : UInt32}
    (hbilled : Billed s network c completion prompted completed)
    (hcontent : completion.content?.isSome = true) :
    ((e.start w).after before).budget.spent + s.price (prompted.toNat + completed.toNat) ≤
      (e.triage l w).summary.cost := by
  have hcharged := hbilled.chargeAnswer ((e.start w).after before).budget
  rw [if_pos hcontent] at hcharged
  rw [e.cost_eq_spent_after, hsplit, List.append_cons, Moment.after_append]
  calc ((e.start w).after before).budget.spent + s.price (prompted.toNat + completed.toNat)
      ≤ (((e.start w).after before).budget.chargeAnswer c.answer).spent := by
        rw [hcharged, spent_charge]
        exact add_le_add_right (le_max_left _ _) _
    _ = ((e.start w).after (before ++ [c])).budget.spent :=
        (congrArg (·.budget.spent) (Moment.after_append _ before [c])).symm
    _ ≤ (((e.start w).after (before ++ [c])).after later).budget.spent := spent_le_after _ _

end TriageEngine

end Vigil
