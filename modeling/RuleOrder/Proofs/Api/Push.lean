import Mathlib
import RuleOrder.Api.Memory
import RuleOrder.Proofs.Order.Positions

set_option autoImplicit false

namespace RuleOrder.MemoryApi

theorem fetch_congr {api api' : MemoryApi} (caller : api'.caller = api.caller)
    (records : api'.records = api.records) : api'.fetch = api.fetch := by
  have sameView : api'.visibleToCaller = api.visibleToCaller := by
    funext r
    simp only [visibleToCaller, caller]
  rw [fetch, fetch, sameView, records]

variable (api : MemoryApi) (u : Update)

theorem fetch_applyUpdate : { api with records := applyUpdate api.records u }.fetch = applyUpdate api.fetch u :=
  filter_applyUpdate api.records u api.visibleToCaller fun _ _ => rfl

@[simp] theorem push_caller : (api.push u).1.caller = api.caller := by
  unfold push
  split
  · split <;> rfl
  · split
    · rfl
    · split <;> rfl

theorem push_records : (api.push u).1.records = api.records ∨ (api.push u).1.records = applyUpdate api.records u := by
  unfold push
  split
  · split <;> exact .inl rfl
  · split
    · exact .inl rfl
    · split
      · exact .inl rfl
      · exact .inr rfl

theorem fetch_push : (api.push u).1.fetch = api.fetch ∨ (api.push u).1.fetch = applyUpdate api.fetch u := by
  rcases push_records api u with same | applied
  · exact .inl (fetch_congr (push_caller api u) same)
  · right
    rw [← fetch_applyUpdate]
    exact fetch_congr (push_caller api u) applied

theorem push_applied_of_success {env : Envelope Unit} (answered : (api.push u).2.1 = .ok env)
    (success : env.code = Envelope.successCode)
    (genuine : ∀ msg, api.faults.head? ≠ some (.reject Envelope.successCode msg)) :
    (api.push u).1.records = applyUpdate api.records u := by
  unfold push at answered ⊢
  cases queued : api.faults with
  | cons f rest =>
      rw [queued] at answered
      cases f with
      | reject code msg =>
          -- the envelope carries the queued code, so that code is the success code
          simp only [Except.ok.injEq] at answered
          subst answered
          rw [queued] at genuine
          exact absurd (congrArg (fun c => some (PushFault.reject c msg)) success) (genuine msg)
      | transport msg => cases answered
  | nil =>
      rw [queued] at answered
      simp only
      -- both refusals answer with the error code, which is not the success code
      have refused : env.code = errorCode → False := fun refusal => by
        rw [success] at refusal
        cases refusal
      by_cases empty : u.isEmpty = true
      · simp only [empty, if_true, Except.ok.injEq] at answered
        subst answered
        exact absurd rfl refused
      · by_cases foreign : (!api.caller.isAdmin && !api.ownsAll u) = true
        · simp only [empty, foreign, if_true, if_false, Bool.false_eq_true, Except.ok.injEq] at answered
          subst answered
          exact absurd rfl refused
        · simp [empty, foreign]

end RuleOrder.MemoryApi
