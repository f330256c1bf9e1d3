/-
**Steps that can fail.**

* `ok_bind`: a step that gives a result hands it on;
* `bind_eq_ok_iff`: a step followed by another one gives a result if and only if both do;
* `bind_eq_error_iff`: it fails if and only if the first one fails, or the second one does after it;
* `mapError_eq_ok_iff`: wording a failure anew changes no result;
* `forM_eq_ok_iff`: checks made for each item of a list pass if and only if each of them does;
  `exists_of_forM_eq_error`: they fail as one of them does;
* `mapM_cases`: steps made for each item of a list give all results, or fail as the first one that
  fails; `mapM_eq_ok` makes the results, `exists_of_mapM_eq_ok` reads them back;
* `EndsAlike`: two steps fail alike or give results that are related, and `EndsAlike.mapM` says the
  same of steps made for each item of a list.
-/

import Mathlib.Data.List.Forall2

namespace TagAudit

variable {ε ε' α β γ : Type}

theorem ok_bind {value : α} {next : α → Except ε β} : (Except.ok value >>= next) = next value := rfl

theorem bind_eq_ok_iff {step : Except ε α} {next : α → Except ε β} {result : β} :
    (step >>= next) = .ok result ↔ ∃ value, step = .ok value ∧ next value = .ok result := by
  cases step with
  | error cause =>
    constructor
    · intro failed
      cases failed
    · rintro ⟨value, failed, _⟩
      cases failed
  | ok value =>
    constructor
    · exact fun done => ⟨value, rfl, done⟩
    · rintro ⟨other, same, done⟩
      cases same
      exact done

theorem bind_eq_error_iff {step : Except ε α} {next : α → Except ε β} {cause : ε} :
    (step >>= next) = .error cause ↔
      step = .error cause ∨ ∃ value, step = .ok value ∧ next value = .error cause := by
  cases step with
  | error other =>
    constructor
    · exact fun failed => .inl (by cases failed; rfl)
    · rintro (failed | ⟨value, done, _⟩)
      · cases failed
        rfl
      · cases done
  | ok value =>
    constructor
    · exact fun failed => .inr ⟨value, rfl, failed⟩
    · rintro (failed | ⟨other, same, failed⟩)
      · cases failed
      · cases same
        exact failed

theorem mapError_eq_ok_iff {step : Except ε α} {reword : ε → ε'} {result : α} :
    step.mapError reword = .ok result ↔ step = .ok result := by
  cases step with
  | error cause =>
    constructor
    · intro failed
      cases failed
    · intro failed
      cases failed
  | ok value =>
    constructor
    · intro done
      cases done
      rfl
    · intro done
      cases done
      rfl

theorem mapError_eq_error_iff {step : Except ε α} {reword : ε → ε'} {cause : ε'} :
    step.mapError reword = .error cause ↔ ∃ first, step = .error first ∧ reword first = cause := by
  cases step with
  | error first => simp [Except.mapError]
  | ok value => simp [Except.mapError]

/-! ### Steps made for each item of a list -/

/-- Checks made for each item of a list pass if and only if each of them does. -/
theorem forM_eq_ok_iff {items : List α} {check : α → Except ε Unit} :
    items.forM check = .ok () ↔ ∀ item ∈ items, check item = .ok () := by
  induction items with
  | nil => exact iff_of_true rfl fun _ isItem => nomatch isItem
  | cons item rest step =>
    rw [List.forall_mem_cons, ← step]
    exact bind_eq_ok_iff.trans
      ⟨fun ⟨_, first, others⟩ => ⟨first, others⟩, fun ⟨first, others⟩ => ⟨(), first, others⟩⟩

theorem exists_of_forM_eq_error {items : List α} {check : α → Except ε Unit} {cause : ε}
    (failed : items.forM check = .error cause) : ∃ item ∈ items, check item = .error cause := by
  induction items with
  | nil => cases failed
  | cons item rest step =>
    obtain here | ⟨_, _, later⟩ := bind_eq_error_iff.mp failed
    · exact ⟨item, List.mem_cons_self, here⟩
    · obtain ⟨other, isOther, refused⟩ := step later
      exact ⟨other, List.mem_cons_of_mem _ isOther, refused⟩

theorem mapM_eq_ok {items : List α} {step : α → Except ε β} {result : α → β}
    (done : ∀ item ∈ items, step item = .ok (result item)) :
    items.mapM step = .ok (items.map result) := by
  induction items with
  | nil => rfl
  | cons item rest restDone =>
    rw [List.mapM_cons, done item (List.mem_cons_self ..),
      restDone fun other later => done other (List.mem_cons_of_mem _ later)]
    rfl

/-- **The first step that fails decides the failure**, and without one all results are given. -/
theorem mapM_cases (items : List α) (step : α → Except ε β) :
    (∃ results, items.mapM step = .ok results) ∨
      ∃ before item after cause, items = before ++ item :: after ∧
        (∀ earlier ∈ before, ∃ result, step earlier = .ok result) ∧
        step item = .error cause ∧ items.mapM step = .error cause := by
  induction items with
  | nil => exact .inl ⟨[], rfl⟩
  | cons item rest further =>
    rw [List.mapM_cons]
    cases here : step item with
    | error cause =>
      exact .inr ⟨[], item, rest, cause, rfl, List.forall_mem_nil _, here, rfl⟩
    | ok result =>
      obtain ⟨results, made⟩ | ⟨before, stopped, after, cause, rfl, earlier, refused, failed⟩ :=
        further
      · exact .inl ⟨result :: results, by rw [made]; rfl⟩
      · refine .inr ⟨item :: before, stopped, after, cause, rfl, ?_, refused, by rw [failed]; rfl⟩
        exact List.forall_mem_cons.mpr ⟨⟨result, here⟩, earlier⟩

/-- If all steps are made, each of them is. -/
theorem exists_of_mapM_eq_ok {items : List α} {step : α → Except ε β} {results : List β}
    (done : items.mapM step = .ok results) : ∀ item ∈ items, ∃ result, step item = .ok result := by
  induction items generalizing results with
  | nil => simp
  | cons item rest restDone =>
    rw [List.mapM_cons] at done
    obtain ⟨result, first, others⟩ := bind_eq_ok_iff.mp done
    obtain ⟨later, restResults, -⟩ := bind_eq_ok_iff.mp others
    intro other isOther
    rcases List.mem_cons.mp isOther with rfl | isLater
    · exact ⟨result, first⟩
    · exact restDone restResults other isLater

/-! ### Two steps that end alike -/

/-- Both steps fail for the same cause, or both give results, and these are related. -/
inductive EndsAlike (related : α → β → Prop) : Except ε α → Except ε β → Prop
  | failed (cause : ε) : EndsAlike related (.error cause) (.error cause)
  | done {result : α} {other : β} (isRelated : related result other) :
    EndsAlike related (.ok result) (.ok other)

namespace EndsAlike

variable {related : α → β → Prop}

/-- What follows on two steps that end alike ends alike if it does so on related results. -/
theorem bind {δ : Type} {relatedNext : γ → δ → Prop} {step : Except ε α} {otherStep : Except ε β}
    {next : α → Except ε γ} {otherNext : β → Except ε δ} (alike : EndsAlike related step otherStep)
    (nextAlike : ∀ result other, related result other →
      EndsAlike relatedNext (next result) (otherNext other)) :
    EndsAlike relatedNext (step >>= next) (otherStep >>= otherNext) := by
  cases alike with
  | failed cause => exact failed cause
  | done isRelated => exact nextAlike _ _ isRelated

/-- Steps made for each item of a list end alike if they do so for each item. -/
theorem mapM {items : List γ} {step : γ → Except ε α} {otherStep : γ → Except ε β}
    (alike : ∀ item ∈ items, EndsAlike related (step item) (otherStep item)) :
    EndsAlike (List.Forall₂ related) (items.mapM step) (items.mapM otherStep) := by
  induction items with
  | nil => exact done List.Forall₂.nil
  | cons item rest stepRest =>
    rw [List.mapM_cons, List.mapM_cons]
    refine (alike item (List.mem_cons_self ..)).bind fun result other isRelated => ?_
    refine (stepRest fun item later => alike item (List.mem_cons_of_mem _ later)).bind
      fun results others areRelated => ?_
    exact done (List.Forall₂.cons isRelated areRelated)

theorem eq {step otherStep : Except ε α} (alike : EndsAlike Eq step otherStep) :
    step = otherStep := by
  cases alike with
  | failed cause => rfl
  | done same => rw [same]

end EndsAlike

end TagAudit
