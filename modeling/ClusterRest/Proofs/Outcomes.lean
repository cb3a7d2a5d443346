import Mathlib.Data.List.Forall2

/-!
Outcomes of steps that may fail: what the outcome of two steps in a row tells of each, and what that
of one step for each item of a list tells of the items.
-/

namespace ClusterRest

section

variable {ε ε' α β : Type}

theorem bind_eq_ok {result : Except ε α} {next : α → Except ε β} {value : β} :
    (result >>= next) = .ok value ↔ ∃ found, result = .ok found ∧ next found = .ok value := by
  cases result <;> simp [bind, Except.bind]

theorem bind_eq_error {result : Except ε α} {next : α → Except ε β} {error : ε} :
    (result >>= next) = .error error ↔
      result = .error error ∨ ∃ found, result = .ok found ∧ next found = .error error := by
  cases result <;> simp [bind, Except.bind]

theorem mapError_ok (change : ε → ε') (value : α) :
    (Except.ok value : Except ε α).mapError change = .ok value := rfl

theorem mapError_error (change : ε → ε') (error : ε) :
    (Except.error error : Except ε α).mapError change = .error (change error) := rfl

end

/-! ### One step for each item -/

/-- Whether a step succeeds, without what it gives. -/
def verdict {ε α : Type} (result : Except ε α) : Except ε Unit := result.map fun _ => ()

section

variable {ε α β : Type} {error : ε}

theorem verdict_eq_ok {result : Except ε α} :
    verdict result = .ok () ↔ ∃ value, result = .ok value := by
  cases result <;> simp [verdict, Except.map]

theorem verdict_eq_error {result : Except ε α} :
    verdict result = .error error ↔ result = .error error := by
  cases result <;> simp [verdict, Except.map]

theorem verdict_mapM (step : α → Except ε β) (items : List α) :
    verdict (items.mapM step) = forM items fun item => verdict (step item) := by
  induction items with
  | nil => rfl
  | cons item items ih =>
      rw [List.mapM_cons, List.forM_cons, ← ih]
      cases step item with
      | error error => rfl
      | ok value => cases items.mapM step <;> rfl

theorem forM_eq_ok {check : α → Except ε Unit} {items : List α} :
    forM items check = .ok () ↔ ∀ item ∈ items, check item = .ok () := by
  induction items with
  | nil => exact ⟨fun _ => nofun, fun _ => rfl⟩
  | cons item items ih =>
      rw [List.forM_cons, bind_eq_ok, List.forall_mem_cons, ih]
      exact ⟨fun ⟨_, first, rest⟩ => ⟨first, rest⟩, fun ⟨first, rest⟩ => ⟨(), first, rest⟩⟩

/-- The first item that fails decides the error, and no other is looked at. -/
theorem forM_eq_error {check : α → Except ε Unit} {items : List α} :
    forM items check = .error error ↔
      ∃ front item rest, items = front ++ item :: rest ∧
        (∀ earlier ∈ front, check earlier = .ok ()) ∧ check item = .error error := by
  constructor
  · intro failed
    induction items with
    | nil => cases failed
    | cons first items ih =>
        rw [List.forM_cons, bind_eq_error] at failed
        rcases failed with fails | ⟨_, passes, failed⟩
        · exact ⟨[], first, items, rfl, nofun, fails⟩
        · obtain ⟨front, item, rest, rfl, passed, fails⟩ := ih failed
          exact ⟨first :: front, item, rest, rfl, List.forall_mem_cons.mpr ⟨passes, passed⟩, fails⟩
  · rintro ⟨front, item, rest, rfl, passed, fails⟩
    rw [List.forM_append, forM_eq_ok.mpr passed, List.forM_cons, fails]
    rfl

variable {step : α → Except ε β} {items : List α}

/-- A list is mapped to the values that its items are mapped to, in order. -/
theorem mapM_eq_ok {values : List β} :
    items.mapM step = .ok values ↔
      List.Forall₂ (fun item value => step item = .ok value) items values := by
  induction items generalizing values with
  | nil =>
      rw [List.mapM_nil, List.forall₂_nil_left_iff]
      exact ⟨fun given => (Except.ok.inj given).symm, fun empty => congrArg _ empty.symm⟩
  | cons item items ih =>
      rw [List.mapM_cons, bind_eq_ok, List.forall₂_cons_left_iff]
      simp only [bind_eq_ok, ih]
      constructor
      · rintro ⟨value, first, rest, others, given⟩
        cases given
        exact ⟨value, rest, first, others, rfl⟩
      · rintro ⟨value, rest, first, others, rfl⟩
        exact ⟨value, first, rest, others, rfl⟩

theorem exists_mapM_eq_ok :
    (∃ values, items.mapM step = .ok values) ↔ ∀ item ∈ items, ∃ value, step item = .ok value := by
  rw [← verdict_eq_ok, verdict_mapM, forM_eq_ok]
  simp only [verdict_eq_ok]

theorem mapM_eq_error :
    items.mapM step = .error error ↔
      ∃ front item rest, items = front ++ item :: rest ∧
        (∀ earlier ∈ front, ∃ value, step earlier = .ok value) ∧ step item = .error error := by
  rw [← verdict_eq_error, verdict_mapM, forM_eq_error]
  simp only [verdict_eq_ok, verdict_eq_error]

end

end ClusterRest
