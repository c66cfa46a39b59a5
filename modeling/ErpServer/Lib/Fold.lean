import Mathlib.Data.List.Basic
import Mathlib.Data.List.Forall2

/-!
# Loops that may fail

Rules for a loop written as `List.foldlM` over `Except`: what holds after a run
that did not fail, when a run does not fail, and how two runs whose steps agree
up to an image of the error agree as a whole.
-/

namespace Lib.Fold

universe u v w

variable {ι : Type v} {α β γ : Type u} {ε ζ : Type w}

/-! ## One step after another -/

variable {first : Except ε α} {next : α → Except ε β} {items : List ι} {motive : List ι → β → Prop}
variable {start : β} {step : β → ι → Except ε β}

variable {finish result : β} {problem : ε}

theorem bind_eq_ok (run : (first >>= next) = .ok result) :
    ∃ value, first = .ok value ∧ next value = .ok result := by
  cases first with
  | error problem => cases run
  | ok value => exact ⟨value, rfl, run⟩

theorem bind_ok_iff :
    (first >>= next) = .ok result ↔ ∃ value, first = .ok value ∧ next value = .ok result := by
  constructor
  · exact bind_eq_ok
  · rintro ⟨value, rfl, run⟩
    exact run

theorem bind_eq_error (run : (first >>= next) = .error problem) :
    first = .error problem ∨ ∃ value, first = .ok value ∧ next value = .error problem := by
  cases first with
  | error raised =>
      obtain rfl : raised = problem := Except.error.inj (run : (.error raised : Except ε β) = _)
      exact Or.inl rfl
  | ok value => exact Or.inr ⟨value, rfl, run⟩

private theorem invariant_from
    (advance : ∀ done item before after, item ∈ items → motive done before →
      step before item = .ok after → motive (done ++ [item]) after) (done : List ι)
    (base : motive done start) (run : items.foldlM step start = .ok finish) :
    motive (done ++ items) finish := by
  induction items generalizing done start with
  | nil =>
      obtain rfl : start = finish := Except.ok.inj run
      simpa using base
  | cons item rest ih =>
      rw [List.foldlM_cons] at run
      obtain ⟨middle, here, later⟩ := bind_eq_ok run
      have held := advance done item start middle List.mem_cons_self base here
      have further := ih (fun done item before after member =>
        advance done item before after (List.mem_cons_of_mem _ member)) (done ++ [item]) held later
      simpa using further

/-- What holds at the start and is kept by every step holds after the run; the
invariant may speak of the items already done. -/
theorem foldlM_invariant (run : items.foldlM step start = .ok finish) (base : motive [] start)
    (advance : ∀ done item before after, item ∈ items → motive done before →
      step before item = .ok after → motive (done ++ [item]) after) : motive items finish := by
  simpa using invariant_from advance [] base run

/-- A run does not fail when no step fails under an invariant of the items still to
do. -/
theorem foldlM_succeeds (step : β → ι → Except ε β)
    (advance : ∀ item rest before, motive (item :: rest) before →
      ∃ after, step before item = .ok after ∧ motive rest after) (items : List ι) (start : β)
    (base : motive items start) :
    ∃ finish, items.foldlM step start = .ok finish ∧ motive [] finish := by
  induction items generalizing start with
  | nil => exact ⟨start, rfl, base⟩
  | cons item rest ih =>
      obtain ⟨middle, here, held⟩ := advance item rest start base
      obtain ⟨finish, later, kept⟩ := ih middle held
      refine ⟨finish, ?_, kept⟩
      rw [List.foldlM_cons, here]
      exact later

/-- A failed run failed at some step. -/
theorem foldlM_error (run : items.foldlM step start = .error problem) :
    ∃ before, ∃ item ∈ items, step before item = .error problem := by
  induction items generalizing start with
  | nil => cases run
  | cons item rest ih =>
      rw [List.foldlM_cons] at run
      rcases bind_eq_error run with here | ⟨middle, -, later⟩
      · exact ⟨start, item, List.mem_cons_self, here⟩
      · obtain ⟨before, other, member, raised⟩ := ih later
        exact ⟨before, other, List.mem_cons_of_mem _ member, raised⟩

/-! ## One result for each item -/

theorem mapM_ok {step : ι → Except ε β} {results : List β} : items.mapM step = .ok results ↔
      List.Forall₂ (fun item result => step item = .ok result) items results := by
  induction items generalizing results with
  | nil =>
      constructor
      · intro run
        cases run
        exact .nil
      · intro pairs
        cases pairs
        rfl
  | cons item rest ih =>
      rw [List.mapM_cons]
      constructor
      · intro run
        obtain ⟨first, here, run⟩ := bind_eq_ok run
        obtain ⟨others, later, run⟩ := bind_eq_ok run
        cases run
        exact .cons here (ih.mp later)
      · intro pairs
        cases pairs with
        | cons here later =>
            rw [here, ih.mpr later]
            rfl

/-- A result for every item when no item is refused. -/
theorem mapM_succeeds {step : ι → Except ε β}
    (each : ∀ item ∈ items, ∃ result, step item = .ok result) :
    ∃ results, items.mapM step = .ok results := by
  induction items with
  | nil => exact ⟨[], rfl⟩
  | cons item rest ih =>
      rw [List.forall_mem_cons] at each
      cases each.1 with
      | intro first here =>
          cases ih each.2 with
          | intro others later =>
              refine ⟨first :: others, ?_⟩
              rw [List.mapM_cons, here, later]
              rfl

theorem forall₂_left {σ τ : Type*} {relate : σ → τ → Prop} {lefts : List σ} {rights : List τ}
    (pairs : List.Forall₂ relate lefts rights) {left : σ} (member : left ∈ lefts) :
    ∃ right ∈ rights, relate left right := by
  induction pairs with
  | nil => cases member
  | cons here later ih =>
      rcases List.mem_cons.mp member with rfl | member
      · exact ⟨_, List.mem_cons_self, here⟩
      · cases ih member with
        | intro right found => exact ⟨right, List.mem_cons_of_mem _ found.1, found.2⟩

theorem forall₂_right {σ τ : Type*} {relate : σ → τ → Prop} {lefts : List σ} {rights : List τ}
    (pairs : List.Forall₂ relate lefts rights) {right : τ} (member : right ∈ rights) :
    ∃ left ∈ lefts, relate left right :=
  forall₂_left pairs.flip member

/-! ## Two runs side by side -/

/-- The second run is the first seen through `relate`, up to an image of the error. -/
def Simulates (image : ε → ζ) (relate : α → β) (first : Except ε α) (second : Except ε β) :
    Prop :=
  second.mapError image = relate <$> first.mapError image

section Simulation

variable {δ : Type u} {image : ε → ζ}

variable {relate : α → β}

theorem simulates_ok {value : α} {other : β} (equal : other = relate value) :
    Simulates image relate (.ok value) (.ok other) :=
  congrArg Except.ok equal

theorem simulates_error {problem other : ε} (same : image other = image problem) :
    Simulates image relate (.error problem) (.error other) :=
  congrArg Except.error same

theorem Simulates.bind {second : Except ε β} (start : Simulates image relate first second)
    {next : γ → δ} {firstNext : α → Except ε γ} {secondNext : β → Except ε δ}
    (later : ∀ value, Simulates image next (firstNext value) (secondNext (relate value))) :
    Simulates image next (first >>= firstNext) (second >>= secondNext) := by
  cases first with
  | error problem =>
      cases second with
      | error other => exact congrArg Except.error (Except.error.inj start)
      | ok value => cases start
  | ok value =>
      cases second with
      | error other => cases start
      | ok other =>
          obtain rfl : other = relate value := Except.ok.inj start
          exact later value

/-- Two loops over the same items simulate each other when their steps do. -/
theorem simulates_foldlM (relate : α → β) {step : α → ι → Except ε α} {step' : β → ι → Except ε β}
    (agree : ∀ before, ∀ item ∈ items,
      Simulates image relate (step before item) (step' (relate before) item)) (start : α) :
    Simulates image relate (items.foldlM step start) (items.foldlM step' (relate start)) := by
  induction items generalizing start with
  | nil => rfl
  | cons item rest ih =>
      rw [List.foldlM_cons, List.foldlM_cons]
      exact (agree start item List.mem_cons_self).bind fun middle =>
        ih (fun before other member => agree before other (List.mem_cons_of_mem _ member)) middle

end Simulation

/-- Where every refusal is the same, a list is refused as a whole or not at all. -/
theorem mapM_ite {accepts : ι → Prop} [DecidablePred accepts] (make : ι → β) (problem : ε)
    (items : List ι) :
    items.mapM (fun item => if accepts item then Except.ok (make item) else .error problem) =
      if ∀ item ∈ items, accepts item then .ok (items.map make) else .error problem := by
  induction items with
  | nil => rfl
  | cons item rest ih =>
      rw [List.mapM_cons, ih]
      by_cases here : accepts item
      · by_cases later : ∀ other ∈ rest, accepts other
        · rw [if_pos here, if_pos later, if_pos (List.forall_mem_cons.mpr ⟨here, later⟩)]
          rfl
        · rw [if_pos here, if_neg later,
            if_neg fun every => later (List.forall_mem_cons.mp every).2]
          rfl
      · rw [if_neg here, if_neg fun every => here (List.forall_mem_cons.mp every).1]
        rfl

end Lib.Fold
