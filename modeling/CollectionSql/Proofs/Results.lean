import Mathlib.Data.List.Forall2
import CollectionSql.Error

/-!
# Results that succeed and results that fail

What is known of an operation that succeeds: its first step succeeded, and so did the rest on what
that step returned. The lemmas read a chain, a traversal and a list of checks in this way. What is
known of an operation that fails: the error is one of those that its steps may fail with.

Results:
* `Result.bind_eq_ok`: a chain of two steps.
* `Result.bind_eq_map_bind`: two chains whose results correspond step by step.
* `Result.mapM_eq_ok`: a traversal succeeds with the list of what each item gives.
* `Result.mapM_succeeds_iff`: a traversal succeeds if each item does.
* `Result.map_of_mapM_eq_ok`: what the results of a traversal have in common with its items.
* `Result.forM_eq_ok`: a list of checks succeeds if each of them does.
* `Result.FailsWith.bind`, `Result.failsWith_mapM`, `Result.failsWith_forM`: the errors of chains,
  traversals and lists of checks are errors of their steps.
* `mapM_eq_some_map`: a traversal that finds something for each item.
-/

namespace CollectionSql.Result

variable {α β : Type}

theorem bind_eq_ok {x : Result α} {f : α → Result β} {b : β} :
    (x >>= f) = .ok b ↔ ∃ a, x = .ok a ∧ f a = .ok b := by
  cases x <;> simp [bind, Except.bind]

theorem pure_eq_ok {a b : α} : (pure a : Result α) = .ok b ↔ a = b := by
  simp [pure, Except.pure]

theorem throw_eq_ok {e : Error} {a : α} : (throw e : Result α) = .ok a ↔ False := by
  simp [throw, throwThe, MonadExceptOf.throw]

theorem map_eq_ok {x : Result α} {f : α → β} {b : β} :
    x.map f = .ok b ↔ ∃ a, x = .ok a ∧ f a = b := by
  cases x <;> simp [Except.map]

theorem map_bind {γ : Type} (f : α → β) (x : Result α) (k : β → Result γ) :
    (x.map f >>= k) = (x >>= fun a => k (f a)) := by
  cases x <;> rfl

/-- Two chains agree up to a change of their results, if their first steps do and the rests do on
results that correspond. -/
theorem bind_eq_map_bind {γ δ : Type} {x : Result α} {y : Result β} {f : α → β} {k : α → Result γ}
    {l : β → Result δ} {g : γ → δ} (h : y = x.map f) (hk : ∀ a, l (f a) = (k a).map g) :
    (y >>= l) = (x >>= k).map g := by
  subst h
  cases x with
  | error e => rfl
  | ok a => exact hk a

/-- A traversal succeeds with the list of what each item gives. -/
theorem mapM_eq_ok {f : α → Result β} {xs : List α} {ys : List β} :
    xs.mapM f = .ok ys ↔ List.Forall₂ (fun x y => f x = .ok y) xs ys := by
  induction xs generalizing ys with
  | nil =>
    rw [List.mapM_nil, pure_eq_ok, List.forall₂_nil_left_iff]
    exact eq_comm
  | cons x xs ih =>
    simp only [List.mapM_cons, bind_eq_ok, pure_eq_ok, ih]
    constructor
    · rintro ⟨y, hy, ys', hys, rfl⟩
      exact .cons hy hys
    · rintro (_ | ⟨hy, hys⟩)
      exact ⟨_, hy, _, hys, rfl⟩

/-- A traversal succeeds if each item does. -/
theorem mapM_succeeds_iff {f : α → Result β} {xs : List α} :
    (∃ ys, xs.mapM f = .ok ys) ↔ ∀ x ∈ xs, ∃ y, f x = .ok y := by
  simp only [mapM_eq_ok]
  induction xs with
  | nil => simp
  | cons x xs ih =>
    simp only [List.forall₂_cons_left_iff, List.forall_mem_cons, ← ih]
    constructor
    · rintro ⟨_, y, ys, hy, hys, rfl⟩
      exact ⟨⟨y, hy⟩, ys, hys⟩
    · rintro ⟨⟨y, hy⟩, ys, hys⟩
      exact ⟨_, y, ys, hy, hys, rfl⟩

theorem exists_of_mem_mapM {f : α → Result β} {xs : List α} {ys : List β}
    (h : xs.mapM f = .ok ys) {y : β} (hy : y ∈ ys) : ∃ x ∈ xs, f x = .ok y := by
  have hall := mapM_eq_ok.mp h
  clear h
  induction hall with
  | nil => cases hy
  | cons hxy _ ih =>
    rcases List.mem_cons.mp hy with rfl | hy
    · exact ⟨_, List.mem_cons_self, hxy⟩
    · obtain ⟨x, hx, hxy⟩ := ih hy
      exact ⟨x, List.mem_cons_of_mem _ hx, hxy⟩

theorem exists_of_mapM_of_mem {f : α → Result β} {xs : List α} {ys : List β}
    (h : xs.mapM f = .ok ys) {x : α} (hx : x ∈ xs) : ∃ y ∈ ys, f x = .ok y := by
  have hall := mapM_eq_ok.mp h
  clear h
  induction hall with
  | nil => cases hx
  | cons hxy _ ih =>
    rcases List.mem_cons.mp hx with rfl | hx
    · exact ⟨_, List.mem_cons_self, hxy⟩
    · obtain ⟨y, hy, hxy⟩ := ih hx
      exact ⟨y, List.mem_cons_of_mem _ hy, hxy⟩

/-- What can be read off each single result can be read off the list of results. -/
theorem map_of_mapM_eq_ok {γ : Type} {f : α → Result β} {g : β → γ} {k : α → γ}
    (hg : ∀ x y, f x = .ok y → g y = k x) {xs : List α} {ys : List β}
    (h : xs.mapM f = .ok ys) : ys.map g = xs.map k := by
  have hall := mapM_eq_ok.mp h
  clear h
  induction hall with
  | nil => rfl
  | cons hxy _ ih => rw [List.map_cons, List.map_cons, hg _ _ hxy, ih]

/-- Functions that agree on the items have the same traversal. -/
theorem mapM_congr {f g : α → Result β} {xs : List α} (h : ∀ x ∈ xs, f x = g x) :
    xs.mapM f = xs.mapM g := by
  induction xs with
  | nil => rfl
  | cons x xs ih =>
    obtain ⟨hx, hxs⟩ := List.forall_mem_cons.mp h
    rw [List.mapM_cons, List.mapM_cons, hx, ih hxs]

/-- A list of checks succeeds if each of them does. -/
theorem forM_eq_ok {f : α → Result Unit} {xs : List α} :
    xs.forM f = .ok () ↔ ∀ x ∈ xs, f x = .ok () := by
  induction xs with
  | nil => simp [List.forM, pure_eq_ok]
  | cons x xs ih =>
    rw [List.forall_mem_cons, ← ih]
    show (f x >>= fun _ => xs.forM f) = .ok () ↔ _
    rw [bind_eq_ok]
    exact ⟨fun ⟨_, hx, hxs⟩ => ⟨hx, hxs⟩, fun ⟨hx, hxs⟩ => ⟨(), hx, hxs⟩⟩

/-! ## Failures -/

/-- Every error that the operation may fail with satisfies `P`. -/
def FailsWith (P : Error → Prop) (x : Result α) : Prop := ∀ e, x = .error e → P e

variable {P : Error → Prop}

theorem failsWith_ok (a : α) : FailsWith P (.ok a) := fun _ h => nomatch h

theorem failsWith_error {e : Error} (h : P e) : FailsWith P (.error e : Result α) := by
  intro e' he
  cases he
  exact h

/-- A chain fails with an error of its first step, or of the rest on what that step returned. -/
theorem FailsWith.bind {x : Result α} {f : α → Result β} (hx : FailsWith P x)
    (hf : ∀ a, x = .ok a → FailsWith P (f a)) : FailsWith P (x >>= f) := by
  cases x with
  | error e => exact failsWith_error (hx e rfl)
  | ok a => exact hf a rfl

theorem FailsWith.map {x : Result α} {f : α → β} (hx : FailsWith P x) : FailsWith P (x.map f) := by
  cases x with
  | error e => exact failsWith_error (hx e rfl)
  | ok a => exact failsWith_ok (f a)

theorem failsWith_mapM {f : α → Result β} {xs : List α} (h : ∀ x ∈ xs, FailsWith P (f x)) :
    FailsWith P (xs.mapM f) := by
  induction xs with
  | nil => exact failsWith_ok []
  | cons x xs ih =>
    obtain ⟨hx, hxs⟩ := List.forall_mem_cons.mp h
    rw [List.mapM_cons]
    exact hx.bind fun y _ => (ih hxs).bind fun ys _ => failsWith_ok (y :: ys)

theorem failsWith_forM {f : α → Result Unit} {xs : List α} (h : ∀ x ∈ xs, FailsWith P (f x)) :
    FailsWith P (xs.forM f) := by
  induction xs with
  | nil => exact failsWith_ok ()
  | cons x xs ih =>
    obtain ⟨hx, hxs⟩ := List.forall_mem_cons.mp h
    exact hx.bind fun _ _ => ih hxs

end CollectionSql.Result

/-! ## Traversals that may find nothing -/

namespace CollectionSql

theorem mapM_eq_some_map {α β : Type} {f : α → Option β} {g : α → β} {xs : List α}
    (h : ∀ x ∈ xs, f x = some (g x)) : xs.mapM f = some (xs.map g) := by
  induction xs with
  | nil => rfl
  | cons x xs ih =>
    obtain ⟨hx, hxs⟩ := List.forall_mem_cons.mp h
    rw [List.mapM_cons, hx, ih hxs]
    rfl

end CollectionSql
