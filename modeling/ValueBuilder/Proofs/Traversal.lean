import Mathlib.Data.List.Forall2
import Mathlib.Data.List.Perm.Basic

/-!
# Steps that may fail

The file of a builder is made in a chain of steps that may fail, and most of them go over a list
with `mapM`. `bind_eq_ok` takes a chain apart at its first step. `mapM_eq_ok` says what it means for
a traversal to succeed: its results are those of the elements, one by one and in order. The other
lemmas read off from it when a traversal succeeds, what its results are members of, what a
projection of its results is, and how the results of two traversals are related.
-/

namespace ValueBuilder.Traversal

variable {ε α β γ : Type}

/-- A step that cannot fail gives its result. -/
@[simp]
theorem pure_eq_ok {a b : α} : (pure a : Except ε α) = .ok b ↔ a = b := by
  rw [show (pure a : Except ε α) = .ok a from rfl, Except.ok.injEq]

/-- What a step gives, if nothing is asked about its failures. -/
theorem toOption_eq_some {x : Except ε α} {a : α} : x.toOption = some a ↔ x = .ok a := by
  cases x with
  | error e => simp [Except.toOption]
  | ok b => simp [Except.toOption]

/-- Two steps succeed if the first one does and the second one does on its result. -/
theorem bind_eq_ok {x : Except ε α} {f : α → Except ε β} {b : β} :
    x >>= f = .ok b ↔ ∃ a, x = .ok a ∧ f a = .ok b := by
  cases x with
  | error e => simp [bind, Except.bind]
  | ok a => simp [bind, Except.bind]

/-- A traversal succeeds with the results of the elements. -/
theorem mapM_eq_ok {f : α → Except ε β} {xs : List α} {ys : List β} :
    xs.mapM f = .ok ys ↔ List.Forall₂ (fun x y => f x = .ok y) xs ys := by
  induction xs generalizing ys with
  | nil => rw [List.mapM_nil, pure_eq_ok, List.forall₂_nil_left_iff, eq_comm]
  | cons x xs ih =>
    -- A traversal of a longer list is its first step, then the traversal of the rest.
    rw [List.mapM_cons, bind_eq_ok, List.forall₂_cons_left_iff]
    simp only [bind_eq_ok, pure_eq_ok, ih]
    constructor
    · rintro ⟨y, hy, zs, hzs, rfl⟩
      exact ⟨y, zs, hy, hzs, rfl⟩
    · rintro ⟨y, zs, hy, hzs, rfl⟩
      exact ⟨y, hy, zs, hzs, rfl⟩

/-- A traversal succeeds exactly if it does on every element. -/
theorem exists_mapM_eq_ok {f : α → Except ε β} {xs : List α} :
    (∃ ys, xs.mapM f = .ok ys) ↔ ∀ x ∈ xs, ∃ y, f x = .ok y := by
  simp only [mapM_eq_ok]
  induction xs with
  | nil => simp
  | cons x xs ih =>
    rw [List.forall_mem_cons, ← ih]
    constructor
    · rintro ⟨_, h⟩
      obtain ⟨y, ys, hy, hys, -⟩ := List.forall₂_cons_left_iff.1 h
      exact ⟨⟨y, hy⟩, ys, hys⟩
    · rintro ⟨⟨y, hy⟩, ys, hys⟩
      exact ⟨y :: ys, .cons hy hys⟩

/-- The results of a traversal are the results of its elements. -/
theorem mem_iff_of_mapM_eq_ok {f : α → Except ε β} {xs : List α} {ys : List β}
    (h : xs.mapM f = .ok ys) {y : β} : y ∈ ys ↔ ∃ x ∈ xs, f x = .ok y := by
  rw [mapM_eq_ok] at h
  induction h with
  | nil => simp
  | cons hxy _ ih =>
    rw [List.mem_cons, ih, List.exists_mem_cons_iff, hxy, Except.ok.injEq, eq_comm]

/-- The result at a position is that of the element there. -/
theorem exists_getElem?_of_mapM_eq_ok {f : α → Except ε β} {xs : List α} {ys : List β}
    (h : xs.mapM f = .ok ys) {i : ℕ} {x : α} (hx : xs[i]? = some x) :
    ∃ y, ys[i]? = some y ∧ f x = .ok y := by
  rw [mapM_eq_ok] at h
  induction h generalizing i with
  | nil => cases hx
  | @cons x' y xs ys hxy _ ih =>
    cases i with
    | zero =>
      obtain rfl : x' = x := Option.some.inj hx
      exact ⟨y, rfl, hxy⟩
    | succ i => exact ih hx

/-- If a projection of related elements is the same, so is that of lists that are related one by
one. -/
theorem map_eq_map_of_forall₂ {R : α → β → Prop} {xs : List α} {ys : List β}
    (h : List.Forall₂ R xs ys) {g : β → γ} {k : α → γ} (hR : ∀ x ∈ xs, ∀ y, R x y → g y = k x) :
    ys.map g = xs.map k := by
  induction h with
  | nil => rfl
  | cons hxy _ ih =>
    obtain ⟨hhead, htail⟩ := List.forall_mem_cons.1 hR
    rw [List.map_cons, List.map_cons, hhead _ hxy, ih htail]

/-- If a projection of each result is known from the element, so is that of all results. -/
theorem map_eq_map_of_mapM_eq_ok {f : α → Except ε β} {xs : List α} {ys : List β}
    (h : xs.mapM f = .ok ys) {g : β → γ} {k : α → γ}
    (hf : ∀ x ∈ xs, ∀ y, f x = .ok y → g y = k x) : ys.map g = xs.map k :=
  map_eq_map_of_forall₂ (mapM_eq_ok.1 h) hf

/-- If two traversals of a list succeed, their results are related one by one wherever those of the
same element are. -/
theorem forall₂_of_mapM_eq_ok {f : α → Except ε β} {g : α → Except ε γ} {R : β → γ → Prop}
    {xs : List α} {ys : List β} {zs : List γ} (hf : xs.mapM f = .ok ys) (hg : xs.mapM g = .ok zs)
    (h : ∀ x ∈ xs, ∀ y z, f x = .ok y → g x = .ok z → R y z) : List.Forall₂ R ys zs := by
  rw [mapM_eq_ok] at hf hg
  induction hf generalizing zs with
  | nil =>
    obtain rfl := List.forall₂_nil_left_iff.1 hg
    exact .nil
  | cons hxy _ ih =>
    obtain ⟨hhead, htail⟩ := List.forall_mem_cons.1 h
    obtain ⟨z, zs, hxz, hzs, rfl⟩ := List.forall₂_cons_left_iff.1 hg
    exact .cons (hhead _ _ hxy hxz) (ih hzs htail)

/-- A traversal of one element has one result. -/
theorem mapM_singleton_eq_ok {f : α → Except ε β} {x : α} {ys : List β} :
    [x].mapM f = .ok ys ↔ ∃ y, f x = .ok y ∧ [y] = ys := by
  rw [List.mapM_cons, List.mapM_nil]
  simp only [bind_eq_ok, pure_eq_ok, exists_eq_left']

/-- A traversal of two lists in a row is that of the first one, then that of the second one. -/
theorem mapM_append_eq_ok {f : α → Except ε β} {xs ys : List α} {zs : List β} :
    (xs ++ ys).mapM f = .ok zs ↔
      ∃ us, xs.mapM f = .ok us ∧ ∃ vs, ys.mapM f = .ok vs ∧ us ++ vs = zs := by
  rw [List.mapM_append]
  simp only [bind_eq_ok, pure_eq_ok]

/-- A traversal of a reordered list has the reordered results. -/
theorem perm_of_mapM_eq_ok {f : α → Except ε β} {xs ys : List α} {us vs : List β}
    (h : xs.Perm ys) (hx : xs.mapM f = .ok us) (hy : ys.mapM f = .ok vs) : us.Perm vs := by
  obtain ⟨ws, hws, hperm⟩ := List.perm_comp_forall₂ h.symm (mapM_eq_ok.1 hx)
  rw [mapM_eq_ok.2 hws, Except.ok.injEq] at hy
  rw [← hy]
  exact hperm.symm

end ValueBuilder.Traversal
