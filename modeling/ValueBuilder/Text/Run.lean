/-!
# Runs of code points

A property of characters is kept as the code points that have it, in ascending runs: from a first
code point to a last one in steps of one or two. `find?` searches records that carry a run and stops
at the first run that ends at or after the code point, and `exists_of_covers` shows that nothing
outside the runs is found.
-/

namespace ValueBuilder.Text

/-- The code points `first`, `first + step`, … up to `last`. -/
structure Run where
  /-- The least code point of the run. -/
  first : Nat
  /-- The greatest code point of the run. -/
  last : Nat
  /-- The distance between neighbours. -/
  step : Nat
  deriving DecidableEq, Repr

namespace Run

/-- A code point lies on the run. -/
def Holds (r : Run) (n : Nat) : Prop :=
  r.first ≤ n ∧ n ≤ r.last ∧ (n - r.first) % r.step = 0

/-- Finds the record whose run a code point lies on. The runs are in ascending order, so the first
one that ends at or after the code point decides. -/
def find? {α : Type} (run : α → Run) : List α → Nat → Option α
  | [], _ => none
  | a :: as, n =>
    if n ≤ (run a).last then
      if (run a).first ≤ n ∧ (n - (run a).first) % (run a).step = 0 then some a else none
    else find? run as n

/-- A Boolean test that a code point lies on one of the runs. -/
def covers (rs : List Run) (n : Nat) : Bool := (find? id rs n).isSome

/-- A record that is found is one of the list, and the code point lies on its run. -/
theorem holds_of_find? {α : Type} {run : α → Run} {as : List α} {n : Nat} {a : α}
    (h : find? run as n = some a) : a ∈ as ∧ (run a).Holds n := by
  induction as with
  | nil => simp [find?] at h
  | cons b bs ih =>
    rw [find?] at h
    split at h
    · next hle =>
      split at h
      · next hb =>
        obtain rfl := Option.some.inj h
        exact ⟨List.mem_cons_self, hb.1, hle, hb.2⟩
      · simp at h
    · exact ⟨List.mem_cons_of_mem _ (ih h).1, (ih h).2⟩

/-- A covered code point lies on one of the runs. -/
theorem exists_of_covers {rs : List Run} {n : Nat} (h : covers rs n = true) :
    ∃ r ∈ rs, r.Holds n := by
  obtain ⟨r, hr⟩ := Option.isSome_iff_exists.1 h
  exact ⟨r, holds_of_find? hr⟩

end Run

end ValueBuilder.Text
