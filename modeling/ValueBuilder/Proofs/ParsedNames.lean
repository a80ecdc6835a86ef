import ValueBuilder.Json.Parser
import ValueBuilder.Proofs.Members
import ValueBuilder.Proofs.Traversal

/-!
# Names in parsed values

A value that is read from text does not repeat the name of a member, at any depth: a member whose
name is there already replaces the one before it. The three readers of values call each other, so
what they keep is proved of all of them at once, by induction on the number of steps they may take
(`readers_hasDistinctKeys`).
-/

namespace ValueBuilder.Json

open Traversal

variable {key : Text} {v : Json} {ms : List (Text × Json)}

/-- After a member is set there is that member, and what was there before. -/
theorem mem_setMember {m : Text × Json} (h : m ∈ setMember key v ms) : m = (key, v) ∨ m ∈ ms := by
  induction ms with
  | nil => exact .inl (List.mem_singleton.1 h)
  | cons n ms ih =>
    obtain ⟨k, w⟩ := n
    unfold setMember at h
    split at h
    · rcases List.mem_cons.1 h with hm | hm
      · exact .inl hm
      · exact .inr (List.mem_cons_of_mem _ hm)
    · rcases List.mem_cons.1 h with hm | hm
      · exact .inr (hm ▸ List.mem_cons_self)
      · exact (ih hm).imp_right (List.mem_cons_of_mem _)

/-- Setting a member does not repeat a name. -/
theorem nodup_keys_setMember (h : (keys ms).Nodup) : (keys (setMember key v ms)).Nodup := by
  induction ms with
  | nil => exact List.nodup_singleton key
  | cons n ms ih =>
    obtain ⟨k, w⟩ := n
    have hn := List.nodup_cons.1 h
    unfold setMember
    split
    · next hk => exact hk ▸ h
    · next hk =>
      refine List.nodup_cons.2 ⟨fun hmem => ?_, ih hn.2⟩
      obtain ⟨m, hm, hname⟩ := List.mem_map.1 hmem
      rcases mem_setMember hm with rfl | hm
      · exact hk hname.symm
      · exact hn.1 (hname ▸ List.mem_map_of_mem hm)

/-- A member with distinct names leaves an object with distinct names. -/
theorem HasDistinctKeys.setMember (h : HasDistinctKeys (.object ms)) (hv : v.HasDistinctKeys)
    (key : Text) : HasDistinctKeys (.object (setMember key v ms)) := by
  refine .object (nodup_keys_setMember h.nodup_keys) fun m hm => ?_
  rcases mem_setMember hm with rfl | hm
  · exact hv
  · exact h.value hm

/-- A number is not made of other values. -/
theorem readNumber_isCompound {s rest : List Char} (h : readNumber s = .ok (v, rest)) :
    v.isCompound = false := by
  unfold readNumber at h
  dsimp only at h
  -- Whatever the sign and the digits are, the value is a whole number or a fraction.
  repeat' split at h
  all_goals cases h
  all_goals rfl

/-- A word is not made of other values. -/
theorem readWord?_isCompound {s rest : List Char} (h : readWord? s = some (v, rest)) :
    v.isCompound = false := by
  obtain ⟨⟨word, value⟩, hmem, hafter⟩ := List.exists_of_findSome?_eq_some h
  obtain ⟨_, -, heq⟩ := Option.map_eq_some_iff.1 hafter
  cases heq
  have hwords : ∀ w ∈ words, w.2.isCompound = false := by decide
  exact hwords _ hmem

variable {reads : List Level → Bool}

/-- A word or a number is not made of other values. -/
theorem readScalar_isCompound {levels : List Level} {s rest : List Char}
    (h : readScalar reads levels s = .ok (v, rest)) : v.isCompound = false := by
  unfold readScalar at h
  split at h
  · split at h
    · cases h
      rfl
    · cases h
  · next hword =>
    cases h
    exact readWord?_isCompound hword
  · exact readNumber_isCompound h

/-- The readers of values, items and members give values with distinct names, if what they have read
so far has distinct names. -/
theorem readers_hasDistinctKeys (fuel : Nat) :
    (∀ levels s v rest, readValue reads levels fuel s = .ok (v, rest) → v.HasDistinctKeys) ∧
    (∀ levels done s v rest, readItems reads levels fuel done s = .ok (v, rest) →
      (∀ x ∈ done, x.HasDistinctKeys) → v.HasDistinctKeys) ∧
    (∀ levels done s v rest, readMembers reads levels fuel done s = .ok (v, rest) →
      HasDistinctKeys (.object done) → v.HasDistinctKeys) := by
  induction fuel with
  | zero =>
    refine ⟨?_, ?_, ?_⟩
    · intro _ _ _ _ h
      unfold readValue at h
      cases h
    · intro _ _ _ _ _ h
      unfold readItems at h
      cases h
    · intro _ _ _ _ _ h
      unfold readMembers at h
      cases h
  | succ fuel ih =>
    obtain ⟨ihValue, ihItems, ihMembers⟩ := ih
    refine ⟨?_, ?_, ?_⟩
    · intro levels s v rest h
      unfold readValue at h
      dsimp only at h
      split at h
      · simp only [bind_eq_ok, Prod.exists, pure_eq_ok] at h
        obtain ⟨text, rest', -, h⟩ := h
        cases h
        exact .atom rfl
      · split at h
        · split at h
          · cases h
            exact .object List.nodup_nil (List.forall_mem_nil _)
          · exact ihMembers _ _ _ _ _ h (.object List.nodup_nil (List.forall_mem_nil _))
        · cases h
      · split at h
        · split at h
          · cases h
            exact .list (List.forall_mem_nil _)
          · exact ihItems _ _ _ _ _ h (List.forall_mem_nil _)
        · cases h
      · exact .atom (readScalar_isCompound h)
    · -- The items so far are in reverse, which makes no difference to their names.
      intro levels done s v rest h hdone
      unfold readItems at h
      simp only [bind_eq_ok, Prod.exists] at h
      obtain ⟨item, rest', hitem, h⟩ := h
      have hitem := ihValue _ _ _ _ hitem
      have hall : ∀ x ∈ item :: done, x.HasDistinctKeys := List.forall_mem_cons.2 ⟨hitem, hdone⟩
      split at h
      · rw [pure_eq_ok] at h
        cases h
        exact .list fun x hx => hall x (List.mem_reverse.1 hx)
      · exact ihItems _ _ _ _ _ h hall
      · cases h
    · intro levels done s v rest h hdone
      unfold readMembers at h
      dsimp only at h
      split at h
      · simp only [bind_eq_ok, Prod.exists] at h
        obtain ⟨name, rest', -, h⟩ := h
        split at h
        · simp only [bind_eq_ok, Prod.exists] at h
          obtain ⟨value, rest'', hvalue, h⟩ := h
          have hset := hdone.setMember (ihValue _ _ _ _ hvalue) name
          split at h
          · rw [pure_eq_ok] at h
            cases h
            exact hset
          · exact ihMembers _ _ _ _ _ h hset
          · cases h
        · cases h
      · cases h

/-- A value that is read from text has distinct names. -/
theorem hasDistinctKeys_of_parse {s : List Char} (h : parse s reads = .ok v) :
    v.HasDistinctKeys := by
  unfold parse at h
  split at h
  · next value hdocument =>
    cases h
    unfold readDocument at hdocument
    split at hdocument
    · cases hdocument
    · simp only [bind_eq_ok, Prod.exists] at hdocument
      obtain ⟨value, rest, hvalue, hrest⟩ := hdocument
      split at hrest
      · rw [pure_eq_ok] at hrest
        subst hrest
        exact (readers_hasDistinctKeys _).1 _ _ _ _ hvalue
      · cases hrest
  · cases h

end ValueBuilder.Json
