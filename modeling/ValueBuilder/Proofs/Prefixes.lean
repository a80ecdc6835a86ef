import ValueBuilder.Names

/-!
# Prefixes of class names

A class name is read as a prefix of capitals in front of a word (`Names.IsPrefixed`). The scan for
the word looks at two characters at a time and stops at the last capital of a run, and what it has
found is then tested as a whole, by a rule in which characters without case count for nothing.
`Names.fromWord_spec` says where the scan stops, and `Names.fromWord_append` that there is no other
place for it to stop. The two rules for capitals agree on a single character, since no character has
two cases (`Text.not_isLowercase_of_isUppercase`), so a name that is left whole by one of them is
not cut by the other.

`Names.withoutPrefix_spec` puts this together: a prefix is removed exactly if the name has
one, there is one way at most to read a name so, and names that are formed from the name are formed
from its word.
-/

namespace ValueBuilder

/-! ## Characters have one case -/

namespace Text

/-- A Boolean test that the code points of a run are all even or all odd: there is one of them, or
they lie in steps of two. -/
def Run.keepsParity (r : Run) : Bool := r.first == r.last || r.step == 2

/-- The code points on a run that keeps its parity. -/
theorem Run.mod_two_eq {r : Run} {n : Nat} (h : r.keepsParity = true) (hr : r.Holds n) :
    n % 2 = r.first % 2 := by
  obtain ⟨hfirst, hlast, hstep⟩ := hr
  simp only [keepsParity, Bool.or_eq_true, beq_iff_eq] at h
  rcases h with hsingle | htwo
  · rw [show n = r.first by omega]
  · rw [htwo] at hstep
    omega

/-- A Boolean test that two runs have no code point in common. They lie one behind the other, or
they take turns. -/
def Run.isApart (r s : Run) : Bool :=
  Nat.blt r.last s.first || Nat.blt s.last r.first ||
    r.keepsParity && s.keepsParity && r.first % 2 != s.first % 2

/-- Runs that are apart have no code point in common. -/
theorem Run.not_holds_of_isApart {r s : Run} {n : Nat} (h : r.isApart s = true) (hr : r.Holds n) :
    ¬ s.Holds n := by
  intro hs
  simp only [isApart, Bool.or_eq_true, Bool.and_eq_true, Nat.blt_eq, bne_iff_ne] at h
  rcases h with (hbefore | hbehind) | ⟨⟨hparity, hparity'⟩, hturns⟩
  · exact absurd (Nat.le_trans hs.1 hr.2.1) (Nat.not_le.2 hbefore)
  · exact absurd (Nat.le_trans hr.1 hs.2.1) (Nat.not_le.2 hbehind)
  · exact hturns ((Run.mod_two_eq hparity hr).symm.trans (Run.mod_two_eq hparity' hs))

/-- A code point is not covered by runs that are apart from those that cover it. -/
theorem Run.covers_eq_false {rs ss : List Run} {n : Nat}
    (h : rs.all (fun r => ss.all r.isApart) = true) (hn : Run.covers rs n = true) :
    Run.covers ss n = false := by
  obtain ⟨r, hr, hholds⟩ := Run.exists_of_covers hn
  rw [← Bool.not_eq_true]
  intro hcovers
  obtain ⟨s, hs, hholds'⟩ := Run.exists_of_covers hcovers
  have hapart := List.all_eq_true.1 (List.all_eq_true.1 h r hr) s hs
  exact Run.not_holds_of_isApart hapart hholds hholds'

variable {c : CodePoint} {s : Text}

/-- A capital is no small letter. -/
theorem not_isLowercase_of_isUppercase (h : isUppercase c = true) : isLowercase c = false :=
  Run.covers_eq_false (by decide +kernel) h

/-- A capital is no letter in title case. -/
theorem not_isTitlecase_of_isUppercase (h : isUppercase c = true) : isTitlecase c = false :=
  Run.covers_eq_false (by decide +kernel) h

/-- A capital by itself is a text in capitals. -/
theorem isAllCapitals_singleton (h : isUppercase c = true) : isAllCapitals [c] = true := by
  simp [isAllCapitals, h, not_isLowercase_of_isUppercase h, not_isTitlecase_of_isUppercase h]

/-- A text with a capital is not in capitals throughout if it has a letter of another case. -/
theorem isAllCapitals_cons_eq_false_iff (h : isUppercase c = true) :
    isAllCapitals (c :: s) = false ↔
      ∃ d ∈ c :: s, isLowercase d = true ∨ isTitlecase d = true := by
  have hany : (c :: s).any isUppercase = true := List.any_eq_true.2 ⟨c, List.mem_cons_self, h⟩
  rw [isAllCapitals, hany, Bool.true_and, List.all_eq_false]
  refine exists_congr fun d => and_congr_right fun _ => ?_
  cases isLowercase d <;> cases isTitlecase d <;> decide

end Text

/-! ## The scan for the word -/

namespace Names

open Text (isUppercase isLowercase isTitlecase isAllCapitals)

variable {s front word : Text}

/-- Two capitals start a text. -/
def StartsWithTwoCapitals (s : Text) : Prop :=
  ∃ c d cs, s = c :: d :: cs ∧ isUppercase c = true ∧ isUppercase d = true

/-- A capital starts a text. -/
def StartsWithCapital (s : Text) : Prop := ∃ c cs, s = c :: cs ∧ isUppercase c = true

/-- The scan passes over capitals. If it has passed over any, it stops at a capital, and it never
stops in front of two. -/
theorem fromWord_spec (s : Text) :
    ∃ front, s = front ++ fromWord s ∧ (∀ c ∈ front, isUppercase c = true) ∧
      (front ≠ [] → StartsWithCapital (fromWord s)) ∧ ¬ StartsWithTwoCapitals (fromWord s) := by
  -- The induction is on the scan: what it has passed over grows by one capital in each step.
  fun_induction fromWord s with
  | case1 c d cs htwo ih =>
    rw [Bool.and_eq_true] at htwo
    obtain ⟨front, hsplit, hcapitals, hstart, hstop⟩ := ih
    refine ⟨c :: front, congrArg (c :: ·) hsplit, List.forall_mem_cons.2 ⟨htwo.1, hcapitals⟩,
      fun _ => ?_, hstop⟩
    cases front with
    | nil => exact ⟨d, cs, hsplit.symm, htwo.2⟩
    | cons e front => exact hstart (List.cons_ne_nil e front)
  | case2 c d cs htwo =>
    refine ⟨[], rfl, List.forall_mem_nil _, fun h => absurd rfl h, ?_⟩
    rintro ⟨c', d', cs', heq, hc, hd⟩
    cases heq
    exact htwo (by rw [hc, hd]; rfl)
  | case3 s hshort =>
    refine ⟨[], rfl, List.forall_mem_nil _, fun h => absurd rfl h, ?_⟩
    rintro ⟨c, d, cs, rfl, -, -⟩
    exact hshort c d cs rfl

/-- The scan passes over all capitals in front of a word that starts with a single one. -/
theorem fromWord_append (hfront : ∀ c ∈ front, isUppercase c = true)
    (hstart : StartsWithCapital word) (hstop : ¬ StartsWithTwoCapitals word) :
    fromWord (front ++ word) = word := by
  induction front with
  | nil =>
    obtain ⟨c, cs, rfl, hc⟩ := hstart
    cases cs with
    | nil => rfl
    | cons d cs =>
      rw [List.nil_append, fromWord, if_neg]
      rw [Bool.and_eq_true]
      exact fun htwo => hstop ⟨c, d, cs, rfl, htwo⟩
  | cons c front ih =>
    obtain ⟨hc, hfront⟩ := List.forall_mem_cons.1 hfront
    -- Behind a capital of the prefix stands another one, that of the prefix or that of the word.
    have hnext : StartsWithCapital (front ++ word) := by
      cases front with
      | nil => exact hstart
      | cons d front => exact ⟨d, front ++ word, rfl, hfront d List.mem_cons_self⟩
    obtain ⟨d, cs, hcs, hd⟩ := hnext
    have hrest := ih hfront
    rw [hcs] at hrest
    rw [List.cons_append, hcs, fromWord, hc, hd, Bool.true_and, if_pos rfl, hrest]

/-! ## Prefixes -/

/-- A name is a prefix in front of a word. -/
structure IsPrefixed (name front word : Text) : Prop where
  /-- The prefix stands in front of the word. -/
  eq_append : name = front ++ word
  /-- There is a prefix. -/
  front_ne_nil : front ≠ []
  /-- It is made of capitals. -/
  capitals : ∀ c ∈ front, isUppercase c = true
  /-- The word starts with a capital, and then with a character that is none. -/
  startsWord : ∃ c d cs, word = c :: d :: cs ∧ isUppercase c = true ∧ isUppercase d = false
  /-- The word is not in capitals throughout. -/
  mixedCase : isAllCapitals word = false

namespace IsPrefixed

variable {name : Text}

/-- The scan for the word of the word finds it at once. -/
theorem fromWord_append_word (h : IsPrefixed name front word)
    (hfront : ∀ c ∈ s, isUppercase c = true) : fromWord (s ++ word) = word := by
  obtain ⟨c, d, cs, hword, hc, hd⟩ := h.startsWord
  refine fromWord_append hfront ⟨c, d :: cs, hword, hc⟩ ?_
  rintro ⟨c', d', cs', hword', -, hd'⟩
  rw [hword] at hword'
  cases hword'
  rw [hd] at hd'
  cases hd'

/-- The prefix is removed. -/
theorem withoutPrefix_eq (h : IsPrefixed name front word) : withoutPrefix name = word := by
  rw [withoutPrefix, h.eq_append, h.fromWord_append_word h.capitals, h.mixedCase,
    if_neg Bool.false_ne_true]

/-- The word has no prefix. -/
theorem withoutPrefix_word (h : IsPrefixed name front word) : withoutPrefix word = word := by
  have hscan : fromWord word = word := h.fromWord_append_word (List.forall_mem_nil _)
  rw [withoutPrefix, hscan, ite_self]

/-- The word has a letter of another case than its first one. -/
theorem exists_isLowercase_or_isTitlecase (h : IsPrefixed name front word) :
    ∃ c ∈ word, isLowercase c = true ∨ isTitlecase c = true := by
  have hmixed := h.mixedCase
  obtain ⟨c, d, cs, rfl, hc, -⟩ := h.startsWord
  exact (Text.isAllCapitals_cons_eq_false_iff hc).1 hmixed

/-- Names that are formed from the name are formed from its word. -/
theorem stem_eq (h : IsPrefixed name front word) : stem name = stem word := by
  rw [stem, stem, h.withoutPrefix_eq, h.withoutPrefix_word]

/-- There is one way at most to read a name as a prefix in front of a word. -/
theorem unique {front' word' : Text} (h : IsPrefixed name front word)
    (h' : IsPrefixed name front' word') : front' = front ∧ word' = word := by
  have hword : word' = word := h'.withoutPrefix_eq.symm.trans h.withoutPrefix_eq
  have heq : front' ++ word = front ++ word := by rw [← h.eq_append, h'.eq_append, hword]
  exact ⟨List.append_cancel_right heq, hword⟩

end IsPrefixed

/-- A name that is not left whole is a prefix in front of what is left. -/
theorem exists_isPrefixed_of_ne (h : withoutPrefix s ≠ s) :
    ∃ front, IsPrefixed s front (withoutPrefix s) := by
  cases hmixed : isAllCapitals (fromWord s) with
  | true =>
    rw [withoutPrefix, hmixed, if_pos rfl] at h
    exact absurd rfl h
  | false =>
    have hscan : withoutPrefix s = fromWord s := by
      rw [withoutPrefix, hmixed, if_neg Bool.false_ne_true]
    obtain ⟨front, hsplit, hcapitals, hstart, hstop⟩ := fromWord_spec s
    have hfront : front ≠ [] := by
      rintro rfl
      exact h (hscan.trans hsplit.symm)
    obtain ⟨c, cs, hword, hc⟩ := hstart hfront
    rw [hscan]
    refine ⟨front, hsplit, hfront, hcapitals, ?_, hmixed⟩
    rw [hword] at hmixed hstop ⊢
    cases cs with
    | nil =>
      -- A single capital is in capitals throughout, so the name would have been left whole.
      rw [Text.isAllCapitals_singleton hc] at hmixed
      cases hmixed
    | cons d cs =>
      have hd : isUppercase d = false := by
        rw [← Bool.not_eq_true]
        exact fun hd => hstop ⟨c, d, cs, rfl, hc, hd⟩
      exact ⟨c, d, cs, rfl, hc, hd⟩

/-- A prefix is removed from a name exactly if it has one. Then what is left is the word, which has
a letter of another case, no other way to read the name has a prefix in front of a word, and all
names that are formed from the name are those that are formed from the word. A name without a prefix
is left whole. To remove prefixes twice is to remove them once, and what is left is an end of the
name, which is empty only if the name is. -/
theorem withoutPrefix_spec (s : Text) :
    ((∃ front, front ≠ [] ∧ s = front ++ withoutPrefix s) ↔ ∃ front word, IsPrefixed s front word) ∧
    (∀ front word, IsPrefixed s front word →
      withoutPrefix s = word ∧
      (∃ c ∈ word, isLowercase c = true ∨ isTitlecase c = true) ∧
      (∀ front' word', IsPrefixed s front' word' → front' = front ∧ word' = word) ∧
      stem s = stem word ∧ seedArgument s = seedArgument word ∧ seedKeyword s = seedKeyword word) ∧
    ((¬ ∃ front word, IsPrefixed s front word) → withoutPrefix s = s) ∧
    withoutPrefix (withoutPrefix s) = withoutPrefix s ∧
    withoutPrefix s <:+ s ∧ (withoutPrefix s = [] → s = []) := by
  have hwhole : (¬ ∃ front word, IsPrefixed s front word) → withoutPrefix s = s := by
    refine fun hnone => Classical.byContradiction fun hne => ?_
    obtain ⟨front, hprefixed⟩ := exists_isPrefixed_of_ne hne
    exact hnone ⟨front, _, hprefixed⟩
  refine ⟨⟨?_, ?_⟩, fun front word h => ?_, hwhole, ?_, withoutPrefix_suffix s, fun hnil => ?_⟩
  · rintro ⟨front, hne, hsplit⟩
    have hcut : withoutPrefix s ≠ s := by
      intro heq
      rw [heq] at hsplit
      exact hne (List.self_eq_append_left.1 hsplit)
    obtain ⟨front', hprefixed⟩ := exists_isPrefixed_of_ne hcut
    exact ⟨front', _, hprefixed⟩
  · rintro ⟨front, word, h⟩
    refine ⟨front, h.front_ne_nil, ?_⟩
    rw [h.withoutPrefix_eq]
    exact h.eq_append
  · have hstem := h.stem_eq
    refine ⟨h.withoutPrefix_eq, h.exists_isLowercase_or_isTitlecase, fun _ _ => h.unique, hstem,
      ?_, ?_⟩
    · rw [seedArgument, seedArgument, hstem]
    · rw [seedKeyword, seedKeyword, hstem]
  · by_cases hprefixed : ∃ front word, IsPrefixed s front word
    · obtain ⟨front, word, h⟩ := hprefixed
      rw [h.withoutPrefix_eq, h.withoutPrefix_word]
    · rw [hwhole hprefixed, hwhole hprefixed]
  · refine Classical.byContradiction fun hne => ?_
    rw [← hnil] at hne
    obtain ⟨front, -, -, -, ⟨c, d, cs, hword, -⟩, -⟩ := exists_isPrefixed_of_ne (Ne.symm hne)
    rw [hnil] at hword
    cases hword

/-- The letters in front of a person are a prefix, and they are in no keyword of its builder. -/
theorem withoutPrefix_spec_person :
    IsPrefixed "RMPerson" "RM" "Person" ∧ withoutPrefix "RMPerson" = "Person" ∧
      stem "RMPerson" = stem "Person" ∧ seedArgument "RMPerson" = seedArgument "Person" ∧
      seedKeyword "RMPerson" = seedKeyword "Person" := by
  have hprefixed : IsPrefixed "RMPerson" "RM" "Person" :=
    ⟨by decide, by decide, by decide, ⟨'P', 'e', "rson", by decide, by decide, by decide⟩,
      by decide⟩
  obtain ⟨-, hremoved, -⟩ := withoutPrefix_spec "RMPerson"
  obtain ⟨hword, -, -, hstem, hargument, hkeyword⟩ := hremoved "RM" "Person" hprefixed
  exact ⟨hprefixed, hword, hstem, hargument, hkeyword⟩

/-- The last capital of a run starts the word, if the word is more than that capital. -/
example : withoutPrefix "FBFeedStory" = "FeedStory" ∧ withoutPrefix "URL" = "URL" ∧
    withoutPrefix "URL2" = "URL2" := by
  decide

end Names

end ValueBuilder
