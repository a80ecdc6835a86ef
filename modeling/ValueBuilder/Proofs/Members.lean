import Mathlib.Data.List.Forall2
import Mathlib.Data.List.Nodup
import Mathlib.Data.List.Perm.Basic
import ValueBuilder.Json.Basic

/-!
# Members of objects

What becomes of the members of an object when values are replaced, members of other names are taken
out, and absent members are filled in, told by what is found under each name.

`MembersAgree` relates the members of two objects one by one and up to order. If no name is repeated
then the order says nothing (`member?_eq_of_perm`): members that agree up to order agree under each
name, and they agree in order once the names are in the same one (`membersAgree_iff_forall₂`).
-/

namespace ValueBuilder.Json

variable {key : Text} {v : Json} {ms ns : List (Text × Json)}

/-- The names of members. -/
def keys (ms : List (Text × Json)) : List Text := ms.map Prod.fst

/-! ## Finding members -/

/-- A member that is found is there. -/
theorem mem_of_member?_eq_some (h : member? key ms = some v) : (key, v) ∈ ms := by
  unfold member? at h
  induction ms with
  | nil => cases h
  | cons m ms ih =>
    obtain ⟨k, w⟩ := m
    rw [List.lookup_cons] at h
    split at h
    · next hk =>
      cases h
      rw [eq_of_beq hk]
      exact List.mem_cons_self
    · exact List.mem_cons_of_mem _ (ih h)

/-- Nothing is found under a name that no member has. -/
theorem member?_eq_none_iff : member? key ms = none ↔ key ∉ keys ms := by
  unfold member? keys
  rw [List.lookup_eq_none_iff, List.mem_map, not_exists]
  refine forall_congr' fun m => ?_
  rw [bne_iff_ne, ne_eq, not_and, eq_comm]

/-- If no name is repeated, then what is found under a name is what stands there. -/
theorem member?_eq_some_iff (hms : (keys ms).Nodup) : member? key ms = some v ↔ (key, v) ∈ ms := by
  refine ⟨mem_of_member?_eq_some, fun hmem => ?_⟩
  unfold keys member? at *
  induction ms with
  | nil => cases hmem
  | cons m ms ih =>
    obtain ⟨k, w⟩ := m
    rw [List.map_cons, List.nodup_cons] at hms
    rw [List.lookup_cons]
    rcases List.mem_cons.1 hmem with heq | htail
    · cases heq
      simp
    · have hk : key ≠ k := fun hk => hms.1 (List.mem_map.2 ⟨_, htail, hk⟩)
      rw [beq_eq_false_iff_ne.2 hk]
      exact ih hms.2 htail

/-- If no name is repeated, then the order of members makes no difference. -/
theorem member?_eq_of_perm (hms : (keys ms).Nodup) (h : ms.Perm ns) (key : Text) :
    member? key ms = member? key ns := by
  have hns : (keys ns).Nodup := (h.map Prod.fst).nodup hms
  refine Option.ext fun v => ?_
  rw [member?_eq_some_iff hms, member?_eq_some_iff hns, h.mem_iff]

/-- If no name is repeated, then members are up to order those of a list if all of those are among
them, and no name is left over. -/
theorem perm_of_forall_mem (hms : (keys ms).Nodup) (hns : (keys ns).Nodup)
    (hmem : ∀ m ∈ ns, m ∈ ms) (hkeys : ∀ key ∈ keys ms, key ∈ keys ns) : ms.Perm ns := by
  rw [List.perm_ext_iff_of_nodup (List.Nodup.of_map Prod.fst hms) (List.Nodup.of_map Prod.fst hns)]
  refine fun m => ⟨fun hm => ?_, hmem m⟩
  obtain ⟨n, hn, hname⟩ := List.mem_map.1 (hkeys m.1 (List.mem_map_of_mem hm))
  -- A name stands for one value, so the two members are the same.
  have hm' : member? m.1 ms = some m.2 := (member?_eq_some_iff hms).2 hm
  have hn' : member? m.1 ms = some n.2 := (member?_eq_some_iff hms).2 (hname ▸ hmem n hn)
  rw [hm', Option.some.injEq] at hn'
  rwa [Prod.ext hname.symm hn']

/-- Members that are in the same order by their names are the same if they are up to order. -/
theorem eq_of_perm (hms : (keys ms).Nodup) (h : ms.Perm ns) (hkeys : keys ms = keys ns) :
    ms = ns := by
  have hfound (ls : List (Text × Json)) (hls : (keys ls).Nodup) :
      (keys ls).map (fun k => (k, memberD k .null ls)) = ls := by
    unfold keys
    rw [List.map_map]
    refine (List.map_congr_left fun m hm => ?_).trans (List.map_id ls)
    rw [Function.comp_apply, memberD, (member?_eq_some_iff hls).2 hm]
    rfl
  calc ms = (keys ms).map fun k => (k, memberD k .null ms) := (hfound ms hms).symm
    _ = (keys ns).map fun k => (k, memberD k .null ns) := by
      rw [hkeys]
      simp only [memberD, member?_eq_of_perm hms h]
    _ = ns := hfound ns (hkeys ▸ hms)

/-- A member with a default depends on what is found under its name. -/
theorem memberD_congr (h : member? key ms = member? key ns) (other : Json) :
    memberD key other ms = memberD key other ns := by
  rw [memberD, memberD, h]

/-! ## Replacing values -/

/-- Members with a new value for the member `key`, made from the old one. -/
def mapMember (key : Text) (f : Json → Json) (ms : List (Text × Json)) : List (Text × Json) :=
  ms.map fun m => (m.1, if m.1 = key then f m.2 else m.2)

/-- The new value stands under the old name. -/
@[simp]
theorem keys_mapMember (key : Text) (f : Json → Json) (ms : List (Text × Json)) :
    keys (mapMember key f ms) = keys ms := by
  unfold keys mapMember
  rw [List.map_map]
  rfl

/-- The value of a member is made from the old one, and others are kept. -/
theorem member?_mapMember_eq (key other : Text) (f : Json → Json) (ms : List (Text × Json)) :
    member? other (mapMember key f ms) =
      (member? other ms).map fun v => if other = key then f v else v := by
  unfold member? mapMember
  induction ms with
  | nil => rfl
  | cons m ms ih =>
    obtain ⟨k, w⟩ := m
    rw [List.map_cons, List.lookup_cons, List.lookup_cons]
    by_cases hk : other = k
    · rw [hk, beq_self_eq_true]
      rfl
    · rw [beq_eq_false_iff_ne.2 hk]
      exact ih

/-- The value of a member is made from the old one. -/
theorem member?_mapMember (key : Text) (f : Json → Json) (ms : List (Text × Json)) :
    member? key (mapMember key f ms) = (member? key ms).map f := by
  simp [member?_mapMember_eq]

/-- Other members keep their values. -/
theorem member?_mapMember_of_ne {other : Text} (h : other ≠ key) (f : Json → Json)
    (ms : List (Text × Json)) : member? other (mapMember key f ms) = member? other ms := by
  simp [member?_mapMember_eq, h]

/-- The same of a member with a default. -/
theorem memberD_mapMember {f : Json → Json} {other : Json} (hf : f other = other) (key : Text)
    (ms : List (Text × Json)) :
    memberD key other (mapMember key f ms) = f (memberD key other ms) := by
  rw [memberD, memberD, member?_mapMember]
  cases member? key ms with
  | none => exact hf.symm
  | some _ => rfl

/-- Other members keep their values with their defaults. -/
theorem memberD_mapMember_of_ne {other : Text} (h : other ≠ key) (f : Json → Json) (d : Json)
    (ms : List (Text × Json)) : memberD other d (mapMember key f ms) = memberD other d ms :=
  memberD_congr (member?_mapMember_of_ne h f ms) d

/-! ## Completing members -/

/-- Members of which only those of some names are kept. -/
def keepKeys (p : Text → Bool) (ms : List (Text × Json)) : List (Text × Json) :=
  ms.filter fun m => p m.1

/-- Under a name that is kept there is what was there, and there is nothing under the others. -/
theorem member?_keepKeys (p : Text → Bool) (key : Text) (ms : List (Text × Json)) :
    member? key (keepKeys p ms) = if p key then member? key ms else none := by
  unfold member? keepKeys
  induction ms with
  | nil => simp
  | cons m ms ih =>
    obtain ⟨k, w⟩ := m
    rw [List.filter_cons, List.lookup_cons]
    by_cases hk : key = k
    · subst hk
      by_cases hp : p key
      · simp [hp]
      · simpa [hp] using ih
    · by_cases hp : p k <;> simpa [hp, List.lookup_cons, beq_eq_false_iff_ne.2 hk] using ih

/-- The members of an object without those of unknown names and with defaults for those that are
absent. The known names are the required ones and those of the defaults. -/
def completed (required : List Text) (defaults ms : List (Text × Json)) : List (Text × Json) :=
  keepKeys (fun key => decide (key ∈ required ++ keys defaults)) ms ++
    keepKeys (fun key => (member? key ms).isNone) defaults

section Completed

variable {required : List Text} {defaults : List (Text × Json)}

/-- Under a known name there is what was there, or the default; and there is nothing under the
others. -/
theorem member?_completed (key : Text) :
    member? key (completed required defaults ms) =
      if key ∈ required ++ keys defaults then (member? key ms).or (member? key defaults)
      else none := by
  have happend (as bs : List (Text × Json)) :
      member? key (as ++ bs) = (member? key as).or (member? key bs) := List.lookup_append
  rw [completed, happend, member?_keepKeys, member?_keepKeys]
  by_cases hkey : key ∈ required ++ keys defaults
  · cases hmember : member? key ms <;> simp [hkey]
  · have hdefault : member? key defaults = none :=
      member?_eq_none_iff.2 fun h => hkey (List.mem_append_right _ h)
    simp [hkey, hdefault]

/-- A required member is what it was. -/
theorem member?_completed_of_required (hkey : key ∈ required) (hdefault : key ∉ keys defaults) :
    member? key (completed required defaults ms) = member? key ms := by
  rw [member?_completed, if_pos (List.mem_append_left _ hkey), member?_eq_none_iff.2 hdefault,
    Option.or_none]

/-- Any other known member is there in any case. -/
theorem member?_completed_of_default (hdefault : member? key defaults = some v) :
    member? key (completed required defaults ms) = some (memberD key v ms) := by
  have hkey : key ∈ keys defaults := by
    by_contra hkey
    rw [member?_eq_none_iff.2 hkey] at hdefault
    cases hdefault
  rw [member?_completed, if_pos (List.mem_append_right _ hkey), hdefault, memberD]
  cases member? key ms <;> rfl

/-- The value with its default is what it was. -/
theorem memberD_completed (hdefault : member? key defaults = some v) :
    memberD key v (completed required defaults ms) = memberD key v ms := by
  rw [memberD, member?_completed_of_default hdefault, Option.getD_some]

/-- Completed members do not repeat a name if neither they nor the defaults did. -/
theorem nodup_keys_completed (hms : (keys ms).Nodup) (hdefaults : (keys defaults).Nodup) :
    (keys (completed required defaults ms)).Nodup := by
  unfold completed keys keepKeys
  rw [List.map_append, List.nodup_append]
  refine ⟨hms.sublist (List.filter_sublist.map _), hdefaults.sublist (List.filter_sublist.map _),
    fun a ha b hb hab => ?_⟩
  -- A default is only taken for a name that is not there.
  subst hab
  obtain ⟨m, hm, rfl⟩ := List.mem_map.1 ha
  obtain ⟨d, hd, hdm⟩ := List.mem_map.1 hb
  have habsent := (List.mem_filter.1 hd).2
  rw [Option.isNone_iff_eq_none, member?_eq_none_iff, hdm] at habsent
  exact habsent (List.mem_map_of_mem (List.mem_filter.1 hm).1)

/-- The completed members are, up to order, the required ones and one for each default. -/
theorem completed_perm (rs defaults : List (Text × Json)) (hms : (keys ms).Nodup)
    (hknown : (keys rs ++ keys defaults).Nodup) (hrs : ∀ m ∈ rs, member? m.1 ms = some m.2) :
    (completed (keys rs) defaults ms).Perm
      (rs ++ defaults.map fun d => (d.1, memberD d.1 d.2 ms)) := by
  obtain ⟨-, hdefaults, hdisjoint⟩ := List.nodup_append.1 hknown
  have hkeys : keys (rs ++ defaults.map fun d => (d.1, memberD d.1 d.2 ms)) =
      keys rs ++ keys defaults := by
    unfold keys
    rw [List.map_append, List.map_map]
    rfl
  have hnodup := hknown
  rw [← hkeys] at hnodup
  have hcompleted : (keys (completed (keys rs) defaults ms)).Nodup :=
    nodup_keys_completed hms hdefaults
  refine perm_of_forall_mem hcompleted hnodup (fun m hm => ?_) fun key hkey => ?_
  · -- A required member is found as it was, and any other known one with its default.
    rw [← member?_eq_some_iff hcompleted]
    rcases List.mem_append.1 hm with hr | hdefault
    · have hkey : m.1 ∈ keys rs := List.mem_map_of_mem hr
      rw [member?_completed_of_required hkey fun hd => hdisjoint _ hkey _ hd rfl, hrs m hr]
    · obtain ⟨d, hd, rfl⟩ := List.mem_map.1 hdefault
      exact member?_completed_of_default ((member?_eq_some_iff hdefaults).2 hd)
  · rw [hkeys]
    by_contra hunknown
    exact member?_eq_none_iff.1 (by rw [member?_completed, if_neg hunknown]) hkey

end Completed

/-! ## Agreement up to order -/

/-- The members of two objects agree up to order: some order of the second ones has the names of
the first ones, and related values. -/
def MembersAgree (S : Text → Json → Json → Prop) (ms ns : List (Text × Json)) : Prop :=
  ∃ ks, List.Forall₂ (fun m k => m.1 = k.1 ∧ S m.1 m.2 k.2) ms ks ∧ ks.Perm ns

section MembersAgree

variable {S : Text → Json → Json → Prop}

/-- Members that agree in order have the same names. -/
theorem keys_eq_of_forall₂
    (h : List.Forall₂ (fun m k => m.1 = k.1 ∧ S m.1 m.2 k.2) ms ns) : keys ms = keys ns := by
  induction h with
  | nil => rfl
  | cons hmk _ ih =>
    unfold keys at *
    rw [List.map_cons, List.map_cons, hmk.1, ih]

/-- Members that agree in order agree under each name. -/
theorem rel_member?_of_forall₂
    (h : List.Forall₂ (fun m k => m.1 = k.1 ∧ S m.1 m.2 k.2) ms ns) (key : Text) :
    Option.Rel (S key) (member? key ms) (member? key ns) := by
  unfold member?
  induction h with
  | nil => exact .none
  | @cons m k ms ns hmk _ ih =>
    obtain ⟨name, v⟩ := m
    obtain ⟨name', w⟩ := k
    obtain ⟨rfl, hvw⟩ := hmk
    rw [List.lookup_cons, List.lookup_cons]
    by_cases hkey : key = name
    · rw [hkey, beq_self_eq_true]
      exact .some hvw
    · rw [beq_eq_false_iff_ne.2 hkey]
      exact ih

namespace MembersAgree

/-- If no name is repeated, then members that agree up to order agree under each name. -/
theorem rel_member? (h : MembersAgree S ms ns) (hms : (keys ms).Nodup) (key : Text) :
    Option.Rel (S key) (member? key ms) (member? key ns) := by
  obtain ⟨ks, hks, hperm⟩ := h
  have hnodup : (keys ks).Nodup := by rwa [← keys_eq_of_forall₂ hks]
  rw [← member?_eq_of_perm hnodup hperm]
  exact rel_member?_of_forall₂ hks key

/-- Members whose values have to be the same are found alike. -/
theorem member?_eq (h : MembersAgree S ms ns) (hms : (keys ms).Nodup) (hkey : S key = Eq) :
    member? key ms = member? key ns := by
  have hrel := h.rel_member? hms key
  rw [hkey] at hrel
  generalize member? key ms = m, member? key ns = n at hrel
  cases hrel with
  | none => rfl
  | some heq => rw [heq]

/-- Agreement up to order does not depend on an order. -/
theorem of_perm {as bs : List (Text × Json)} (hm : ms.Perm as) (h : MembersAgree S as bs)
    (hn : bs.Perm ns) : MembersAgree S ms ns := by
  obtain ⟨ks, hks, hperm⟩ := h
  obtain ⟨ls, hls, hlk⟩ := List.perm_comp_forall₂ hm hks
  exact ⟨ls, hls, hlk.trans (hperm.trans hn)⟩

end MembersAgree

/-- Members that are up to order the members of two lists of the same names agree up to order if
those agree in order. -/
theorem membersAgree_iff_forall₂ {as bs : List (Text × Json)} (hm : ms.Perm as) (hn : ns.Perm bs)
    (has : (keys as).Nodup) (hkeys : keys as = keys bs) :
    MembersAgree S ms ns ↔ List.Forall₂ (fun m k => m.1 = k.1 ∧ S m.1 m.2 k.2) as bs := by
  constructor
  · intro h
    -- The order that agrees with the first list has its names, and so it is the second list.
    obtain ⟨ks, hks, hperm⟩ := h.of_perm hm.symm hn
    have hsame := keys_eq_of_forall₂ hks
    rwa [eq_of_perm (hsame ▸ has) hperm (hsame ▸ hkeys)] at hks
  · intro h
    exact .of_perm hm ⟨bs, h, .refl bs⟩ hn.symm

end MembersAgree

/-! ## Distinct names at every depth -/

/-- No object in a value repeats the name of a member, at any depth. -/
inductive HasDistinctKeys : Json → Prop where
  /-- A value that is not made of others has no objects in it. -/
  | atom {j : Json} (h : j.isCompound = false) : HasDistinctKeys j
  /-- A list whose items have distinct names. -/
  | list {xs : List Json} (h : ∀ x ∈ xs, HasDistinctKeys x) : HasDistinctKeys (.list xs)
  /-- An object with distinct names, and with such values. -/
  | object {ms : List (Text × Json)} (hkeys : (keys ms).Nodup)
    (hvalues : ∀ m ∈ ms, HasDistinctKeys m.2) : HasDistinctKeys (.object ms)

/-- A list has distinct names if its items have. -/
theorem hasDistinctKeys_list {xs : List Json} :
    HasDistinctKeys (.list xs) ↔ ∀ x ∈ xs, x.HasDistinctKeys := by
  refine ⟨fun h => ?_, .list⟩
  cases h with
  | atom h => cases h
  | list h => exact h

/-- An object has distinct names if its members have different names, and their values have distinct
ones. -/
theorem hasDistinctKeys_object :
    HasDistinctKeys (.object ms) ↔ (keys ms).Nodup ∧ ∀ m ∈ ms, m.2.HasDistinctKeys := by
  refine ⟨fun h => ?_, fun h => .object h.1 h.2⟩
  cases h with
  | atom h => cases h
  | object hkeys hvalues => exact ⟨hkeys, hvalues⟩

namespace HasDistinctKeys

/-- The names of the members of an object are distinct. -/
theorem nodup_keys (h : HasDistinctKeys (.object ms)) : (keys ms).Nodup :=
  (hasDistinctKeys_object.1 h).1

/-- The values of members have distinct names. -/
theorem value (h : HasDistinctKeys (.object ms)) (hmem : (key, v) ∈ ms) : v.HasDistinctKeys :=
  (hasDistinctKeys_object.1 h).2 _ hmem

/-- What is found under a name has distinct names. -/
theorem member (h : HasDistinctKeys (.object ms)) (hv : member? key ms = some v) :
    v.HasDistinctKeys :=
  h.value (mem_of_member?_eq_some hv)

/-- The same of a member with a default. -/
theorem memberD (h : HasDistinctKeys (.object ms)) {other : Json} (hother : other.HasDistinctKeys)
    (key : Text) : (memberD key other ms).HasDistinctKeys := by
  unfold Json.memberD
  cases hv : member? key ms with
  | none => exact hother
  | some v => exact h.member hv

/-- The items of a list have distinct names. -/
theorem item {xs : List Json} (h : HasDistinctKeys (.list xs)) {x : Json} (hx : x ∈ xs) :
    x.HasDistinctKeys :=
  hasDistinctKeys_list.1 h x hx

/-- Completed members have distinct names if all that they are made of has. -/
theorem completed {required : List Text} {defaults : List (Text × Json)}
    (h : HasDistinctKeys (.object ms)) (hdefaults : HasDistinctKeys (.object defaults)) :
    HasDistinctKeys (.object (completed required defaults ms)) := by
  refine .object (nodup_keys_completed h.nodup_keys hdefaults.nodup_keys) fun m hm => ?_
  rcases List.mem_append.1 hm with hkept | hdefault
  · exact h.value (List.mem_filter.1 hkept).1
  · exact hdefaults.value (List.mem_filter.1 hdefault).1

/-- A new value for a member leaves names distinct if it has distinct names itself. -/
theorem mapMember (h : HasDistinctKeys (.object ms)) {f : Json → Json}
    (hf : ∀ v, v.HasDistinctKeys → (f v).HasDistinctKeys) :
    HasDistinctKeys (.object (mapMember key f ms)) := by
  refine .object (by rw [keys_mapMember]; exact h.nodup_keys) fun m hm => ?_
  obtain ⟨⟨k, w⟩, hkw, rfl⟩ := List.mem_map.1 hm
  dsimp only
  split
  · exact hf w (h.value hkw)
  · exact h.value hkw

end HasDistinctKeys

end ValueBuilder.Json
