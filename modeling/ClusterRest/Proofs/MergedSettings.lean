import ClusterRest.Config.Setting
import Mathlib.Data.List.Nodup

/-!
Look-ups in tables of settings: what putting, reading and merging do to them. A table whose names
are distinct holds after a merge what it held before.
-/

namespace ClusterRest

/-! ### Members by name -/

section

variable {α : Type} {name : String} {members members' : List (String × α)}

/-- The names of members, in order. -/
def namesOf (members : List (String × α)) : List String := members.map Prod.fst

theorem absent_of_distinct {value : α}
    (distinct : (namesOf (members ++ (name, value) :: members')).Nodup) :
    name ∉ namesOf members := by
  rw [namesOf, List.map_append] at distinct
  exact fun member => List.disjoint_of_nodup_append distinct member List.mem_cons_self

theorem lookup_eq_none (absent : name ∉ namesOf members) : members.lookup name = none := by
  refine List.lookup_eq_none_iff.mpr fun entry member => ?_
  have other : name ≠ entry.1 := by
    rintro rfl
    exact absent (List.mem_map_of_mem member)
  simpa using other

theorem lookup_cons (entry : String × α) :
    (entry :: members).lookup name =
      if name = entry.1 then some entry.2 else members.lookup name := by
  rw [List.lookup_cons]
  by_cases same : name = entry.1
  · rw [if_pos same, beq_iff_eq.mpr same]
  · rw [if_neg same, beq_eq_false_iff_ne.mpr same]

theorem lookup_eq_some (distinct : (namesOf members).Nodup) {value : α} :
    members.lookup name = some value ↔ (name, value) ∈ members := by
  induction members with
  | nil => simp
  | cons entry members ih =>
      obtain ⟨absent, distinct⟩ := List.nodup_cons.mp distinct
      rw [lookup_cons, List.mem_cons, Prod.ext_iff]
      by_cases same : name = entry.1
      · have unlisted : (name, value) ∉ members := fun member =>
          absent (same ▸ List.mem_map_of_mem member)
        rw [if_pos same, Option.some.injEq]
        exact ⟨fun held => .inl ⟨same, held.symm⟩,
          fun listed => (listed.resolve_right unlisted).2.symm⟩
      · rw [if_neg same, ih distinct]
        exact ⟨.inr, fun listed => listed.resolve_left fun first => same first.1⟩

/-- Members that stand in another order are found alike. -/
theorem lookup_perm (distinct : (namesOf members).Nodup) (perm : members.Perm members') :
    members.lookup name = members'.lookup name := by
  have distinct' : (namesOf members').Nodup := (perm.map Prod.fst).nodup_iff.mp distinct
  refine Option.ext fun value => ?_
  rw [lookup_eq_some distinct, lookup_eq_some distinct', perm.mem_iff]

end

/-! ### Putting and reading -/

namespace Settings

variable {name : String} {setting : Setting} {members : Settings}

theorem find?_put (other : String) : (put name setting members).find? other =
    if other = name then some setting else members.find? other := by
  induction members with
  | nil => exact lookup_cons _
  | cons entry members ih =>
      obtain ⟨first, old⟩ := entry
      rw [put]
      split
      next same =>
        subst same
        rw [find?, find?, lookup_cons, lookup_cons]
        split <;> rfl
      next different =>
        split
        next before => exact lookup_cons _
        next after =>
          simp only [find?, lookup_cons] at ih ⊢
          rw [ih]
          by_cases leads : other = first
          · have apart : other ≠ name := fun same => different (same.symm.trans leads)
            rw [if_pos leads, if_neg apart, if_pos leads]
          · rw [if_neg leads, if_neg leads]

theorem put_perm (absent : name ∉ namesOf members) :
    (put name setting members).Perm ((name, setting) :: members) := by
  induction members with
  | nil => exact .refl _
  | cons entry members ih =>
      obtain ⟨first, old⟩ := entry
      obtain ⟨different, absent⟩ := not_or.mp (List.mem_cons.not.mp absent)
      rw [put, if_neg different]
      split
      next before => exact .refl _
      next after => exact ((ih absent).cons _).trans (.swap _ _ _)

/-- The names of a table stand in their order, each once. -/
def Sorted (members : Settings) : Prop := (namesOf members).Pairwise (· < ·)

theorem sorted_nil : Sorted [] := .nil

theorem Sorted.nodup (sorted : members.Sorted) : (namesOf members).Nodup :=
  List.Pairwise.imp (fun before => String.ne_of_lt before) sorted

theorem mem_namesOf_put {other : String} (member : other ∈ namesOf (put name setting members)) :
    other = name ∨ other ∈ namesOf members := by
  induction members with
  | nil => exact .inl (List.mem_singleton.mp member)
  | cons entry members ih =>
      obtain ⟨first, old⟩ := entry
      rw [put] at member
      split at member
      next same =>
        subst same
        exact .inr member
      next different =>
        split at member
        next before => exact List.mem_cons.mp member
        next after =>
          rcases List.mem_cons.mp member with leads | later
          · exact .inr (List.mem_cons.mpr (.inl leads))
          · exact (ih later).imp_right (List.mem_cons_of_mem _)

theorem Sorted.put (sorted : members.Sorted) : (put name setting members).Sorted := by
  induction members with
  | nil => exact List.pairwise_singleton _ _
  | cons entry members ih =>
      obtain ⟨first, old⟩ := entry
      obtain ⟨least, rest⟩ := List.pairwise_cons.mp sorted
      rw [Settings.put]
      split
      next same =>
        subst same
        exact sorted
      next different =>
        split
        next before =>
          refine List.pairwise_cons.mpr ⟨fun other member => ?_, sorted⟩
          rcases List.mem_cons.mp member with leads | later
          · exact leads ▸ before
          · exact String.lt_trans before (least other later)
        next after =>
          have before : first < name :=
            Std.lt_of_le_of_ne (String.not_lt.mp after) fun same => different same.symm
          refine List.pairwise_cons.mpr ⟨fun other member => ?_, ih rest⟩
          rcases mem_namesOf_put member with same | later
          · exact same ▸ before
          · exact least other later

end Settings

namespace Setting

open Settings (find?_put put_perm)

/-- The setting at the end of a path of names. -/
def at? : List String → Setting → Option Setting
  | [], setting => some setting
  | name :: path, setting => (Settings.find? name setting.members).bind (at? path)

theorem membersOfToml_perm {members : List (String × Toml.Value)}
    (distinct : (namesOf members).Nodup) :
    (membersOfToml members).Perm (members.map fun entry => (entry.1, ofToml entry.2)) := by
  induction members with
  | nil => exact .refl _
  | cons entry members ih =>
      obtain ⟨name, value⟩ := entry
      obtain ⟨absent, distinct⟩ := List.nodup_cons.mp distinct
      have perm := ih distinct
      have names_eq : namesOf (members.map fun entry => (entry.1, ofToml entry.2)) =
          namesOf members := by
        rw [namesOf, namesOf, List.map_map]
        rfl
      have unread : name ∉ namesOf (membersOfToml members) := by
        rw [namesOf, (perm.map Prod.fst).mem_iff, ← namesOf, names_eq]
        exact absent
      exact (put_perm unread).trans (perm.cons _)

theorem find?_membersOfToml (members : List (String × Toml.Value)) (name : String) :
    Settings.find? name (membersOfToml members) = (members.lookup name).map ofToml := by
  induction members with
  | nil => rfl
  | cons entry members ih =>
      rw [membersOfToml, find?_put, ih, lookup_cons]
      split <;> rfl

theorem sorted_membersOfToml (members : List (String × Toml.Value)) :
    Settings.Sorted (membersOfToml members) := by
  induction members with
  | nil => exact .nil
  | cons entry members ih => exact ih.put

theorem sorted_ofToml (value : Toml.Value) : (ofToml value).members.Sorted := by
  cases value with
  | table members => exact sorted_membersOfToml members
  | moment text => exact List.pairwise_singleton _ _
  | text | integer | float | boolean | list => exact .nil

/-- The tables of a document are sorted, at whatever path. -/
theorem sorted_at?_ofToml {value : Toml.Value} {path : List String} {setting : Setting}
    (found : (ofToml value).at? path = some setting) : setting.members.Sorted := by
  induction path generalizing value with
  | nil =>
      cases found
      exact sorted_ofToml value
  | cons name path ih =>
      obtain ⟨inner, held, deeper⟩ := Option.bind_eq_some_iff.mp found
      cases value with
      | table members =>
          rw [ofToml, Setting.members, find?_membersOfToml] at held
          obtain ⟨value, _, rfl⟩ := Option.map_eq_some_iff.mp held
          exact ih deeper
      | moment text =>
          rw [ofToml, Setting.members, Settings.find?, lookup_cons] at held
          split at held
          · cases held
            have below : (ofToml (.text text)).at? path = some setting := deeper
            exact ih below
          · cases held
      | text | integer | float | boolean | list => cases held

theorem find?_mergeInto {earlier : Settings} {later : List (String × Setting)}
    (distinct : (namesOf later).Nodup) (name : String) :
    Settings.find? name (mergeInto earlier later) =
      match later.lookup name with
      | some setting => some (overlaid (earlier.find? name) setting)
      | none => earlier.find? name := by
  induction later generalizing earlier with
  | nil => rfl
  | cons entry later ih =>
      obtain ⟨absent, distinct⟩ := List.nodup_cons.mp distinct
      rw [mergeInto, ih distinct, find?_put, lookup_cons]
      by_cases same : name = entry.1
      · have unlisted : later.lookup name = none := lookup_eq_none (same ▸ absent)
        rw [unlisted, if_pos same, if_pos same, same]
      · rw [if_neg same, if_neg same]

/-- What an earlier and a later layer give together. -/
def laidOver (earlier later : Option Setting) : Option Setting :=
  (later.map (overlaid earlier)).or earlier

theorem isSome_laidOver (earlier later : Option Setting) :
    (laidOver earlier later).isSome = (later.isSome || earlier.isSome) := by
  cases later <;> rfl

theorem find?_mergeInto_laidOver {earlier later : Settings} (sorted : later.Sorted)
    (name : String) :
    Settings.find? name (mergeInto earlier later) =
      laidOver (earlier.find? name) (later.find? name) := by
  rw [find?_mergeInto sorted.nodup]
  cases found : later.lookup name <;> simp [laidOver, Settings.find?, found]

theorem sorted_mergeInto {earlier : Settings} (sorted : earlier.Sorted)
    (later : List (String × Setting)) : Settings.Sorted (mergeInto earlier later) := by
  induction later generalizing earlier with
  | nil => exact sorted
  | cons entry later ih => exact ih sorted.put

theorem mergeInto_perm {earlier : Settings} {later : List (String × Setting)}
    (distinct : (namesOf (earlier ++ later)).Nodup) :
    (mergeInto earlier later).Perm
      (earlier ++ later.map fun entry => (entry.1, overlaid none entry.2)) := by
  induction later generalizing earlier with
  | nil => rw [mergeInto, List.map_nil, List.append_nil]
  | cons entry later ih =>
      obtain ⟨name, setting⟩ := entry
      have absent : name ∉ namesOf earlier := absent_of_distinct distinct
      have unheld : Settings.find? name earlier = none := lookup_eq_none absent
      have perm : (Settings.put name (overlaid none setting) earlier).Perm _ := put_perm absent
      have distinct' : (namesOf (earlier.put name (overlaid none setting) ++ later)).Nodup := by
        have names := ((perm.append_right later).trans List.perm_middle.symm).map Prod.fst
        refine names.nodup_iff.mpr ?_
        simpa [namesOf] using distinct
      rw [mergeInto, unheld]
      exact (ih distinct').trans ((perm.append_right _).trans List.perm_middle.symm)

end Setting

end ClusterRest
