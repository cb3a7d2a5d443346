import ClusterRest.Http.Headers
import Mathlib.Data.List.Nodup

/-!
What headers hold under a name once values are added to others or put in their place, and once
headers are extended by others.
-/

namespace ClusterRest.Http.Headers

/-- The names that have a group, in order. -/
def names (headers : Headers) : List String := headers.groups.map Prod.fst

/-- Each name has at most one group. -/
def Distinct (headers : Headers) : Prop := headers.names.Nodup

section

variable {name : String} {change : List Bytes → List Bytes}

theorem valuesIn_updateGroups (other : String) (groups : List (String × List Bytes)) :
    valuesIn other (updateGroups name change groups) =
      if other = name then change (valuesIn name groups) else valuesIn other groups := by
  induction groups with
  | nil => simp only [updateGroups, valuesIn, eq_comm]
  | cons group rest ih =>
      obtain ⟨first, values⟩ := group
      rw [updateGroups]
      split
      next same =>
        subst same
        simp only [valuesIn, if_true, eq_comm]
        split <;> rfl
      next different =>
        rw [valuesIn, valuesIn, valuesIn, ih, if_neg different]
        by_cases leads : first = other
        · have apart : other ≠ name := fun same => different (leads.trans same)
          rw [if_pos leads, if_pos leads, if_neg apart]
        · rw [if_neg leads, if_neg leads]

theorem mem_updateGroups {other : String} (groups : List (String × List Bytes)) :
    other ∈ (updateGroups name change groups).map Prod.fst ↔
      other = name ∨ other ∈ groups.map Prod.fst := by
  induction groups with
  | nil => exact List.mem_cons
  | cons group rest ih =>
      obtain ⟨first, values⟩ := group
      rw [updateGroups]
      split
      next same =>
        subst same
        simp only [List.map_cons, List.mem_cons, or_self_left]
      next different =>
        rw [List.map_cons, List.map_cons, List.mem_cons, List.mem_cons, ih, or_left_comm]

theorem nodup_updateGroups {groups : List (String × List Bytes)}
    (distinct : (groups.map Prod.fst).Nodup) :
    ((updateGroups name change groups).map Prod.fst).Nodup := by
  induction groups with
  | nil => exact List.nodup_singleton name
  | cons group rest ih =>
      obtain ⟨first, values⟩ := group
      obtain ⟨absent, distinct⟩ := List.nodup_cons.mp distinct
      rw [updateGroups]
      split
      next same => exact List.nodup_cons.mpr ⟨absent, distinct⟩
      next different =>
        refine List.nodup_cons.mpr ⟨fun member => ?_, ih distinct⟩
        rcases (mem_updateGroups rest).mp member with same | member
        · exact different same
        · exact absent member

end

section

variable {headers others : Headers} {name : String}

theorem values_replaceAll (values : List Bytes) (other : String) :
    (headers.replaceAll name values).values other =
      if other = name then values else headers.values other :=
  valuesIn_updateGroups other headers.groups

theorem values_append (value : Bytes) (other : String) :
    (headers.append name value).values other =
      if other = name then headers.values name ++ [value] else headers.values other :=
  valuesIn_updateGroups other headers.groups

theorem values_insert (value : Bytes) (other : String) :
    (headers.insert name value).values other =
      if other = name then [value] else headers.values other :=
  values_replaceAll [value] other

theorem mem_names_insert {other : String} (value : Bytes) :
    other ∈ (headers.insert name value).names ↔ other = name ∨ other ∈ headers.names :=
  mem_updateGroups headers.groups

theorem mem_names_append {other : String} (value : Bytes) :
    other ∈ (headers.append name value).names ↔ other = name ∨ other ∈ headers.names :=
  mem_updateGroups headers.groups

theorem values_eq_nil (absent : name ∉ headers.names) : headers.values name = [] := by
  rw [values]
  rw [names] at absent
  generalize headers.groups = groups at absent
  induction groups with
  | nil => rfl
  | cons group rest ih =>
      rw [List.map_cons, List.mem_cons, not_or] at absent
      rw [valuesIn, if_neg (Ne.symm absent.1), ih absent.2]

theorem values_empty (name : String) : empty.values name = [] := rfl

theorem not_mem_names_empty (name : String) : name ∉ empty.names := List.not_mem_nil

theorem distinct_empty : empty.Distinct := .nil

theorem Distinct.append (distinct : headers.Distinct) (value : Bytes) :
    (headers.append name value).Distinct :=
  nodup_updateGroups distinct

theorem Distinct.insert (distinct : headers.Distinct) (value : Bytes) :
    (headers.insert name value).Distinct :=
  nodup_updateGroups distinct

theorem Distinct.extend (distinct : headers.Distinct) (others : Headers) :
    (headers.extend others).Distinct :=
  List.foldlRecOn others.groups _ distinct fun _ distinct _ _ => nodup_updateGroups distinct

/-- What others have under a name takes the place of what was there. -/
theorem values_extend (distinct : others.Distinct) (name : String) :
    (headers.extend others).values name =
      if name ∈ others.names then others.values name else headers.values name := by
  have each (groups : List (String × List Bytes)) (distinct : (groups.map Prod.fst).Nodup) :
      (groups.foldl (fun result group => result.replaceAll group.1 group.2) headers).values name =
        if name ∈ groups.map Prod.fst then valuesIn name groups else headers.values name := by
    induction groups generalizing headers with
    | nil => rfl
    | cons group rest ih =>
        obtain ⟨absent, distinct⟩ := List.nodup_cons.mp distinct
        rw [List.foldl_cons, ih distinct, values_replaceAll]
        simp only [valuesIn, List.map_cons, List.mem_cons]
        by_cases leads : name = group.1
        · subst leads
          rw [if_neg absent, if_pos rfl, if_pos (.inl rfl), if_pos rfl]
        · simp only [leads, Ne.symm leads, false_or, if_false]
  exact each others.groups distinct

theorem mem_names_extend (name : String) :
    name ∈ (headers.extend others).names ↔ name ∈ others.names ∨ name ∈ headers.names := by
  have each (groups : List (String × List Bytes)) :
      name ∈ (groups.foldl (fun result group => result.replaceAll group.1 group.2) headers).names ↔
        name ∈ groups.map Prod.fst ∨ name ∈ headers.names := by
    induction groups generalizing headers with
    | nil => simp
    | cons group rest ih =>
        have replaced : name ∈ (headers.replaceAll group.1 group.2).names ↔
            name = group.1 ∨ name ∈ headers.names := mem_updateGroups headers.groups
        rw [List.foldl_cons, ih, replaced, List.map_cons, List.mem_cons, or_assoc, or_left_comm]
  exact each others.groups

end

/-! ### Headers of single entries -/

/-- The values that entries give a name, in order. -/
def valuesOf (entries : List (String × Bytes)) (name : String) : List Bytes :=
  (entries.filter (·.1 = name)).map Prod.snd

section

variable {headers : Headers} {entries : List (String × Bytes)} {name : String}

theorem valuesOf_eq_nil : valuesOf entries name = [] ↔ name ∉ entries.map Prod.fst := by
  rw [valuesOf, List.map_eq_nil_iff, List.filter_eq_nil_iff, List.mem_map]
  simp only [decide_eq_true_eq, not_exists, not_and]

/-- Headers with entries added one after the other. -/
def appendAll (headers : Headers) (entries : List (String × Bytes)) : Headers :=
  entries.foldl (fun headers entry => headers.append entry.1 entry.2) headers

theorem ofList_eq (entries : List (String × Bytes)) :
    ofList entries = empty.appendAll entries :=
  rfl

theorem values_appendAll :
    (headers.appendAll entries).values name = headers.values name ++ valuesOf entries name := by
  rw [appendAll]
  induction entries generalizing headers with
  | nil => exact (List.append_nil _).symm
  | cons entry rest ih =>
      rw [List.foldl_cons, ih, values_append, valuesOf, valuesOf, List.filter_cons]
      by_cases same : name = entry.1
      · subst same
        rw [if_pos rfl, if_pos (decide_eq_true rfl), List.map_cons, List.append_assoc,
          List.singleton_append]
      · rw [if_neg same, if_neg (by simpa using Ne.symm same)]

theorem mem_names_appendAll :
    name ∈ (headers.appendAll entries).names ↔
      name ∈ headers.names ∨ name ∈ entries.map Prod.fst := by
  rw [appendAll]
  induction entries generalizing headers with
  | nil => simp
  | cons entry rest ih =>
      rw [List.foldl_cons, ih, mem_names_append, List.map_cons, List.mem_cons, or_assoc,
        or_left_comm]

theorem Distinct.appendAll (distinct : headers.Distinct) (entries : List (String × Bytes)) :
    (headers.appendAll entries).Distinct :=
  List.foldlRecOn entries _ distinct fun _ distinct entry _ => distinct.append entry.2

theorem values_ofList : (ofList entries).values name = valuesOf entries name := by
  rw [ofList_eq, values_appendAll, values_empty, List.nil_append]

theorem mem_names_ofList : name ∈ (ofList entries).names ↔ name ∈ entries.map Prod.fst := by
  rw [ofList_eq, mem_names_appendAll, or_iff_right (not_mem_names_empty name)]

theorem distinct_ofList (entries : List (String × Bytes)) : (ofList entries).Distinct :=
  distinct_empty.appendAll entries

end

end ClusterRest.Http.Headers
