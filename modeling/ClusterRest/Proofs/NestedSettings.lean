import ClusterRest.Proofs.LoadedLayers
import ClusterRest.Proofs.SettingLeaves
import Mathlib.Data.List.Induction

/-!
Settings under paths of names. Settings that are laid over each other combine leaf by leaf, and what
variables give under a path is what the last variable for it gives.
-/

namespace ClusterRest

open Setting (overlaid mergeInto nest)

/-! ### Paths -/

namespace Setting

/-- Sorted tables down to a depth. -/
def IsNested : Nat → Setting → Prop
  | 0, _ => True
  | depth + 1, .table _ members => Settings.Sorted members ∧
      ∀ name inner, Settings.find? name members = some inner → IsNested depth inner
  | _ + 1, _ => False

variable {earlier : Option Setting} {origin : Origin} {setting : Setting} {path other : List String}

theorem leaf?_overlaid (earlier : Option Setting) (setting : Setting) :
    (overlaid earlier setting).leaf? = setting.leaf? := by
  cases setting <;> rfl

theorem map_leaf?_laidOver (earlier later : Option Setting) :
    (laidOver earlier later).map leaf? = (later.or earlier).map leaf? := by
  cases later with
  | none => rfl
  | some setting => exact congrArg some (leaf?_overlaid earlier setting)

theorem bind_at?_cons (earlier : Option Setting) (name : String) (path : List String) :
    earlier.bind (at? (name :: path)) =
      (Settings.find? name ((earlier.map members).getD [])).bind (at? path) := by
  cases earlier <;> rfl

/-- A setting at a path changes what is there, and nothing at the other paths of its length. -/
theorem at?_overlaid_nest (same : other.length = path.length) :
    (overlaid earlier (nest origin setting path)).at? other =
      if other = path then some (overlaid (earlier.bind (at? other)) setting)
      else earlier.bind (at? other) := by
  induction path generalizing earlier other with
  | nil =>
      rw [List.length_eq_zero_iff.mp same, if_pos rfl]
      cases earlier <;> rfl
  | cons name path ih =>
      obtain ⟨first, rest, rfl⟩ := List.exists_cons_of_length_eq_add_one same
      have shorter : rest.length = path.length := Nat.succ.inj same
      rw [overlaid_nest, at?, members, Settings.find?_put, bind_at?_cons]
      by_cases leads : first = name
      · subst leads
        rw [if_pos rfl, Option.bind_some, ih shorter]
        simp only [List.cons.injEq, true_and]
      · have apart : first :: rest ≠ name :: path := fun same => leads (List.cons.inj same).1
        rw [if_neg leads, if_neg apart]

/-- Above the end of its path a setting leaves tables. -/
theorem isSome_at?_overlaid_nest (short : other.length ≤ path.length) :
    ((overlaid earlier (nest origin setting path)).at? other).isSome =
      (other.isPrefixOf path || (earlier.bind (at? other)).isSome) := by
  induction other generalizing earlier path with
  | nil => rfl
  | cons first rest ih =>
      cases path with
      | nil => cases short
      | cons name path =>
          have shorter : rest.length ≤ path.length := Nat.le_of_succ_le_succ short
          rw [overlaid_nest, at?, members, Settings.find?_put, bind_at?_cons]
          by_cases leads : first = name
          · subst leads
            rw [if_pos rfl, Option.bind_some, ih shorter]
            simp [List.isPrefixOf]
          · rw [if_neg leads]
            simp [List.isPrefixOf, leads]

theorem isNested_overlaid_nest (nested : ∀ inner ∈ earlier, IsNested path.length inner) :
    IsNested path.length (overlaid earlier (nest origin setting path)) := by
  induction path generalizing earlier with
  | nil => trivial
  | cons name path ih =>
      have sorted : Settings.Sorted ((earlier.map members).getD []) ∧
          ∀ other inner, Settings.find? other ((earlier.map members).getD []) = some inner →
            IsNested path.length inner := by
        cases earlier with
        | none => exact ⟨Settings.sorted_nil, nofun⟩
        | some inner =>
            have inside := nested inner rfl
            cases inner with
            | scalar origin value => cases inside
            | list origin elements => cases inside
            | table origin members => exact inside
      rw [overlaid_nest]
      refine ⟨sorted.1.put, fun other inner found => ?_⟩
      rw [Settings.find?_put] at found
      split at found
      · cases found
        exact ih fun inner held => sorted.2 _ _ held
      · exact sorted.2 _ _ found

end Setting

/-! ### Variables -/

namespace Variables

/-- The setting that the last variable for a path gives. -/
def given? (path : List String) (environment : Variables) : Option Setting :=
  (environment.reverse.find? fun entry => path? entry.1 = some path).map (settingOf ·.2)

/-- Whether a variable gives a setting at a path or under it. -/
def mentions (path : List String) (environment : Variables) : Bool :=
  environment.any fun entry => (path? entry.1).any (path.isPrefixOf ·)

/-- The variables that start with a name all go on for as many names. -/
def HasDepth (first : String) (depth : Nat) (environment : Variables) : Prop :=
  ∀ entry ∈ environment, ∀ rest, path? entry.1 = some (first :: rest) → rest.length = depth

variable {environment : Variables} {entry : String × String} {first : String} {depth : Nat}
  {path : List String}

theorem given?_concat (path : List String) (environment : Variables) (entry : String × String) :
    given? path (environment ++ [entry]) =
      if path? entry.1 = some path then some (settingOf entry.2) else given? path environment := by
  rw [given?, List.reverse_append, List.reverse_singleton, List.singleton_append, List.find?_cons]
  by_cases same : path? entry.1 = some path <;> simp [same, given?]

theorem mentions_concat (path : List String) (environment : Variables)
    (entry : String × String) : mentions path (environment ++ [entry]) =
      (mentions path environment || (path? entry.1).any (path.isPrefixOf ·)) := by
  rw [mentions, mentions, List.any_append, List.any_cons, List.any_nil, Bool.or_false]

theorem HasDepth.of_concat (deep : HasDepth first depth (environment ++ [entry])) :
    HasDepth first depth environment ∧
      ∀ rest, path? entry.1 = some (first :: rest) → rest.length = depth :=
  ⟨fun other member => deep other (List.mem_append_left _ member),
    deep entry (List.mem_append_right _ (List.mem_singleton_self entry))⟩

theorem isNested_settings (deep : HasDepth first depth environment) :
    ∀ setting ∈ environment.settings.find? first, setting.IsNested depth := by
  induction environment using List.reverseRecOn with
  | nil => nofun
  | append_singleton environment entry ih =>
      obtain ⟨deep, last⟩ := deep.of_concat
      rw [find?_concat]
      split
      next name rest named =>
        split
        next same =>
          subst same
          rintro _ ⟨⟩
          rw [← last rest named]
          exact Setting.isNested_overlaid_nest (last rest named ▸ ih deep)
        next other => exact ih deep
      next => exact ih deep

theorem map_leaf?_settings (path : List String) (deep : HasDepth first depth environment)
    (length : path.length = depth) :
    ((environment.settings.find? first).bind (Setting.at? path)).map Setting.leaf? =
      (environment.given? (first :: path)).map Setting.leaf? := by
  induction environment using List.reverseRecOn with
  | nil => rfl
  | append_singleton environment entry ih =>
      obtain ⟨deep, last⟩ := deep.of_concat
      rw [find?_concat, given?_concat]
      split
      next name rest named =>
        split
        next same =>
          subst same
          rw [Option.bind_some, Setting.at?_overlaid_nest (length.trans (last rest named).symm),
            named]
          by_cases ends : path = rest
          · rw [if_pos ends, if_pos (by rw [ends])]
            exact congrArg some (Setting.leaf?_overlaid _ _)
          · have apart : some (first :: rest) ≠ some (first :: path) := fun same =>
              ends (List.cons.inj (Option.some.inj same)).2.symm
            rw [if_neg ends, if_neg apart, ih deep]
        next other =>
          have apart : some (name :: rest) ≠ some (first :: path) := fun same =>
            other (List.cons.inj (Option.some.inj same)).1.symm
          rw [named, if_neg apart, ih deep]
      next unnamed =>
        rw [if_neg fun named => unnamed first path named, ih deep]

theorem isSome_settings (path : List String) (deep : HasDepth first depth environment)
    (short : path.length ≤ depth) :
    ((environment.settings.find? first).bind (Setting.at? path)).isSome =
      environment.mentions (first :: path) := by
  induction environment using List.reverseRecOn with
  | nil => rfl
  | append_singleton environment entry ih =>
      obtain ⟨deep, last⟩ := deep.of_concat
      rw [find?_concat, mentions_concat]
      split
      next name rest named =>
        split
        next same =>
          subst same
          have within : path.length ≤ rest.length := (last rest named).symm ▸ short
          rw [Option.bind_some, Setting.isSome_at?_overlaid_nest within, ih deep, named,
            Bool.or_comm]
          simp [List.isPrefixOf]
        next other => simp [ih deep, named, List.isPrefixOf, other]
      next unnamed =>
        rw [ih deep]
        cases named : path? entry.1 with
        | none => simp
        | some whole =>
            cases whole with
            | nil => simp [List.isPrefixOf]
            | cons name rest => exact absurd named (unnamed name rest)

end Variables

end ClusterRest
