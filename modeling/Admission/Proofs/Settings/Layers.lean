/-
# Layers over defaults

The same layers can be laid over defaults or over nothing.  What they set is the same in both
results, and all else comes from the defaults (`GivesWay`).  This is kept by every step of laying a
value over another (`GivesWay.laidOver`, `GivesWay.putAt?`), and so by all layers together
(`givesWay_ofLayers?`).  It takes defaults without lists, because a layer can reach for one item of
a list and leave the others as they are.
-/
import Admission.Settings.Layers
import Mathlib.Data.Option.Defs
import Mathlib.Tactic.Common

namespace Admission.Settings

open Text

variable {d s t v : Settings} {key : String} {path : List String}

/-! ## Values under a path -/

lemma lookup_putEntry (key : String) (value : Settings) (entries : List (String × Settings))
    (other : String) : (putEntry key value entries).lookup other =
      if other = key then some value else entries.lookup other := by
  induction entries with
  | nil =>
    by_cases h : other = key
    · simp [putEntry, h]
    · simp [putEntry, List.lookup_cons, beq_eq_false_iff_ne.2 h, h]
  | cons entry entries ih =>
    obtain ⟨k, v⟩ := entry
    rw [putEntry]
    by_cases hk : k = key
    · subst hk
      by_cases h : other = k
      · simp [h]
      · simp [List.lookup_cons, beq_eq_false_iff_ne.2 h, h]
    · rw [if_neg hk, List.lookup_cons, List.lookup_cons, ih]
      by_cases h : other = k
      · subst h
        simp [hk]
      · simp [beq_eq_false_iff_ne.2 h]

/-- Whether a value is a table.  Anything else is replaced as a whole. -/
def isTable : Settings → Bool
  | .table _ _ => true
  | _ => false

/-- The value under a key, or an empty table in its place. -/
def inner (key : String) (s : Settings) : Settings :=
  (s.entries.lookup key).getD empty

lemma get?_cons (key : String) (path : List String) (s : Settings) :
    s.get? (key :: path) = (s.entries.lookup key).bind (get? path) :=
  rfl

lemma get?_empty_cons (key : String) (path : List String) : empty.get? (key :: path) = none :=
  rfl

lemma get?_inner_cons (s : Settings) (key next : String) (path : List String) :
    (s.inner key).get? (next :: path) = s.get? (key :: next :: path) := by
  rw [get?_cons key, inner]
  cases s.entries.lookup key <;> rfl

/-- Values that are no tables stand below a key exactly if they stand inside what is there. -/
lemma get?_inner_eq_some_iff (hv : v.isTable = false) :
    (s.inner key).get? path = some v ↔ s.get? (key :: path) = some v := by
  cases path with
  | cons next path => rw [get?_inner_cons]
  | nil =>
    rw [get?_cons, inner]
    cases s.entries.lookup key with
    | some value => rfl
    | none =>
      refine iff_of_false (fun h => ?_) (by simp)
      obtain rfl := Option.some.inj h
      exact absurd hv (by simp [isTable, empty])

lemma entries_update (key : String) (change : Option Settings → Settings) (s : Settings) :
    (s.update key change).entries = putEntry key (change (s.entries.lookup key)) s.entries := by
  cases s <;> rfl

lemma isTable_update (key : String) (change : Option Settings → Settings) (s : Settings) :
    (s.update key change).isTable = true := by
  cases s <;> rfl

lemma get?_update_self (key : String) (change : Option Settings → Settings) (s : Settings)
    (path : List String) :
    (s.update key change).get? (key :: path) = (change (s.entries.lookup key)).get? path := by
  rw [get?_cons, entries_update, lookup_putEntry, if_pos rfl]
  rfl

/-- A path is empty, or it starts with a key, or an update of this key does not show at its end. -/
lemma path_cases (key : String) (path : List String) :
    path = [] ∨ (∃ rest, path = key :: rest) ∨
      ∀ (change : Option Settings → Settings) (s : Settings),
        (s.update key change).get? path = s.get? path := by
  cases path with
  | nil => exact .inl rfl
  | cons k path =>
    by_cases hk : k = key
    · exact .inr (.inl ⟨path, by rw [hk]⟩)
    · refine .inr (.inr fun change s => ?_)
      rw [get?_cons, entries_update, lookup_putEntry, if_neg hk]
      rfl

/-! ## Defaults that give way -/

/-- The settings `t` are the settings `s` over the defaults `d`, which give way to whatever `s`
sets. -/
structure GivesWay (d s t : Settings) : Prop where
  /-- What is set is kept. -/
  kept : ∀ path v, v.isTable = false → s.get? path = some v → t.get? path = some v
  /-- Every list has been set. -/
  list_kept : ∀ path origin items,
    t.get? path = some (.list origin items) → s.get? path = some (.list origin items)
  /-- Where nothing is set there are the defaults. -/
  rest : ∀ path v, s.get? path = none → t.get? path = some v → d.get? path = some v

/-- There are no lists in the settings. -/
def ListFree (s : Settings) : Prop :=
  ∀ path origin items, s.get? path ≠ some (.list origin items)

namespace GivesWay

lemma refl (d s : Settings) : GivesWay d s s where
  kept _ _ _ h := h
  list_kept _ _ _ h := h
  rest _ _ hnone hsome := absurd (hnone.symm.trans hsome) (by simp)

lemma rel_refl (d : Settings) (s? : Option Settings) : Option.Rel (GivesWay d) s? s? := by
  cases s? with
  | none => exact .none
  | some s => exact .some (refl d s)

/-- Over nothing there are just the defaults. -/
lemma empty (h : d.ListFree) : GivesWay d empty d where
  kept path v hv hset := by
    cases path with
    | nil =>
      obtain rfl := Option.some.inj hset
      exact absurd hv (by simp [isTable, Settings.empty])
    | cons key path => exact absurd hset (by simp [get?_empty_cons])
  list_kept path origin items hlist := absurd hlist (h path origin items)
  rest _ _ _ hsome := hsome

variable (h : GivesWay d s t)
include h

/-- What is no table is the same in both, unless it is a default. -/
lemma get?_eq (hs : ∀ v, s.get? path = some v → v.isTable = false) :
    t.get? path = s.get? path ∨ s.get? path = none ∧ t.get? path = d.get? path := by
  cases hset : s.get? path with
  | some v => exact .inl (h.kept path v (hs v hset) hset)
  | none =>
    cases hover : t.get? path with
    | none => exact .inl rfl
    | some v => exact .inr ⟨rfl, (h.rest path v hset hover).symm⟩

/-- The places in a list are the same. -/
lemma listParts_eq : s.listParts = t.listParts := by
  cases s with
  | leaf origin value =>
    obtain rfl := Option.some.inj (h.kept [] _ rfl rfl)
    rfl
  | list origin items =>
    obtain rfl := Option.some.inj (h.kept [] _ rfl rfl)
    rfl
  | table origin entries =>
    cases t with
    | list origin' items => exact absurd (h.list_kept [] origin' items rfl) (by simp [get?])
    | _ => rfl

lemma inner (key : String) : GivesWay (d.inner key) (s.inner key) (t.inner key) where
  kept path v hv hset := (get?_inner_eq_some_iff hv).2
    (h.kept _ v hv ((get?_inner_eq_some_iff hv).1 hset))
  list_kept path origin items hlist := (get?_inner_eq_some_iff rfl).2
    (h.list_kept _ origin items ((get?_inner_eq_some_iff rfl).1 hlist))
  rest path v hnone hsome := by
    cases path with
    | nil => exact absurd hnone (by simp [get?])
    | cons next path =>
      rw [get?_inner_cons] at hnone hsome ⊢
      exact h.rest _ v hnone hsome

/-- The value under a key changes in both. -/
lemma update {change change' : Option Settings → Settings}
    (hinner : GivesWay (d.inner key) (change (s.entries.lookup key))
      (change' (t.entries.lookup key))) :
    GivesWay d (s.update key change) (t.update key change') where
  kept path v hv hset := by
    rcases path_cases key path with rfl | ⟨path, rfl⟩ | hpast
    · obtain rfl := Option.some.inj hset
      exact absurd hv (by simp [isTable_update])
    · rw [get?_update_self] at hset ⊢
      exact hinner.kept path v hv hset
    · rw [hpast] at hset ⊢
      exact h.kept path v hv hset
  list_kept path origin items hlist := by
    rcases path_cases key path with rfl | ⟨path, rfl⟩ | hpast
    · have htable := isTable_update key change' t
      rw [Option.some.inj hlist] at htable
      exact absurd htable (by simp [isTable])
    · rw [get?_update_self] at hlist ⊢
      exact hinner.list_kept path origin items hlist
    · rw [hpast] at hlist ⊢
      exact h.list_kept path origin items hlist
  rest path v hnone hsome := by
    rcases path_cases key path with rfl | ⟨path, rfl⟩ | hpast
    · exact absurd hnone (by simp [get?])
    · rw [get?_update_self] at hnone hsome
      cases path with
      | nil => exact absurd hnone (by simp [get?])
      | cons next path =>
        rw [← get?_inner_cons]
        exact hinner.rest _ v hnone hsome
    · rw [hpast] at hnone hsome
      exact h.rest path v hnone hsome

end GivesWay

/-! ## Computations that succeed together -/

section rel

variable {α β σ τ : Type} {R : σ → τ → Prop} {S : α → β → Prop} {x : Option σ} {y : Option τ}

lemma rel_map {f : σ → α} {f' : τ → β} (h : Option.Rel R x y)
    (hf : ∀ a b, R a b → S (f a) (f' b)) : Option.Rel S (x.map f) (y.map f') := by
  cases h with
  | some h => exact .some (hf _ _ h)
  | none => exact .none

lemma rel_bind {f : σ → Option α} {f' : τ → Option β} (h : Option.Rel R x y)
    (hf : ∀ a b, R a b → Option.Rel S (f a) (f' b)) : Option.Rel S (x.bind f) (y.bind f') := by
  cases h with
  | some h => exact hf _ _ h
  | none => exact .none

/-- Steps that keep a relation keep it to the end, and end in the same place if they fail. -/
lemma rel_foldlM {step : σ → α → Option σ} {step' : τ → α → Option τ}
    (hstep : ∀ s t a, R s t → Option.Rel R (step s a) (step' t a)) {s : σ} {t : τ} (h : R s t)
    (xs : List α) : Option.Rel R (xs.foldlM step s) (xs.foldlM step' t) := by
  induction xs generalizing s t with
  | nil => exact .some h
  | cons a xs ih =>
    rw [List.foldlM_cons, List.foldlM_cons]
    exact rel_bind (hstep s t a h) fun _ _ hnext => ih hnext

end rel

/-! ## Laying values over others -/

lemma laidOver_getD (value : Settings) (old : Option Settings) :
    laidOver value old = laidOver value (some (old.getD empty)) := by
  cases value <;> cases old <;> simp [laidOver]

/-- The value is laid over what is under a key in both. -/
lemma GivesWay.update_laidOver (h : GivesWay d s t) {value : Settings}
    (hvalue : GivesWay (d.inner key) (laidOver value (some (s.inner key)))
      (laidOver value (some (t.inner key)))) :
    GivesWay d (s.update key fun old => laidOver value old)
      (t.update key fun old => laidOver value old) := by
  refine h.update ?_
  rw [laidOver_getD value (s.entries.lookup key), laidOver_getD value (t.entries.lookup key)]
  exact hvalue

mutual

lemma GivesWay.laidOver {d s t : Settings} (h : GivesWay d s t) : ∀ value,
    GivesWay d (laidOver value (some s)) (laidOver value (some t))
  | .leaf origin value => by
    rw [Settings.laidOver, Settings.laidOver]
    exact refl d _
  | .list origin items => by
    rw [Settings.laidOver, Settings.laidOver]
    exact refl d _
  | .table origin entries => by
    rw [Settings.laidOver, Settings.laidOver]
    exact GivesWay.entriesOver h entries

lemma GivesWay.entriesOver {d s t : Settings} (h : GivesWay d s t) : ∀ entries,
    GivesWay d (entriesOver entries s) (entriesOver entries t)
  | [] => by
    rw [Settings.entriesOver, Settings.entriesOver]
    exact h
  | (key, value) :: entries => by
    rw [Settings.entriesOver, Settings.entriesOver]
    exact GivesWay.entriesOver (h.update_laidOver (GivesWay.laidOver (h.inner _) value)) entries

end

/-- A path goes on from a place without a value as from an empty table. -/
lemma putAt?_null (value : Settings) (step : Step) (path : List Step) :
    putAt? value (step :: path) (.leaf none .null) = putAt? value (step :: path) empty := by
  cases step <;> cases path <;> rfl

lemma putAt?_child (value : Settings) (step : Step) (path : List Step) (key : String)
    (s : Settings) :
    putAt? value (step :: path) (s.child key) = putAt? value (step :: path) (s.inner key) := by
  rw [child, inner]
  cases s.entries.lookup key with
  | none => exact putAt?_null value step path
  | some old => rfl

/-- A value that is laid over what is at the end of a path can be laid there in both or in
neither. -/
lemma GivesWay.putAt? (h : GivesWay d s t) (value : Settings) (path : List Step) :
    Option.Rel (GivesWay d) (putAt? value path s) (putAt? value path t) := by
  induction path generalizing d s t with
  | nil => exact .some (h.laidOver value)
  | cons step path ih =>
    cases step with
    | key name =>
      cases path with
      | nil => exact .some (h.update_laidOver ((h.inner _).laidOver value))
      | cons next path =>
        rw [Settings.putAt?, Settings.putAt?, putAt?_child, putAt?_child]
        · exact rel_map (ih (h.inner _)) fun _ _ hinner => h.update hinner
        all_goals simp
    | place n =>
      -- both have the same list there, or none
      rw [Settings.putAt?, Settings.putAt?, h.listParts_eq]
      exact GivesWay.rel_refl d _

lemma GivesWay.addLayer? (h : GivesWay d s t) (layer : Settings) :
    Option.Rel (GivesWay d) (addLayer? s layer) (addLayer? t layer) :=
  rel_foldlM (fun _ _ entry h => h.putAt? entry.2 (Path.ofName entry.1)) h layer.entries

/-- A layer without entries changes nothing. -/
lemma ofLayers?_append_empty (d : Settings) (layers : List Settings) :
    ofLayers? d (layers ++ [empty]) = ofLayers? d layers := by
  rw [ofLayers?, ofLayers?, List.foldlM_append]
  cases layers.foldlM Settings.addLayer? empty <;> rfl

/-- **Defaults give way to layers.**  Layers can be laid over defaults without lists exactly if they
can be laid over nothing, and the defaults give way to what they set. -/
theorem givesWay_ofLayers? (hd : d.ListFree) (layers : List Settings) :
    Option.Rel (GivesWay d) (ofLayers? empty layers) (ofLayers? d layers) := by
  rw [ofLayers?, ofLayers?]
  cases layers.foldlM Settings.addLayer? empty with
  | none => exact .none
  | some layer => exact (GivesWay.empty hd).addLayer? layer

/-! ## Settings without lists -/

lemma listFree_leaf (origin : Option String) (value : Leaf) : ListFree (.leaf origin value) := by
  intro path origin' items h
  cases path <;> exact absurd h (by simp [get?, entries])

lemma listFree_table {origin : Option String} {entries : List (String × Settings)}
    (h : ∀ entry ∈ entries, ListFree entry.2) : ListFree (.table origin entries) := by
  intro path origin' items hlist
  cases path with
  | nil => exact absurd hlist (by simp [get?])
  | cons key path =>
    obtain ⟨value, hvalue, hinside⟩ := Option.bind_eq_some_iff.1 hlist
    have hlookup : entries.lookup key = some value := hvalue
    obtain ⟨before, after, rfl, -⟩ := List.lookup_eq_some_iff.1 hlookup
    exact h (key, value) (by simp) path origin' items hinside

end Admission.Settings
