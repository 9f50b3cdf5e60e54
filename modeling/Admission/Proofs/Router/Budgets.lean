/-
# Budgets and their keys

A request takes its token from one budget: that of its event in the group that serves it.  In a
shared store a budget is known by its key only, in which the name of the group and the event are
put together with a colon between them.  Both may hold colons, so different budgets of named
groups can have the same key: `key_eq_iff` says that this happens exactly if the budgets clash.
-/
import Admission.Setup
import Admission.Proofs.Router.Building
import Admission.Proofs.Text.Separator
import Mathlib.Data.List.Infix

namespace Admission

/-! ## Keys -/

/-- What a group keeps for one event. -/
structure Budget where
  /-- The name of the group. -/
  group : String
  /-- The event. -/
  event : String
deriving DecidableEq, Repr

namespace Budget

/-- The keyspace of a group of a service. -/
def keyspace (service group : String) : String :=
  if group = Config.defaultName then EventKey.defaultKeyspace service
  else EventKey.groupKeyspace service group

/-- The key of a budget in the shared store of a service. -/
def key (service : String) (b : Budget) : String :=
  EventKey.render ⟨keyspace service b.group, b.event⟩

/-- Two budgets of named groups clash if one name goes on behind the other one and a colon, and
the events make up for it: the rest of the longer name stands at the start of the event of the
shorter one. -/
def Clashes (x y : Budget) : Prop :=
  x.group ≠ Config.defaultName ∧
    ∃ more, y.group = x.group ++ ":" ++ more ∧ x.event = more ++ ":" ++ y.event

lemma toList_append_colon (a b : String) :
    (a ++ ":" ++ b).toList = a.toList ++ ':' :: b.toList := by
  simp

lemma exists_toList_iff {P : List Char → Prop} : (∃ s : String, P s.toList) ↔ ∃ l, P l :=
  ⟨fun ⟨s, h⟩ => ⟨s.toList, h⟩, fun ⟨l, h⟩ => ⟨.ofList l, by simpa using h⟩⟩

/-- The rest of the longer name is one of its ends. -/
lemma clashes_iff {x y : Budget} :
    x.Clashes y ↔ x.group ≠ Config.defaultName ∧
      ∃ more ∈ y.group.toList.tails, y.group.toList = x.group.toList ++ ':' :: more ∧
        x.event.toList = more ++ ':' :: y.event.toList := by
  simp only [Clashes, ← String.toList_inj, toList_append_colon]
  rw [exists_toList_iff (P := fun more => y.group.toList = x.group.toList ++ ':' :: more ∧
    x.event.toList = more ++ ':' :: y.event.toList)]
  refine and_congr_right fun _ => exists_congr fun more => ⟨fun h => ⟨?_, h⟩, And.right⟩
  rw [List.mem_tails, h.1]
  exact (List.suffix_cons _ _).trans (List.suffix_append _ _)

instance (x y : Budget) : Decidable (x.Clashes y) :=
  decidable_of_iff _ clashes_iff.symm

lemma append_colon_eq_iff {a b c d : String} :
    a ++ ":" ++ b = c ++ ":" ++ d ↔
      (a = c ∧ b = d) ∨ (∃ more, c = a ++ ":" ++ more ∧ b = more ++ ":" ++ d) ∨
        ∃ more, a = c ++ ":" ++ more ∧ d = more ++ ":" ++ b := by
  simp only [← String.toList_inj, toList_append_colon]
  rw [Text.append_sep_eq_iff,
    exists_toList_iff (P := fun more => c.toList = _ ++ ':' :: more ∧ _ = more ++ ':' :: _),
    exists_toList_iff (P := fun more => a.toList = _ ++ ':' :: more ∧ _ = more ++ ':' :: _)]

/-- A name with a colon in it is not the default group's. -/
lemma append_colon_ne_default (a b : String) : a ++ ":" ++ b ≠ Config.defaultName := by
  intro h
  have hmem : ':' ∈ (a ++ ":" ++ b).toList := by simp
  rw [h] at hmem
  exact absurd hmem (by decide)

variable {service : String} {x y : Budget}

lemma Clashes.ne_default (h : Clashes x y) :
    x.group ≠ Config.defaultName ∧ y.group ≠ Config.defaultName := by
  obtain ⟨hx, more, hy, -⟩ := h
  exact ⟨hx, hy ▸ append_colon_ne_default _ _⟩

lemma key_of_default (hgroup : x.group = Config.defaultName) (hevent : x.event ≠ "") :
    x.key service = service ++ ":rate:default:" ++ x.event := by
  rw [key, EventKey.render, if_neg hevent, keyspace, if_pos hgroup, EventKey.defaultKeyspace,
    ← String.toList_inj]
  simp

lemma key_of_named (hgroup : x.group ≠ Config.defaultName) (hevent : x.event ≠ "") :
    x.key service = service ++ ":rate:g:" ++ (x.group ++ ":" ++ x.event) := by
  rw [key, EventKey.render, if_neg hevent, keyspace, if_neg hgroup, EventKey.groupKeyspace,
    ← String.toList_inj]
  simp

/-- No key is one of the default group and one of a named group. -/
lemma default_key_ne_named (a b : String) :
    service ++ ":rate:default:" ++ a ≠ service ++ ":rate:g:" ++ b := by
  rw [← String.toList_inj.ne]
  simp

/-- Different budgets have the same key exactly if they clash. -/
lemma key_eq_iff (hx : x.event ≠ "") (hy : y.event ≠ "") :
    x.key service = y.key service ↔ x = y ∨ Clashes x y ∨ Clashes y x := by
  have hdefault : ∀ {u v : Budget}, u.group = Config.defaultName ∨ v.group = Config.defaultName →
      ¬ Clashes u v := by
    rintro u v (h | h) hclash
    · exact hclash.ne_default.1 h
    · exact hclash.ne_default.2 h
  obtain ⟨g, e⟩ := x
  obtain ⟨g', e'⟩ := y
  by_cases hg : g = Config.defaultName <;> by_cases hg' : g' = Config.defaultName
  · rw [key_of_default hg hx, key_of_default hg' hy, String.append_right_inj]
    simp [hg, hg', hdefault]
  · rw [key_of_default hg hx, key_of_named hg' hy]
    simp [default_key_ne_named, hdefault, hg, Ne.symm hg']
  · rw [key_of_named hg hx, key_of_default hg' hy, eq_comm]
    simp [default_key_ne_named, hdefault, hg', hg]
  · rw [key_of_named hg hx, key_of_named hg' hy, String.append_right_inj, append_colon_eq_iff]
    simp [Clashes, hg, hg']

end Budget

end Admission
