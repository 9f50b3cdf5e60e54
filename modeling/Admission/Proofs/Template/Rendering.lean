/-
# Rendering bodies one after another

A body renders what its parts render, in order, up to the first fault.  So rendering goes along with
putting bodies one after another (`Body.render_append`), and the text of a body that only copies is
what it renders at every value (`execute_eq_render`).
-/
import Admission.Template
import Mathlib.Tactic.Common

namespace Admission.Template

lemma joined_assoc (x y z : Except Error String) :
    joined (joined x y) z = joined x (joined y z) := by
  cases x with
  | error e => rfl
  | ok s =>
    cases y with
    | error e => rfl
    | ok t => cases z <;> simp [joined, Except.map, String.append_assoc]

@[simp] lemma joined_empty (x : Except Error String) : joined (.ok "") x = x := by
  cases x <;> simp [joined, Except.map]

@[simp] lemma joined_ok_empty (x : Except Error String) : joined x (.ok "") = x := by
  cases x <;> simp [joined, Except.map]

namespace Body

lemma render_append (a b : Body) (dot : Value) :
    (a ++ b).render dot = joined (a.render dot) (b.render dot) := by
  induction a with
  | done => exact (joined_empty _).symm
  | text cs rest ih => rw [text_append, render, render, ih, joined_assoc]
  | print value rest ih =>
    rw [print_append, render, render]
    cases value.eval dot with
    | error e => rfl
    | ok v => simp only [ih, joined_assoc]
  | branch block subject first second rest _ _ ih =>
    rw [branch_append, render, render]
    cases subject.eval dot with
    | error e => rfl
    | ok v => simp only [ih, joined_assoc]

lemma render_of_constant? {b : Body} {text : String} (h : b.constant? = some text) (dot : Value) :
    b.render dot = .ok text := by
  induction b generalizing text with
  | done =>
    obtain rfl := Option.some.inj h
    rfl
  | text cs rest ih =>
    rw [constant?, Option.map_eq_some_iff] at h
    obtain ⟨after, hrest, rfl⟩ := h
    rw [render, ih hrest]
    rfl
  | print value rest _ => exact absurd h (by simp [constant?])
  | branch block subject first second rest _ _ _ => exact absurd h (by simp [constant?])

end Body

/-- The shortcut for bodies that only copy is no more than that. -/
lemma execute_eq_render (t : Template) (r : Request) :
    t.execute r = t.body.render (.request r) := by
  rw [execute]
  split
  · rename_i text htext
    exact (Body.render_of_constant? htext _).symm
  · rfl

end Admission.Template
