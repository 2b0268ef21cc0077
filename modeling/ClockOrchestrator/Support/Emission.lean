import Mathlib.Data.List.Basic
import Mathlib.Tactic.Common

-- Systems whose steps emit what they do.
namespace Emission

variable {S L : Type}

inductive Path (step : S → List L → S → Prop) (s : S) : List L → S → Prop
  | refl : Path step s [] s
  | tail {t u : S} {xs ys : List L} : Path step s xs t → step t ys u → Path step s (xs ++ ys) u

variable {step : S → List L → S → Prop} {s t u : S} {xs ys : List L}

theorem Path.single (h : step s xs t) : Path step s xs t := .tail .refl h

theorem Path.trans (h : Path step s xs t) (h' : Path step t ys u) : Path step s (xs ++ ys) u := by
  induction h' with
  | refl =>
      rw [List.append_nil]
      exact h
  | tail _ hs ih =>
      rw [← List.append_assoc]
      exact .tail ih hs

theorem Path.invariant {I : S → Prop} (hstep : ∀ t ys u, step t ys u → I t → I u)
    (h : Path step s xs t) (hs : I s) : I t := by
  induction h with
  | refl => exact hs
  | tail _ hn ih => exact hstep _ _ _ hn ih

theorem Path.loops (h : ∀ x ∈ xs, step s [x] s) : Path step s xs s := by
  induction xs with
  | nil => exact .refl
  | cons x xs ih =>
      rw [List.forall_mem_cons] at h
      exact (Path.single h.1).trans (ih h.2)

theorem Path.locate {x : L} {before after : List L}
    (h : Path step s (before ++ x :: after) u) :
    ∃ pre pre' post t t', Path step s pre t ∧ step t (pre' ++ x :: post) t' ∧
      before = pre ++ pre' := by
  generalize hl : before ++ x :: after = labels at h
  induction h generalizing after with
  | refl => simp at hl
  | @tail t u xs ys hp hs ih =>
      rcases List.append_eq_append_iff.mp hl with ⟨as, hxs, hys⟩ | ⟨bs, hbefore, hys⟩
      · cases as with
        | nil =>
            rw [List.nil_append] at hys
            rw [List.append_nil] at hxs
            exact ⟨xs, [], after, t, u, hp, by rw [List.nil_append, hys]; exact hs, by simp [hxs]⟩
        | cons a as =>
            rw [List.cons_append, List.cons.injEq] at hys
            obtain ⟨rfl, hys⟩ := hys
            exact ih hxs.symm
      · exact ⟨xs, bs, after, t, u, hp, hys ▸ hs, hbefore⟩

end Emission
