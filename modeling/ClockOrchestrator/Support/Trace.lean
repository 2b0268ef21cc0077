import Mathlib.Data.List.Induction
import Mathlib.Tactic.Common

namespace Trace

variable {S A : Type} (next : S → A → Option S)

def run : S → List A → Option S
  | s, [] => some s
  | s, a :: as => (next s a).bind fun t => run t as

inductive Run (guard : S → A → Prop) : S → List A → S → Prop
  | nil (s : S) : Run guard s [] s
  | cons {s t u : S} {a : A} {as : List A} :
      guard s a → next s a = some t → Run guard t as u → Run guard s (a :: as) u

variable {next}

theorem Run.invariant {guard : S → A → Prop} {I : S → Prop}
    (hstep : ∀ s a t, guard s a → next s a = some t → I s → I t)
    {s t : S} {as : List A} (h : Run next guard s as t) (hs : I s) : I t := by
  induction h with
  | nil => exact hs
  | cons hg hn _ ih => exact ih (hstep _ _ _ hg hn hs)

theorem Run.mono {guard guard' : S → A → Prop} (hg : ∀ s a, guard s a → guard' s a)
    {s t : S} {as : List A} (h : Run next guard s as t) : Run next guard' s as t := by
  induction h with
  | nil => exact .nil _
  | cons hga hn _ ih => exact .cons (hg _ _ hga) hn ih

theorem Run.with_actions {guard : S → A → Prop} {P : A → Prop} {s t : S} {as : List A}
    (h : Run next guard s as t) (hP : ∀ a ∈ as, P a) :
    Run next (fun s a => guard s a ∧ P a) s as t := by
  induction h with
  | nil => exact .nil _
  | @cons s m u a as hg hn _ ih =>
      exact .cons ⟨hg, hP a List.mem_cons_self⟩ hn
        (ih fun b hb => hP b (List.mem_cons_of_mem a hb))

theorem Run.append {guard : S → A → Prop} {s t u : S} {as bs : List A}
    (h : Run next guard s as t) (h' : Run next guard t bs u) : Run next guard s (as ++ bs) u := by
  induction h with
  | nil => exact h'
  | cons hg hn _ ih => exact .cons hg hn (ih h')

theorem Run.split {guard : S → A → Prop} {s u : S} {as bs : List A}
    (h : Run next guard s (as ++ bs) u) :
    ∃ t, Run next guard s as t ∧ Run next guard t bs u := by
  induction as generalizing s with
  | nil => exact ⟨s, .nil s, h⟩
  | cons a as ih =>
      cases h with
      | cons hg hn hr =>
          obtain ⟨t, ht, hu⟩ := ih hr
          exact ⟨t, .cons hg hn ht, hu⟩

theorem Run.invariant_past {guard : S → A → Prop} {I : List A → S → Prop} {s t : S} {as : List A}
    (hstep : ∀ as a m m', Run next guard s as m → guard m a → next m a = some m' → I as m →
      I (as ++ [a]) m')
    (h : Run next guard s as t) (hs : I [] s) : I as t := by
  induction as using List.reverseRecOn generalizing t with
  | nil =>
      cases h
      exact hs
  | append_singleton as a ih =>
      obtain ⟨m, hm, hlast⟩ := h.split
      cases hlast with
      | cons hg hn hnil =>
          cases hnil
          exact hstep as a m t hm hg hn (ih hm)

variable (next) in
def outputs {B : Type} (out : S → A → List B) : S → List A → List B
  | _, [] => []
  | s, a :: as => out s a ++ (next s a).elim [] fun t => outputs out t as

theorem Run.outputs_concat {guard : S → A → Prop} {B : Type} {out : S → A → List B} {s t : S}
    {as : List A} (h : Run next guard s as t) (a : A) :
    outputs next out s (as ++ [a]) = outputs next out s as ++ out t a := by
  induction h with
  | nil s => cases hn : next s a <;> simp [outputs, hn]
  | cons _ hn _ ih =>
      rw [List.cons_append, outputs, outputs, hn, Option.elim_some, Option.elim_some, ih,
        List.append_assoc]

theorem Run.exists_step {guard : S → A → Prop} {P : S → Prop} {s t : S} {as : List A}
    (h : Run next guard s as t) (hs : ¬ P s) (ht : P t) :
    ∃ before a after m m', as = before ++ a :: after ∧ Run next guard s before m ∧ guard m a ∧
      next m a = some m' ∧ ¬ P m ∧ P m' := by
  induction h with
  | nil => exact absurd ht hs
  | @cons s m u a as hg hn hr ih =>
      by_cases hm : P m
      · exact ⟨[], a, as, s, m, rfl, .nil s, hg, hn, hs, hm⟩
      · obtain ⟨before, b, after, x, x', has, hrun, hgx, hnx, hpx, hpx'⟩ := ih hm ht
        exact ⟨a :: before, b, after, x, x', by rw [has]; rfl, .cons hg hn hrun, hgx, hnx, hpx, hpx'⟩

theorem run_append (s : S) (as bs : List A) :
    run next s (as ++ bs) = (run next s as).bind fun t => run next t bs := by
  induction as generalizing s with
  | nil => rfl
  | cons a as ih =>
      rw [List.cons_append, run, run, Option.bind_assoc]
      exact congrArg _ (funext ih)

theorem run_of_eq_some {guard : S → A → Prop} {s t : S} {as : List A}
    (hg : ∀ a ∈ as, ∀ s, guard s a) (h : run next s as = some t) : Run next guard s as t := by
  induction as generalizing s with
  | nil =>
      simp only [run, Option.some.injEq] at h
      exact h ▸ .nil s
  | cons a as ih =>
      simp only [run, Option.bind_eq_some_iff] at h
      obtain ⟨m, hm, hr⟩ := h
      exact .cons (hg a (List.mem_cons_self ..) s) hm
        (ih (fun a' ha => hg a' (List.mem_cons_of_mem a ha)) hr)

variable (next) in
def guarded (guard : S → A → Prop) [∀ s a, Decidable (guard s a)] (s : S) (a : A) : Option S :=
  if guard s a then next s a else none

theorem run_of_guarded {guard : S → A → Prop} [∀ s a, Decidable (guard s a)] {s t : S}
    {as : List A} (h : run (guarded next guard) s as = some t) :
    Run next guard s as t := by
  have hrun : Run (guarded next guard) (fun _ _ => True) s as t :=
    run_of_eq_some (fun _ _ _ => trivial) h
  clear h
  induction hrun with
  | nil => exact .nil _
  | cons _ hn _ ih =>
      obtain ⟨hg, hn⟩ := Option.ite_none_right_eq_some.mp hn
      exact .cons hg hn ih

variable (next) in
theorem exists_run (guard : S → A → Prop) [∀ s a, Decidable (guard s a)] (s : S) (as : List A)
    {p : S → Bool} (h : (run (guarded next guard) s as).any p = true) :
    ∃ t, Run next guard s as t ∧ p t = true := by
  obtain ⟨t, ht, hp⟩ := (Option.any_eq_true _ _).mp h
  exact ⟨t, run_of_guarded ht, hp⟩

end Trace
