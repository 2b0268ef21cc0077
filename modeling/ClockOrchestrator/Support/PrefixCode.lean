import Mathlib.Data.List.Basic
import Mathlib.Tactic.Common

-- Texts put together from parts that can be read back one after the other.
namespace PrefixCode

variable {α β τ : Type}

def Told (enc : α → List τ) (ends : List τ → Prop) (a : α) : Prop :=
  ∀ ⦃b x y⦄, ends x → ends y → enc a ++ x = enc b ++ y → a = b ∧ x = y

def continued (sep close : τ) : List (List τ) → List τ
  | [] => [close]
  | text :: rest => sep :: text ++ continued sep close rest

def joined (sep close : τ) : List (List τ) → List τ
  | [] => [close]
  | text :: rest => text ++ continued sep close rest

variable {enc : α → List τ} {ends : List τ → Prop} {sep close : τ} {items items' : List α}
  {x y : List τ}

theorem Told.eq (h : ∀ a, Told enc ends a) (hends : ends []) {a b : α} (heq : enc a = enc b) :
    a = b :=
  (h a hends hends (congrArg (· ++ []) heq)).1

theorem split_at_mark {mark : τ → Prop} {s t : List τ} (hs : ∀ c ∈ s, ¬ mark c)
    (ht : ∀ c ∈ t, ¬ mark c) (hx : ∀ c ∈ x.head?, mark c) (hy : ∀ c ∈ y.head?, mark c)
    (h : s ++ x = t ++ y) : s = t ∧ x = y := by
  induction s generalizing t with
  | nil =>
      cases t with
      | nil => exact ⟨rfl, h⟩
      | cons d t =>
          rw [List.nil_append] at h
          exact absurd (hx d (by rw [h]; rfl)) (ht d List.mem_cons_self)
  | cons c s ih =>
      cases t with
      | nil =>
          rw [List.nil_append] at h
          exact absurd (hy c (by rw [← h]; rfl)) (hs c List.mem_cons_self)
      | cons d t =>
          rw [List.cons_append, List.cons_append, List.cons.injEq] at h
          obtain ⟨rfl, hrest⟩ := h
          rw [List.forall_mem_cons] at hs ht
          obtain ⟨rfl, hxy⟩ := ih hs.2 ht.2 hrest
          exact ⟨rfl, hxy⟩

theorem continued_ends (hsep : ∀ z, ends (sep :: z)) (hclose : ∀ z, ends (close :: z))
    (texts : List (List τ)) (z : List τ) : ends (continued sep close texts ++ z) := by
  cases texts with
  | nil => exact hclose z
  | cons text rest => exact hsep _

theorem continued_told (hne : sep ≠ close) (hsep : ∀ z, ends (sep :: z))
    (hclose : ∀ z, ends (close :: z)) (h : ∀ a ∈ items, Told enc ends a)
    (heq : continued sep close (items.map enc) ++ x = continued sep close (items'.map enc) ++ y) :
    items = items' ∧ x = y := by
  induction items generalizing items' with
  | nil =>
      cases items' with
      | nil => exact ⟨rfl, (List.cons.inj heq).2⟩
      | cons b rest' => exact absurd (List.cons.inj heq).1.symm hne
  | cons a rest ih =>
      cases items' with
      | nil => exact absurd (List.cons.inj heq).1 hne
      | cons b rest' =>
          simp only [List.map_cons, continued, List.cons_append, List.cons.injEq, true_and,
            List.append_assoc] at heq
          rw [List.forall_mem_cons] at h
          have hx := continued_ends hsep hclose (rest.map enc) x
          have hy := continued_ends hsep hclose (rest'.map enc) y
          obtain ⟨rfl, hrest⟩ := h.1 hx hy heq
          obtain ⟨rfl, hxy⟩ := ih h.2 hrest
          exact ⟨rfl, hxy⟩

theorem joined_told (hne : sep ≠ close) (hsep : ∀ z, ends (sep :: z))
    (hclose : ∀ z, ends (close :: z)) (hopen : ∀ a z, (enc a ++ z).head? ≠ some close)
    (h : ∀ a ∈ items, Told enc ends a)
    (heq : joined sep close (items.map enc) ++ x = joined sep close (items'.map enc) ++ y) :
    items = items' ∧ x = y := by
  cases items with
  | nil =>
      cases items' with
      | nil => exact ⟨rfl, (List.cons.inj heq).2⟩
      | cons b rest' =>
          rw [List.map_cons, joined, List.append_assoc] at heq
          exact absurd (congrArg List.head? heq).symm (hopen b _)
  | cons a rest =>
      cases items' with
      | nil =>
          rw [List.map_cons, joined, List.append_assoc] at heq
          exact absurd (congrArg List.head? heq) (hopen a _)
      | cons b rest' =>
          simp only [List.map_cons, joined, List.append_assoc] at heq
          rw [List.forall_mem_cons] at h
          have hx := continued_ends hsep hclose (rest.map enc) x
          have hy := continued_ends hsep hclose (rest'.map enc) y
          obtain ⟨rfl, hrest⟩ := h.1 hx hy heq
          obtain ⟨rfl, hxy⟩ := continued_told hne hsep hclose h.2 hrest
          exact ⟨rfl, hxy⟩

theorem terminated_told (hcode : ∀ a, Told enc (fun _ => True) a)
    (hopen : ∀ a z, (enc a ++ z).head? ≠ some close)
    (heq : items.flatMap enc ++ close :: x = items'.flatMap enc ++ close :: y) :
    items = items' ∧ x = y := by
  induction items generalizing items' with
  | nil =>
      cases items' with
      | nil => exact ⟨rfl, (List.cons.inj heq).2⟩
      | cons b rest' =>
          rw [List.flatMap_cons, List.append_assoc] at heq
          exact absurd (congrArg List.head? heq).symm (hopen b _)
  | cons a rest ih =>
      cases items' with
      | nil =>
          rw [List.flatMap_cons, List.append_assoc] at heq
          exact absurd (congrArg List.head? heq) (hopen a _)
      | cons b rest' =>
          rw [List.flatMap_cons, List.flatMap_cons, List.append_assoc, List.append_assoc] at heq
          obtain ⟨rfl, hrest⟩ := hcode a trivial trivial heq
          obtain ⟨rfl, hxy⟩ := ih hrest
          exact ⟨rfl, hxy⟩

theorem Told.pair {enc' : β → List τ} {a : α} {b : β} (ha : Told enc (fun _ => True) a)
    (hb : Told enc' ends b) :
    Told (fun p : α × β => enc p.1 ++ sep :: enc' p.2) ends (a, b) := by
  rintro ⟨a', b'⟩ x y hx hy heq
  simp only [List.append_assoc, List.cons_append] at heq
  obtain ⟨rfl, hrest⟩ := ha trivial trivial heq
  obtain ⟨rfl, hxy⟩ := hb hx hy (List.cons.inj hrest).2
  exact ⟨rfl, hxy⟩

end PrefixCode
