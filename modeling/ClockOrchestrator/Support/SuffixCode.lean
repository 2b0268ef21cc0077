import Mathlib.Data.List.Nodup
import Mathlib.Data.List.Pairwise

-- Codes of which none is the end of another, so that a text tells what it ends with.
namespace SuffixCode

variable {α : Type} {codes : List (List α)} {a b s t : List α}

def SuffixFree (codes : List (List α)) : Prop :=
  codes.Pairwise fun s t => ¬ s <:+ t ∧ ¬ t <:+ s

instance [DecidableEq α] (codes : List (List α)) : Decidable (SuffixFree codes) :=
  inferInstanceAs (Decidable (codes.Pairwise fun s t => ¬ s <:+ t ∧ ¬ t <:+ s))

theorem SuffixFree.append_inj (h : SuffixFree codes) (hs : s ∈ codes) (ht : t ∈ codes)
    (heq : a ++ s = b ++ t) : a = b ∧ s = t := by
  have hsame : s = t := by
    by_contra hne
    have : Std.Symm fun s t : List α => ¬ s <:+ t ∧ ¬ t <:+ s := ⟨fun _ _ hst => hst.symm⟩
    have happart := List.Pairwise.forall h hs ht hne
    have ht' : t <:+ a ++ s := heq ▸ List.suffix_append b t
    rcases List.suffix_or_suffix_of_suffix (List.suffix_append a s) ht' with hst | hts
    · exact happart.1 hst
    · exact happart.2 hts
  subst hsame
  exact ⟨List.append_cancel_right heq, rfl⟩

theorem SuffixFree.nodup (h : SuffixFree codes) : codes.Nodup := by
  refine h.imp ?_
  rintro s t ⟨hst, -⟩ rfl
  exact hst List.suffix_rfl

theorem nodup_of_flatMap {β γ : Type} {items : List β} {f : β → List γ} (hne : ∀ b, f b ≠ [])
    (h : (items.flatMap f).Nodup) : items.Nodup := by
  refine (List.nodup_flatMap.mp h).2.imp ?_
  rintro b c hapart rfl
  obtain ⟨text, htext⟩ := List.exists_mem_of_ne_nil _ (hne b)
  exact hapart htext htext

theorem SuffixFree.nodup_flatMap_iff (h : SuffixFree codes) (hne : codes ≠ [])
    {keys : List (List α)} :
    (keys.flatMap fun key => codes.map (key ++ ·)).Nodup ↔ keys.Nodup := by
  constructor
  · exact nodup_of_flatMap fun key => by simpa using hne
  · intro hkeys
    rw [List.nodup_flatMap]
    refine ⟨fun key _ => h.nodup.map (List.append_right_injective key), hkeys.imp ?_⟩
    intro a b hab text ha hb
    obtain ⟨s, hs, rfl⟩ := List.mem_map.mp ha
    obtain ⟨t, ht, heq⟩ := List.mem_map.mp hb
    exact hab (h.append_inj ht hs heq).1.symm

end SuffixCode
