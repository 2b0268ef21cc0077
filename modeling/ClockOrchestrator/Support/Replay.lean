import Mathlib.Data.List.Basic
import Mathlib.Tactic.Common

namespace Replay

variable {ε κ σ ρ : Type} {key : ε → κ} {sig : ε → σ} {place : ε → Option ρ} {entries : List ε}
  {reported reported' : List ρ} {new last : ε}

def Listed (place : ε → Option ρ) (reported : List ρ) (e : ε) : Prop :=
  ∀ r, place e = some r → r ∈ reported

def Covers (key : ε → κ) (sig : ε → σ) (place : ε → Option ρ) (entries : List ε)
    (reported : List ρ) : Prop :=
  ∀ e ∈ entries, ∀ e' ∈ entries, key e = key e' → sig e ≠ sig e' → Listed place reported e

theorem Listed.mono {e : ε} (h : Listed place reported e) (hsub : reported ⊆ reported') :
    Listed place reported' e :=
  fun r hr => hsub (h r hr)

theorem Covers.nil : Covers key sig place [] reported := by
  intro e he
  cases he

theorem Covers.concat (h : Covers key sig place entries reported) (hsub : reported ⊆ reported')
    (hplace : ∀ e e', sig e = sig e' → place e = place e')
    (hnew : ∀ e ∈ entries, key e = key new → ∃ last ∈ entries, key last = key new ∧
      (sig last ≠ sig new → Listed place reported' last ∧ Listed place reported' new)) :
    Covers key sig place (entries ++ [new]) reported' := by
  have hpair : ∀ e ∈ entries, key e = key new → sig e ≠ sig new →
      Listed place reported' e ∧ Listed place reported' new := by
    intro e he hkey hsig
    obtain ⟨last, hlast, hkeylast, hreports⟩ := hnew e he hkey
    by_cases hsame : sig e = sig last
    · obtain ⟨hl, hn⟩ := hreports (hsame ▸ hsig)
      refine ⟨?_, hn⟩
      unfold Listed
      rw [hplace e last hsame]
      exact hl
    · have hkeys := hkey.trans hkeylast.symm
      refine ⟨(h e he last hlast hkeys hsame).mono hsub, ?_⟩
      by_cases hagain : sig last = sig new
      · unfold Listed
        rw [← hplace last new hagain]
        exact (h last hlast e he hkeys.symm (Ne.symm hsame)).mono hsub
      · exact (hreports hagain).2
  intro e he e' he' hkey hsig
  rcases List.mem_append.mp he with he | he <;> rcases List.mem_append.mp he' with he' | he'
  · exact (h e he e' he' hkey hsig).mono hsub
  · rw [List.mem_singleton.mp he'] at hkey hsig
    exact (hpair e he hkey hsig).1
  · rw [List.mem_singleton.mp he] at hkey hsig ⊢
    exact (hpair e' he' hkey.symm (Ne.symm hsig)).2
  · rw [List.mem_singleton.mp he, List.mem_singleton.mp he'] at hsig
    exact absurd rfl hsig

end Replay
