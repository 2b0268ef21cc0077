import Mathlib.Order.Lattice
import Mathlib.Data.List.Chain
import Mathlib.Tactic.Common

namespace WindowChain

variable {W α : Type} [LinearOrder α] {opens closes : W → α} {windows : List W}

def Chained (opens closes : W → α) (windows : List W) : Prop :=
  windows.IsChain fun before after => opens after ≤ closes before

theorem Chained.covers (h : Chained opens closes windows) {first last : W}
    (hfirst : windows.head? = some first) (hlast : windows.getLast? = some last) {u : α}
    (hopen : opens first ≤ u) (hclose : u ≤ closes last) :
    ∃ window ∈ windows, opens window ≤ u ∧ u ≤ closes window := by
  induction windows generalizing first with
  | nil => cases hfirst
  | cons window rest ih =>
      cases hfirst
      rcases le_or_gt u (closes window) with hu | hu
      · exact ⟨window, List.mem_cons_self, hopen, hu⟩
      · cases rest with
        | nil =>
            cases hlast
            exact absurd hclose (not_le.mpr hu)
        | cons next rest =>
            have hnext : opens next ≤ u := (List.isChain_cons_cons.mp h).1.trans hu.le
            obtain ⟨found, hfound, hin⟩ :=
              ih (List.isChain_cons_cons.mp h).2 rfl hlast hnext
            exact ⟨found, List.mem_cons_of_mem window hfound, hin⟩

end WindowChain
