/-
  Correlator.Text.Order — TEXTS IN ORDER.

  Texts are compared character by character, a text before those that go on
  after it.  Whatever is listed by its text is listed in this order.

  Main content:
    * `sorted` — texts in ascending order,
    * `sorted_perm`, `pairwise_sorted` — the same texts, and in order.
-/
namespace Correlator.Text

/-- Texts in ascending order. -/
def sorted (texts : List String) : List String := texts.mergeSort fun a b => a ≤ b

/-- Sorting neither loses nor adds a text. -/
theorem sorted_perm (texts : List String) : (sorted texts).Perm texts :=
  List.mergeSort_perm texts _

/-- A text comes before the greater ones. -/
theorem pairwise_sorted (texts : List String) :
    (sorted texts).Pairwise fun a b => a ≤ b := by
  have h := @List.pairwise_mergeSort String (fun a b => decide (a ≤ b))
    (fun a b c hab hbc => by
      rw [decide_eq_true_eq] at hab hbc ⊢
      exact String.le_trans hab hbc)
    (fun a b => by
      rw [Bool.or_eq_true, decide_eq_true_eq, decide_eq_true_eq]
      exact String.le_total a b)
    texts
  exact h.imp fun hab => by rwa [decide_eq_true_eq] at hab

end Correlator.Text
