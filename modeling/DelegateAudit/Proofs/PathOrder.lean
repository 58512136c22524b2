import DelegateAudit.Proofs.FilesBelow

/-!
# DelegateAudit — the order of paths

Texts are compared code point by code point, lists of names text by text, and paths by their roots
and then by their names. Each of these is a lexicographic order over the one before it, so the
library's laws for such orders carry over, and what is sorted by paths comes out in order.

Main results:

* `Text.cmp_eq`, `Path.cmpNames_eq` — the comparisons are lexicographic.
* `Path.le_trans`, `Path.le_total` — paths stand in one row.
* `FileTree.found_sorted` — a search lists files in order.
-/

namespace DelegateAudit

/-- Texts are compared by the first difference. -/
theorem Text.cmp_eq : Text.cmp = List.compareLex (compareOn CodePoint.value) := by
  funext s t
  induction s generalizing t with
  | nil => cases t <;> rfl
  | cons a s ih =>
    cases t with
    | nil => rfl
    | cons b t =>
      rw [Text.cmp, ih, List.compareLex_cons_cons]
      rfl

/-- The comparison of texts is that of an order. -/
instance : Std.TransCmp Text.cmp := by
  rw [Text.cmp_eq]
  infer_instance

/-- Things compared by what is seen of them. -/
theorem transCmp_on {α β : Type} (f : α → β) (cmp : β → β → Ordering) [Std.TransCmp cmp] :
    Std.TransCmp fun a b => cmp (f a) (f b) where
  eq_swap := Std.OrientedCmp.eq_swap
  isLE_trans := Std.TransCmp.isLE_trans

namespace Path

/-- Lists of names are compared by the first name that differs. -/
theorem cmpNames_eq : cmpNames = List.compareLex Text.cmp := by
  funext s t
  induction s generalizing t with
  | nil => cases t <;> rfl
  | cons a s ih =>
    cases t with
    | nil => rfl
    | cons b t => rw [cmpNames, ih, List.compareLex_cons_cons]

/-- The comparison of lists of names is that of an order. -/
instance : Std.TransCmp cmpNames := by
  rw [cmpNames_eq]
  infer_instance

/-- The comparison behind `Path.le`: by roots, and by names under the same root. -/
def cmp : Path → Path → Ordering :=
  compareLex (fun p q => Text.cmp p.root q.root) fun p q => cmpNames p.names q.names

/-- The comparison of paths is that of an order. -/
instance : Std.TransCmp cmp := by
  have hroots := transCmp_on Path.root Text.cmp
  have hnames := transCmp_on Path.names cmpNames
  exact Std.instTransCmpCompareLex

/-- To come no later is a matter of the comparison. -/
theorem le_eq (p q : Path) : le p q = (cmp p q).isLE := rfl

/-- What comes no later than a path that comes no later than a third comes no later than that. -/
theorem le_trans {p q r : Path} (hpq : le p q = true) (hqr : le q r = true) : le p r = true := by
  rw [le_eq] at hpq hqr ⊢
  exact Std.TransCmp.isLE_trans hpq hqr

/-- Of two paths, one comes no later than the other. -/
theorem le_total (p q : Path) : (le p q || le q p) = true := by
  have hswap : cmp p q = (cmp q p).swap := Std.OrientedCmp.eq_swap
  rw [le_eq, le_eq, hswap]
  cases cmp q p <;> rfl

end Path

/-- A search lists files in order. -/
theorem FileTree.found_sorted (base : Path) (entries : List (Text × Node)) (s : Search) :
    (found base entries s).Pairwise fun p q => Path.le p q = true := by
  have htrans : ∀ p q r, Path.le p q = true → Path.le q r = true → Path.le p r = true := by
    intro p q r hpq hqr
    exact Path.le_trans hpq hqr
  exact List.pairwise_mergeSort htrans Path.le_total _

end DelegateAudit
