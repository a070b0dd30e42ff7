import Mathlib.Data.List.Sort

set_option autoImplicit false

/- `std::sort` and `std::partial_sort` with a comparator `precedes`. The standard fixes only
   that the result is a permutation ordered by the comparator; when the comparator orders
   every two distinct candidates, that is one list. It is modelled by an insertion sort on
   "not after", and `partial_sort` of the first `k` by the first `k` of it. -/
namespace Graphene.Chain

section
variable {α : Type} (precedes : α → α → Bool)

def sortBy (l : List α) : List α := l.insertionSort fun a b => !precedes b a

def partialSortBy (k : Nat) (l : List α) : List α := (sortBy precedes l).take k

structure StrictWeakOrder : Prop where
  asymm : ∀ a b, precedes a b → precedes b a = false
  negTrans : ∀ a b c, precedes a c → precedes a b ∨ precedes b c

def Connected (l : List α) : Prop := ∀ a ∈ l, ∀ b ∈ l, a ≠ b → precedes a b ∨ precedes b a

theorem sortBy_perm (l : List α) : (sortBy precedes l).Perm l := List.perm_insertionSort _ l

@[simp] theorem mem_sortBy {l : List α} {a : α} : a ∈ sortBy precedes l ↔ a ∈ l :=
  List.mem_insertionSort _

variable {precedes}

theorem StrictWeakOrder.notAfter_trans (order : StrictWeakOrder precedes) :
    IsTrans α fun a b => (!precedes b a) = true where
  trans a b c ab bc := by
    cases ca : precedes c a
    · rfl
    · rcases order.negTrans c b a ca with cb | ba <;> simp_all

theorem StrictWeakOrder.notAfter_total (order : StrictWeakOrder precedes) :
    IsTotal α fun a b => (!precedes b a) = true where
  total a b := by
    cases ba : precedes b a
    · exact .inl rfl
    · simp [order.asymm b a ba]

theorem Connected.of_perm {l l' : List α} (connected : Connected precedes l) (perm : l.Perm l') :
    Connected precedes l' := fun a ha b hb =>
  connected a (perm.mem_iff.mpr ha) b (perm.mem_iff.mpr hb)

theorem sortBy_pairwise (order : StrictWeakOrder precedes) {l : List α} (distinct : l.Nodup)
    (connected : Connected precedes l) : (sortBy precedes l).Pairwise (precedes · ·) := by
  have := order.notAfter_trans
  have := order.notAfter_total
  have sorted := List.sorted_insertionSort (fun a b => (!precedes b a) = true) l
  have nodup : (sortBy precedes l).Nodup := (sortBy_perm precedes l).nodup_iff.mpr distinct
  refine (sorted.and nodup).imp_of_mem fun {a b} ha hb ⟨notAfter, ne⟩ => ?_
  rcases connected a ((mem_sortBy precedes).mp ha) b ((mem_sortBy precedes).mp hb) ne with ab | ba
  · exact ab
  · simp [ba] at notAfter

theorem sortBy_eq_of_perm (order : StrictWeakOrder precedes) {l l' : List α} (perm : l.Perm l')
    (distinct : l.Nodup) (connected : Connected precedes l) : sortBy precedes l = sortBy precedes l' := by
  have : IsAntisymm α (precedes · ·) := ⟨fun a b ab ba => by simp [order.asymm a b ab] at ba⟩
  exact List.eq_of_perm_of_sorted (((sortBy_perm precedes l).trans perm).trans (sortBy_perm precedes l').symm)
    (sortBy_pairwise order distinct connected)
    (sortBy_pairwise order (perm.nodup_iff.mp distinct) (connected.of_perm perm))

theorem partialSortBy_precedes (order : StrictWeakOrder precedes) {l : List α} (distinct : l.Nodup)
    (connected : Connected precedes l) (k : Nat) :
    ∀ a ∈ partialSortBy precedes k l, ∀ b ∈ (sortBy precedes l).drop k, precedes a b := by
  have sorted := sortBy_pairwise order distinct connected
  rw [← List.take_append_drop k (sortBy precedes l), List.pairwise_append] at sorted
  exact sorted.2.2

def stakeThenKey (stake : α → Int) (key : α → Nat) (a b : α) : Bool :=
  if stake a ≠ stake b then stake a > stake b else key a < key b

theorem stakeThenKey_iff (stake : α → Int) (key : α → Nat) (a b : α) :
    stakeThenKey stake key a b = true ↔ stake b < stake a ∨ stake a = stake b ∧ key a < key b := by
  unfold stakeThenKey
  split <;> simp_all

theorem stakeThenKey_order (stake : α → Int) (key : α → Nat) : StrictWeakOrder (stakeThenKey stake key) where
  asymm a b ab := by
    rw [stakeThenKey_iff] at ab
    rw [← Bool.not_eq_true, stakeThenKey_iff]
    omega
  negTrans a b c ac := by
    simp only [stakeThenKey_iff] at *
    omega

theorem stakeThenKey_connected (stake : α → Int) (key : α → Nat) {l : List α}
    (distinct : (l.map key).Nodup) : Connected (stakeThenKey stake key) l := by
  intro a ha b hb ne
  have keys : key a ≠ key b := fun same => ne (List.inj_on_of_nodup_map distinct ha hb same)
  simp only [stakeThenKey_iff]
  omega

theorem sortBy_stakeThenKey (stake : α → Int) (key : α → Nat) {l : List α}
    (distinct : (l.map key).Nodup) :
    (sortBy (stakeThenKey stake key) l).Perm l ∧
      (sortBy (stakeThenKey stake key) l).Pairwise (stakeThenKey stake key · ·) :=
  ⟨sortBy_perm _ l, sortBy_pairwise (stakeThenKey_order stake key) (distinct.of_map key)
    (stakeThenKey_connected stake key distinct)⟩

end

end Graphene.Chain
