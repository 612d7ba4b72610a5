import Mathlib.Algebra.Group.Action.Defs
import Mathlib.Algebra.Order.BigOperators.Group.List
import Mathlib.Algebra.Order.Ring.Nat
import Mathlib.Tactic.Lemma
import PerfGate.Load.Config

/-!
# The shares of the workers

The requests of a run are split over its workers as evenly as whole numbers allow, the larger shares
first. A list of shares of this kind is an `EvenShares`, and `distribute` is the only one
(`evenShares_iff`), since the first share is the total over the number of workers, rounded up, and
the others are the even shares of what is left. No share and no sum of shares exceeds the total, so
nothing overflows where the total is a word (`distribute_evenly`).
-/

namespace PerfGate.Load

/-- So many shares of the total, no two of which are apart by more than one, the larger ones
first. -/
structure EvenShares (total workers : Nat) (shares : List Nat) : Prop where
  length : shares.length = workers
  sum : shares.sum = total
  spread : ∀ a ∈ shares, ∀ b ∈ shares, a ≤ b + 1
  ordered : shares.Pairwise (· ≥ ·)

/-- The sum of two words of 64 bits, if it is a word. -/
def addWord? (a b : Nat) : Option Nat :=
  if a + b < UInt64.size then some (a + b) else none

/-- The share of a worker, worked out in words. -/
def shareWord? (total workers i : Nat) : Option Nat :=
  addWord? (total / workers) (if i < total % workers then 1 else 0)

/-- The sum of a list, worked out in words from its front. -/
def sumWords? (words : List Nat) : Option Nat :=
  words.foldlM addWord? 0

variable {total workers share share' : Nat} {shares shares' : List Nat}

/-! ## Uniqueness -/

/-- Behind the first share there are even shares of what is left. -/
lemma EvenShares.tail (even : EvenShares total workers (share :: shares)) :
    EvenShares (total - share) (workers - 1) shares := by
  have sum := even.sum
  rw [List.sum_cons] at sum
  refine ⟨?_, ?_, fun a memA b memB => ?_, (List.pairwise_cons.1 even.ordered).2⟩
  · rw [← even.length, List.length_cons, Nat.add_sub_cancel]
  · rw [← sum, Nat.add_sub_cancel_left]
  · exact even.spread a (List.mem_cons_of_mem share memA) b (List.mem_cons_of_mem share memB)

/-- The first share is large enough for all. -/
lemma EvenShares.le_mul_head (even : EvenShares total workers (share :: shares)) :
    total ≤ workers * share := by
  have largest : ∀ b ∈ share :: shares, b ≤ share := by
    rw [List.forall_mem_cons]
    exact ⟨le_rfl, (List.pairwise_cons.1 even.ordered).1⟩
  have bound := List.sum_le_card_nsmul (share :: shares) share largest
  rwa [even.sum, even.length, smul_eq_mul] at bound

/-- It is the least that is large enough. -/
lemma EvenShares.mul_head_lt (even : EvenShares total workers (share :: shares)) :
    workers * share < total + workers := by
  have near : ∀ c ∈ shares.map (· + 1), share ≤ c := by
    rw [List.forall_mem_map]
    exact fun b mem => even.spread share List.mem_cons_self b (List.mem_cons_of_mem share mem)
  have bound := List.card_nsmul_le_sum (shares.map (· + 1)) share near
  have raised : (shares.map (· + 1)).sum = shares.sum + shares.length := by
    rw [List.sum_map_add, List.map_id', List.map_const', List.sum_replicate, smul_eq_mul,
      Nat.mul_one]
  rw [raised, List.length_map, smul_eq_mul] at bound
  have sum := even.sum
  have length := even.length
  rw [List.sum_cons] at sum
  rw [List.length_cons] at length
  rw [← length, Nat.succ_mul]
  omega

/-- So there is one first share only. -/
lemma EvenShares.head_le (even : EvenShares total workers (share :: shares))
    (even' : EvenShares total workers (share' :: shares')) : share ≤ share' := by
  have below : workers * share < workers * (share' + 1) :=
    calc workers * share < total + workers := even.mul_head_lt
      _ ≤ workers * share' + workers := Nat.add_le_add_right even'.le_mul_head workers
  exact Nat.le_of_lt_succ (Nat.lt_of_mul_lt_mul_left below)

lemma EvenShares.unique (even : EvenShares total workers shares)
    (even' : EvenShares total workers shares') : shares = shares' := by
  induction shares generalizing total workers shares' with
  | nil =>
    have none : shares'.length = 0 := even'.length.trans even.length.symm
    exact (List.length_eq_zero_iff.1 none).symm
  | cons share shares ih =>
    cases shares' with
    | nil => cases even.length.trans even'.length.symm
    | cons share' shares' =>
      obtain rfl : share = share' := Nat.le_antisymm (even.head_le even') (even'.head_le even)
      rw [ih even.tail even'.tail]

/-! ## Existence -/

lemma length_distribute (total workers : Nat) : (distribute total workers).length = workers := by
  rw [distribute, List.length_map, List.length_range]

/-- The shares of the workers add up to all requests. -/
lemma sum_distribute (total : Nat) {workers : Nat} (h : workers ≠ 0) :
    (distribute total workers).sum = total := by
  have firstShares (n : Nat) : ((List.range n).map fun i => total / workers +
      if i < total % workers then 1 else 0).sum =
        n * (total / workers) + min n (total % workers) := by
    induction n with
    | zero => simp
    | succ n ih =>
      rw [List.range_succ, List.map_append, List.sum_append, ih, Nat.succ_mul]
      simp only [List.map_cons, List.map_nil, List.sum_cons, List.sum_nil]
      split <;> omega
  have rest : total % workers < workers := Nat.mod_lt _ (Nat.pos_of_ne_zero h)
  rw [distribute, firstShares, Nat.min_eq_right (Nat.le_of_lt rest)]
  exact Nat.div_add_mod total workers

lemma evenShares_distribute (total : Nat) (h : workers ≠ 0) :
    EvenShares total workers (distribute total workers) := by
  refine ⟨length_distribute total workers, sum_distribute total h, ?spread, ?ordered⟩
  case spread =>
    intro a memA b memB
    obtain ⟨i, -, rfl⟩ := List.mem_map.1 memA
    obtain ⟨j, -, rfl⟩ := List.mem_map.1 memB
    split <;> split <;> omega
  case ordered =>
    refine List.pairwise_map.2 (List.pairwise_lt_range.imp fun {i j} before => ?_)
    split <;> split <;> omega

lemma evenShares_iff (h : workers ≠ 0) :
    EvenShares total workers shares ↔ shares = distribute total workers := by
  constructor
  · exact fun even => even.unique (evenShares_distribute total h)
  · rintro rfl
    exact evenShares_distribute total h

/-! ## Words -/

lemma addWord?_eq_some {a b : Nat} (fits : a + b < UInt64.size) : addWord? a b = some (a + b) :=
  if_pos fits

/-- If the sum of all is a word, so is every sum on the way to it. -/
lemma foldlM_addWord? {start : Nat} {words : List Nat} (fits : start + words.sum < UInt64.size) :
    words.foldlM addWord? start = some (start + words.sum) := by
  induction words generalizing start with
  | nil => rfl
  | cons word words ih =>
    rw [List.sum_cons, ← Nat.add_assoc] at fits ⊢
    rw [List.foldlM_cons, addWord?_eq_some (Nat.lt_of_le_of_lt (Nat.le_add_right _ _) fits)]
    exact ih fits

lemma sumWords?_eq_some {words : List Nat} (fits : words.sum < UInt64.size) :
    sumWords? words = some words.sum := by
  rw [← Nat.zero_add words.sum] at fits ⊢
  exact foldlM_addWord? fits

/-- The share of a worker is a word because the total is. -/
lemma shareWord?_eq {i : Nat} (word : total < UInt64.size) (worker : i < workers) :
    shareWord? total workers i = (distribute total workers)[i]? := by
  have listed : (distribute total workers)[i]? =
      some (total / workers + if i < total % workers then 1 else 0) := by
    rw [distribute, List.getElem?_map, List.getElem?_range worker, Option.map_some]
  have bound := List.le_sum_of_mem (List.mem_of_getElem? listed)
  rw [sum_distribute total (Nat.ne_of_gt (Nat.zero_lt_of_lt worker))] at bound
  rw [listed]
  exact addWord?_eq_some (Nat.lt_of_le_of_lt bound word)

/-- The shares of the workers are the only even ones. If the total is a word, each of them can be
worked out in words, and they can be added up in words in whatever order. -/
theorem distribute_evenly (word : total < UInt64.size) (someWorker : 1 ≤ workers) :
    (∀ shares, EvenShares total workers shares ↔ shares = distribute total workers) ∧
      (∀ i < workers, shareWord? total workers i = (distribute total workers)[i]?) ∧
      ∀ shares, shares.Perm (distribute total workers) → sumWords? shares = some total := by
  have workers_ne : workers ≠ 0 := Nat.ne_of_gt someWorker
  refine ⟨fun shares => evenShares_iff workers_ne, fun i worker => shareWord?_eq word worker,
    fun shares order => ?_⟩
  have sum : shares.sum = total := order.sum_eq.trans (sum_distribute total workers_ne)
  rw [← sum] at word ⊢
  exact sumWords?_eq_some word

/-- The greatest total, and more workers than go into it evenly. -/
theorem distribute_evenly_greatest :
    UInt64.size - 1 < UInt64.size ∧ 1 ≤ 7 ∧
      EvenShares (UInt64.size - 1) 7
        [2635249153387078803, 2635249153387078802, 2635249153387078802, 2635249153387078802,
          2635249153387078802, 2635249153387078802, 2635249153387078802] ∧
      shareWord? (UInt64.size - 1) 7 0 = some 2635249153387078803 ∧
      sumWords? (distribute (UInt64.size - 1) 7).reverse = some (UInt64.size - 1) := by
  have word : UInt64.size - 1 < UInt64.size := by decide
  obtain ⟨only, share, sum⟩ := distribute_evenly word (by decide : 1 ≤ 7)
  exact ⟨word, by decide, (only _).2 (by decide), (share 0 (by decide)).trans (by decide),
    sum _ (List.reverse_perm _)⟩

end PerfGate.Load
