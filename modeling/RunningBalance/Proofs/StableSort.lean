import Mathlib

/-!
# Sorting by a key

Merge sort by a key is stable: elements of one key keep their order. `pairwise_sortByKey` says so
for any relation that holds from each element of a list to every later one: in the sorted list it
still holds between elements of one key, and other elements stand in the order of their keys.

A sorted list is told by its elements of each key (`eq_sortByKey`). So an element that is given last
is sorted in behind all that has its key or a smaller one (`sortByKey_concat`), and a sorted list
can be taken apart and sorted together again (`sortByKey_filter_append_filter_not`).
-/

set_option autoImplicit false
set_option relaxedAutoImplicit false

namespace RunningBalance.StableSort

variable {α κ : Type*} [LinearOrder κ]

/-- The list in the order of a key; elements of one key keep their order. -/
def sortByKey (key : α → κ) (xs : List α) : List α :=
  xs.mergeSort fun a b ↦ decide (key a ≤ key b)

theorem sortByKey_perm (key : α → κ) (xs : List α) : (sortByKey key xs).Perm xs :=
  List.mergeSort_perm _ _

private theorem key_trans (key : α → κ) (a b c : α) (hab : decide (key a ≤ key b) = true)
    (hbc : decide (key b ≤ key c) = true) : decide (key a ≤ key c) = true := by
  rw [decide_eq_true_eq] at *
  exact le_trans hab hbc

private theorem key_total (key : α → κ) (a b : α) :
    (decide (key a ≤ key b) || decide (key b ≤ key a)) = true := by
  rw [Bool.or_eq_true, decide_eq_true_eq, decide_eq_true_eq]
  exact le_total _ _

/-- Keys do not decrease along a sorted list. -/
theorem pairwise_key_le (key : α → κ) (xs : List α) :
    (sortByKey key xs).Pairwise fun a b ↦ key a ≤ key b :=
  (List.pairwise_mergeSort (key_trans key) (key_total key) xs).imp of_decide_eq_true

/-- Elements that carry more than their key are sorted like what they are mapped to. -/
theorem map_sortByKey {β : Type*} (key : β → κ) (f : α → β) (xs : List α) :
    (sortByKey (fun x ↦ key (f x)) xs).map f = sortByKey key (xs.map f) :=
  List.map_mergeSort fun _ _ _ _ ↦ rfl

/-- Two keys that compare the elements of a list alike sort it alike. -/
theorem sortByKey_congr_key {κ' : Type*} [LinearOrder κ'] {key : α → κ} {key' : α → κ'}
    {xs : List α} (h : ∀ x ∈ xs, ∀ y ∈ xs, key x ≤ key y ↔ key' x ≤ key' y) :
    sortByKey key xs = sortByKey key' xs := by
  have hsame := List.map_mergeSort (r := fun x y ↦ decide (key x ≤ key y))
    (s := fun x y ↦ decide (key' x ≤ key' y)) (f := id)
    fun x hx y hy ↦ decide_eq_decide.2 (h x hx y hy)
  rwa [List.map_id, List.map_id] at hsame

/-- The first element of a list is sorted in before the elements of its key and of greater keys, and
after all others. -/
theorem sortByKey_cons (key : α → κ) (x : α) (xs : List α) :
    ∃ before after, sortByKey key (x :: xs) = before ++ x :: after ∧
      sortByKey key xs = before ++ after ∧ ∀ y ∈ before, key y < key x := by
  obtain ⟨before, after, hcons, hrest, hbefore⟩ :=
    List.mergeSort_cons (key_trans key) (key_total key) x xs
  refine ⟨before, after, hcons, hrest, fun y hy ↦ ?_⟩
  have hnot := hbefore y hy
  rw [Bool.not_eq_true', decide_eq_false_iff_not] at hnot
  exact lt_of_not_ge hnot

/-- What holds from each element to every later one still holds, after sorting, between elements of
one key; all others stand in the order of their keys. -/
theorem pairwise_sortByKey (key : α → κ) {r : α → α → Prop} {xs : List α} (h : xs.Pairwise r) :
    (sortByKey key xs).Pairwise fun a b ↦ key a < key b ∨ key a = key b ∧ r a b := by
  induction xs with
  | nil => simp [sortByKey]
  | cons x xs ih =>
    obtain ⟨hx, hxs⟩ := List.pairwise_cons.1 h
    obtain ⟨before, after, hcons, hrest, hbefore⟩ := sortByKey_cons key x xs
    have hsorted := ih hxs
    have hkeys := pairwise_key_le key (x :: xs)
    rw [hrest, List.pairwise_append] at hsorted
    rw [hcons, List.pairwise_append, List.pairwise_cons] at hkeys
    rw [hcons, List.pairwise_append, List.pairwise_cons]
    refine ⟨hsorted.1, ⟨fun y hy ↦ ?_, hsorted.2.1⟩, fun y hy z hz ↦ ?_⟩
    · have hmem : y ∈ sortByKey key xs := hrest ▸ List.mem_append_right before hy
      have hr : r x y := hx y ((sortByKey_perm key xs).mem_iff.1 hmem)
      rcases lt_or_eq_of_le (hkeys.2.1.1 y hy) with hlt | heq
      · exact .inl hlt
      · exact .inr ⟨heq, hr⟩
    · rcases List.mem_cons.1 hz with rfl | hz
      · exact .inl (hbefore y hy)
      · exact hsorted.2.2 y hy z hz

/-! ### Cutting and filtering -/

/-- A test takes apart again what passes it and what does not. -/
theorem filter_append_eq (test : α → Bool) {passed refused : List α}
    (hpassed : ∀ x ∈ passed, test x) (hrefused : ∀ x ∈ refused, ¬test x) :
    (passed ++ refused).filter test = passed ∧
      (passed ++ refused).filter (!test ·) = refused := by
  constructor
  · rw [List.filter_append, List.filter_eq_self.2 hpassed, List.filter_eq_nil_iff.2 hrefused,
      List.append_nil]
  · rw [List.filter_append, List.filter_eq_nil_iff.2 fun x hx ↦ by simpa using hpassed x hx,
      List.filter_eq_self.2 fun x hx ↦ by simpa using hrefused x hx, List.nil_append]

/-- A list in which what passes a test stands before what does not is cut in two by the test. -/
theorem filter_append_filter_not {test : α → Bool} {xs : List α}
    (h : xs.Pairwise fun a b ↦ test b → test a) :
    xs.filter test ++ xs.filter (!test ·) = xs := by
  induction xs with
  | nil => rfl
  | cons x xs ih =>
    obtain ⟨hx, hxs⟩ := List.pairwise_cons.1 h
    by_cases htest : test x = true
    · simp [htest, ih hxs]
    · have hnone : xs.filter test = [] :=
        List.filter_eq_nil_iff.2 fun y hy hpass ↦ htest (hx y hy hpass)
      have hrest := ih hxs
      rw [hnone, List.nil_append] at hrest
      simp [htest, hnone, hrest]

/-- The first element of a list is sorted in between what is of smaller keys and all else. -/
theorem sortByKey_cons_eq (key : α → κ) (x : α) (xs : List α) :
    sortByKey key (x :: xs) = (sortByKey key xs).filter (fun y ↦ key y < key x) ++
      x :: (sortByKey key xs).filter (fun y ↦ !decide (key y < key x)) := by
  obtain ⟨before, after, hcons, hrest, hbefore⟩ := sortByKey_cons key x xs
  have hsorted := pairwise_key_le key (x :: xs)
  rw [hcons, List.pairwise_append, List.pairwise_cons] at hsorted
  obtain ⟨hsmaller, hother⟩ := filter_append_eq (fun y ↦ decide (key y < key x))
    (fun y hy ↦ decide_eq_true (hbefore y hy))
    (fun y hy ↦ by simpa using hsorted.2.1.1 y hy)
  rw [hcons, hrest, hsmaller, hother]

/-- What passes a test is sorted as if nothing else had been there. -/
theorem filter_sortByKey (key : α → κ) (test : α → Bool) (xs : List α) :
    (sortByKey key xs).filter test = sortByKey key (xs.filter test) := by
  induction xs with
  | nil => simp [sortByKey]
  | cons x xs ih =>
    rw [sortByKey_cons_eq, List.filter_append, List.filter_cons, List.filter_cons,
      List.filter_comm, List.filter_comm _ (fun y ↦ !decide (key y < key x)), ih]
    by_cases htest : test x = true
    · rw [if_pos htest, if_pos htest, sortByKey_cons_eq]
    · rw [if_neg htest, if_neg htest]
      refine filter_append_filter_not ((pairwise_key_le key _).imp fun hle hlt ↦ ?_)
      rw [decide_eq_true_eq] at hlt ⊢
      exact lt_of_le_of_lt hle hlt

/-! ### Uniqueness -/

/-- Sorting leaves the elements of one key as they were given. -/
theorem filter_key_sortByKey (key : α → κ) (k : κ) (xs : List α) :
    (sortByKey key xs).filter (fun x ↦ key x = k) = xs.filter fun x ↦ key x = k := by
  rw [filter_sortByKey]
  refine List.mergeSort_of_pairwise (List.pairwise_of_forall_mem_list fun x hx y hy ↦ ?_)
  have hkey {z : α} (hz : z ∈ xs.filter fun x ↦ key x = k) : key z = k :=
    of_decide_eq_true (List.mem_filter.1 hz).2
  rw [hkey hx, hkey hy]
  exact decide_eq_true le_rfl

/-- Two lists in the order of their keys are equal if they have the same elements of each key, in
the same order. -/
theorem eq_of_filter_key_eq {key : α → κ} {xs ys : List α}
    (hxs : xs.Pairwise fun a b ↦ key a ≤ key b) (hys : ys.Pairwise fun a b ↦ key a ≤ key b)
    (h : ∀ k, xs.filter (fun x ↦ key x = k) = ys.filter fun y ↦ key y = k) : xs = ys := by
  induction xs generalizing ys with
  | nil =>
    refine (List.eq_nil_iff_forall_not_mem.2 fun y hy ↦ ?_).symm
    have hy' : y ∈ ys.filter fun z ↦ key z = key y := List.mem_filter.2 ⟨hy, decide_eq_true rfl⟩
    rw [← h (key y)] at hy'
    cases hy'
  | cons x xs ih =>
    have hmem (z : α) : z ∈ x :: xs ↔ z ∈ ys := by
      simpa using congrArg (z ∈ ·) (h (key z))
    cases ys with
    | nil => cases (hmem x).1 List.mem_cons_self
    | cons y ys =>
      obtain ⟨hx, hxrest⟩ := List.pairwise_cons.1 hxs
      obtain ⟨hy, hyrest⟩ := List.pairwise_cons.1 hys
      have hle : key x ≤ key y := by
        rcases List.mem_cons.1 ((hmem y).2 List.mem_cons_self) with heq | hlater
        · exact (congrArg key heq).ge
        · exact hx y hlater
      have hge : key y ≤ key x := by
        rcases List.mem_cons.1 ((hmem x).1 List.mem_cons_self) with heq | hlater
        · exact (congrArg key heq).ge
        · exact hy x hlater
      have hkey : key x = key y := hle.antisymm hge
      -- Both lists start with the first element of the least key.
      obtain rfl : x = y := by
        have hfirst := congrArg List.head? (h (key x))
        simpa [hkey] using hfirst
      refine congrArg (x :: ·) (ih hxrest hyrest fun k ↦ ?_)
      have hrest := h k
      rw [List.filter_cons, List.filter_cons] at hrest
      split at hrest
      · exact (List.cons.inj hrest).2
      · exact hrest

/-- A list in the order of its keys is the sorted one if it has the same elements of each key, in
the same order. -/
theorem eq_sortByKey {key : α → κ} {xs ys : List α} (hys : ys.Pairwise fun a b ↦ key a ≤ key b)
    (h : ∀ k, ys.filter (fun y ↦ key y = k) = xs.filter fun x ↦ key x = k) :
    ys = sortByKey key xs := by
  refine eq_of_filter_key_eq hys (pairwise_key_le key xs) fun k ↦ ?_
  rw [filter_key_sortByKey]
  exact h k

/-- What is sorted depends on the elements of each key alone. -/
theorem sortByKey_congr {key : α → κ} {xs ys : List α}
    (h : ∀ k, xs.filter (fun x ↦ key x = k) = ys.filter fun y ↦ key y = k) :
    sortByKey key xs = sortByKey key ys := by
  refine eq_sortByKey (pairwise_key_le key xs) fun k ↦ ?_
  rw [filter_key_sortByKey]
  exact h k

/-- The last element of a list is sorted in between what is of its key or a smaller one and all
else. -/
theorem sortByKey_concat (key : α → κ) (x : α) (xs : List α) :
    ∃ before after, sortByKey key xs = before ++ after ∧
      sortByKey key (xs ++ [x]) = before ++ x :: after ∧
      (∀ y ∈ before, key y ≤ key x) ∧ ∀ y ∈ after, key x < key y := by
  let test : α → Bool := fun y ↦ key y ≤ key x
  let before := (sortByKey key xs).filter test
  let after := (sortByKey key xs).filter (!test ·)
  have hsorted := pairwise_key_le key xs
  have hsplit : before ++ after = sortByKey key xs :=
    filter_append_filter_not <| hsorted.imp fun hle hpass ↦
      decide_eq_true (hle.trans (of_decide_eq_true hpass))
  have hbefore (y : α) (hy : y ∈ before) : key y ≤ key x :=
    of_decide_eq_true (List.mem_filter.1 hy).2
  have hafter (y : α) (hy : y ∈ after) : key x < key y := by
    simpa [test] using (List.mem_filter.1 hy).2
  refine ⟨before, after, hsplit.symm, (eq_sortByKey ?_ fun k ↦ ?_).symm, hbefore, hafter⟩
  · rw [List.pairwise_append, List.pairwise_cons]
    refine ⟨hsorted.filter _, ⟨fun z hz ↦ (hafter z hz).le, hsorted.filter _⟩, fun y hy z hz ↦ ?_⟩
    rcases List.mem_cons.1 hz with rfl | hz
    · exact hbefore y hy
    · exact (hbefore y hy).trans (hafter z hz).le
  · have hkeys := filter_key_sortByKey key k xs
    rw [← hsplit, List.filter_append] at hkeys
    rw [List.filter_append, List.filter_cons, List.filter_append, ← hkeys]
    by_cases hk : key x = k
    · have hnone : after.filter (fun y ↦ key y = k) = [] :=
        List.filter_eq_nil_iff.2 fun y hy ↦ by simpa [← hk] using (hafter y hy).ne'
      simp [hk, hnone]
    · simp [hk]

/-- A sorted list in which, for one key, what passes a test stands before what does not can be taken
apart by the test and sorted together again. -/
theorem sortByKey_filter_append_filter_not {key : α → κ} {test : α → Bool} {xs : List α}
    (h : xs.Pairwise fun a b ↦ key a < key b ∨ key a = key b ∧ (test b → test a)) :
    sortByKey key (xs.filter test ++ xs.filter (!test ·)) = xs := by
  refine (eq_sortByKey (h.imp fun hab ↦ ?_) fun k ↦ ?_).symm
  · rcases hab with hlt | ⟨heq, -⟩
    · exact hlt.le
    · exact heq.le
  · rw [List.filter_append, List.filter_comm, List.filter_comm _ (!test ·)]
    refine (filter_append_filter_not ?_).symm
    refine (h.filter _).imp_of_mem fun {a b} ha hb hab ↦ ?_
    have hkey : key a = key b :=
      (of_decide_eq_true (List.mem_filter.1 ha).2).trans
        (of_decide_eq_true (List.mem_filter.1 hb).2).symm
    exact (hab.resolve_left hkey.not_lt).2

end RunningBalance.StableSort
