/-
  TreeQuery.Text.CharRanges

  A set of characters as a list of closed ranges of code points.

  * `CharRanges.merge` brings ranges into order and joins those that meet; it keeps
    the members, as `CharRanges.covers_merge` says.
-/

namespace TreeQuery

/-- Closed ranges of code points. -/
abbrev CharRanges := List (Nat × Nat)

namespace CharRanges

/-- Whether the code point of `c` lies in one of the ranges. -/
def contains (ranges : CharRanges) (c : Char) : Bool :=
  ranges.any fun (lo, hi) => lo ≤ c.toNat && c.toNat ≤ hi

theorem contains_iff {ranges : CharRanges} {c : Char} :
    ranges.contains c = true ↔ ∃ r ∈ ranges, r.1 ≤ c.toNat ∧ c.toNat ≤ r.2 := by
  simp [contains]

/-! ## Merging -/

/-- Goes on from the range `r` through ranges that start no earlier, and joins each with the
one before it if the two meet. -/
def joinFrom (r : Nat × Nat) : CharRanges → CharRanges
  | [] => [r]
  | s :: more =>
    if s.1 ≤ r.2 + 1 then joinFrom (r.1, max r.2 s.2) more else r :: joinFrom s more

/-- Whether one range starts no later than another. -/
def startsFirst (r s : Nat × Nat) : Bool := r.1 ≤ s.1

/-- The same code points in ascending order, in as few ranges as possible. -/
def merge (ranges : CharRanges) : CharRanges :=
  match ranges.mergeSort startsFirst with
  | [] => []
  | r :: more => joinFrom r more

/-- Whether a number lies in one of the ranges. -/
def Covers (ranges : CharRanges) (n : Nat) : Prop := ∃ r ∈ ranges, r.1 ≤ n ∧ n ≤ r.2

@[simp] theorem covers_cons {r : Nat × Nat} {ranges : CharRanges} {n : Nat} :
    Covers (r :: ranges) n ↔ (r.1 ≤ n ∧ n ≤ r.2) ∨ Covers ranges n := by
  simp [Covers]

@[simp] theorem not_covers_nil {n : Nat} : ¬ Covers [] n := by simp [Covers]

theorem covers_joinFrom {r : Nat × Nat} {ranges : CharRanges} {n : Nat}
    (later : ∀ s ∈ ranges, r.1 ≤ s.1) (ordered : ranges.Pairwise fun s t => s.1 ≤ t.1) :
    Covers (joinFrom r ranges) n ↔ Covers (r :: ranges) n := by
  induction ranges generalizing r with
  | nil => rfl
  | cons s more ih =>
    have ⟨sFirst, rest⟩ := List.pairwise_cons.1 ordered
    have rFirst : r.1 ≤ s.1 := later s (by simp)
    unfold joinFrom
    split
    · have joined := @ih (r.1, max r.2 s.2) (fun t ht => later t (by simp [ht])) rest
      have both : (r.1 ≤ n ∧ n ≤ max r.2 s.2) ↔ (r.1 ≤ n ∧ n ≤ r.2) ∨ (s.1 ≤ n ∧ n ≤ s.2) := by
        omega
      rw [joined, covers_cons, covers_cons, covers_cons, both, or_assoc]
    · rw [covers_cons, ih sFirst rest, covers_cons, covers_cons, covers_cons]

/-- Merging keeps the members. -/
theorem covers_merge {ranges : CharRanges} {n : Nat} :
    Covers ranges.merge n ↔ Covers ranges n := by
  have members := List.mergeSort_perm ranges startsFirst
  have ordered : (ranges.mergeSort startsFirst).Pairwise fun r s => startsFirst r s :=
    List.pairwise_mergeSort (fun _ _ _ => by simpa [startsFirst] using Nat.le_trans)
      (fun r s => by simpa [startsFirst] using Nat.le_total r.1 s.1) ranges
  have same : Covers (ranges.mergeSort startsFirst) n ↔ Covers ranges n :=
    exists_congr fun r => and_congr_left' members.mem_iff
  unfold merge
  generalize ranges.mergeSort startsFirst = sorted at *
  rw [← same]
  match sorted with
  | [] => rfl
  | r :: more =>
    have ⟨rFirst, rest⟩ := List.pairwise_cons.1 ordered
    exact covers_joinFrom (fun s hs => by simpa [startsFirst] using rFirst s hs)
      (rest.imp fun h => by simpa [startsFirst] using h)

end CharRanges
end TreeQuery
