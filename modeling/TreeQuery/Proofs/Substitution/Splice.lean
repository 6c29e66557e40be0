/-
  TreeQuery.Proofs.Substitution.Splice

  What splicing needs and what it gives. `Substitution.spliceFrom` walks the source from
  left to right and cannot go back: with spans that lie on boundaries it succeeds exactly
  when every span ends before the next one starts (`Substitution.isOk_spliceFrom_iff`).

  The spans come in the order of the matches and are sorted by start only. Two spans that
  do not clash can start together when one of them is empty, and the sort then keeps the
  order in which they came. So the order of arrival matters: `Substitution.isOk_splice_iff`
  says that no full span may come before an empty one at its start.
-/

import Mathlib.Data.List.Pairwise
import TreeQuery.Proofs.Match.Order
import TreeQuery.Proofs.Text.Boundary
import TreeQuery.Substitution.Basic

namespace TreeQuery

/-! ## Spans -/

namespace Span

/-- The span runs forwards between two boundaries of a text. -/
structure FitsIn (span : Span) (source : Text) : Prop where
  start_le_stop : span.start ≤ span.stop
  start_isBoundary : source.isBoundary span.start = true
  stop_isBoundary : source.isBoundary span.stop = true

instance (span : Span) (source : Text) : Decidable (span.FitsIn source) :=
  decidable_of_iff (span.start ≤ span.stop ∧ source.isBoundary span.start = true ∧
      source.isBoundary span.stop = true)
    ⟨fun ⟨h, h', h''⟩ => ⟨h, h', h''⟩, fun ⟨h, h', h''⟩ => ⟨h, h', h''⟩⟩

/-- A place strictly inside a span, given as an empty span. -/
def StrictlyInside (a b : Span) : Prop :=
  a.start = a.stop ∧ b.start < a.start ∧ a.start < b.stop

instance (a b : Span) : Decidable (a.StrictlyInside b) :=
  inferInstanceAs (Decidable (_ ∧ _ ∧ _))

/-- Two spans share a byte. -/
def SharesByte (a b : Span) : Prop :=
  ∃ byte, (a.start ≤ byte ∧ byte < a.stop) ∧ b.start ≤ byte ∧ byte < b.stop

instance (a b : Span) : Decidable (a.SharesByte b) :=
  decidable_of_iff (max a.start b.start < min a.stop b.stop)
    ⟨fun h => ⟨max a.start b.start, by omega, by omega⟩, fun ⟨_, ha, hb⟩ => by omega⟩

/-- Two spans share a byte, are the same, or one is empty and strictly inside the other. -/
def Clashes (a b : Span) : Prop :=
  a.SharesByte b ∨ a = b ∨ a.StrictlyInside b ∨ b.StrictlyInside a

instance (a b : Span) : Decidable (a.Clashes b) := inferInstanceAs (Decidable (_ ∨ _ ∨ _ ∨ _))

/-- An empty span that stands where a full one starts. -/
def EmptyAtStartOf (a b : Span) : Prop :=
  a.start = a.stop ∧ a.start = b.start ∧ b.start < b.stop

instance (a b : Span) : Decidable (a.EmptyAtStartOf b) :=
  inferInstanceAs (Decidable (_ ∧ _ ∧ _))

theorem Clashes.symm {a b : Span} (h : a.Clashes b) : b.Clashes a := by
  rcases h with ⟨byte, ha, hb⟩ | rfl | hab | hba
  · exact .inl ⟨byte, hb, ha⟩
  · exact .inr (.inl rfl)
  · exact .inr (.inr (.inr hab))
  · exact .inr (.inr (.inl hba))

/-- For spans that run forwards the test of overlaps finds just the clashes. -/
theorem overlaps_iff_clashes {a b : Span} (ha : a.start ≤ a.stop) (hb : b.start ≤ b.stop) :
    a.overlaps b = true ↔ a.Clashes b := by
  simp only [overlaps, Bool.or_eq_true, Bool.and_eq_true, decide_eq_true_eq, beq_iff_eq]
  constructor
  · rintro (⟨hab, hba⟩ | rfl)
    · -- Either one of the two is empty, or the later start is a byte of both.
      by_cases ha' : a.start = a.stop
      · exact .inr (.inr (.inl ⟨ha', by omega, hab⟩))
      by_cases hb' : b.start = b.stop
      · exact .inr (.inr (.inr ⟨hb', by omega, hba⟩))
      exact .inl ⟨max a.start b.start, by omega, by omega⟩
    · exact .inr (.inl rfl)
  · rintro (⟨byte, ha', hb'⟩ | rfl | ⟨h, h', h''⟩ | ⟨h, h', h''⟩)
    · exact .inl ⟨by omega, by omega⟩
    · exact .inr rfl
    · exact .inl ⟨by omega, by omega⟩
    · exact .inl ⟨by omega, by omega⟩

/-- Of two spans that do not clash, the one that starts first ends before the other starts,
    unless the other is an empty span at its start. -/
theorem stop_le_start_or_emptyAtStartOf {a b : Span} (ha : a.start ≤ a.stop)
    (hb : b.start ≤ b.stop) (hab : a.start ≤ b.start) (h : ¬ a.Clashes b) :
    a.stop ≤ b.start ∨ b.EmptyAtStartOf a := by
  rw [← overlaps_iff_clashes ha hb] at h
  simp only [overlaps, Bool.or_eq_true, Bool.and_eq_true, decide_eq_true_eq, not_or] at h
  by_cases hstop : a.stop ≤ b.start
  · exact .inl hstop
  · exact .inr ⟨by omega, by omega, by omega⟩

end Span

namespace Substitution

/-! ## Walking the source -/

theorem spliceFrom_nil_eq_ok_iff {source : Text} {position : Nat} {output : Text} :
    spliceFrom source position [] = .ok output ↔
      source.slice? position source.size = some output := by
  rw [spliceFrom]
  cases source.slice? position source.size <;> simp

theorem spliceFrom_cons_eq_ok_iff {source : Text} {position : Nat} {r : Replacement}
    {rs : List Replacement} {output : Text} :
    spliceFrom source position (r :: rs) = .ok output ↔
      ∃ kept rest, source.slice? position r.span.start = some kept ∧
        source.isBoundary r.span.stop = true ∧ spliceFrom source r.span.stop rs = .ok rest ∧
        output = kept ++ r.text ++ rest := by
  rw [spliceFrom]
  cases hkept : source.slice? position r.span.start with
  | none => simp
  | some kept =>
    by_cases hstop : source.isBoundary r.span.stop = true
    · cases hrest : spliceFrom source r.span.stop rs with
      | error e => simp [hstop, bind, Except.bind]
      | ok rest => simp [hstop, bind, Except.bind, pure, Except.pure, eq_comm]
    · simp [hstop]

/-- A walk fails only at a span that it cannot reach. -/
theorem exists_invalidSpan_of_spliceFrom {source : Text} {rs : List Replacement}
    {position : Nat} {e : SubstitutionError} (h : spliceFrom source position rs = .error e) :
    ∃ span, e = .invalidSpan span := by
  induction rs generalizing position with
  | nil =>
    rw [spliceFrom] at h
    split at h
    · cases h
    · cases h
      exact ⟨_, rfl⟩
  | cons r rs ih =>
    rw [spliceFrom] at h
    split at h
    · cases h
      exact ⟨_, rfl⟩
    · split at h
      · cases hrest : spliceFrom source r.span.stop rs with
        | error e' =>
          rw [hrest] at h
          cases h
          exact ih hrest
        | ok rest =>
          rw [hrest] at h
          cases h
      · cases h
        exact ⟨_, rfl⟩

/-- **A walk succeeds when it never goes back.** With spans on boundaries that is when each
    starts no earlier than the one before it ends. -/
theorem isOk_spliceFrom_iff {source : Text} {rs : List Replacement} {position : Nat}
    (hposition : source.isBoundary position = true)
    (hfit : ∀ r ∈ rs, r.span.FitsIn source) :
    (∃ output, spliceFrom source position rs = .ok output) ↔
      (∀ r ∈ rs, position ≤ r.span.start) ∧
        rs.Pairwise fun a b => a.span.stop ≤ b.span.start := by
  induction rs generalizing position with
  | nil =>
    have hrest := Text.isSome_slice?_iff.2
      ⟨Text.le_size_of_isBoundary hposition, hposition, source.isBoundary_size⟩
    simpa [spliceFrom_nil_eq_ok_iff] using hrest
  | cons r rs ih =>
    have hr := hfit r List.mem_cons_self
    have hrest := ih hr.stop_isBoundary fun r' hr' => hfit r' (List.mem_cons_of_mem _ hr')
    rw [List.pairwise_cons]
    constructor
    · rintro ⟨output, houtput⟩
      obtain ⟨kept, rest, hkept, -, htail, -⟩ := spliceFrom_cons_eq_ok_iff.1 houtput
      obtain ⟨hafter, hpairs⟩ := hrest.1 ⟨rest, htail⟩
      have hle := (Text.isSome_slice?_iff.1 ⟨kept, hkept⟩).1
      refine ⟨fun r' hr' => ?_, hafter, hpairs⟩
      rcases List.mem_cons.1 hr' with rfl | hr'
      · exact hle
      -- The walk is past the end of this span, and so past its start.
      · have hstop := hafter r' hr'
        have hforward := hr.start_le_stop
        omega
    · rintro ⟨hle, hafter, hpairs⟩
      obtain ⟨rest, htail⟩ := hrest.2 ⟨hafter, hpairs⟩
      obtain ⟨kept, hkept⟩ := Text.isSome_slice?_iff.2
        ⟨hle r List.mem_cons_self, hposition, hr.start_isBoundary⟩
      exact ⟨_, spliceFrom_cons_eq_ok_iff.2
        ⟨kept, rest, hkept, hr.stop_isBoundary, htail, rfl⟩⟩

/-! ## Sorting by start -/

/-- The replacements in order of start. -/
def byStart (rs : List Replacement) : List Replacement :=
  rs.mergeSort fun a b => a.span.start ≤ b.span.start

theorem splice_eq_spliceFrom (source : Text) (rs : List Replacement) :
    splice source rs = spliceFrom source 0 (byStart rs) := rfl

theorem byStart_perm (rs : List Replacement) : (byStart rs).Perm rs := List.mergeSort_perm _ _

theorem byStart_pairwise (rs : List Replacement) :
    (byStart rs).Pairwise fun a b => a.span.start ≤ b.span.start := by
  have hsorted : (byStart rs).Pairwise fun a b =>
      decide (a.span.start ≤ b.span.start) = true :=
    List.pairwise_mergeSort (le_on_trans fun r : Replacement => r.span.start)
      (le_on_total fun r : Replacement => r.span.start) rs
  exact hsorted.imp fun h => of_decide_eq_true h

/-- The replacements are put in order one by one. -/
theorem byStart_eq_insertionSort (rs : List Replacement) :
    byStart rs = rs.insertionSort fun a b => decide (a.span.start ≤ b.span.start) = true :=
  mergeSort_eq_insertionSort (le_on_trans fun r : Replacement => r.span.start)
    (le_on_total fun r : Replacement => r.span.start) rs

/-- Replacements that start together stay in the order in which they came. -/
theorem pair_sublist_byStart {rs : List Replacement} {a b : Replacement}
    (h : [a, b].Sublist rs) (hab : a.span.start ≤ b.span.start) :
    [a, b].Sublist (byStart rs) :=
  List.pair_sublist_mergeSort (le_on_trans fun r : Replacement => r.span.start)
    (le_on_total fun r : Replacement => r.span.start) (decide_eq_true hab) h

/-- In order of start, spans that do not clash never go back exactly when no full span came
    before an empty one at its start. -/
theorem byStart_pairwise_stop_le_iff {rs : List Replacement}
    (hforward : ∀ r ∈ rs, r.span.start ≤ r.span.stop)
    (happart : rs.Pairwise fun a b => ¬ a.span.Clashes b.span) :
    (byStart rs).Pairwise (fun a b => a.span.stop ≤ b.span.start) ↔
      rs.Pairwise fun a b => ¬ b.span.EmptyAtStartOf a.span := by
  have hmem : ∀ {a b}, [a, b].Sublist (byStart rs) → a ∈ rs ∧ b ∈ rs := fun hab =>
    ⟨(byStart_perm rs).mem_iff.1 (hab.subset (by simp)),
      (byStart_perm rs).mem_iff.1 (hab.subset (by simp))⟩
  constructor
  · intro hordered
    -- A full span that came first would stand first, and end after the empty one starts.
    refine List.pairwise_iff_forall_sublist.2 fun {a b} hab ⟨hempty, hstart, hfull⟩ => ?_
    have hstop := List.pairwise_iff_forall_sublist.1 hordered
      (pair_sublist_byStart hab (Nat.le_of_eq hstart.symm))
    omega
  · intro hfirst
    have happart' : (byStart rs).Pairwise fun a b => ¬ a.span.Clashes b.span :=
      ((byStart_perm rs).pairwise_iff fun h h' => h h'.symm).2 happart
    -- A span clashes with itself, so none comes twice.
    have hnodup : (byStart rs).Nodup := happart'.imp fun h heq => h (.inr (.inl (by rw [heq])))
    refine List.pairwise_iff_forall_sublist.2 fun {a b} hab => ?_
    obtain ⟨ha, hb⟩ := hmem hab
    have hstart := List.pairwise_iff_forall_sublist.1 (byStart_pairwise rs) hab
    have hclash := List.pairwise_iff_forall_sublist.1 happart' hab
    rcases Span.stop_le_start_or_emptyAtStartOf (hforward a ha) (hforward b hb) hstart hclash
      with hstop | hempty
    · exact hstop
    · -- The empty one stands second in order of start, so it came second.
      exfalso
      have hne : a ≠ b := fun heq => hclash (.inr (.inl (by rw [heq])))
      rcases pair_sublist_or_swap ha hb hne with hcame | hcame
      · exact List.pairwise_iff_forall_sublist.1 hfirst hcame hempty
      · have hba := pair_sublist_byStart hcame (Nat.le_of_eq hempty.2.1)
        exact hne (eq_of_pair_sublist_of_swap hnodup hab hba)

/-- **When a splice succeeds.** Spans on boundaries that do not clash can be replaced exactly
    when no full span comes before an empty one at its start. -/
theorem isOk_splice_iff {source : Text} {rs : List Replacement}
    (hfit : ∀ r ∈ rs, r.span.FitsIn source)
    (happart : rs.Pairwise fun a b => ¬ a.span.Clashes b.span) :
    (∃ output, splice source rs = .ok output) ↔
      rs.Pairwise fun a b => ¬ b.span.EmptyAtStartOf a.span := by
  have hfit' : ∀ r ∈ byStart rs, r.span.FitsIn source := fun r hr =>
    hfit r ((byStart_perm rs).mem_iff.1 hr)
  rw [splice_eq_spliceFrom, isOk_spliceFrom_iff source.isBoundary_zero hfit',
    byStart_pairwise_stop_le_iff (fun r hr => (hfit r hr).start_le_stop) happart]
  exact and_iff_right fun _ _ => Nat.zero_le _

end Substitution
end TreeQuery
