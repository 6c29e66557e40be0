/-
  TreeQuery.Proofs.Predicate.Comparison

  What `eq?` and `match?` ask of the texts of their arguments (`Argument.HasText`), and
  that the order of the arguments does not matter to them.

  The counts and kinds of arguments that a signature compares are the same in any order
  (`Signature.admits_perm`). So a clause comes out alike in two orders as soon as its
  predicate binds them alike (`Registry.check_resolve_perm`), and both built-in
  comparisons do. `Registry.comparisons_symmetric` has the whole law.
-/

import TreeQuery.Proofs.Predicate.Resolution

namespace TreeQuery

/-! ## The texts of arguments -/

/-- A text of an argument in a match: that of a node under the capture, or the literal. -/
inductive Argument.HasText (m : Match) (source : Text) : Argument → Text → Prop
  | node {c : MatchCapture} {ref : CaptureRef} (hc : c ∈ m.captures)
      (hindex : c.index = ref.index) : HasText m source (.capture ref) (c.node.textIn source)
  | literal (text : Text) : HasText m source (.literal text) text

/-- A match has no node for a capture. -/
def Match.Unbound (m : Match) (ref : CaptureRef) : Prop := ∀ c ∈ m.captures, c.index ≠ ref.index

/-- Each side has a text, and all the texts of all sides are one and the same. -/
def Match.OneText (m : Match) (source : Text) (sides : List Argument) : Prop :=
  ∃ t, ∀ side ∈ sides, side.HasText m source t ∧ ∀ u, side.HasText m source u → u = t

/-- A capture has a text, and an expression is found in each of its texts. -/
def Match.EachMatches (m : Match) (source : Text) (ref : CaptureRef) (e : Regex.Expr) : Prop :=
  (∃ t, (Argument.capture ref).HasText m source t) ∧
    ∀ t, (Argument.capture ref).HasText m source t → e.isIn t = true

section

variable {m : Match} {source : Text} {ref : CaptureRef}

theorem Context.mem_texts_iff {t : Text} :
    t ∈ Context.texts ⟨m, source⟩ ref ↔ (Argument.capture ref).HasText m source t := by
  rw [Context.texts, Context.nodes, Match.nodesAt, List.map_map, List.mem_map]
  constructor
  · rintro ⟨c, hc, rfl⟩
    obtain ⟨hc, hindex⟩ := List.mem_filter.1 hc
    exact .node hc (beq_iff_eq.1 hindex)
  · rintro ⟨hc, hindex⟩
    exact ⟨_, List.mem_filter.2 ⟨hc, beq_iff_eq.2 hindex⟩, rfl⟩

theorem Predicate.mem_sideTexts_iff {side : Argument} {t : Text} :
    t ∈ Predicate.sideTexts ⟨m, source⟩ side ↔ side.HasText m source t := by
  cases side with
  | capture ref => exact Context.mem_texts_iff
  | literal text =>
    rw [Predicate.sideTexts, List.mem_singleton]
    constructor
    · rintro rfl
      exact .literal t
    · rintro ⟨⟩
      rfl

theorem Match.Unbound.not_hasText (h : m.Unbound ref) (t : Text) :
    ¬ (Argument.capture ref).HasText m source t := by
  rintro ⟨hc, hindex⟩
  exact h _ hc hindex

theorem Match.Unbound.not_oneText {sides : List Argument} (h : m.Unbound ref)
    (href : .capture ref ∈ sides) : ¬ m.OneText source sides := by
  rintro ⟨t, ht⟩
  exact h.not_hasText t (ht _ href).1

theorem Match.Unbound.not_eachMatches {e : Regex.Expr} (h : m.Unbound ref) :
    ¬ m.EachMatches source ref e := by
  rintro ⟨⟨t, ht⟩, -⟩
  exact h.not_hasText t ht

theorem Match.oneText_perm {sides sides' : List Argument} (h : sides.Perm sides') :
    m.OneText source sides ↔ m.OneText source sides' :=
  exists_congr fun _ => forall_congr' fun _ => imp_congr_left h.mem_iff

/-! ## The checks -/

namespace Predicate

theorem sameTexts_iff {a b : Argument} :
    sameTexts a b ⟨m, source⟩ = true ↔ m.OneText source [a, b] := by
  simp only [sameTexts, Bool.and_eq_true, Bool.not_eq_true', List.isEmpty_eq_false_iff_exists_mem,
    List.all_eq_true, beq_iff_eq, mem_sideTexts_iff]
  constructor
  · rintro ⟨⟨⟨t, ha⟩, ⟨u, hb⟩⟩, hsame⟩
    -- The text of the one side is that of the other, and all the others are as these.
    obtain rfl : t = u := hsame t ha u hb
    refine ⟨t, List.forall_mem_cons.2 ⟨⟨ha, fun v hv => hsame v hv t hb⟩, ?_⟩⟩
    exact List.forall_mem_singleton.2 ⟨hb, fun v hv => (hsame t ha v hv).symm⟩
  · rintro ⟨t, hsides⟩
    obtain ⟨⟨ha, hsame⟩, hsides⟩ := List.forall_mem_cons.1 hsides
    obtain ⟨hb, hsame'⟩ := List.forall_mem_singleton.1 hsides
    exact ⟨⟨⟨t, ha⟩, ⟨t, hb⟩⟩, fun u hu v hv => (hsame u hu).trans (hsame' v hv).symm⟩

theorem sameTexts_comm (a b : Argument) : sameTexts a b = sameTexts b a := by
  funext ⟨m, source⟩
  rw [Bool.eq_iff_iff, sameTexts_iff, sameTexts_iff]
  exact Match.oneText_perm (.swap b a [])

theorem textsMatch_iff {e : Regex.Expr} :
    textsMatch ref e ⟨m, source⟩ = true ↔ m.EachMatches source ref e := by
  simp only [textsMatch, Bool.and_eq_true, Bool.not_eq_true', List.isEmpty_eq_false_iff_exists_mem,
    List.all_eq_true, Context.mem_texts_iff, Match.EachMatches]

end Predicate

end

/-! ## Arguments in another order -/

/-- The rule of a signature does not look at the order of arguments. -/
theorem Signature.admitsKinds_perm (s : Signature) {arguments arguments' : List Argument}
    (h : arguments.Perm arguments') : s.admitsKinds arguments = s.admitsKinds arguments' := by
  have hcaptures := (h.filter (·.capture?.isSome)).length_eq
  rw [admitsKinds, admitsKinds, h.length_eq, hcaptures]

namespace Registry

variable {r : Registry} {name : String} {arguments arguments' : List Argument} {a b : Argument}
  {i : Invocation} {explain : Text → String}

/-- When a predicate binds the arguments that it admits alike in two orders, a clause has the same
fault or the same check in both. -/
theorem check_resolve_perm {p : Predicate} (hget : r.get? name = some p)
    (hperm : arguments.Perm arguments')
    (hbind : p.signature.rule.Obeyed arguments → p.bind arguments = p.bind arguments') :
    (r.resolve name arguments).map (·.check) = (r.resolve name arguments').map (·.check) := by
  rw [resolve, resolve, hget]
  simp only [Predicate.resolve, ← hperm.length_eq, ← p.signature.admitsKinds_perm hperm]
  split
  · rfl
  · split
    · rfl
    · next hadmitted =>
      have hobeyed : p.signature.rule.Obeyed arguments :=
        Signature.admitsKinds_iff.1 (by simpa using hadmitted)
      rw [← hbind hobeyed]
      cases p.bind arguments <;> rfl

/-- What a resolved clause checks is what its predicate has bound. -/
theorem bind_of_resolve {p : Predicate} (hget : r.get? name = some p)
    (hresolve : r.resolve name arguments = .ok i) :
    p.signature.rule.Obeyed arguments ∧ p.bind arguments = .ok i.check := by
  obtain ⟨p', hget', hcount, hkinds, check, hbind⟩ := exists_resolve_iff.1 ⟨i, hresolve⟩
  obtain rfl := Option.some.inj (hget.symm.trans hget')
  rw [resolve_of_obeyed hget hcount hkinds, hbind] at hresolve
  obtain rfl := Except.ok.inj hresolve
  exact ⟨hkinds, hbind⟩

theorem within_pair {rule : ArgumentRule} : (Signature.exactly 2 rule).Within [a, b].length :=
  ⟨Nat.le_refl 2, fun _ h => Nat.le_of_eq (Option.some.inj h)⟩

/-! ### Equality -/

theorem check_resolve_eq_swap (hget : r.get? name = some Predicate.eq) (a b : Argument) :
    (r.resolve name [a, b]).map (·.check) = (r.resolve name [b, a]).map (·.check) :=
  check_resolve_perm hget (.swap b a []) fun _ => congrArg Except.ok (Predicate.sameTexts_comm a b)

/-- An equality needs a capture on one side. -/
theorem exists_resolve_eq_iff (hget : r.get? name = some Predicate.eq) :
    (∃ i, r.resolve name [a, b] = .ok i) ↔ ∃ ref, .capture ref ∈ [a, b] := by
  rw [exists_resolve_iff]
  constructor
  · rintro ⟨p, hget', -, hkinds, -⟩
    obtain rfl := Option.some.inj (hget.symm.trans hget')
    exact hkinds
  · intro hkinds
    exact ⟨_, hget, within_pair, hkinds, _, rfl⟩

theorem check_eq_iff (hget : r.get? name = some Predicate.eq)
    (hresolve : r.resolve name [a, b] = .ok i) (m : Match) (source : Text) :
    i.check ⟨m, source⟩ = true ↔ m.OneText source [a, b] := by
  obtain ⟨-, hbind⟩ := bind_of_resolve hget hresolve
  rw [← Except.ok.inj hbind]
  exact Predicate.sameTexts_iff

/-! ### Search for an expression -/

/-- Two arguments with a capture and a literal among them are these two. -/
theorem pair_of_mem {ref : CaptureRef} {text : Text} (href : .capture ref ∈ [a, b])
    (htext : .literal text ∈ [a, b]) :
    [a, b] = [.capture ref, .literal text] ∨ [a, b] = [.literal text, .capture ref] := by
  rcases List.mem_pair.1 href with rfl | rfl
  · rcases List.mem_pair.1 htext with h | rfl
    · cases h
    · exact .inl rfl
  · rcases List.mem_pair.1 htext with rfl | h
    · exact .inr rfl
    · cases h

theorem check_resolve_matchesExpr_swap (hget : r.get? name = some (Predicate.matchesExpr explain))
    (a b : Argument) :
    (r.resolve name [a, b]).map (·.check) = (r.resolve name [b, a]).map (·.check) := by
  refine check_resolve_perm hget (.swap b a []) ?_
  rintro ⟨ref, text, harguments⟩
  have hreversed : [b, a] = [.capture ref, .literal text] ∨
      [b, a] = [.literal text, .capture ref] :=
    harguments.symm.imp (congrArg List.reverse) (congrArg List.reverse)
  rw [bind_matchesExpr harguments, bind_matchesExpr hreversed]

/-- A search needs a capture and an expression that can be read. -/
theorem exists_resolve_matchesExpr_iff (hget : r.get? name = some (Predicate.matchesExpr explain)) :
    (∃ i, r.resolve name [a, b] = .ok i) ↔
      ∃ ref text e, .capture ref ∈ [a, b] ∧ .literal text ∈ [a, b] ∧
        Regex.read? .text text = some e := by
  rw [exists_resolve_iff]
  constructor
  · rintro ⟨p, hget', -, hkinds, check, hbind⟩
    obtain rfl := Option.some.inj (hget.symm.trans hget')
    obtain ⟨ref, text, harguments⟩ := hkinds
    rw [bind_matchesExpr harguments] at hbind
    cases hread : Regex.read? .text text with
    | none =>
      rw [hread] at hbind
      cases hbind
    | some e =>
      have hmem : .capture ref ∈ [a, b] ∧ .literal text ∈ [a, b] := by
        rcases harguments with h | h <;> rw [h] <;> simp
      exact ⟨ref, text, e, hmem.1, hmem.2, hread⟩
  · rintro ⟨ref, text, e, href, htext, hread⟩
    have harguments := pair_of_mem href htext
    refine ⟨_, hget, within_pair, ⟨ref, text, harguments⟩, Predicate.textsMatch ref e, ?_⟩
    rw [bind_matchesExpr harguments, hread]

theorem check_matchesExpr_iff (hget : r.get? name = some (Predicate.matchesExpr explain))
    (hresolve : r.resolve name [a, b] = .ok i) {ref : CaptureRef} {text : Text} {e : Regex.Expr}
    (href : .capture ref ∈ [a, b]) (htext : .literal text ∈ [a, b])
    (hread : Regex.read? .text text = some e) (m : Match) (source : Text) :
    i.check ⟨m, source⟩ = true ↔ m.EachMatches source ref e := by
  obtain ⟨-, hbind⟩ := bind_of_resolve hget hresolve
  rw [bind_matchesExpr (pair_of_mem href htext), hread] at hbind
  rw [← Except.ok.inj hbind]
  exact Predicate.textsMatch_iff

/-! ## The law of both -/

/-- **Comparisons are symmetric.** Exchanging the two arguments of an `eq?` or of a `match?`
    changes neither the fault of the clause nor, when there is none, its check. An `eq?` needs a
    capture, and it holds of a match when both sides have texts and all of these are one text. A
    `match?` needs a capture and an expression that can be read, and it holds of a match when the
    capture has texts and the expression is found in each. Neither holds of a match that has no
    node for one of the captures. -/
theorem comparisons_symmetric (r : Registry) (name : String) (a b : Argument) :
    (r.get? name = some Predicate.eq →
      (r.resolve name [a, b]).map (·.check) = (r.resolve name [b, a]).map (·.check) ∧
      ((∃ i, r.resolve name [a, b] = .ok i) ↔ ∃ ref, .capture ref ∈ [a, b]) ∧
      ∀ i, r.resolve name [a, b] = .ok i → ∀ (m : Match) (source : Text),
        (i.check ⟨m, source⟩ = true ↔ m.OneText source [a, b]) ∧
        ∀ ref, .capture ref ∈ [a, b] → m.Unbound ref → i.check ⟨m, source⟩ = false) ∧
    (∀ explain, r.get? name = some (Predicate.matchesExpr explain) →
      (r.resolve name [a, b]).map (·.check) = (r.resolve name [b, a]).map (·.check) ∧
      ((∃ i, r.resolve name [a, b] = .ok i) ↔ ∃ ref text e, .capture ref ∈ [a, b] ∧
        .literal text ∈ [a, b] ∧ Regex.read? .text text = some e) ∧
      ∀ i, r.resolve name [a, b] = .ok i → ∀ (m : Match) (source : Text) ref text e,
        .capture ref ∈ [a, b] → .literal text ∈ [a, b] → Regex.read? .text text = some e →
          (i.check ⟨m, source⟩ = true ↔ m.EachMatches source ref e) ∧
          (m.Unbound ref → i.check ⟨m, source⟩ = false)) := by
  constructor
  · intro hget
    refine ⟨check_resolve_eq_swap hget a b, exists_resolve_eq_iff hget, ?_⟩
    intro i hresolve m source
    have hiff := check_eq_iff hget hresolve m source
    refine ⟨hiff, fun ref href hunbound => ?_⟩
    exact Bool.eq_false_iff.2 (mt hiff.1 (hunbound.not_oneText href))
  · intro explain hget
    refine ⟨check_resolve_matchesExpr_swap hget a b, exists_resolve_matchesExpr_iff hget, ?_⟩
    intro i hresolve m source ref text e href htext hread
    have hiff := check_matchesExpr_iff hget hresolve href htext hread m source
    exact ⟨hiff, fun hunbound => Bool.eq_false_iff.2 (mt hiff.1 hunbound.not_eachMatches)⟩

/-! ### A capture of two letters -/

def letter : CaptureRef := ⟨0, "letter"⟩

/-- The capture has two nodes, the first and the last byte of a text of four. -/
def twoLetters : Match :=
  let node := fun (start : Nat) => (⟨"a, b".toList,
    .node ⟨"identifier", start, start + 1, true, false, false, none, true, []⟩ [], []⟩ : Node)
  ⟨0, [⟨0, "letter", node 0⟩, ⟨0, "letter", node 3⟩]⟩

/-- The literal stands in front, and the clauses compile. That the letters are `a` holds where both
are and not where one is another; that each of them is `a` or `b` holds as long as there are any. -/
theorem comparisons_symmetric_twoLetters :
    ∃ i j, builtins.get? "eq?" = some Predicate.eq ∧
      builtins.get? "match?" = some (Predicate.matchesExpr fun _ => "") ∧
      builtins.resolve "eq?" [.literal "a".toList, .capture letter] = .ok i ∧
      builtins.resolve "match?" [.literal "[ab]".toList, .capture letter] = .ok j ∧
      i.check ⟨twoLetters, "a, a".toList⟩ = true ∧ i.check ⟨twoLetters, "a, b".toList⟩ = false ∧
      j.check ⟨twoLetters, "a, b".toList⟩ = true ∧ j.check ⟨⟨0, []⟩, "a, b".toList⟩ = false := by
  have heq : builtins.get? "eq?" = some Predicate.eq := rfl
  have hmatch : builtins.get? "match?" = some (Predicate.matchesExpr fun _ => "") := rfl
  have hsearch : (Regex.read? .text "[ab]".toList).any
      (Predicate.textsMatch letter · ⟨twoLetters, "a, b".toList⟩) = true := by
    decide +kernel
  obtain ⟨e, hread, hsearch⟩ := (Option.any_eq_true _ _).1 hsearch
  obtain ⟨-, hcompiles, hequal⟩ :=
    (comparisons_symmetric builtins "eq?" (.literal "a".toList) (.capture letter)).1 heq
  obtain ⟨-, hcompiles', hfound⟩ :=
    (comparisons_symmetric builtins "match?" (.literal "[ab]".toList) (.capture letter)).2 _ hmatch
  obtain ⟨i, hi⟩ := hcompiles.2 ⟨letter, by simp⟩
  obtain ⟨j, hj⟩ := hcompiles'.2 ⟨letter, _, e, by simp, List.mem_cons_self, hread⟩
  have hequal := hequal i hi twoLetters
  have hfound := fun m => hfound j hj m "a, b".toList letter _ e (by simp) List.mem_cons_self hread
  refine ⟨i, j, heq, hmatch, hi, hj, ?_, ?_, ?_, ?_⟩
  · exact (hequal _).1.2 (Predicate.sameTexts_iff.1 (by decide +kernel))
  · exact Bool.eq_false_iff.2 (mt (hequal _).1.1 (mt Predicate.sameTexts_iff.2 (by decide +kernel)))
  · exact (hfound _).1.2 (Predicate.textsMatch_iff.1 hsearch)
  · exact (hfound _).2 nofun

end Registry
end TreeQuery
