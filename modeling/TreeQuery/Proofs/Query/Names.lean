/-
  TreeQuery.Proofs.Query.Names

  Registered names in queries. A registry takes names with letters of all scripts; the
  pattern language reads names of ASCII characters. Both take what a mark is made of, so a
  mark that is put before a name and taken off again leaves the name as it was, also when
  the name begins with a mark of its own.

  A text that is accepted with a readable name in some clause (`Query.Slot`) is read again
  with another name of the same size in its place:

  * `Query.Slot.exists_accepted`: if the other name can be read, the text is accepted, and
    the clause is renamed and nothing else.
  * `Query.Slot.compile_eq_error`: if it cannot, the text is refused at the character that
    is not read.
  * `Query.registered_name_usable_iff` puts the two together for registered names.
-/

import TreeQuery.Proofs.Pattern.Heads
import TreeQuery.Proofs.Query.Sites

namespace TreeQuery

/-! ## Characters of names -/

theorem notMem_of_class {p : Char → Bool} {chars : List Char} (hp : chars.any p = false) {c : Char}
    (hc : p c = true) : c ∉ chars := fun hmem =>
  Bool.false_ne_true (hp.symm.trans (List.any_eq_true.2 ⟨c, hmem, hc⟩))

/-- No letter and no number is a blank. -/
theorem isBlank_of_isNameChar {c : Char} (h : isNameChar c = true) : isBlank c = false := by
  -- No range of letters or numbers meets one of blanks.
  have hletters : ∀ r ∈ alphabeticRanges, ∀ b ∈ blankRanges, r.2 < b.1 ∨ b.2 < r.1 := by
    decide +kernel
  have hnumbers : ∀ r ∈ numericRanges, ∀ b ∈ blankRanges, r.2 < b.1 ∨ b.2 < r.1 := by
    decide +kernel
  have hcontrols : ∀ b ∈ blankRanges, b.2 ≤ 32 ∨ 123 ≤ b.1 := by decide
  rw [Bool.eq_false_iff]
  intro hblank
  obtain ⟨b, hb, hlo, hhi⟩ := CharRanges.contains_iff.1 hblank
  simp only [isNameChar, Bool.or_eq_true, beq_iff_eq] at h
  rcases h with ((((h | rfl) | rfl) | rfl) | rfl) | rfl
  · unfold isLetterOrNumber at h
    split at h
    · have hrange := Scan.toNat_of_isAlphanum h
      have := hcontrols b hb
      omega
    · rcases Bool.or_eq_true _ _ ▸ h with h | h
      · obtain ⟨r, hr, hrlo, hrhi⟩ := CharRanges.contains_iff.1 h
        have := hletters r hr b hb
        omega
      · obtain ⟨r, hr, hrlo, hrhi⟩ := CharRanges.contains_iff.1 h
        have := hnumbers r hr b hb
        omega
  all_goals exact absurd hblank (by decide)

/-- It starts an operator. -/
theorem startsOperator_of_isNameChar {c : Char} {rest : Text} (h : isNameChar c = true) :
    startsOperator (c :: rest) = true := by
  have hround : c ≠ ')' := by
    rintro rfl
    exact absurd h (by decide)
  simp [startsOperator, isBlank_of_isNameChar h, hround]

theorem isSign_of_isNameChar {c : Char} (h : isNameChar c = true) : Scan.isSign c = true :=
  Marked.Mirrors.isSign_of_class (by decide) h

/-- What a registry takes and the pattern language does not cannot follow a name either. -/
theorem isForeign_of_isNameChar {c : Char} (h : isNameChar c = true)
    (hc : ¬ Scan.continuesName c = true) : Scan.isForeign c = true := by
  have hnone := @notMem_of_class isNameChar
    [' ', '\t', '\n', '\x0b', '\x0c', '\r', ';', ')', '@', '"'] (by decide) c h
  simp only [List.mem_cons, List.not_mem_nil, or_false, not_or] at hnone
  simp [Scan.isForeign, Scan.isSpace, hc, hnone]

namespace Registry

/-- A predicate is found under the name that it was registered under. -/
theorem register_eq_ok {r s : Registry} {written : String} {p : Predicate}
    (h : r.register written p = .ok s) :
    isIdentifier (bareName written) = true ∧ s.get? (bareName written) = some p := by
  obtain ⟨hname, hfree, rfl⟩ := register_eq_ok_iff.mp h
  exact ⟨(isPredicateName_iff.mp hname).2, (get?_concat hfree).mpr (.inr ⟨rfl, rfl⟩)⟩

end Registry

/-! ## Marks around a clause -/

namespace Marked

/-- What stands before a `#` is marked in the same way whatever stands behind it. -/
theorem exists_markFrom_append (z : Zone) (o : Nat) (front : Text) :
    ∃ marked passed, ∀ rest,
      markFrom z (front ++ '#' :: rest) =
        marked ++ markFrom (z.afterText front) ('#' :: rest) ∧
      insertionsFrom z o (front ++ '#' :: rest) =
        passed ++ insertionsFrom (z.afterText front) (o + front.size) ('#' :: rest) ∧
      (∀ i ∈ passed, i ≤ o + front.size) ∧
      Text.size marked = front.size + operatorMark.size * passed.length := by
  induction front generalizing z o with
  | nil => exact ⟨[], [], fun _ => ⟨rfl, rfl, nofun, rfl⟩⟩
  | cons c front ih =>
    obtain ⟨marked, passed, h⟩ := ih (z.after c) (o + c.utf8Size)
    -- Of what follows a character only the first one counts, and it is the same.
    have hmarks : ∀ rest,
        marksAfter z c (front ++ '#' :: rest) ↔ marksAfter z c (front ++ ['#']) := by
      intro rest
      cases front <;> rfl
    refine ⟨c :: ((if marksAfter z c (front ++ ['#']) then operatorMark else []) ++ marked),
      (if marksAfter z c (front ++ ['#']) then [o + c.utf8Size] else []) ++ passed,
      fun rest => ?_⟩
    obtain ⟨hmarked, hinsertions, hpassed, hsize⟩ := h rest
    rw [List.cons_append, markFrom_cons, insertionsFrom_cons, hmarked, hinsertions]
    simp only [hmarks rest, Text.size_cons, Text.size_append]
    have hc := c.utf8Size_pos
    split
    · refine ⟨by simp, by simp [Nat.add_assoc], fun i hi => ?_, ?_⟩
      · rcases List.mem_cons.1 hi with rfl | hi
        · omega
        · have := hpassed i hi
          omega
      · rw [hsize, List.singleton_append, List.length_cons, Nat.mul_succ]
        omega
    · refine ⟨by simp, by simp [Nat.add_assoc], fun i hi => ?_, ?_⟩
      · have := hpassed i hi
        omega
      · rw [hsize, Text.size_nil, List.nil_append]
        omega

theorem markFrom_signs {front : Text} (rest : Text) (h : ∀ c ∈ front, Scan.isSign c = true) :
    markFrom .plain (front ++ rest) = front ++ markFrom .plain rest := by
  induction front with
  | nil => rfl
  | cons c front ih =>
    rw [List.forall_mem_cons] at h
    have hmark : ¬ marksAfter .plain c (front ++ rest) := by
      rintro ⟨-, rfl, -⟩
      exact absurd h.1 (by decide)
    rw [List.cons_append, markFrom_cons, if_neg hmark, Mirrors.after_eq_plain h.1, ih h.2]
    rfl

/-- The name of an operator and the mark before it. -/
theorem markFrom_operator {name rest : Text} (hname : ∀ c ∈ name, Scan.isSign c = true)
    (hstarts : startsOperator (name ++ rest) = true) :
    markFrom .plain ('#' :: (name ++ rest)) =
      '#' :: (operatorMark ++ name ++ markFrom .plain rest) := by
  rw [markFrom_cons, if_pos ⟨rfl, rfl, hstarts⟩, List.append_assoc, ← markFrom_signs rest hname]
  rfl

/-- A `#` that stands outside strings and comments has one place in the marked text, whatever
stands behind it. -/
theorem exists_mirrors {front : Text} (hzone : Zone.plain.afterText front = .plain) :
    ∃ marked : Text, ∀ rest,
      (ofText (front ++ '#' :: rest)).text = marked ++ markFrom .plain ('#' :: rest) ∧
      Mirrors (front ++ '#' :: rest) .plain ⟨front.size, '#' :: rest⟩
        ⟨marked.size, markFrom .plain ('#' :: rest)⟩ := by
  obtain ⟨marked, passed, h⟩ := exists_markFrom_append .plain 0 front
  refine ⟨marked, fun rest => ?_⟩
  obtain ⟨hmarked, hinsertions, hpassed, hsize⟩ := h rest
  rw [hzone] at hmarked hinsertions
  rw [Nat.zero_add] at hinsertions hpassed
  exact ⟨hmarked, ⟨front, rfl, (Nat.zero_add _).symm⟩, rfl, passed, hinsertions, hpassed, hsize⟩

/-- The `#` of an operator stands outside strings and comments. -/
theorem Mirrors.afterText_eq {front rest : Text} {m : Place}
    (h : Mirrors (front ++ '#' :: rest) .plain ⟨front.size, '#' :: rest⟩ m)
    (hstarts : startsOperator rest = true) : Zone.plain.afterText front = .plain := by
  obtain ⟨passed, hinsertions, -⟩ := h.passed
  have hmem : front.size + 1 ∈ insertionsFrom .plain 0 (front ++ '#' :: rest) := by
    rw [hinsertions, insertionsFrom_cons, if_pos ⟨rfl, rfl, hstarts⟩]
    exact List.mem_append_right _ List.mem_cons_self
  -- A mark is put in behind a `#` in the plain zone, and this `#` is the one behind `front`.
  obtain ⟨before, rest', heq, hzone, -, hsize⟩ := mem_insertionsFrom_iff.1 hmem
  have hbefore := congrArg (Text.before · front.size) heq
  have hfront : front.size = before.size := by omega
  simp only [Text.before_append] at hbefore
  rw [hfront, Text.before_append] at hbefore
  rw [hbefore, hzone]

end Marked

namespace Scan.IsName

variable {name : Text}

theorem isSign (h : IsName name) : ∀ c ∈ name, isSign c = true := fun c hc =>
  Marked.Mirrors.isSign_of_continuesName (List.all_eq_true.1 h.continues c hc)

theorem startsOperator_append (h : IsName name) (rest : Text) :
    startsOperator (name ++ rest) = true := by
  have hstarts := h.starts
  cases name with
  | nil => cases hstarts
  | cons c name => exact Marked.Mirrors.startsOperator_of_startsName hstarts

end Scan.IsName

/-! ## Another name for a clause -/

namespace Clause

/-- A clause under another name, if it opens at `o`. -/
def rename (o : Nat) (name : String) (c : Clause) : Clause :=
  if c.opener = o then { c with name := name } else c

variable {o : Nat} {name : String} {c : Clause}

theorem rename_unname (o : Nat) (name : String) (c : Clause) :
    (c.unname o).rename o name = c.rename o name := by
  by_cases ho : c.opener = o
  · simp [unname, rename, ho]
  · simp [unname, rename, ho]

theorem opener_rename (o : Nat) (name : String) (c : Clause) :
    (c.rename o name).opener = c.opener := by
  rw [rename]
  split <;> rfl

theorem rename_of_opener_ne (ho : c.opener ≠ o) : c.rename o name = c := if_neg ho

theorem rename_eq_self (h : c.opener = o → c.name = name) : c.rename o name = c := by
  by_cases ho : c.opener = o
  · rw [rename, if_pos ho, ← h ho]
  · exact rename_of_opener_ne ho

/-- Clauses that differ in the name of one alone. -/
theorem eq_map_rename {cs cs' : List Clause} (heq : cs'.map (unname o) = cs.map (unname o))
    (hname : ∀ c ∈ cs', c.opener = o → c.name = name) : cs' = cs.map (rename o name) := by
  have hrename := congrArg (List.map (rename o name)) heq
  simp only [List.map_map] at hrename
  have hcomp : rename o name ∘ unname o = rename o name := funext (rename_unname o name)
  rw [hcomp] at hrename
  rw [← hrename]
  exact (List.map_id cs').symm.trans
    (List.map_congr_left fun c hc => (rename_eq_self (hname c hc)).symm)

end Clause

/-! ## One clause under two names -/

namespace Query

/-- A `#` and a name between two parts of a text. -/
def operatorText (front name back : Text) : Text := front ++ '#' :: (name ++ back)

/-- In a text that the pattern language accepts, the `k`-th general clause of the `i`-th pattern
is `c`; its `#` stands behind `front`, and its name is `plain`. -/
structure Slot (language : Language) (front plain back : Text) (patterns : List Pattern)
    (names : List String) (i k : Nat) (c : Clause) : Prop where
  accepted : Accepted language (operatorText front plain back) patterns names
  clause : ∃ p, patterns[i]? = some p ∧
    (generalClauses (Marked.ofText (operatorText front plain back)) p)[k]? = some c
  place : (Marked.ofText (operatorText front plain back)).toBare c.opener = front.size
  readable : Scan.IsName plain
  ends : back.head?.all (!Scan.continuesName ·) = true

/-- The general clauses pass, but for the one that opens where `c` does. -/
def OthersPass (registry : Registry) (m : Marked) (names : List String) (patterns : List Pattern)
    (c : Clause) : Prop :=
  ∀ p ∈ patterns, ∀ d ∈ generalClauses m p, d.opener ≠ c.opener → Passes registry m names d

section

variable {front name back : Text} {c : Clause}

/-- The text of the clause behind `front`. -/
theorem clauseText_of_place
    (h : (Marked.ofText (operatorText front name back)).toBare c.opener = front.size) :
    (Marked.ofText (operatorText front name back)).clauseText c = '#' :: (name ++ back) := by
  rw [Marked.clauseText, h]
  exact Text.after_append _ _

/-- It opens with `#`. -/
theorem isHashed_of_place
    (h : (Marked.ofText (operatorText front name back)).toBare c.opener = front.size) :
    (Marked.ofText (operatorText front name back)).isHashed c = true := by
  rw [Marked.isHashed, clauseText_of_place h]
  rfl

/-- Its name is the one that stands there, with a mark before it. -/
theorem name_of_place (hspelled : (Marked.ofText (operatorText front name back)).Spelled c)
    (h : (Marked.ofText (operatorText front name back)).toBare c.opener = front.size)
    (hname : name.all Scan.continuesName = true)
    (hends : back.head?.all (!Scan.continuesName ·) = true) :
    c.name = String.ofList (operatorMark ++ name) := by
  have hback : back.takeWhile Scan.continuesName = [] := by
    cases back with
    | nil => rfl
    | cons ch back => exact List.takeWhile_cons_of_neg (by simpa using hends)
  have hwritten := hspelled.name
  rw [isHashed_of_place h, if_pos rfl, Marked.writtenName, clauseText_of_place h, List.tail_cons,
    (Marked.Mirrors.name_append hname 0 back).1, hback, List.append_nil,
    String.toList_ofList] at hwritten
  rw [← hwritten, String.ofList_toList]

end

namespace Slot

variable {language : Language} {front plain back : Text} {patterns : List Pattern}
  {names : List String} {i k : Nat} {c : Clause}

theorem mem_clauses (h : Slot language front plain back patterns names i k c) :
    c ∈ patterns.flatMap (·.item.clauses) := by
  obtain ⟨p, hp, hc⟩ := h.clause
  exact List.mem_flatMap.2
    ⟨p, List.mem_of_getElem? hp, List.mem_of_mem_filter (List.mem_of_getElem? hc)⟩

/-- The clause opens at one place of the marked text, whatever its name. -/
theorem exists_marked (h : Slot language front plain back patterns names i k c) :
    ∃ marked : Text, c.opener = marked.size ∧ ∀ name : Text, (∀ ch ∈ name, Scan.isSign ch = true) →
      startsOperator (name ++ back) = true →
      (Marked.ofText (operatorText front name back)).text =
          marked ++ '#' :: (operatorMark ++ name ++ Marked.markFrom .plain back) ∧
        Marked.Mirrors (operatorText front name back) .plain ⟨front.size, '#' :: (name ++ back)⟩
          ⟨marked.size, '#' :: (operatorMark ++ name ++ Marked.markFrom .plain back)⟩ := by
  obtain ⟨b, m, rest, hmirrors, hopener, -⟩ :=
    Pattern.spelledAt_of_read h.accepted.read c h.mem_clauses
  -- It is the place in the caller's text that `front` leads to.
  have hoffset : b.offset = front.size := by
    rw [← hmirrors.toBare_eq, ← hopener]
    exact h.place
  have hrest : b.rest = '#' :: (plain ++ back) := by
    rw [← hmirrors.after_eq, hoffset]
    exact Text.after_append _ _
  obtain ⟨o, t⟩ := b
  obtain rfl : o = front.size := hoffset
  obtain rfl : t = '#' :: (plain ++ back) := hrest
  have hstarts : startsOperator (plain ++ back) = true := h.readable.startsOperator_append back
  obtain ⟨marked, hmarked⟩ := Marked.exists_mirrors (hmirrors.afterText_eq hstarts)
  have hplace : m.offset = marked.size :=
    hmirrors.offset_eq.trans (hmarked (plain ++ back)).2.offset_eq.symm
  refine ⟨marked, hopener.trans hplace, fun name hname hstarts => ?_⟩
  rw [← Marked.markFrom_operator hname hstarts]
  exact hmarked (name ++ back)

theorem isName_mark {name : Text} (h : name.all Scan.continuesName = true) :
    Scan.IsName (operatorMark ++ name) := by
  refine ⟨rfl, ?_⟩
  rw [List.all_append, h]
  rfl

/-! ### A name that can be read -/

/-- The text is read to the same patterns but for the name of the clause. -/
theorem exists_read (h : Slot language front plain back patterns names i k c)
    {name : Text} (hname : Scan.IsName name) (hsize : name.size = plain.size) :
    ∃ patterns', Pattern.read language.vocabulary
        (Marked.ofText (operatorText front name back)).text = .ok (patterns', names) ∧
      patterns'.map (Pattern.unname c.opener) = patterns.map (Pattern.unname c.opener) := by
  obtain ⟨marked, hopener, hmarked⟩ := h.exists_marked
  have hread := h.accepted.read
  rw [(hmarked plain h.readable.isSign (h.readable.startsOperator_append back)).1] at hread
  rw [(hmarked name hname.isSign (hname.startsOperator_append back)).1, hopener]
  refine Pattern.read_of_name hread ?_ (isName_mark h.readable.continues)
    (isName_mark hname.continues) ?_ ?_
  · rw [← hopener]
    exact opener_mem_landmarks h.mem_clauses
  · rw [Text.size_append, Text.size_append, hsize]
  · rw [Marked.Mirrors.head?_markFrom]
    exact h.ends

/-- The place of the clause is the same under both names. -/
theorem toBare_opener (h : Slot language front plain back patterns names i k c)
    {name : Text} (hname : Scan.IsName name) :
    (Marked.ofText (operatorText front name back)).toBare c.opener = front.size := by
  obtain ⟨marked, hopener, hmarked⟩ := h.exists_marked
  rw [hopener]
  exact (hmarked name hname.isSign (hname.startsOperator_append back)).2.toBare_eq

/-- The clause that opens there has the name that is written, with a mark before it, and the
pattern language does not read it itself. -/
theorem name_of_opener_eq (h : Slot language front plain back patterns names i k c)
    {name : Text} (hname : Scan.IsName name) {d : Clause}
    (hspelled : (Marked.ofText (operatorText front name back)).Spelled d)
    (hopener : d.opener = c.opener) :
    d.name = String.ofList (operatorMark ++ name) ∧ d.name ∉ TextFilter.ownNames := by
  have hplace := h.toBare_opener hname
  rw [← hopener] at hplace
  exact ⟨name_of_place hspelled hplace hname.continues h.ends,
    hspelled.notMem_ownNames (isHashed_of_place hplace)⟩

section

variable {name : Text} {patterns' : List Pattern} {p p' : Pattern}

/-- A pattern that differs in the name of the clause alone has the same clauses but for this one,
which is renamed. -/
theorem clauses_of_unname (h : Slot language front plain back patterns names i k c)
    (hname : Scan.IsName name)
    (hread : Pattern.read language.vocabulary
      (Marked.ofText (operatorText front name back)).text = .ok (patterns', names))
    (hp' : p' ∈ patterns') (heq : p'.unname c.opener = p.unname c.opener) :
    p'.item.clauses =
      p.item.clauses.map (Clause.rename c.opener (String.ofList (operatorMark ++ name))) := by
  have hitem : p'.item.unname c.opener = p.item.unname c.opener := congrArg Pattern.item heq
  refine Clause.eq_map_rename ?_ fun d hd hopener => ?_
  · rw [← Item.clauses_unname, ← Item.clauses_unname, hitem]
  · have hspelled := (Pattern.spelled_of_read hread).1 d (List.mem_flatMap.2 ⟨p', hp', hd⟩)
    exact (h.name_of_opener_eq hname hspelled hopener).1

/-- So are its general clauses. -/
theorem generalClauses_of_unname (h : Slot language front plain back patterns names i k c)
    (hname : Scan.IsName name)
    (hread : Pattern.read language.vocabulary
      (Marked.ofText (operatorText front name back)).text = .ok (patterns', names))
    (hp : p ∈ patterns) (hp' : p' ∈ patterns') (heq : p'.unname c.opener = p.unname c.opener) :
    generalClauses (Marked.ofText (operatorText front name back)) p' =
      (generalClauses (Marked.ofText (operatorText front plain back)) p).map
        (Clause.rename c.opener (String.ofList (operatorMark ++ name))) := by
  have hclauses := h.clauses_of_unname hname hread hp' heq
  rw [generalClauses, generalClauses, hclauses, List.filter_map]
  refine congrArg _ (List.filter_congr fun d hd => ?_)
  have hd' : d.rename c.opener (String.ofList (operatorMark ++ name)) ∈ p'.item.clauses :=
    hclauses ▸ List.mem_map_of_mem hd
  have hold := h.accepted.spelled hp hd
  have hnew := (Pattern.spelled_of_read hread).1 _ (List.mem_flatMap.2 ⟨p', hp', hd'⟩)
  rw [Function.comp_apply, hold.isGeneral_eq, hnew.isGeneral_eq]
  by_cases hopener : d.opener = c.opener
  · have hnone := (h.name_of_opener_eq h.readable hold hopener).2
    have hnone' := (h.name_of_opener_eq hname hnew ((Clause.opener_rename _ _ _).trans hopener)).2
    rw [decide_eq_true hnone, decide_eq_true hnone']
  · rw [Clause.rename_of_opener_ne hopener]

end

/-- The text is accepted, and its general clauses are the same but for this one, which is
renamed. -/
theorem exists_accepted (h : Slot language front plain back patterns names i k c)
    {name : Text} (hname : Scan.IsName name) (hsize : name.size = plain.size) :
    ∃ patterns', Accepted language (operatorText front name back) patterns' names ∧
      List.Forall₂ (fun p p' =>
          generalClauses (Marked.ofText (operatorText front name back)) p' =
            (generalClauses (Marked.ofText (operatorText front plain back)) p).map
              (Clause.rename c.opener (String.ofList (operatorMark ++ name))))
        patterns patterns' := by
  obtain ⟨patterns', hread, hunname⟩ := h.exists_read hname hsize
  have hpairs : List.Forall₂ (fun p p' : Pattern =>
      p'.unname c.opener = p.unname c.opener) patterns patterns' := by
    have hboth : List.Forall₂ Eq (patterns'.map (Pattern.unname c.opener))
        (patterns.map (Pattern.unname c.opener)) := hunname ▸ List.forall₂_refl _
    rw [List.forall₂_map_left_iff, List.forall₂_map_right_iff] at hboth
    exact hboth.flip
  refine ⟨patterns', ⟨hread, fun p' hp' => ?_, fun p' hp' d' hd' => ?_⟩, ?_⟩
  · -- A program does not depend on names.
    obtain ⟨p, hp, heq⟩ := exists_of_mem_right hpairs hp'
    rw [← Program.ofPattern_unname c.opener names p', heq, Program.ofPattern_unname]
    exact h.accepted.possible p hp
  · -- The renamed clause is none of the pattern language's own, and the others are as before.
    obtain ⟨p, hp, heq⟩ := exists_of_mem_right hpairs hp'
    have hspelled := (Pattern.spelled_of_read hread).1 d' (List.mem_flatMap.2 ⟨p', hp', hd'⟩)
    rw [h.clauses_of_unname hname hread hp' heq] at hd'
    obtain ⟨d, hd, rfl⟩ := List.mem_map.1 hd'
    by_cases hopener : d.opener = c.opener
    · have hnone := (h.name_of_opener_eq hname hspelled
        ((Clause.opener_rename _ _ _).trans hopener)).2
      exact ⟨.other, TextFilter.ofClause_eq_other_iff.2 hnone⟩
    · rw [Clause.rename_of_opener_ne hopener]
      exact h.accepted.ownClauses p hp d hd
  · have hmem := (List.forall₂_and_left _ _).2 ⟨fun p hp => hp, hpairs⟩
    have hmem' := (List.forall₂_and_left _ _).2 ⟨fun p' hp' => hp', hmem.flip⟩
    refine hmem'.flip.imp ?_
    rintro p p' ⟨hp', hp, heq⟩
    exact h.generalClauses_of_unname hname hread hp hp' heq

/-- The clause is resolved under the name that is written, and the text compiles if its other
clauses pass. -/
theorem exists_compile (h : Slot language front plain back patterns names i k c)
    {name : Text} (hname : Scan.IsName name) (hsize : name.size = plain.size) {registry : Registry}
    (hothers : OthersPass registry (Marked.ofText (operatorText front plain back)) names
      patterns c)
    {invocation : Invocation}
    (hresolve : registry.resolve (String.ofList name)
      (c.arguments.map (convertArgument names)) = .ok invocation) :
    ∃ q p, compile language (operatorText front name back) registry = .ok q ∧
      q.patterns[i]? = some p ∧ p.predicates[k]? = some invocation := by
  obtain ⟨patterns', haccepted, hrenamed⟩ := h.exists_accepted hname hsize
  have hown : Resolved registry names
      (c.rename c.opener (String.ofList (operatorMark ++ name))) invocation := by
    rw [Clause.rename, if_pos rfl, Resolved]
    simp only [String.toList_ofList, Marked.unmark_operatorMark]
    exact hresolve
  have hall : ∀ p' ∈ patterns',
      ∀ d ∈ generalClauses (Marked.ofText (operatorText front name back)) p',
        Passes registry (Marked.ofText (operatorText front name back)) names d := by
    intro p' hp' d' hd'
    obtain ⟨p, hp, heq⟩ := exists_of_mem_right hrenamed hp'
    refine (haccepted.isResolved_iff hp' hd').1 ?_
    rw [heq] at hd'
    obtain ⟨d, hd, rfl⟩ := List.mem_map.1 hd'
    by_cases hopener : d.opener = c.opener
    · -- No other clause opens at that place.
      have hmem : d ∈ patterns.flatMap (·.item.clauses) :=
        List.mem_flatMap.2 ⟨p, hp, List.mem_of_mem_filter hd⟩
      obtain rfl := List.inj_on_of_nodup_map (nodup_openers h.accepted.read) hmem h.mem_clauses
        (congrArg (Marked.toBare _) hopener)
      exact ⟨invocation, hown⟩
    · rw [Clause.rename_of_opener_ne hopener]
      exact (h.accepted.isResolved_iff hp hd).2 (hothers p hp d hd hopener)
  obtain ⟨q, hq⟩ := haccepted.exists_compile_iff.2 hall
  obtain ⟨read, hread, hcompiled⟩ := compile_eq_ok hq
  obtain ⟨rfl, rfl⟩ := Prod.mk.inj (Except.ok.inj (hread.symm.trans haccepted.read))
  -- The `k`-th predicate of the `i`-th pattern is the one that comes from the clause.
  obtain ⟨pattern, hpattern, hclause⟩ := h.clause
  obtain ⟨pattern', hpattern', heq⟩ := exists_of_getElem?_left hrenamed hpattern
  obtain ⟨p, hp, hpcompiled⟩ := exists_of_getElem?_left hcompiled hpattern'
  have hclause' : (pattern'.item.clauses.filter (·.name ∉ TextFilter.ownNames))[k]? =
      some (c.rename c.opener (String.ofList (operatorMark ++ name))) := by
    have hgeneral := haccepted.clauses_prepared (List.mem_of_getElem? hpattern')
    rw [heq] at hgeneral
    refine (congrArg (·[k]?) hgeneral).trans ?_
    rw [List.getElem?_map, hclause]
    rfl
  obtain ⟨invocation', hk, hresolved⟩ := exists_of_getElem?_left hpcompiled.predicates hclause'
  obtain rfl := Except.ok.inj (hown.symm.trans hresolved)
  exact ⟨q, p, hq, hp, hk⟩

/-! ### A name that cannot be read -/

/-- The reading ends at the first character that the pattern language does not read in names, and
this is the place behind the first part of the name. -/
theorem read_eq_error (h : Slot language front plain back patterns names i k c)
    {readable rest : Text} {d : Char} (hreadable : readable.all Scan.continuesName = true)
    (hd : Scan.continuesName d = false)
    (hname : ∀ ch ∈ readable ++ d :: rest, isNameChar ch = true) :
    Pattern.read language.vocabulary
        (Marked.ofText (operatorText front (readable ++ d :: rest) back)).text =
          .error ⟨.malformed, c.opener + 1 + Text.size (operatorMark ++ readable)⟩ ∧
      (Marked.ofText (operatorText front (readable ++ d :: rest) back)).toBare
        (c.opener + 1 + Text.size (operatorMark ++ readable)) =
          front.size + 1 + readable.size := by
  obtain ⟨marked, hopener, hmarked⟩ := h.exists_marked
  have hstarts : startsOperator (readable ++ d :: rest ++ back) = true := by
    cases readable with
    | nil => exact startsOperator_of_isNameChar (hname d List.mem_cons_self)
    | cons ch readable => exact startsOperator_of_isNameChar (hname ch List.mem_cons_self)
  have hsigns : ∀ ch ∈ readable ++ d :: rest, Scan.isSign ch = true := fun ch hch =>
    isSign_of_isNameChar (hname ch hch)
  obtain ⟨htext, hmirrors⟩ := hmarked _ hsigns hstarts
  rw [hopener]
  constructor
  · have hread := h.accepted.read
    rw [(hmarked plain h.readable.isSign (h.readable.startsOperator_append back)).1] at hread
    have hclause : .opener marked.size ∈ patterns.flatMap Pattern.landmarks :=
      hopener ▸ opener_mem_landmarks h.mem_clauses
    have hmem : d ∈ readable ++ d :: rest := List.mem_append_right _ List.mem_cons_self
    have hforeign := isForeign_of_isNameChar (hname d hmem) (by rw [hd]; exact nofun)
    rw [htext]
    simp only [List.append_assoc, List.cons_append]
    rw [← List.append_assoc operatorMark readable]
    exact Pattern.read_of_foreign hread hclause (isName_mark hreadable) hforeign
  · -- Behind the mark the name goes on in both texts to the same character.
    have hmore : ∀ more : Text, (d :: more).head?.all (!Scan.continuesName ·) = true := by
      simp [hd]
    have hend := (hmirrors.operator rfl hstarts).2.name.2
    rw [Marked.markFrom_signs back hsigns] at hend
    simp only [Place.past, List.append_assoc, List.cons_append,
      Scan.name_append hreadable _ (hmore _)] at hend
    rw [Text.size_append, ← Nat.add_assoc]
    exact hend.toBare_eq

/-- The text is refused there. -/
theorem compile_eq_error (h : Slot language front plain back patterns names i k c)
    {readable rest : Text} {d : Char} (hreadable : readable.all Scan.continuesName = true)
    (hd : Scan.continuesName d = false)
    (hname : ∀ ch ∈ readable ++ d :: rest, isNameChar ch = true) (registry : Registry) :
    compile language (operatorText front (readable ++ d :: rest) back) registry =
      .error (.ofOffset (operatorText front (readable ++ d :: rest) back) .malformed
        (front.size + 1 + readable.size)
        (String.ofList (caretText (operatorText front (readable ++ d :: rest) back)
          (front.size + 1 + readable.size)))) := by
  obtain ⟨hread, hplace⟩ := h.read_eq_error hreadable hd hname
  have hinside : front.size + 1 + readable.size ≤
      (Marked.ofText (operatorText front (readable ++ d :: rest) back)).bare.size := by
    have hwidth : '#'.utf8Size = 1 := rfl
    simp only [Marked.ofText, operatorText, Text.size_append, Text.size_cons]
    omega
  rw [compile]
  simp only [hread, Marked.ofFault, hplace, Nat.min_eq_left hinside]
  rfl

end Slot

/-! ## Registered names -/

theorem isName_of_isIdentifier {bare : String} (h : Registry.isIdentifier bare = true)
    (hbare : bare.toList.all Scan.continuesName = true) : Scan.IsName bare.toList := by
  rw [Registry.isIdentifier, Bool.and_eq_true, Option.any_eq_true] at h
  obtain ⟨-, ch, hhead, hletter⟩ := h
  refine ⟨(Option.any_eq_true _ _).2 ⟨ch, hhead, ?_⟩, hbare⟩
  have hcontinues := List.all_eq_true.1 hbare ch (List.mem_of_mem_head? hhead)
  -- The other characters that can stand in a name are no letters.
  have hnone := @notMem_of_class (fun ch => isLetter ch || ch == '_') ['.', '?', '!'] (by decide)
    ch hletter
  simp only [List.mem_cons, List.not_mem_nil, or_false, not_or] at hnone
  simpa [Scan.continuesName, hnone] using hcontinues

/-- A text that is not all of a class goes on behind its first part with a character that is not. -/
theorem exists_append_of_all_eq_false {p : Char → Bool} {t : Text} (h : t.all p = false) :
    ∃ d rest, t = t.takeWhile p ++ d :: rest ∧ p d = false := by
  cases hdrop : t.dropWhile p with
  | nil =>
    rw [List.dropWhile_eq_nil_iff, ← List.all_eq_true, h] at hdrop
    cases hdrop
  | cons d rest =>
    have hd := List.head?_dropWhile_not p t
    rw [hdrop] at hd
    exact ⟨d, rest, by rw [← hdrop, List.takeWhile_append_dropWhile], hd⟩

/-- **Registered names in queries.** In a text that the pattern language accepts a clause has a
    readable name, and the other clauses pass; now the name of a predicate that a registry has
    taken, of the same size, stands there without a `#` of its own. The text compiles, and the
    clause is resolved to the predicate in its place, exactly when the pattern language reads all
    characters of the name. Otherwise the text is refused as malformed at the first that it does
    not read. -/
theorem registered_name_usable_iff {r s registry : Registry} {written : String} {P : Predicate}
    (hregister : r.register written P = .ok s) (hreached : s.Reached registry)
    {language : Language} {front plain back : Text} {patterns : List Pattern}
    {names : List String} {i k : Nat} {c : Clause}
    (hslot : Slot language front plain back patterns names i k c)
    (hsize : Text.size plain = Text.size (Registry.bareName written).toList)
    (hothers : OthersPass registry (Marked.ofText (operatorText front plain back)) names
      patterns c)
    {invocation : Invocation}
    (hresolve : P.resolve (Registry.bareName written)
      (c.arguments.map (convertArgument names)) = .ok invocation) :
    ((∃ q p, compile language (operatorText front (Registry.bareName written).toList back)
          registry = .ok q ∧ q.patterns[i]? = some p ∧ p.predicates[k]? = some invocation) ↔
        (Registry.bareName written).toList.all Scan.continuesName = true) ∧
      ((Registry.bareName written).toList.all Scan.continuesName = false →
        ∃ e, compile language (operatorText front (Registry.bareName written).toList back)
            registry = .error e ∧ e.kind = .malformed ∧
          e.offset = front.size + 1 +
            Text.size ((Registry.bareName written).toList.takeWhile Scan.continuesName)) := by
  obtain ⟨hidentifier, hget⟩ := Registry.register_eq_ok hregister
  have herror : (Registry.bareName written).toList.all Scan.continuesName = false →
      ∃ e, compile language (operatorText front (Registry.bareName written).toList back)
          registry = .error e ∧ e.kind = .malformed ∧
        e.offset = front.size + 1 +
          Text.size ((Registry.bareName written).toList.takeWhile Scan.continuesName) := by
    intro hforeign
    have hchars : ∀ ch ∈ (Registry.bareName written).toList, isNameChar ch = true :=
      List.all_eq_true.1 ((Bool.and_eq_true _ _).mp hidentifier).1
    obtain ⟨d, rest, heq, hd⟩ := exists_append_of_all_eq_false hforeign
    rw [heq] at hchars
    have hcompile := hslot.compile_eq_error List.all_takeWhile hd hchars registry
    rw [← heq] at hcompile
    exact ⟨_, hcompile, rfl, rfl⟩
  refine ⟨⟨?_, fun hreadable => ?_⟩, herror⟩
  · rintro ⟨q, -, hq, -⟩
    rw [← Bool.not_eq_false]
    intro hforeign
    obtain ⟨e, he, -⟩ := herror hforeign
    cases hq.symm.trans he
  · refine hslot.exists_compile (isName_of_isIdentifier hidentifier hreadable) hsize.symm hothers ?_
    rw [String.ofList_toList, Registry.resolve, hreached.get?_eq hget]
    exact hresolve

/-! ### A name with a mark, and a name with an accent -/

/-- What stands before the name of a clause. -/
def clauseFront : Text := "((identifier) @a (".toList

/-- What stands behind it. -/
def clauseBack : Text := " @a))".toList

/-- The clause under a readable name. -/
def plainClause (plain : String) : Clause := ⟨18, "weaver-" ++ plain, [.capture "a"]⟩

/-- What is read in the text. -/
def plainPattern (plain : String) : Pattern :=
  ⟨0, .group 0 [capturedIdentifier, .clause 17 (plainClause plain)] []⟩

section

variable {plain : String}

theorem generalClauses_plain (h : plain = "abc" ∨ plain = "another-up") :
    generalClauses (Marked.ofText (operatorText clauseFront plain.toList clauseBack))
      (plainPattern plain) = [plainClause plain] := by
  rcases h with rfl | rfl <;> decide +kernel

/-- Readable names of three and of ten bytes. -/
theorem slot_plain (h : plain = "abc" ∨ plain = "another-up") :
    Slot .cpp clauseFront plain.toList clauseBack [plainPattern plain] ["a"] 0 0
      (plainClause plain) where
  accepted := by
    refine ⟨?_, ?_, fun p hp c hc => ⟨.other, TextFilter.ofClause_eq_other_iff.2 ?_⟩⟩
    · rcases h with rfl | rfl
      · with_unfolding_all exact rfl
      · with_unfolding_all exact rfl
    · rcases h with rfl | rfl <;> decide +kernel
    · obtain rfl := List.mem_singleton.1 hp
      obtain rfl : c = plainClause plain := List.mem_singleton.1 hc
      rcases h with rfl | rfl <;> decide +kernel
  clause := by
    refine ⟨plainPattern plain, rfl, ?_⟩
    rw [generalClauses_plain h]
    rfl
  place := by rcases h with rfl | rfl <;> decide +kernel
  readable := by rcases h with rfl | rfl <;> exact ⟨by decide, by decide⟩
  ends := by decide

/-- The text has no other clause. -/
theorem othersPass_plain (h : plain = "abc" ∨ plain = "another-up") (registry : Registry) :
    OthersPass registry (Marked.ofText (operatorText clauseFront plain.toList clauseBack)) ["a"]
      [plainPattern plain] (plainClause plain) := by
  intro p hp d hd hopener
  obtain rfl := List.mem_singleton.1 hp
  rw [generalClauses_plain h] at hd
  obtain rfl := List.mem_singleton.1 hd
  exact absurd rfl hopener

end

/-- A predicate on captures. -/
def leafTest : Predicate := .structural (NodesTest.each .leaf).holds

/-- The built-in predicates and this one. -/
def withLeaf (name : String) : Registry := ⟨Registry.builtins.entries ++ [(name, leafTest)]⟩

theorem register_withLeaf {written name : String} (hname : Registry.validName written = .ok name)
    (hfree : Registry.builtins.contains name = false) :
    Registry.builtins.register written leafTest = .ok (withLeaf name) := by
  rw [Registry.register, hname]
  simp only [hfree]
  rfl

/-- A registry takes `é?`, and the text is refused when it stands in the place of a name that can
be read. -/
theorem usable_fails_accented :
    Registry.builtins.register "é?" leafTest = .ok (withLeaf "é?") ∧
    ¬ ∀ patterns names i k c,
      Slot .cpp clauseFront "abc".toList clauseBack patterns names i k c →
      OthersPass (withLeaf "é?")
        (Marked.ofText (operatorText clauseFront "abc".toList clauseBack)) names patterns c →
      ∀ invocation, leafTest.resolve "é?" (c.arguments.map (convertArgument names)) =
          .ok invocation →
        ∃ q p, compile .cpp (operatorText clauseFront "é?".toList clauseBack) (withLeaf "é?") =
          .ok q ∧ q.patterns[i]? = some p ∧ p.predicates[k]? = some invocation := by
  refine ⟨register_withLeaf (by decide +kernel) (by decide +kernel), fun hall => ?_⟩
  obtain ⟨q, -, hq, -⟩ := hall _ _ _ _ _ (slot_plain (.inl rfl)) (othersPass_plain (.inl rfl) _) _
    rfl
  have hnone : (compile .cpp (operatorText clauseFront "é?".toList clauseBack)
      (withLeaf "é?")).toOption.isSome = false := by
    decide +kernel
  rw [hq] at hnone
  cases hnone

/-- A name that begins with a mark of its own is resolved. -/
theorem registered_name_usable_marked :
    ∃ q p invocation, compile .cpp (operatorText clauseFront "weaver-up?".toList clauseBack)
        (withLeaf "weaver-up?") = .ok q ∧
      q.patterns[0]? = some p ∧ p.predicates[0]? = some invocation ∧
      invocation.name = "weaver-up?" := by
  have hregister : Registry.builtins.register "#weaver-up?" leafTest =
      .ok (withLeaf "weaver-up?") :=
    register_withLeaf (by decide +kernel) (by decide +kernel)
  obtain ⟨invocation, hresolve, hname⟩ : ∃ invocation,
      leafTest.resolve "weaver-up?" ((plainClause "another-up").arguments.map
        (convertArgument ["a"])) = .ok invocation ∧ invocation.name = "weaver-up?" :=
    ⟨_, rfl, rfl⟩
  obtain ⟨husable, -⟩ := registered_name_usable_iff hregister .refl (slot_plain (.inr rfl))
    (by decide) (othersPass_plain (.inr rfl) _) hresolve
  obtain ⟨q, p, hq, hp, hk⟩ := husable.2 (by decide)
  exact ⟨q, p, invocation, hq, hp, hk, hname⟩

end Query
end TreeQuery
