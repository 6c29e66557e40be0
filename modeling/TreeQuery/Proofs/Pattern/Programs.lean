/-
  TreeQuery.Proofs.Pattern.Programs

  Programs apart from where their items start in the text. Steps are added and changed
  without a look at the origins (`Program.stepsOnly`), so texts of one shape have the
  same steps wherever their items stand.

  Clauses add no steps. `Program.stepsOnly_addItem`: an item has the steps of the item
  without its clauses, when they stand aside (`Item.clausesAside`): none of them takes the
  place of a branch, of the first item after an anchor or of the last child before one.
-/

import TreeQuery.Pattern.Program

namespace TreeQuery

namespace Item

/-- Whether an item is a clause, under a label or after an anchor. -/
def isClause : Item → Bool
  | clause .. => true
  | labelled _ _ item => item.isClause
  | anchored item => item.isClause
  | node .. | leaf .. | group .. | choice .. => false

mutual
/-- An item without the clauses among its items; offsets are forgotten. -/
def withoutClauses : Item → Item
  | node _ test children absent closed suffixes =>
    node 0 test (withoutClausesOfList children) absent closed suffixes
  | leaf _ test suffixes => leaf 0 test suffixes
  | group _ items suffixes => group 0 (withoutClausesOfList items) suffixes
  | choice _ branches suffixes => choice 0 (withoutClausesOfList branches) suffixes
  | labelled _ field item => labelled 0 field (withoutClauses item)
  | anchored item => anchored (withoutClauses item)
  | clause _ c => clause 0 c

/-- The items that are no clauses, without the clauses among theirs. -/
def withoutClausesOfList : List Item → List Item
  | [] => []
  | i :: is =>
    if i.isClause then withoutClausesOfList is else withoutClauses i :: withoutClausesOfList is
end

mutual
/-- Whether no clause in an item takes a place that matters; `anchored` says that `.` stands
before the item. -/
def clausesAside (anchor : Bool) : Item → Bool
  | node _ _ children _ closed _ =>
    clausesAsideInTurn false children && (!closed || children.getLast?.all (!·.isClause))
  | leaf .. => true
  | group _ items _ =>
    clausesAsideInTurn anchor items && (!anchor || items.head?.all (!·.isClause))
  | choice _ branches _ => clausesAsideInEach anchor branches
  | labelled _ _ item => clausesAside anchor item
  | anchored item => clausesAside true item
  | clause .. => false

/-- The same for items that match one after the other, of which the first can have an anchor. -/
def clausesAsideInTurn (anchor : Bool) : List Item → Bool
  | [] => true
  | i :: is => (i.isClause || clausesAside anchor i) && clausesAsideInTurn false is

/-- The same for items of which one matches. -/
def clausesAsideInEach (anchor : Bool) : List Item → Bool
  | [] => true
  | i :: is => clausesAside anchor i && clausesAsideInEach anchor is
end

theorem isClause_of_clausesAside {anchor : Bool} {i : Item} (h : i.clausesAside anchor = true) :
    i.isClause = false := by
  match i with
  | node .. => rfl
  | leaf .. => rfl
  | group .. => rfl
  | choice .. => rfl
  | labelled _ _ item =>
    rw [clausesAside] at h
    exact isClause_of_clausesAside (i := item) h
  | anchored item =>
    rw [clausesAside] at h
    exact isClause_of_clausesAside (i := item) h
  | clause .. => cases h

mutual
/-- Where there are no clauses, none stands in the way. -/
theorem clausesAside_of_clauses_eq_nil (anchor : Bool) (i : Item) (h : i.clauses = []) :
    i.clausesAside anchor = true := by
  match i with
  | node _ _ children _ closed _ =>
    rw [clauses] at h
    obtain ⟨hturn, hnone⟩ := clausesAsideInTurn_of_clauses_eq_nil false children h
    rw [clausesAside, hturn, Bool.true_and, Bool.or_eq_true]
    refine Or.inr ?_
    cases hlast : children.getLast? with
    | none => rfl
    | some i => simp [hnone i (List.mem_of_getLast? hlast)]
  | leaf .. => rfl
  | group _ items _ =>
    rw [clauses] at h
    obtain ⟨hturn, hnone⟩ := clausesAsideInTurn_of_clauses_eq_nil anchor items h
    rw [clausesAside, hturn, Bool.true_and, Bool.or_eq_true]
    refine Or.inr ?_
    cases hfirst : items.head? with
    | none => rfl
    | some i => simp [hnone i (List.mem_of_head? hfirst)]
  | choice _ branches _ =>
    rw [clauses] at h
    rw [clausesAside]
    exact clausesAsideInEach_of_clauses_eq_nil anchor branches h
  | labelled _ _ item =>
    rw [clauses] at h
    rw [clausesAside]
    exact clausesAside_of_clauses_eq_nil anchor item h
  | anchored item =>
    rw [clauses] at h
    rw [clausesAside]
    exact clausesAside_of_clauses_eq_nil true item h
  | clause .. => cases h

theorem clausesAsideInTurn_of_clauses_eq_nil (anchor : Bool) (is : List Item)
    (h : clausesOfList is = []) :
    clausesAsideInTurn anchor is = true ∧ ∀ i ∈ is, i.isClause = false := by
  match is with
  | [] => exact ⟨rfl, nofun⟩
  | i :: is =>
    rw [clausesOfList, List.append_eq_nil_iff] at h
    have hi := clausesAside_of_clauses_eq_nil anchor i h.1
    obtain ⟨his, hnone⟩ := clausesAsideInTurn_of_clauses_eq_nil false is h.2
    refine ⟨by rw [clausesAsideInTurn, hi, his, Bool.or_true, Bool.true_and], ?_⟩
    exact List.forall_mem_cons.2 ⟨isClause_of_clausesAside hi, hnone⟩

theorem clausesAsideInEach_of_clauses_eq_nil (anchor : Bool) (is : List Item)
    (h : clausesOfList is = []) : clausesAsideInEach anchor is = true := by
  match is with
  | [] => rfl
  | i :: is =>
    rw [clausesOfList, List.append_eq_nil_iff] at h
    rw [clausesAsideInEach, clausesAside_of_clauses_eq_nil anchor i h.1,
      clausesAsideInEach_of_clauses_eq_nil anchor is h.2, Bool.true_and]
end

end Item

namespace Program

variable {p p' : Program}

theorem steps_noteOrigin (p : Program) (offset : Nat) : (p.noteOrigin offset).steps = p.steps := by
  rw [noteOrigin]
  split <;> rfl

theorem size_eq (h : p.steps = p'.steps) : p.size = p'.size := congrArg Array.size h

theorem alternative?_eq (h : p.steps = p'.steps) (i : Nat) :
    p.alternative? i = p'.alternative? i := by
  rw [alternative?, alternative?, h]

theorem steps_push (h : p.steps = p'.steps) (s : Step) : (p.push s).steps = (p'.push s).steps :=
  congrArg (·.push s) h

theorem steps_modify (h : p.steps = p'.steps) (i : Nat) (f : Step → Step) :
    (p.modify i f).steps = (p'.modify i f).steps :=
  congrArg (·.modify i f) h

theorem steps_modifyForward (h : p.steps = p'.steps) (i : Nat) (f : Step → Step) (fuel : Nat) :
    (p.modifyForward i f fuel).steps = (p'.modifyForward i f fuel).steps := by
  induction fuel generalizing p p' i with
  | zero => exact h
  | succ fuel ih =>
    have hmodify := steps_modify h i f
    rw [modifyForward, modifyForward, alternative?_eq hmodify, size_eq hmodify]
    split
    · split
      · exact ih hmodify _
      · exact hmodify
    · exact hmodify

theorem steps_modifyChain (h : p.steps = p'.steps) (i : Nat) (f : Step → Step) (fuel : Nat) :
    (p.modifyChain i f fuel).steps = (p'.modifyChain i f fuel).steps := by
  induction fuel generalizing p p' i with
  | zero => exact h
  | succ fuel ih =>
    have hmodify := steps_modify h i f
    rw [modifyChain, modifyChain, alternative?_eq hmodify, size_eq hmodify]
    split
    · split
      · exact ih hmodify _
      · exact hmodify
    · exact hmodify

theorem chainEnd_eq (h : p.steps = p'.steps) (limit i fuel : Nat) :
    p.chainEnd limit i fuel = p'.chainEnd limit i fuel := by
  induction fuel generalizing i with
  | zero => rfl
  | succ fuel ih =>
    rw [chainEnd, chainEnd, alternative?_eq h]
    simp only [ih]

theorem steps_makeOptional (h : p.steps = p'.steps) (limit start : Nat) :
    (p.makeOptional limit start).steps = (p'.makeOptional limit start).steps := by
  rw [makeOptional, makeOptional, size_eq h, chainEnd_eq h]
  exact steps_modify h _ _

theorem steps_addSuffix (h : p.steps = p'.steps) (names : List String) (depth start : Nat)
    (s : Suffix) :
    (p.addSuffix names depth start s).steps = (p'.addSuffix names depth start s).steps := by
  cases s with
  | oneOrMore => exact steps_push h _
  | zeroOrMore =>
    have hpush := steps_push h (.repetition depth start)
    rw [addSuffix, addSuffix, size_eq hpush]
    exact steps_makeOptional hpush _ _
  | zeroOrOne =>
    rw [addSuffix, addSuffix, size_eq h]
    exact steps_makeOptional h _ _
  | capture name =>
    rw [addSuffix, addSuffix, size_eq h]
    exact steps_modifyForward h _ _ _

theorem steps_addSuffixes (h : p.steps = p'.steps) (names : List String) (depth start : Nat)
    (suffixes : List Suffix) :
    (p.addSuffixes names depth start suffixes).steps =
      (p'.addSuffixes names depth start suffixes).steps := by
  induction suffixes generalizing p p' with
  | nil => exact h
  | cons s suffixes ih => exact ih (steps_addSuffix h names depth start s)

theorem steps_linkBranches (h : p.steps = p'.steps) (starts : List Nat) :
    (p.linkBranches starts).steps = (p'.linkBranches starts).steps := by
  induction starts generalizing p p' with
  | nil => exact h
  | cons first starts ih =>
    cases starts with
    | nil => exact h
    | cons second more =>
      have hfirst := steps_modify h first fun s => { s with alternative := some second }
      rw [linkBranches, linkBranches, size_eq hfirst]
      exact ih (steps_modify hfirst _ _)

/-! ## Clauses -/

/-- There is no step to change past the end. -/
theorem steps_modifyForward_of_size_le (p : Program) {i : Nat} (h : p.size ≤ i)
    (f : Step → Step) (fuel : Nat) : (p.modifyForward i f fuel).steps = p.steps := by
  have hmodify : (p.modify i f).steps = p.steps := by
    apply Array.ext_getElem?
    intro j
    rw [modify, Array.getElem?_modify]
    split
    · next heq => rw [← heq, Array.getElem?_eq_none h, Option.map_none]
    · rfl
  have hlast : (p.modify i f).alternative? i = none := by
    rw [alternative?_eq hmodify, alternative?, Array.getElem?_eq_none h]
    rfl
  cases fuel with
  | zero => rfl
  | succ fuel =>
    rw [modifyForward, hlast]
    exact hmodify

/-- A clause adds no steps. -/
theorem steps_addItem_of_isClause {i : Item} (h : i.isClause = true) (names : List String)
    (depth : Nat) (anchor : Bool) (p : Program) :
    (addItem names depth anchor p i).steps = p.steps := by
  match i with
  | .clause offset c =>
    rw [addItem]
    exact steps_noteOrigin p offset
  | .labelled offset field item =>
    have hitem : (addItem names depth anchor (p.noteOrigin offset) item).steps =
        (p.noteOrigin offset).steps :=
      steps_addItem_of_isClause (i := item) h names depth anchor (p.noteOrigin offset)
    rw [addItem, steps_modifyForward_of_size_le _ (Nat.le_of_eq (size_eq hitem)), hitem,
      steps_noteOrigin]
  | .anchored item =>
    rw [addItem]
    exact steps_addItem_of_isClause (i := item) h names depth true p

theorem addBranches_cons_cons (names : List String) (depth : Nat) (anchor : Bool) (p : Program)
    (i j : Item) (is : List Item) :
    addBranches names depth anchor p (i :: j :: is) =
      ((addBranches names depth anchor
          ((addItem names depth anchor p i).push (.placeholder depth)) (j :: is)).1,
        p.size :: (addBranches names depth anchor
          ((addItem names depth anchor p i).push (.placeholder depth)) (j :: is)).2) := rfl

mutual
/-- The steps of an item are those of the item without its clauses. -/
theorem steps_addItem {anchor : Bool} (i : Item) (hi : i.clausesAside anchor = true)
    (names : List String) (depth : Nat) {p p' : Program} (h : p.steps = p'.steps) :
    (addItem names depth anchor p i).steps =
      (addItem names depth anchor p' i.withoutClauses).steps := by
  have hnoted : ∀ offset offset', (p.noteOrigin offset).steps = (p'.noteOrigin offset').steps :=
    fun offset offset' => by rw [steps_noteOrigin, steps_noteOrigin, h]
  match i with
  | .node offset test children absent closed suffixes =>
    rw [Item.clausesAside, Bool.and_eq_true] at hi
    have hstart := size_eq (hnoted offset 0)
    have hpush := steps_push (hnoted offset 0)
      { Step.ofTest test depth anchor with absent := absent.take 8 }
    obtain ⟨hchildren, hlast⟩ := steps_addChildren children hi.1 names (depth + 1) hpush
      (p.noteOrigin offset).size (p'.noteOrigin 0).size
    rw [Item.withoutClauses, addItem, addItem]
    refine (steps_addSuffixes ?_ names depth _ suffixes).trans
      (congrArg (fun start => (addSuffixes names depth start _ suffixes).steps) hstart)
    cases closed with
    | false => exact hchildren
    | true =>
      -- The last child is altered afterwards. It starts where it did, for it is no clause.
      have hlast := hlast (by simpa using hi.2) fun _ => hstart
      simp only [if_true, hlast, size_eq hchildren]
      exact steps_modifyChain hchildren _ _ _
  | .leaf offset test suffixes =>
    rw [Item.withoutClauses, addItem, addItem, size_eq (hnoted offset 0)]
    exact steps_addSuffixes (steps_push (hnoted offset 0) _) names depth _ suffixes
  | .group offset items suffixes =>
    rw [Item.clausesAside, Bool.and_eq_true] at hi
    rw [Item.withoutClauses, addItem, addItem, size_eq (hnoted offset 0)]
    exact steps_addSuffixes (steps_addSequence items hi.1 hi.2 names depth (hnoted offset 0))
      names depth _ suffixes
  | .choice offset branches suffixes =>
    rw [Item.clausesAside] at hi
    obtain ⟨hbranches, hstarts⟩ := steps_addBranches branches hi names depth (hnoted offset 0)
    rw [Item.withoutClauses, addItem, addItem, size_eq (hnoted offset 0)]
    simp only [hstarts]
    exact steps_addSuffixes (steps_linkBranches hbranches _) names depth _ suffixes
  | .labelled offset field item =>
    rw [Item.clausesAside] at hi
    have hitem := steps_addItem item hi names depth (hnoted offset 0)
    rw [Item.withoutClauses, addItem, addItem, size_eq (hnoted offset 0), size_eq hitem]
    exact steps_modifyForward hitem _ _ _
  | .anchored item =>
    rw [Item.clausesAside] at hi
    rw [Item.withoutClauses, addItem, addItem]
    exact steps_addItem item hi names depth h
  | .clause .. => cases hi

/-- The steps of children. The last of them starts where it did if it is no clause. -/
theorem steps_addChildren (is : List Item) (his : Item.clausesAsideInTurn false is = true)
    (names : List String) (depth : Nat) {p p' : Program} (h : p.steps = p'.steps)
    (last last' : Nat) :
    (addChildren names depth p last is).1.steps =
        (addChildren names depth p' last' (Item.withoutClausesOfList is)).1.steps ∧
      (is.getLast?.all (!·.isClause) = true → (is = [] → last = last') →
        (addChildren names depth p last is).2 =
          (addChildren names depth p' last' (Item.withoutClausesOfList is)).2) := by
  match is with
  | [] => exact ⟨h, fun _ hlast => hlast rfl⟩
  | i :: is =>
    rw [Item.clausesAsideInTurn, Bool.and_eq_true, Bool.or_eq_true] at his
    have hends : (i :: is).getLast?.all (!·.isClause) = true →
        is.getLast?.all (!·.isClause) = true := by
      intro hend
      cases is with
      | nil => rfl
      | cons j is => exact hend
    rw [Item.withoutClausesOfList, addChildren]
    by_cases hi : i.isClause = true
    · -- A clause as the last child would move the start on by its own, so it is not the last.
      rw [if_pos hi]
      have hclause := steps_addItem_of_isClause hi names depth false p
      obtain ⟨hsteps, hlast⟩ := steps_addChildren is his.2 names depth (hclause.trans h)
        (if (addItem names depth false p i).size = p.size then p.size - 1 else p.size) last'
      refine ⟨hsteps, fun hend _ => hlast (hends hend) ?_⟩
      rintro rfl
      exact absurd hend (by simp [hi])
    · rw [if_neg hi, addChildren]
      have hitem := steps_addItem i (his.1.resolve_left hi) names depth h
      obtain ⟨hsteps, hlast⟩ := steps_addChildren is his.2 names depth hitem
        (if (addItem names depth false p i).size = p.size then p.size - 1 else p.size)
        (if (addItem names depth false p' i.withoutClauses).size = p'.size then p'.size - 1
          else p'.size)
      exact ⟨hsteps, fun hend _ => hlast (hends hend) fun _ => by rw [size_eq hitem, size_eq h]⟩

/-- The steps of a sequence. -/
theorem steps_addSequence {anchor : Bool} (is : List Item)
    (his : Item.clausesAsideInTurn anchor is = true)
    (hfirst : (!anchor || is.head?.all (!·.isClause)) = true) (names : List String) (depth : Nat)
    {p p' : Program} (h : p.steps = p'.steps) :
    (addSequence names depth anchor p is).steps =
      (addSequence names depth anchor p' (Item.withoutClausesOfList is)).steps := by
  match is with
  | [] => exact h
  | i :: is =>
    rw [Item.clausesAsideInTurn, Bool.and_eq_true, Bool.or_eq_true] at his
    rw [Item.withoutClausesOfList, addSequence]
    by_cases hi : i.isClause = true
    · -- The first item takes the anchor with it, so a clause is first only without one.
      rw [if_pos hi]
      have hclause := steps_addItem_of_isClause hi names depth anchor p
      have hanchor : anchor = false := by simpa [hi] using hfirst
      rw [hanchor] at hclause ⊢
      exact steps_addSequence is his.2 rfl names depth (hclause.trans h)
    · rw [if_neg hi, addSequence]
      have hitem := steps_addItem i (his.1.resolve_left hi) names depth h
      exact steps_addSequence is his.2 rfl names depth hitem

/-- The steps of branches, and where each of them starts. -/
theorem steps_addBranches {anchor : Bool} (is : List Item)
    (his : Item.clausesAsideInEach anchor is = true) (names : List String) (depth : Nat)
    {p p' : Program} (h : p.steps = p'.steps) :
    (addBranches names depth anchor p is).1.steps =
        (addBranches names depth anchor p' (Item.withoutClausesOfList is)).1.steps ∧
      (addBranches names depth anchor p is).2 =
        (addBranches names depth anchor p' (Item.withoutClausesOfList is)).2 := by
  match is with
  | [] => exact ⟨h, rfl⟩
  | [i] =>
    rw [Item.clausesAsideInEach, Bool.and_eq_true] at his
    have hi := Item.isClause_of_clausesAside his.1
    rw [Item.withoutClausesOfList, if_neg (by simp [hi]), Item.withoutClausesOfList, addBranches,
      addBranches]
    exact ⟨steps_addItem i his.1 names depth h, by rw [size_eq h]⟩
  | i :: j :: is =>
    rw [Item.clausesAsideInEach, Bool.and_eq_true] at his
    have hi := Item.isClause_of_clausesAside his.1
    have hitem := steps_addItem i his.1 names depth h
    obtain ⟨hmore, hstarts⟩ := steps_addBranches (j :: is) his.2 names depth
      (steps_push hitem (.placeholder depth))
    have hj := Item.isClause_of_clausesAside (Bool.and_eq_true _ _ ▸ his.2).1
    rw [Item.withoutClausesOfList, if_neg (by simp [hj])] at hmore hstarts
    rw [Item.withoutClausesOfList, if_neg (by simp [hi]), Item.withoutClausesOfList,
      if_neg (by simp [hj]), addBranches_cons_cons, addBranches_cons_cons]
    exact ⟨hmore, by rw [hstarts, size_eq h]⟩
end

/-- **Programs without clauses.** Patterns that differ in nothing but clauses that stand aside,
    and in where their items stand in the text, have the same steps. -/
theorem steps_ofPattern {pattern pattern' : Pattern}
    (h : pattern.item.clausesAside false = true) (h' : pattern'.item.clausesAside false = true)
    (heq : pattern.item.withoutClauses = pattern'.item.withoutClauses) (names : List String) :
    (ofPattern names pattern).steps = (ofPattern names pattern').steps := by
  have hitem : (addItem names 0 false empty pattern.item).steps =
      (addItem names 0 false empty pattern'.item).steps := by
    rw [steps_addItem _ h names 0 (Eq.refl empty.steps), heq,
      ← steps_addItem _ h' names 0 (Eq.refl empty.steps)]
  exact steps_push hitem .complete

end Program
end TreeQuery
