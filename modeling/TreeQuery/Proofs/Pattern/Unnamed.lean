/-
  TreeQuery.Proofs.Pattern.Unnamed

  The name of a clause is read and kept, and nothing else is made of it. When the name of
  the clause that opens at some offset is left out (`Reading.unname`), every step that
  starts behind it goes on as before, and so does the rest of the reading.

  * `Reading.run_unname`: the rest of a text is read without a look at the name.
  * `Program.ofPattern_unname`: a pattern has the same program.
  * `Item.clauses_unname`: its clauses are the same but for the name.
-/

import TreeQuery.Pattern.Program
import TreeQuery.Proofs.Pattern.Runs

namespace TreeQuery

/-! ## Leaving a name out -/

/-- A clause without its name, if it opens at `o`. -/
def Clause.unname (o : Nat) (c : Clause) : Clause :=
  if c.opener = o then { c with name := "" } else c

namespace Item

mutual
/-- An item in which the clause that opens at `o` has no name. -/
def unname (o : Nat) : Item → Item
  | node offset test children absent closed suffixes =>
    node offset test (unnameOfList o children) absent closed suffixes
  | leaf offset test suffixes => leaf offset test suffixes
  | group offset items suffixes => group offset (unnameOfList o items) suffixes
  | choice offset branches suffixes => choice offset (unnameOfList o branches) suffixes
  | labelled offset field item => labelled offset field (unname o item)
  | anchored item => anchored (unname o item)
  | clause offset c => clause offset (c.unname o)

/-- Several items in which it has no name. -/
def unnameOfList (o : Nat) : List Item → List Item
  | [] => []
  | i :: is => unname o i :: unnameOfList o is
end

variable {o : Nat}

@[simp] theorem unnameOfList_eq_map (is : List Item) : unnameOfList o is = is.map (unname o) := by
  induction is with
  | nil => rfl
  | cons i is ih => rw [unnameOfList, ih, List.map_cons]

@[simp] theorem offset_unname (i : Item) : (i.unname o).offset = i.offset := by
  match i with
  | node .. | leaf .. | group .. | choice .. | labelled .. | clause .. => rfl
  | anchored item => exact offset_unname item

theorem addSuffix_unname (s : Suffix) (i : Item) :
    (i.unname o).addSuffix s = (i.addSuffix s).unname o := by
  cases i <;> rfl

mutual
@[simp] theorem isHollow_unname (i : Item) : (i.unname o).isHollow = i.isHollow := by
  match i with
  | node .. | leaf .. | clause .. => rfl
  | group _ items _ => rw [unname, isHollow, isHollow, allHollow_unname items]
  | choice _ branches _ =>
    rw [unname, isHollow, isHollow, allHollow_unname branches, unnameOfList_eq_map,
      List.length_map]
  | labelled _ _ item => exact isHollow_unname item
  | anchored item => exact isHollow_unname item

theorem allHollow_unname (is : List Item) : allHollow (unnameOfList o is) = allHollow is := by
  match is with
  | [] => rfl
  | i :: is => rw [unnameOfList, allHollow, allHollow, isHollow_unname i, allHollow_unname is]
end

@[simp] theorem allHollow_map_unname (is : List Item) :
    allHollow (is.map (unname o)) = allHollow is := by
  rw [← unnameOfList_eq_map, allHollow_unname]

mutual
/-- The clauses are the same but for the name. -/
theorem clauses_unname (i : Item) : (i.unname o).clauses = i.clauses.map (Clause.unname o) := by
  match i with
  | node _ _ children _ _ _ => exact clausesOfList_unname children
  | leaf .. => rfl
  | group _ items _ => exact clausesOfList_unname items
  | choice _ branches _ => exact clausesOfList_unname branches
  | labelled _ _ item => exact clauses_unname item
  | anchored item => exact clauses_unname item
  | clause .. => rfl

theorem clausesOfList_unname (is : List Item) :
    clausesOfList (unnameOfList o is) = (clausesOfList is).map (Clause.unname o) := by
  match is with
  | [] => rfl
  | i :: is =>
    rw [unnameOfList, clausesOfList, clausesOfList, clauses_unname i, clausesOfList_unname is,
      List.map_append]
end

end Item

/-- A pattern in which the clause that opens at `o` has no name. -/
def Pattern.unname (o : Nat) (p : Pattern) : Pattern := ⟨p.start, p.item.unname o⟩

/-- An open construct in which the clause that opens at `o` has no name. -/
def Frame.unname (o : Nat) : Frame → Frame
  | choice offset branches => choice offset (branches.map (Item.unname o))
  | group offset items anchor => group offset (items.map (Item.unname o)) anchor
  | node offset test children absent anchor first =>
    node offset test (children.map (Item.unname o)) absent anchor first
  | field offset name => field offset name

/-- What the reader is in the middle of, without the name of the clause that opens at `o`. -/
def Mode.unname (o : Nat) : Mode → Mode
  | items => items
  | suffixes item => suffixes (item.unname o)
  | clause offset opener name arguments =>
    clause offset opener (if opener = o then "" else name) arguments

/-- A state in which the clause that opens at `o` has no name. -/
def Reading.unname (o : Nat) (s : Reading) : Reading where
  place := s.place
  mode := s.mode.unname o
  frames := s.frames.map (Frame.unname o)
  captures := s.captures
  patterns := s.patterns.map (Pattern.unname o)

/-! ## Programs -/

namespace Program

variable (o : Nat) (names : List String)

mutual
/-- Of a clause only the place counts for the steps of an item. -/
theorem addItem_unname (depth : Nat) (immediate : Bool) (p : Program) (i : Item) :
    addItem names depth immediate p (i.unname o) = addItem names depth immediate p i := by
  match i with
  | .node _ _ children _ _ _ =>
    simp only [Item.unname, addItem, addChildren_unname (depth + 1) _ _ children]
  | .leaf .. => rfl
  | .group _ items _ => simp only [Item.unname, addItem, addSequence_unname depth _ _ items]
  | .choice _ branches _ => simp only [Item.unname, addItem, addBranches_unname depth _ _ branches]
  | .labelled _ _ item => simp only [Item.unname, addItem, addItem_unname depth _ _ item]
  | .anchored item => simp only [Item.unname, addItem, addItem_unname depth _ _ item]
  | .clause .. => rfl

theorem addChildren_unname (depth : Nat) (p : Program) (last : Nat) (is : List Item) :
    addChildren names depth p last (Item.unnameOfList o is) =
      addChildren names depth p last is := by
  match is with
  | [] => rfl
  | i :: is =>
    simp only [Item.unnameOfList, addChildren, addItem_unname depth _ _ i,
      addChildren_unname depth _ _ is]

theorem addSequence_unname (depth : Nat) (immediate : Bool) (p : Program) (is : List Item) :
    addSequence names depth immediate p (Item.unnameOfList o is) =
      addSequence names depth immediate p is := by
  match is with
  | [] => rfl
  | i :: is =>
    simp only [Item.unnameOfList, addSequence, addItem_unname depth _ _ i,
      addSequence_unname depth _ _ is]

theorem addBranches_unname (depth : Nat) (immediate : Bool) (p : Program) (is : List Item) :
    addBranches names depth immediate p (Item.unnameOfList o is) =
      addBranches names depth immediate p is := by
  match is with
  | [] => rfl
  | [i] =>
    simp only [Item.unnameOfList, addBranches, addItem_unname depth _ _ i]
  | i :: j :: is =>
    have hmore := addBranches_unname depth immediate
      ((addItem names depth immediate p i).push (.placeholder depth)) (j :: is)
    simp only [Item.unnameOfList] at hmore
    simp only [Item.unnameOfList, addBranches, addItem_unname depth _ _ i, hmore]
end

theorem ofPattern_unname (pattern : Pattern) :
    ofPattern names (pattern.unname o) = ofPattern names pattern :=
  congrArg (push · .complete) (addItem_unname o names 0 false empty pattern.item)

end Program

namespace Reading

variable {v : Vocabulary} {o : Nat}

/-! ## Steps -/

theorem deliver_unname (patterns : List Pattern) (item : Item) (frames : List Frame) :
    deliver v (patterns.map (Pattern.unname o)) (item.unname o) (frames.map (Frame.unname o)) =
      (deliver v patterns item frames).map
        (Prod.map (List.map (Pattern.unname o)) (List.map (Frame.unname o))) := by
  have hanchor : ∀ anchor, anchorIf anchor (item.unname o) = (anchorIf anchor item).unname o := by
    intro anchor
    cases anchor <;> rfl
  induction frames generalizing item with
  | nil => simp [deliver, Except.map, Pattern.unname]
  | cons frame frames ih =>
    cases frame with
    | choice offset branches => simp [deliver, Except.map, Frame.unname]
    | group offset items anchor => simp [deliver, Except.map, Frame.unname, hanchor]
    | node offset test children absent anchor first =>
      simp [deliver, Except.map, Frame.unname, hanchor]
    | field offset name =>
      rw [List.map_cons, Frame.unname, deliver, deliver]
      split
      · refine ih (.labelled offset name item) fun anchor => ?_
        cases anchor <;> rfl
      · rfl

theorem finishItem_unname (s : Reading) (item : Item) :
    finishItem v (s.unname o) (item.unname o) = (finishItem v s item).map (unname o) := by
  rw [finishItem, finishItem, unname, deliver_unname]
  cases deliver v s.patterns item s.frames with
  | error fault => rfl
  | ok result => rfl

theorem isBare_unname (s : Reading) : (s.unname o).isBare = s.isBare := by
  have hframe : ∀ frame : Frame, Frame.isBare (frame.unname o) = Frame.isBare frame := by
    intro frame
    cases frame <;> simp [Frame.unname, Frame.isBare]
  simp [isBare, unname, List.all_map, Function.comp_def, hframe]

theorem closeRound_unname (s : Reading) (after : Place) :
    closeRound (s.unname o) after = (closeRound s after).map (unname o) := by
  obtain ⟨place, mode, frames, captures, patterns⟩ := s
  cases frames with
  | nil => rfl
  | cons frame frames =>
    cases frame with
    | choice _ _ | field _ _ => rfl
    | group offset items anchor =>
      simp [closeRound, unname, Frame.unname, Mode.unname, Item.unname, Except.map]
    | node offset test children absent anchor first =>
      simp only [closeRound, unname, List.map_cons, Frame.unname, List.isEmpty_map,
        Item.allHollow_map_unname]
      split
      · rfl
      · simp [unname, Mode.unname, Item.unname, Except.map]

theorem closeSquare_unname (s : Reading) (after : Place) :
    closeSquare (s.unname o) after = (closeSquare s after).map (unname o) := by
  obtain ⟨place, mode, frames, captures, patterns⟩ := s
  cases frames with
  | nil => rfl
  | cons frame frames =>
    cases frame with
    | group _ _ _ | node _ _ _ _ _ _ | field _ _ => rfl
    | choice offset branches =>
      cases branches with
      | nil => rfl
      | cons b branches =>
        simp [closeSquare, unname, Frame.unname, Mode.unname, Item.unname, Except.map]

/-- A clause that begins behind `o` keeps its name. -/
theorem openRound_unname {s : Reading} {after : Place} (ho : o < (Scan.blanks after).offset) :
    openRound v (s.unname o) after = (openRound v s after).map (unname o) := by
  have hopener : ∀ name, (if (Scan.blanks after).offset = o then "" else name) = name :=
    fun _ => if_neg (Nat.ne_of_gt ho)
  simp only [openRound]
  split
  · rfl
  · rfl
  · rfl
  · split
    · simp only [pure, Except.pure, Except.map, unname, Mode.unname, hopener]
    · rfl
  · split
    · simp only [pure, Except.pure, Except.map, unname, Mode.unname, hopener]
    · rfl
  · rw [isBare_unname]
    cases readTest v (Scan.blanks after) with
    | error fault => rfl
    | ok result => rfl

theorem readAbsent_unname (s : Reading) (after : Place) (offset : Nat) (test : NodeTest)
    (children : List Item) (absent : List String) (first : Bool) (frames : List Frame) :
    readAbsent v (s.unname o) after offset test (children.map (Item.unname o)) absent first
        (frames.map (Frame.unname o)) =
      (readAbsent v s after offset test children absent first frames).map (unname o) := by
  simp only [readAbsent]
  split
  · split
    · rfl
    · rfl
  · rfl

theorem readLabel_unname (s : Reading) :
    readLabel (s.unname o) = (readLabel s).map (unname o) := by
  simp only [readLabel, unname]
  split
  · rfl
  · rfl

theorem openItem_unname {s : Reading} {c : Char} {after : Place} (ho : o < after.offset) :
    openItem v (s.unname o) c after = (openItem v s c after).map (unname o) := by
  have hblanks : o < (Scan.blanks after).offset := by
    obtain ⟨front, -, hoffset⟩ := Scan.blanks_upto after
    omega
  unfold openItem
  split
  · exact openRound_unname hblanks
  · rfl
  · exact closeRound_unname s after
  · exact closeSquare_unname s after
  · rfl
  · simp only [unname]
    cases readToken v s.place with
    | error fault => rfl
    | ok result => rfl
  · by_cases hname : Scan.atName s.place = true
    · rw [if_pos hname, ← readLabel_unname]
      exact if_pos hname
    · rw [if_neg hname]
      exact if_neg hname

theorem stepItems_unname {s : Reading} (ho : o < s.place.offset) :
    stepItems v (s.unname o) = (stepItems v s).map (unname o) := by
  rw [stepItems, stepItems]
  have hplace : (s.unname o).place = s.place := rfl
  have hframes : (s.unname o).frames = s.frames.map (Frame.unname o) := rfl
  rw [hplace, hframes]
  split
  · rfl
  · next c rest hrest =>
    have hafter : o < (Place.past s.place.offset c rest).offset := Nat.lt_add_right _ ho
    have hopen := openItem_unname (v := v) (s := s) (c := c) hafter
    simp only
    cases hs : s.frames with
    | nil => simpa using hopen
    | cons frame frames =>
      cases frame with
      | choice offset branches => simpa [Frame.unname] using hopen
      | field offset name => simpa [Frame.unname] using hopen
      | group offset items anchor =>
        cases anchor with
        | true => simpa [Frame.unname] using hopen
        | false =>
          by_cases hdot : c = '.'
          · subst hdot
            rfl
          · simpa [Frame.unname, hdot] using hopen
      | node offset test children absent anchor first =>
        cases anchor with
        | true => simpa [Frame.unname] using hopen
        | false =>
          by_cases hbang : c = '!'
          · subst hbang
            exact readAbsent_unname s _ offset test children absent first frames
          · by_cases hdot : c = '.'
            · subst hdot
              rfl
            · simpa [Frame.unname, hbang, hdot] using hopen

theorem stepSuffixes_unname {s : Reading} {item : Item} (ho : o < s.place.offset) :
    stepSuffixes v (s.unname o) (item.unname o) =
      (stepSuffixes v s item).map (unname o) := by
  have hadd : ∀ suffix after, stepSuffixes.addSuffix (s.unname o) (item.unname o) suffix after =
      (stepSuffixes.addSuffix s item suffix after).unname o := by
    intro suffix after
    simp only [stepSuffixes.addSuffix, unname, Mode.unname, Item.addSuffix_unname]
  have hplace : (s.unname o).place = s.place := rfl
  rw [stepSuffixes, stepSuffixes, hplace]
  split
  · rw [hadd]
    rfl
  · rw [hadd]
    rfl
  · rw [hadd]
    rfl
  · simp only [hadd]
    split
    · rfl
    · rfl
  · rw [finishItem_unname]
    cases hfinish : finishItem v s item with
    | error fault => rfl
    | ok t =>
      obtain ⟨ht, -⟩ := finishItem_eq_ok hfinish
      exact stepItems_unname (ht ▸ ho)

theorem stepClause_unname (s : Reading) (offset opener : Nat) (name : String)
    (arguments : List ClauseArgument) :
    stepClause v (s.unname o) offset opener (if opener = o then "" else name) arguments =
      (stepClause v s offset opener name arguments).map (unname o) := by
  generalize hname : (if opener = o then "" else name) = name'
  have hadd : ∀ argument after,
      stepClause.addArgument (s.unname o) offset opener name' arguments argument after =
        (stepClause.addArgument s offset opener name arguments argument after).unname o := by
    intro argument after
    rw [← hname]
    rfl
  have hclause : Item.clause offset ⟨opener, name', arguments.reverse⟩ =
      (Item.clause offset ⟨opener, name, arguments.reverse⟩).unname o := by
    rw [← hname, Item.unname, Clause.unname]
    split
    · rfl
    · rfl
  have hplace : (s.unname o).place = s.place := rfl
  have hcaptures : (s.unname o).captures = s.captures := rfl
  rw [stepClause, stepClause, hplace, hcaptures]
  split
  · rw [hclause, ← finishItem_unname]
    rfl
  · simp only [hadd]
    split
    · split
      · rfl
      · rfl
    · rfl
  · split
    · rw [hadd]
      rfl
    · rfl
  · simp only [hadd]
    split
    · rfl
    · rfl

theorem step_unname {s : Reading} (ho : o < s.place.offset) :
    step v (s.unname o) = (step v s).map (unname o) := by
  cases hmode : s.mode with
  | items =>
    have h := stepItems_unname (v := v) ho
    simpa only [step, unname, hmode, Mode.unname] using h
  | suffixes item =>
    have h := @stepSuffixes_unname v o s item ho
    simpa only [step, unname, hmode, Mode.unname] using h
  | clause offset opener name arguments =>
    have h := @stepClause_unname v o s offset opener name arguments
    simpa only [step, unname, hmode, Mode.unname] using h

/-! ## The rest of a reading -/

theorem finish_unname (s : Reading) :
    finish v (s.unname o) =
      (finish v s).map (Prod.map (List.map (Pattern.unname o)) id) := by
  have hclosed : ∀ t : Reading,
      (if (t.unname o).frames.isEmpty then
          pure ((t.unname o).patterns.reverse, (t.unname o).captures)
        else malformed (t.unname o).place :
        Except Fault (List Pattern × List String)) =
      (if t.frames.isEmpty then pure (t.patterns.reverse, t.captures) else malformed t.place :
        Except Fault (List Pattern × List String)).map
        (Prod.map (List.map (Pattern.unname o)) id) := by
    intro t
    simp only [unname, List.isEmpty_map]
    split
    · simp [Except.map, pure, Except.pure]
    · rfl
  rw [finish, finish]
  cases hmode : s.mode with
  | items =>
    have hitems : (s.unname o).mode = .items := by rw [unname, hmode, Mode.unname]
    rw [hitems]
    exact hclosed s
  | suffixes item =>
    have hsuffixes : (s.unname o).mode = .suffixes (item.unname o) := by
      rw [unname, hmode, Mode.unname]
    rw [hsuffixes]
    simp only [finishItem_unname]
    cases finishItem v s item with
    | error fault => rfl
    | ok t => exact hclosed t
  | clause offset opener name arguments =>
    have hclause : ∃ name', (s.unname o).mode = .clause offset opener name' arguments :=
      ⟨_, by rw [unname, hmode, Mode.unname]⟩
    obtain ⟨name', hclause⟩ := hclause
    rw [hclause]
    rfl

/-- **Names do not matter.** What is read behind the opener of a clause is the same whatever the
    name of the clause. -/
theorem run_unname {s : Reading} (hsound : s.mode.isSound = true) (ho : o < s.place.offset) :
    run v (s.unname o) = (run v s).map (Prod.map (List.map (Pattern.unname o)) id) := by
  -- By induction on the text that is left, which every step shortens.
  induction hlength : s.place.rest.length using Nat.strongRecOn generalizing s with
  | ind length ih =>
    have hplace : (s.unname o).place = s.place := rfl
    rw [run, run, hplace, finish_unname, step_unname ho]
    split
    · rfl
    · cases hstep : step v s with
      | error fault => rfl
      | ok t =>
        obtain ⟨hsound', heffect⟩ := step_effect hsound hstep
        have hlt := heffect.past.length_lt
        have hplace' : (t.unname o).place = t.place := rfl
        simp only [Except.map, hplace', if_pos hlt]
        exact ih _ (hlength ▸ hlt) hsound' (Nat.lt_trans ho heffect.past.offset_lt) rfl

end Reading
end TreeQuery
