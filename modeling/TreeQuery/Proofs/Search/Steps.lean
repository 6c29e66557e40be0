/-
  TreeQuery.Proofs.Search.Steps

  A search looks at the steps of its programs and at nothing else of them, so where the
  items of a pattern stand in the text does not matter (`Search.run_ofPrograms_congr`).
-/

import TreeQuery.Search.Run

namespace TreeQuery

namespace Program

/-- A program without the origins of its items. -/
def stepsOnly (p : Program) : Program := { p with origins := [] }

theorem startsFrom_stepsOnly (p : Program) (i : Nat) (resume : Option Nat) (fuel : Nat) :
    p.stepsOnly.startsFrom i resume fuel = p.startsFrom i resume fuel := by
  induction fuel generalizing i resume with
  | zero => rfl
  | succ fuel ih =>
    rw [startsFrom, startsFrom]
    simp only [ih]
    rfl

theorem starts_stepsOnly (p : Program) : p.stepsOnly.starts = p.starts :=
  startsFrom_stepsOnly p _ _ _

end Program

namespace Thread

variable (programs : Array Program)

theorem waitsAt_stepsOnly (t : Thread) :
    t.waitsAt (programs.map Program.stepsOnly) = t.waitsAt programs := by
  rw [waitsAt, waitsAt, Array.getElem?_map]
  cases programs[t.pattern]? <;> rfl

theorem isComplete_stepsOnly (t : Thread) :
    t.isComplete (programs.map Program.stepsOnly) = t.isComplete programs := by
  rw [isComplete, isComplete, waitsAt_stepsOnly]

theorem waitsForDepth_stepsOnly (t : Thread) :
    t.waitsForDepth (programs.map Program.stepsOnly) = t.waitsForDepth programs := by
  rw [waitsForDepth, waitsForDepth, waitsAt_stepsOnly]

theorem prune_stepsOnly (threads : List Thread) :
    prune (programs.map Program.stepsOnly) threads = prune programs threads := by
  induction hlength : threads.length using Nat.strongRecOn generalizing threads with
  | ind length ih =>
    cases threads with
    | nil => rw [prune, prune]
    | cons t others =>
      have hmet : (meetRivals t others).2.length < length :=
        hlength ▸ Nat.lt_succ_of_le (length_meetRivals t others)
      rw [prune, prune]
      simp only [isComplete_stepsOnly, ih _ hmet _ rfl]

theorem branch_stepsOnly (p : Program) (seen : List Nat) (todo : List Thread) (fuel : Nat) :
    branch p.stepsOnly seen todo fuel = branch p seen todo fuel := by
  induction fuel generalizing seen todo with
  | zero => cases todo <;> rfl
  | succ fuel ih =>
    cases todo with
    | nil => rfl
    | cons t todo =>
      rw [branch, branch]
      simp only [ih]
      rfl

theorem parentCaptures_stepsOnly (p : Program) (i : Nat) :
    parentCaptures p.stepsOnly i = parentCaptures p i := by
  induction i with
  | zero => rfl
  | succ i ih =>
    rw [parentCaptures, parentCaptures, ih]
    rfl

theorem advance_stepsOnly (x : Sight) (t : Thread) :
    advance (programs.map Program.stepsOnly) x t = advance programs x t := by
  rw [advance, advance, Array.getElem?_map]
  cases programs[t.pattern]? with
  | none => rfl
  | some p =>
    simp only [Option.map_some, branch_stepsOnly, parentCaptures_stepsOnly]
    rfl

end Thread

namespace Search

theorem stepAt?_stepsOnly (programs : Array Program) (i j : Nat) :
    stepAt? (programs.map Program.stepsOnly) i j = stepAt? programs i j := by
  rw [stepAt?, stepAt?, Array.getElem?_map]
  cases programs[i]? <;> rfl

/-- A search for the steps of its programs. -/
def stepsOnly (s : Search) : Search := { s with programs := s.programs.map Program.stepsOnly }

theorem ofPrograms_stepsOnly (programs : Array Program) (window : Window) :
    ofPrograms (programs.map Program.stepsOnly) window =
      (ofPrograms programs window).stepsOnly := by
  -- Each program starts where it did, and the steps there are the same.
  simp only [ofPrograms, stepsOnly, stepAt?_stepsOnly, Array.toList_map, List.zipIdx_map,
    List.map_map, Function.comp_def, Prod.map, Program.starts_stepsOnly, id]

variable (s : Search)

theorem begin_stepsOnly (x : Sight) (threads : List Thread) (i : Nat) (start : Program.Start) :
    s.stepsOnly.begin x threads i start = s.begin x threads i start := by
  unfold begin
  rw [stepsOnly, stepAt?_stepsOnly]

theorem beginAll_stepsOnly (x : Sight) (threads : List Thread) :
    s.stepsOnly.beginAll x threads = s.beginAll x threads := by
  unfold beginAll
  simp only [begin_stepsOnly]
  simp only [stepsOnly, stepAt?_stepsOnly]

theorem enter_stepsOnly (x : Sight) (progress : Progress) :
    s.stepsOnly.enter x progress = s.enter x progress := by
  unfold enter
  simp only [beginAll_stepsOnly]
  simp only [stepsOnly, Thread.prune_stepsOnly, funext (Thread.advance_stepsOnly s.programs x)]

theorem descends_stepsOnly (x : Sight) (threads : List Thread) :
    s.stepsOnly.descends x threads = s.descends x threads := by
  unfold descends
  simp only [stepsOnly, Thread.waitsForDepth_stepsOnly]

theorem leave_stepsOnly (depth : Nat) (progress : Progress) :
    s.stepsOnly.leave depth progress = s.leave depth progress := by
  unfold leave
  simp only [stepsOnly, Thread.waitsForDepth_stepsOnly, Thread.isComplete_stepsOnly]

mutual
theorem walk_stepsOnly (source : Text) (trail : List Crumb) (depth : Nat) (progress : Progress)
    (t : Tree) :
    s.stepsOnly.walk source trail depth progress t = s.walk source trail depth progress t := by
  match t with
  | .node l cs =>
    rw [walk, walk]
    simp only [enter_stepsOnly, descends_stepsOnly, leave_stepsOnly,
      walkList_stepsOnly source trail depth l [] _ cs]

theorem walkList_stepsOnly (source : Text) (trail : List Crumb) (depth : Nat) (parent : Label)
    (before : List Tree) (progress : Progress) (ts : List Tree) :
    s.stepsOnly.walkList source trail depth parent before progress ts =
      s.walkList source trail depth parent before progress ts := by
  match ts with
  | [] => rw [walkList, walkList]
  | t :: ts =>
    rw [walkList, walkList, walk_stepsOnly, walkList_stepsOnly]
end

/-- **A search reads steps.** Programs of the same steps have the same matches. -/
theorem run_ofPrograms_congr {programs programs' : Array Program}
    (h : programs.map (·.steps) = programs'.map (·.steps)) (window : Window) (n : Node) :
    (ofPrograms programs window).run n = (ofPrograms programs' window).run n := by
  have hrun : ∀ s : Search, s.stepsOnly.run n = s.run n := fun s => by
    rw [run, run, walk_stepsOnly]
  have hsteps : programs.map Program.stepsOnly = programs'.map Program.stepsOnly := by
    have h := congrArg (Array.map fun steps => (⟨steps, []⟩ : Program)) h
    rwa [Array.map_map, Array.map_map] at h
  rw [← hrun (ofPrograms programs window), ← hrun (ofPrograms programs' window),
    ← ofPrograms_stepsOnly, ← ofPrograms_stepsOnly, hsteps]

end Search
end TreeQuery
