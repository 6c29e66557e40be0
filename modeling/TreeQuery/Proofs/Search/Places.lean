/-
  TreeQuery.Proofs.Search.Places

  A search captures nothing but places of the tree that it walks over: every node in
  a match stands at or below the node at which the search began.

  A predicate on nodes is carried through the walk. It is asked of the places that the
  walk visits and of the parents of those places, and it holds of every capture that a
  thread or a match has:

  * `Thread.advance` captures the visited node and its parent, and nothing else,
  * `Thread.prune` and `Thread.branch` only copy captures,
  * `Search.run_within` is the walk as a whole, `Search.mem_preorder_of_mem_run` its
    use for the places of a tree.
-/

import TreeQuery.Search.Run

namespace TreeQuery

/-- Every captured node satisfies `P`. -/
def CapturesWithin (P : Node → Prop) (captures : List (Nat × Node)) : Prop :=
  ∀ c ∈ captures, P c.2

/-- Every node that a thread has captured satisfies `P`. -/
def Thread.Within (P : Node → Prop) (t : Thread) : Prop := CapturesWithin P t.captures

/-- Every node that the walk has captured so far satisfies `P`. -/
structure Search.Progress.Within (P : Node → Prop) (progress : Search.Progress) : Prop where
  threads : ∀ t ∈ progress.threads, t.Within P
  found : ∀ m ∈ progress.found, CapturesWithin P m.captures

variable {P : Node → Prop}

theorem capturesWithin_nil : CapturesWithin P [] := by
  intro c hc
  cases hc

theorem CapturesWithin.append {left right : List (Nat × Node)} (hl : CapturesWithin P left)
    (hr : CapturesWithin P right) : CapturesWithin P (left ++ right) := by
  intro c hc
  rcases List.mem_append.1 hc with h | h
  · exact hl c h
  · exact hr c h

/-- One node under several numbers. -/
theorem capturesWithin_map {n : Node} (hn : P n) (numbers : List Nat) :
    CapturesWithin P (numbers.map (·, n)) := by
  intro c hc
  obtain ⟨i, -, rfl⟩ := List.mem_map.1 hc
  exact hn

/-! ## One thread -/

namespace Thread

theorem within_of_captures_eq {t u : Thread} (h : u.captures = t.captures) (ht : t.Within P) :
    u.Within P := by
  intro c hc
  exact ht c (h ▸ hc)

/-- Following alternatives changes no captures. -/
theorem branch_within (p : Program) (fuel : Nat) :
    ∀ (seen : List Nat) (todo : List Thread), (∀ t ∈ todo, t.Within P) →
      ∀ t ∈ branch p seen todo fuel, t.Within P := by
  induction fuel with
  | zero =>
    intro seen todo _ t ht
    cases todo <;> cases ht
  | succ fuel ih =>
    -- The first thread stays, goes, or is replaced by copies of itself.
    intro seen todo hall
    cases todo with
    | nil =>
      intro t ht
      cases ht
    | cons u todo =>
      obtain ⟨hu, htodo⟩ := List.forall_mem_cons.1 hall
      -- A copy of `u` that waits elsewhere has the captures of `u`.
      have hcopy : ∀ v : Thread, v.captures = u.captures → v.Within P :=
        fun v hv => within_of_captures_eq hv hu
      simp only [branch]
      split
      · exact ih _ _ htodo
      · split
        · exact List.forall_mem_cons.2 ⟨hu, ih _ _ htodo⟩
        · split
          · exact List.forall_mem_cons.2 ⟨hu, ih _ _ htodo⟩
          · split
            · exact ih _ _ (List.forall_mem_cons.2 ⟨hcopy _ rfl, htodo⟩)
            · split
              · exact ih _ _ (List.forall_mem_cons.2
                  ⟨hcopy _ rfl, List.forall_mem_cons.2 ⟨hcopy _ rfl, htodo⟩⟩)
              · exact List.forall_mem_cons.2
                  ⟨hu, ih _ _ (List.forall_mem_cons.2 ⟨hcopy _ rfl, htodo⟩)⟩

/-- At a node a thread can capture the node and its parent, and nothing else. -/
theorem advance_within (programs : Array Program) {x : Sight} (hnode : P x.node)
    (hparent : ∀ n, x.parent = some n → P n) {t : Thread} (ht : t.Within P) :
    ∀ u ∈ advance programs x t, u.Within P := by
  have hone : ∀ u ∈ [{ t with putOff := false }], u.Within P :=
    List.forall_mem_singleton.2 (within_of_captures_eq rfl ht)
  have hsome : ∀ (b : Bool), ∀ u ∈ (if b then [{ t with putOff := false }] else []),
      u.Within P := by
    intro b u hu
    cases b with
    | true => exact hone u hu
    | false => cases hu
  unfold advance
  simp only
  split
  · exact hone
  · split
    · exact hone
    · split
      · exact hone
      · split
        · exact hsome _
        · split
          · exact hsome _
          · intro u hu
            rcases List.mem_append.1 hu with hu | hu
            · -- The thread that goes on: its old captures, the parent's, the node's.
              refine branch_within _ _ _ _ (List.forall_mem_singleton.2 ?_) u hu
              refine CapturesWithin.append (CapturesWithin.append ht ?_)
                (capturesWithin_map hnode _)
              split
              · intro c hc
                obtain ⟨n, hn, hc⟩ := List.mem_flatMap.1 hc
                exact capturesWithin_map (hparent n (Option.mem_toList.1 hn)) _ c hc
              · exact capturesWithin_nil
            · exact hsome _ u hu

/-- Comparing a thread with its rivals changes no captures. -/
theorem meetRivals_within (t : Thread) (others : List Thread) (ht : t.Within P)
    (hothers : ∀ o ∈ others, o.Within P) :
    (∀ u, (meetRivals t others).1 = some u → u.Within P) ∧
      ∀ o ∈ (meetRivals t others).2, o.Within P := by
  induction others generalizing t with
  | nil =>
    refine ⟨?_, hothers⟩
    intro u hu
    cases hu
    exact ht
  | cons o others ih =>
    obtain ⟨ho, hrest⟩ := List.forall_mem_cons.1 hothers
    have hput : ∀ b, { o with putOff := b }.Within P := fun b => within_of_captures_eq rfl ho
    simp only [meetRivals]
    split
    · refine ⟨?_, hothers⟩
      intro u hu
      cases hu
      exact ht
    · split
      · exact ih t ht hrest
      · split
        · refine ⟨?_, List.forall_mem_cons.2 ⟨hput _, hrest⟩⟩
          intro u hu
          cases hu
        · have hmet := ih { t with putOff := t.putOff || (compareCaptures t.captures o.captures).2 }
            (within_of_captures_eq rfl ht) hrest
          exact ⟨hmet.1, List.forall_mem_cons.2 ⟨hput _, hmet.2⟩⟩

/-- Pruning changes no captures, and a match has those of its thread. -/
theorem prune_within (programs : Array Program) (threads : List Thread)
    (hall : ∀ t ∈ threads, t.Within P) :
    (∀ t ∈ (prune programs threads).1, t.Within P) ∧
      ∀ m ∈ (prune programs threads).2, CapturesWithin P m.captures := by
  -- The induction is on the threads that are left when the first one has met its rivals.
  induction threads using prune.induct programs with
  | case1 =>
    rw [prune]
    exact ⟨List.forall_mem_nil _, List.forall_mem_nil _⟩
  | case2 t others met _ threads found hrec hmet ih =>
    -- A rival beat the thread.
    obtain ⟨ht, hothers⟩ := List.forall_mem_cons.1 hall
    have hrest := ih (meetRivals_within t others ht hothers).2
    rw [hrec] at hrest
    rw [prune, hrec, hmet]
    exact hrest
  | case3 t others met _ threads found hrec u hmet hdone ih =>
    -- The thread is at its end and makes a match.
    obtain ⟨ht, hothers⟩ := List.forall_mem_cons.1 hall
    have hmeet := meetRivals_within t others ht hothers
    have hrest := ih hmeet.2
    rw [hrec] at hrest
    rw [prune, hrec, hmet]
    simp only [hdone, if_true]
    exact ⟨hrest.1, List.forall_mem_cons.2 ⟨hmeet.1 u hmet, hrest.2⟩⟩
  | case4 t others met _ threads found hrec u hmet hopen ih =>
    -- The thread goes on.
    obtain ⟨ht, hothers⟩ := List.forall_mem_cons.1 hall
    have hmeet := meetRivals_within t others ht hothers
    have hrest := ih hmeet.2
    rw [hrec] at hrest
    rw [prune, hrec, hmet]
    simp only [hopen]
    exact ⟨List.forall_mem_cons.2 ⟨hmeet.1 u hmet, hrest.1⟩, hrest.2⟩

end Thread

/-! ## Beginning matches -/

namespace Search

theorem insertBack_within {t : Thread} (ht : t.Within P) {threads inserted : List Thread}
    (hall : ∀ u ∈ threads, u.Within P) (h : insertBack t threads = some inserted) :
    ∀ u ∈ inserted, u.Within P := by
  induction threads generalizing inserted with
  | nil =>
    obtain rfl : [t] = inserted := Option.some.inj h
    exact List.forall_mem_singleton.2 ht
  | cons o before ih =>
    obtain ⟨ho, hbefore⟩ := List.forall_mem_cons.1 hall
    simp only [insertBack] at h
    split at h
    · obtain rfl := Option.some.inj h
      exact List.forall_mem_cons.2 ⟨ht, hall⟩
    · split at h
      · cases h
      · obtain ⟨rest, hrest, rfl⟩ := Option.map_eq_some_iff.1 h
        exact List.forall_mem_cons.2 ⟨ho, ih hbefore hrest⟩

theorem insert_within {threads : List Thread} (hall : ∀ u ∈ threads, u.Within P) {t : Thread}
    (ht : t.Within P) : ∀ u ∈ insert threads t, u.Within P := by
  unfold insert
  cases h : insertBack t threads.reverse with
  | none => exact hall
  | some inserted =>
    intro u hu
    refine insertBack_within ht ?_ h u (List.mem_reverse.1 hu)
    intro v hv
    exact hall v (List.mem_reverse.1 hv)

/-- A thread that begins has captured nothing. -/
theorem begin_within (s : Search) (x : Sight) {threads : List Thread}
    (hall : ∀ u ∈ threads, u.Within P) (i : Nat) (start : Program.Start) :
    ∀ u ∈ s.begin x threads i start, u.Within P := by
  have hempty : ∀ t : Thread, t.captures = [] → t.Within P := by
    intro t ht c hc
    rw [ht] at hc
    cases hc
  unfold begin
  split
  · exact hall
  · dsimp only
    -- Whether the node is where the match can begin plays no part.
    generalize (ite (start.rooted = true) _ _ && _) = fits
    cases fits with
    | false => exact hall
    | true =>
      simp only [Bool.not_true, Bool.false_eq_true, if_false]
      split
      · intro u hu
        rcases List.mem_append.1 hu with hu | hu
        · exact hall u hu
        · exact hempty u (List.mem_singleton.1 hu ▸ rfl)
      · split
        · exact insert_within hall (hempty _ rfl)
        · exact hall

/-- What every step of a fold keeps is kept by the fold. -/
theorem foldl_within {α : Type} (f : List Thread → α → List Thread)
    (hf : ∀ threads a, (∀ u ∈ threads, u.Within P) → ∀ u ∈ f threads a, u.Within P)
    (starts : List α) {threads : List Thread} (hall : ∀ u ∈ threads, u.Within P) :
    ∀ u ∈ starts.foldl f threads, u.Within P := by
  induction starts generalizing threads with
  | nil => exact hall
  | cons a starts ih => exact ih (hf threads a hall)

theorem beginAll_within (s : Search) (x : Sight) {threads : List Thread}
    (hall : ∀ u ∈ threads, u.Within P) : ∀ u ∈ s.beginAll x threads, u.Within P := by
  unfold beginAll
  apply foldl_within
  · intro threads start hthreads
    dsimp only
    split
    · exact begin_within s x hthreads _ _
    · exact hthreads
  · split
    · exact hall
    · refine foldl_within _ ?_ _ hall
      intro threads start hthreads
      dsimp only
      split
      · exact hthreads
      · exact begin_within s x hthreads _ _

/-! ## The walk -/

theorem enter_within (s : Search) {x : Sight} (hnode : P x.node)
    (hparent : ∀ n, x.parent = some n → P n) {progress : Progress} (h : progress.Within P) :
    (s.enter x progress).Within P := by
  have hadvanced : ∀ t ∈ (s.beginAll x progress.threads).flatMap (Thread.advance s.programs x),
      t.Within P := by
    intro t ht
    obtain ⟨u, hu, ht⟩ := List.mem_flatMap.1 ht
    exact Thread.advance_within s.programs hnode hparent (beginAll_within s x h.threads u hu) t ht
  have hpruned := Thread.prune_within s.programs _ hadvanced
  refine ⟨hpruned.1, ?_⟩
  intro m hm
  -- A match is one that ends here or one found before.
  rcases List.mem_append.1 hm with hm | hm
  · exact hpruned.2 m (List.mem_reverse.1 hm)
  · exact h.found m hm

theorem leave_within (s : Search) (depth : Nat) {progress : Progress} (h : progress.Within P) :
    (s.leave depth progress).Within P := by
  refine ⟨?_, ?_⟩
  · intro t ht
    exact h.threads t (List.mem_filter.1 ht).1
  · intro m hm
    rcases List.mem_append.1 hm with hm | hm
    · obtain ⟨t, ht, rfl⟩ := List.mem_map.1 (List.mem_reverse.1 hm)
      exact h.threads t (List.mem_filter.1 ht).1
    · exact h.found m hm

/-- At the first node of a search there is no parent to capture. -/
theorem parent_ofNode_zero (n : Node) : (Sight.ofNode n 0).parent = none := rfl

theorem parent_ofNode_succ (n : Node) (depth : Nat) :
    (Sight.ofNode n (depth + 1)).parent = n.parent? := rfl

theorem node_ofNode (n : Node) (depth : Nat) : (Sight.ofNode n depth).node = n := by
  cases depth <;> rfl

mutual

/-- The walk over a tree: `P` is asked of the places in the tree, and below the first node also
    of the parent of its root. -/
theorem walk_within (s : Search) (source : Text) (trail : List Crumb) (depth : Nat)
    (tree : Tree) (hplaces : ∀ n ∈ Node.preorderFrom source trail tree, P n)
    (hparent : ∀ n, (Sight.ofNode ⟨source, tree, trail⟩ depth).parent = some n → P n)
    {progress : Progress} (h : progress.Within P) :
    (s.walk source trail depth progress tree).Within P := by
  match tree with
  | .node l cs =>
    obtain ⟨hroot, hbelow⟩ := List.forall_mem_cons.1 hplaces
    have hentered := enter_within s ((node_ofNode _ depth).symm ▸ hroot) hparent h
    rw [walk]
    apply leave_within
    split
    · exact walkList_within s source trail depth l [] cs hbelow hroot hentered
    · exact hentered

/-- The walk over trees that stand side by side: `P` is asked of the places in them and of their
    parent. -/
theorem walkList_within (s : Search) (source : Text) (trail : List Crumb) (depth : Nat)
    (parent : Label) (before ts : List Tree)
    (hplaces : ∀ n ∈ Node.preorderOfList source trail parent before ts, P n)
    (hparent : P ⟨source, .node parent (before.reverse ++ ts), trail⟩)
    {progress : Progress} (h : progress.Within P) :
    (s.walkList source trail depth parent before progress ts).Within P := by
  match ts with
  | [] => exact h
  | t :: ts =>
    have hfirst : ∀ n ∈ Node.preorderFrom source (⟨parent, before, ts⟩ :: trail) t, P n :=
      fun n hn => hplaces n (List.mem_append_left _ hn)
    have hrest : ∀ n ∈ Node.preorderOfList source trail parent (t :: before) ts, P n :=
      fun n hn => hplaces n (List.mem_append_right _ hn)
    apply walkList_within s source trail depth parent (t :: before) ts hrest
    · rw [List.reverse_cons, List.append_assoc]
      exact hparent
    · apply walk_within s source (⟨parent, before, ts⟩ :: trail) (depth + 1) t hfirst _ h
      intro n hn
      rw [parent_ofNode_succ] at hn
      obtain rfl := Option.some.inj hn
      exact hparent

end

/-- What holds of every place at or below a node holds of all that a search from it captures. -/
theorem run_within (s : Search) (n : Node) (hplaces : ∀ p ∈ n.preorder, P p) :
    ∀ m ∈ s.run n, CapturesWithin P m.captures := by
  have hstart : Progress.Within P ⟨[], []⟩ := ⟨List.forall_mem_nil _, List.forall_mem_nil _⟩
  have hwalk := walk_within s n.source n.trail 0 n.tree hplaces
    (fun p hp => by rw [parent_ofNode_zero] at hp; cases hp) hstart
  intro m hm
  exact hwalk.found m (List.mem_reverse.1 hm)

/-- **Captures are places.** Every node that a search captures stands at or below the node at
    which it began. -/
theorem mem_preorder_of_mem_run {s : Search} {n : Node} {m : RawMatch} (hm : m ∈ s.run n)
    {c : Nat × Node} (hc : c ∈ m.captures) : c.2 ∈ n.preorder :=
  run_within s n (fun _ hp => hp) m hm c hc

end Search
end TreeQuery
