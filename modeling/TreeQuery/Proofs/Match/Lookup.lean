/-
  TreeQuery.Proofs.Match.Lookup

  Captured nodes under names and under numbers. The search lists pairs of a number and
  a node. A match gives the numbers their names, sorts the pairs by where the nodes
  start, and is then asked in two ways: templates and anchors go by the name, predicates
  by the number that was written beside the name when the query was compiled.

  * `Match.Holds`: a match has the pairs that the search listed, sorted stably.
  * `Query.Numbered`: a number and a name belong to one capture of a query.
  * `Query.captures_agree`: both hold throughout, and so the two ways answer alike.

  What carries the second is that a query never has one name under two numbers
  (`Pattern.captures_nodup_of_read`).
-/

import TreeQuery.Proofs.Match.Preorder
import TreeQuery.Proofs.Query.Captures

namespace TreeQuery

/-- What the search knows of a captured node. -/
def MatchCapture.pair (c : MatchCapture) : Nat × Node := (c.index, c.node)

namespace Match

/-- The match holds the pairs of a raw match: each as often, ordered by where the nodes start, and
those that start together in the order of the search. -/
structure Holds (m : Match) (raw : RawMatch) : Prop where
  pattern : m.pattern = raw.pattern
  perm : (m.captures.map MatchCapture.pair).Perm raw.captures
  ordered : m.captures.Pairwise fun a b => a.node.start ≤ b.node.start
  stable : ∀ start, (m.captures.map MatchCapture.pair).filter (·.2.start == start) =
    raw.captures.filter (·.2.start == start)

/-- The match gives the same nodes for the name of a capture as a predicate sees by its number. -/
structure LooksUp (m : Match) (ref : CaptureRef) : Prop where
  named : ∀ spelling ∈ [ref.name, "@" ++ ref.name], ∀ source,
    m.capturesNamed spelling = Context.nodes ⟨m, source⟩ ref
  first : ∀ spelling ∈ [ref.name, "@" ++ ref.name],
    m.capture? spelling = (m.capturesNamed spelling).head?
  has_iff : ∀ spelling ∈ [ref.name, "@" ++ ref.name],
    m.hasCapture spelling = true ↔ m.capturesNamed spelling ≠ []

/-! ## The pairs of a match -/

/-- The captures of pairs under their names; a number without a name is left out. -/
def named (names : List String) (pairs : List (Nat × Node)) : List MatchCapture :=
  pairs.filterMap fun (index, node) => (names[index]?).map (⟨index, ·, node⟩)

theorem ofRaw_eq (names : List String) (raw : RawMatch) :
    ofRaw names raw = ofCaptures raw.pattern (named names raw.captures) := rfl

/-- When all the numbers have names, nothing is left out. -/
theorem map_pair_named {names : List String} {pairs : List (Nat × Node)}
    (h : ∀ c ∈ pairs, c.1 < names.length) : (named names pairs).map MatchCapture.pair = pairs := by
  induction pairs with
  | nil => rfl
  | cons c pairs ih =>
    obtain ⟨index, node⟩ := c
    obtain ⟨hindex, hpairs⟩ := List.forall_mem_cons.1 h
    have hcons : named names ((index, node) :: pairs) =
        ⟨index, names[index], node⟩ :: named names pairs := by
      simp only [named, List.filterMap_cons, List.getElem?_eq_getElem hindex, Option.map_some]
    rw [hcons, List.map_cons, ih hpairs]
    rfl

theorem perm_ofCaptures (pattern : Nat) (captures : List MatchCapture) :
    (ofCaptures pattern captures).captures.Perm captures :=
  List.mergeSort_perm captures _

theorem pairwise_ofCaptures (pattern : Nat) (captures : List MatchCapture) :
    (ofCaptures pattern captures).captures.Pairwise fun a b => a.node.start ≤ b.node.start := by
  have hpairs := List.pairwise_mergeSort (le_on_trans fun c : MatchCapture => c.node.start)
    (le_on_total fun c : MatchCapture => c.node.start) captures
  exact hpairs.imp of_decide_eq_true

/-- Captures that start together stay as they are listed. -/
theorem filter_ofCaptures (pattern : Nat) (captures : List MatchCapture) (start : Nat) :
    (ofCaptures pattern captures).captures.filter (·.node.start == start) =
      captures.filter (·.node.start == start) := by
  rw [ofCaptures_eq_insertionSort]
  refine filter_insertionSort _ _ (fun a b ha hb => ?_) captures
  rw [decide_eq_true_eq, beq_iff_eq.1 ha, beq_iff_eq.1 hb]

/-- A match of named captures holds what the search has listed. -/
theorem holds_ofRaw {names : List String} {raw : RawMatch}
    (h : ∀ c ∈ raw.captures, c.1 < names.length) : (ofRaw names raw).Holds raw where
  pattern := rfl
  perm := by
    have hperm := (perm_ofCaptures raw.pattern (named names raw.captures)).map MatchCapture.pair
    rwa [map_pair_named h] at hperm
  ordered := pairwise_ofCaptures _ _
  stable start := by
    -- Where a pair starts can be asked before or after the names are left out.
    have hfilter : ∀ captures : List MatchCapture,
        (captures.map MatchCapture.pair).filter (·.2.start == start) =
          (captures.filter (·.node.start == start)).map MatchCapture.pair :=
      fun _ => List.filter_map
    rw [ofRaw_eq, hfilter, filter_ofCaptures, ← hfilter, map_pair_named h]

/-! ## Names and numbers -/

/-- A capture of a match has the name of its number. -/
theorem name_of_mem_ofRaw {names : List String} {raw : RawMatch} {c : MatchCapture}
    (hc : c ∈ (ofRaw names raw).captures) : names[c.index]? = some c.name := by
  obtain ⟨⟨index, node⟩, -, hnamed⟩ := List.mem_filterMap.1 (List.mem_mergeSort.1 hc)
  obtain ⟨name, hname, rfl⟩ := Option.map_eq_some_iff.1 hnamed
  exact hname

/-- Where no name stands twice, the captures under a name are those under its number. -/
theorem capturesNamed_eq_nodesAt {names : List String} (hnodup : names.Nodup) {i : Nat}
    {name spelling : String} (hname : names[i]? = some name)
    (hspelling : withoutSigil spelling = name) (raw : RawMatch) :
    (ofRaw names raw).capturesNamed spelling = (ofRaw names raw).nodesAt i := by
  obtain ⟨hi, -⟩ := List.getElem?_eq_some_iff.1 hname
  rw [capturesNamed, nodesAt, hspelling]
  congr 1
  refine List.filter_congr fun c hc => ?_
  -- The number decides the name, and where names differ the name decides the number.
  have hc := name_of_mem_ofRaw hc
  rw [Bool.eq_iff_iff, beq_iff_eq, beq_iff_eq]
  constructor
  · rintro rfl
    exact ((List.getElem?_inj hi hnodup).1 (hname.trans hc.symm)).symm
  · rintro rfl
    exact Option.some.inj (hc.symm.trans hname)

theorem capture?_eq_head? (m : Match) (name : String) :
    m.capture? name = (m.capturesNamed name).head? := by
  rw [capture?, capturesNamed, List.head?_map, List.head?_filter]

theorem hasCapture_iff (m : Match) (name : String) :
    m.hasCapture name = true ↔ m.capturesNamed name ≠ [] := by
  rw [hasCapture, capture?_eq_head?, List.isSome_head?]

end Match

namespace Query

/-- The number and the name belong to one capture of the query, found by the one and by the
other, with an `@` or without. -/
structure Numbered (q : Query) (index : Nat) (name : String) : Prop where
  name_at : q.captureName? index = some name
  index_of : ∀ spelling ∈ [name, "@" ++ name], q.captureIndex? spelling = some index

theorem withoutSigil_sigil (name : String) : withoutSigil ("@" ++ name) = name := by
  rw [withoutSigil, String.toList_append]
  exact String.ofList_toList

/-- Both spellings of a name mean the name. -/
theorem withoutSigil_of_mem_spellings {name spelling : String} (hname : withoutSigil name = name)
    (h : spelling ∈ [name, "@" ++ name]) : withoutSigil spelling = name := by
  rcases List.mem_pair.1 h with rfl | rfl
  · exact hname
  · exact withoutSigil_sigil name

/-- The captures of a compiled query have different names without an `@`. -/
theorem captures_distinct {language : Language} {source : Text} {registry : Registry} {q : Query}
    (hq : compile language source registry = .ok q) :
    q.captures.Nodup ∧ ∀ name ∈ q.captures, withoutSigil name = name := by
  obtain ⟨patterns, hread, -⟩ := compile_eq_ok hq
  obtain ⟨-, hnames, -⟩ := Pattern.bound_of_read hread
  exact ⟨Pattern.captures_nodup_of_read hread,
    fun name hname => withoutSigil_of_continuesName (hnames name hname)⟩

variable {q : Query} {i : Nat} {name : String}

theorem captureIndex?_eq_some (hnodup : q.captures.Nodup) (hname : q.captures[i]? = some name)
    {spelling : String} (hspelling : withoutSigil spelling = name) :
    q.captureIndex? spelling = some i := by
  obtain ⟨hi, rfl⟩ := List.getElem?_eq_some_iff.1 hname
  rw [captureIndex?, hspelling, List.findIdx?_eq_some_iff_getElem]
  refine ⟨hi, beq_self_eq_true _, fun j hj => ?_⟩
  -- An earlier capture of the name would be the same capture.
  rw [beq_iff_eq]
  intro heq
  exact Nat.ne_of_lt hj ((hnodup.getElem_inj_iff).1 heq)

theorem numbered_of_getElem? (hnodup : q.captures.Nodup)
    (hbare : ∀ name ∈ q.captures, withoutSigil name = name) (hname : q.captures[i]? = some name) :
    q.Numbered i name where
  name_at := hname
  index_of _ hspelling := captureIndex?_eq_some hnodup hname
    (withoutSigil_of_mem_spellings (hbare name (List.mem_of_getElem? hname)) hspelling)

/-- In a match of the query a capture is the same by its number and by its name. -/
theorem looksUp_ofRaw (hnodup : q.captures.Nodup)
    (hbare : ∀ name ∈ q.captures, withoutSigil name = name) {ref : CaptureRef}
    (href : q.Numbered ref.index ref.name) (raw : RawMatch) :
    (Match.ofRaw q.captures raw).LooksUp ref where
  named _ hspelling _ :=
    Match.capturesNamed_eq_nodesAt hnodup href.name_at
      (withoutSigil_of_mem_spellings (hbare _ (List.mem_of_getElem? href.name_at)) hspelling) raw
  first _ _ := Match.capture?_eq_head? _ _
  has_iff _ _ := Match.hasCapture_iff _ _

/-- The captures that a pattern is said to bind are in the table under their numbers. -/
theorem getElem?_of_mem_patternCaptures {names : List String} {item : Item} {c : PatternCapture}
    (hc : c ∈ patternCaptures names item) : names[c.index]? = some c.name := by
  obtain ⟨⟨name, index⟩, hmem, hcapture⟩ := List.mem_filterMap.1 hc
  have hname := List.mk_mem_zipIdx_iff_getElem?.1 hmem
  simp only at hcapture
  split at hcapture
  · cases hcapture
  · obtain rfl := Option.some.inj hcapture
    exact hname

/-- So are the captures that a predicate names. -/
theorem getElem?_of_argument {language : Language} {source : Text} {registry : Registry}
    (hq : compile language source registry = .ok q) {p : QueryPattern} (hp : p ∈ q.patterns)
    {invocation : Invocation} (hinvocation : invocation ∈ p.predicates) {ref : CaptureRef}
    (href : .capture ref ∈ invocation.arguments) : q.captures[ref.index]? = some ref.name := by
  obtain ⟨patterns, hread, hcompiled⟩ := compile_eq_ok hq
  obtain ⟨hcaptures, -, -⟩ := Pattern.bound_of_read hread
  obtain ⟨i, hi⟩ := List.mem_iff_getElem?.1 hp
  obtain ⟨pattern, hpattern, hp⟩ := exists_of_getElem?_right hcompiled hi
  obtain ⟨c, hc, hargument, hindex⟩ := hp.exists_clause hinvocation href
  obtain ⟨_, -, other, hother, hbinds⟩ := exists_binding_pattern hread hpattern hc hargument
  have hmem : ref.name ∈ q.captures :=
    (hcaptures ref.name).2 (List.mem_flatMap.2 ⟨other, List.mem_of_getElem? hother, hbinds⟩)
  rw [hindex]
  exact List.getElem?_idxOf hmem

/-- **Captures by name and by number.** The captures of a compiled query have different names
    without an `@`. A match of the query holds the pairs that the search lists, all of them and in
    their order where they start together. A number and a name of one capture find each other,
    and an argument over the name is written with that number; a match answers to both alike. All
    captures of patterns, all capture arguments of predicates and all captures of matches are such
    a number with such a name. -/
theorem captures_agree {language : Language} {source : Text} {registry : Registry} {q : Query}
    (hq : compile language source registry = .ok q) :
    (q.captures.Nodup ∧ ∀ name ∈ q.captures, withoutSigil name = name) ∧
      (∀ i name, q.captures[i]? = some name →
        q.Numbered i name ∧
          convertArgument q.captures (.capture name) = .capture ⟨i, name⟩) ∧
      (∀ p ∈ q.patterns, (∀ c ∈ p.captures, q.Numbered c.index c.name) ∧
        ∀ invocation ∈ p.predicates, ∀ ref : CaptureRef,
          .capture ref ∈ invocation.arguments → q.Numbered ref.index ref.name) ∧
      ∀ raw : RawMatch, (∀ c ∈ raw.captures, c.1 < q.captures.length) →
        (Match.ofRaw q.captures raw).Holds raw ∧
          (∀ c ∈ (Match.ofRaw q.captures raw).captures, q.Numbered c.index c.name) ∧
          ∀ ref : CaptureRef, q.Numbered ref.index ref.name →
            (Match.ofRaw q.captures raw).LooksUp ref := by
  obtain ⟨hnodup, hbare⟩ := captures_distinct hq
  have hnumbered : ∀ {i name}, q.captures[i]? = some name → q.Numbered i name :=
    numbered_of_getElem? hnodup hbare
  refine ⟨⟨hnodup, hbare⟩, fun i name hname => ⟨hnumbered hname, ?_⟩, fun p hp => ⟨?_, ?_⟩,
    fun raw hraw => ⟨Match.holds_ofRaw hraw, ?_, ?_⟩⟩
  · obtain ⟨hi, rfl⟩ := List.getElem?_eq_some_iff.1 hname
    rw [convertArgument, hnodup.idxOf_getElem]
  · intro c hc
    obtain ⟨patterns, -, hcompiled⟩ := compile_eq_ok hq
    obtain ⟨pattern, -, hp⟩ := exists_of_mem_right hcompiled hp
    rw [hp.captures] at hc
    exact hnumbered (getElem?_of_mem_patternCaptures hc)
  · intro invocation hinvocation ref href
    exact hnumbered (getElem?_of_argument hq hp hinvocation href)
  · exact fun c hc => hnumbered (Match.name_of_mem_ofRaw hc)
  · exact fun ref href => looksUp_ofRaw hnodup hbare href raw

/-! ### Two names in a tuple

The search lists the second name first, then the tuple and then the first name, which both start
where the source starts. -/

/-- A query for tuples of equal names. -/
def tupleOfNames : Text := "(tuple (identifier)+ @name (#eq? @name \"x\")) @tuple".toList

/-- A node of a source with two names in a tuple. -/
def tupleNode (kind : String) (start stop : Nat) : Node :=
  ⟨"x, y".toList, .node ⟨kind, start, stop, true, false, false, none, true, []⟩ [], []⟩

/-- The names and the tuple as a search lists them, out of order. -/
def tupleRaw : RawMatch :=
  ⟨0, [(0, tupleNode "identifier" 3 4), (1, tupleNode "tuple" 0 4),
    (0, tupleNode "identifier" 0 1)]⟩

/-- The tuple stays before the first name, the second name comes last, and both names are found
under the number that the clause has for them. -/
theorem captures_agree_tuple :
    ∃ (q : Query) (p : QueryPattern) (invocation : Invocation) (ref : CaptureRef),
      compile .python tupleOfNames .builtins = .ok q ∧
      (∀ c ∈ tupleRaw.captures, c.1 < q.captures.length) ∧ q.captures[0]? = some "name" ∧
      p ∈ q.patterns ∧ invocation ∈ p.predicates ∧ .capture ref ∈ invocation.arguments ∧
      q.Numbered ref.index ref.name ∧ ref.name = "name" ∧
      (Match.ofRaw q.captures tupleRaw).Holds tupleRaw ∧
      (Match.ofRaw q.captures tupleRaw).captures.map (·.name) = ["tuple", "name", "name"] ∧
      ∀ source, Context.nodes ⟨Match.ofRaw q.captures tupleRaw, source⟩ ref =
        [tupleNode "identifier" 0 1, tupleNode "identifier" 3 4] := by
  have hrun : (compile .python tupleOfNames .builtins).toOption.any (fun q =>
      decide (q.captures = ["name", "tuple"]) && q.patterns.any fun p =>
        p.predicates.any fun invocation => invocation.arguments.any fun argument =>
          argument.capture?.any (·.name == "name")) = true := by
    decide +kernel
  obtain ⟨q, hq, hrun⟩ := exists_compile_of_any hrun
  obtain ⟨hcaptures, hrun⟩ := Bool.and_eq_true_iff.1 hrun
  obtain ⟨p, hp, hrun⟩ := List.any_eq_true.1 hrun
  obtain ⟨invocation, hinvocation, hrun⟩ := List.any_eq_true.1 hrun
  obtain ⟨argument, hargument, hrun⟩ := List.any_eq_true.1 hrun
  obtain ⟨ref, href, hname⟩ := (Option.any_eq_true _ _).1 hrun
  have hcaptures := of_decide_eq_true hcaptures
  have hname := beq_iff_eq.1 hname
  obtain rfl : argument = .capture ref := by
    cases argument with
    | capture ref' => exact congrArg Argument.capture (Option.some.inj href)
    | literal text => cases href
  have hbounds : ∀ c ∈ tupleRaw.captures, c.1 < q.captures.length := by
    rw [hcaptures]
    decide
  obtain ⟨-, -, hpatterns, hmatches⟩ := captures_agree hq
  obtain ⟨hholds, -, hlooksUp⟩ := hmatches tupleRaw hbounds
  have hnumbered := (hpatterns p hp).2 invocation hinvocation ref hargument
  have hsorted : (Match.ofRaw q.captures tupleRaw).captures =
      [⟨1, "tuple", tupleNode "tuple" 0 4⟩, ⟨0, "name", tupleNode "identifier" 0 1⟩,
        ⟨0, "name", tupleNode "identifier" 3 4⟩] := by
    rw [Match.ofRaw_eq, Match.ofCaptures_eq_insertionSort, hcaptures]
    rfl
  refine ⟨q, p, invocation, ref, hq, hbounds, by rw [hcaptures]; rfl, hp, hinvocation, hargument,
    hnumbered, hname, hholds, by rw [hsorted]; rfl, fun source => ?_⟩
  rw [← (hlooksUp ref hnumbered).named ref.name List.mem_cons_self source, Match.capturesNamed,
    hsorted, hname]
  rfl

end Query
end TreeQuery
