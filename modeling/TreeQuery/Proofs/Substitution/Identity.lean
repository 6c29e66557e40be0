/-
  TreeQuery.Proofs.Substitution.Identity

  Putting an anchor in its own place. The template `@a` of a capture `a` has this capture
  as its one segment (`Template.parse_reference`), so it is filled in with the bytes that
  the first node bound to `a` covers. When `a` is also the anchor, these are the bytes that
  go, and a walk over the source that puts back what it takes out leaves the source as it
  was (`Substitution.spliceFrom_own`).

  `Substitution.exists_identity` puts this together for every query that compiles; its
  captures are names that a template reads as a whole (`Query.isName_of_mem_captures`).
-/

import TreeQuery.Proofs.Pattern.Runs
import TreeQuery.Proofs.Query.Compile
import TreeQuery.Proofs.Substitution.Run
import TreeQuery.Proofs.Substitution.Template

namespace TreeQuery

/-! ## Names of captures -/

/-- What continues a name in a pattern is read as part of a name in a template too. -/
theorem isNameChar_of_continuesName {c : Char} (h : Scan.continuesName c = true) :
    isNameChar c = true := by
  simp only [Scan.continuesName, Scan.startsName, Bool.or_eq_true, beq_iff_eq] at h
  rcases h with ((((h | rfl) | rfl) | rfl) | rfl) | rfl
  · -- Letters and digits of patterns are ASCII.
    have hascii : c.toNat < 128 := Nat.lt_of_le_of_lt (Scan.toNat_of_isAlphanum h).2 (by decide)
    simp [isNameChar, isLetterOrNumber, hascii, h]
  all_goals decide

/-- A name that a template can refer to: it is not empty, and has name characters only. -/
structure IsName (name : String) : Prop where
  nonempty : name ≠ ""
  chars : ∀ c ∈ name.toList, isNameChar c = true

theorem IsName.withoutSigil_eq {name : String} (h : IsName name) : withoutSigil name = name := by
  unfold withoutSigil
  split
  · next rest hname =>
    have hsigil := h.chars '@' (by rw [hname]; exact List.mem_cons_self)
    rw [isNameChar_sigil] at hsigil
    cases hsigil
  · rfl

/-- The captures of a query that compiles are names. -/
theorem Query.isName_of_mem_captures {language : Language} {source : Text} {registry : Registry}
    {q : Query} (hq : Query.compile language source registry = .ok q) {a : String}
    (ha : a ∈ q.captures) : IsName a := by
  obtain ⟨patterns, hread, -⟩ := compile_eq_ok hq
  obtain ⟨-, hnames, -⟩ := Pattern.bound_of_read hread
  exact ⟨Pattern.captures_ne_empty_of_read hread a ha, fun c hc =>
    isNameChar_of_continuesName (List.all_eq_true.1 (hnames a ha) c hc)⟩

/-! ## The template of one reference -/

namespace Template

variable {q : Query} {a : String}

/-- A capture is the longest name that begins its own characters. -/
theorem isLongest_self {names : List String} (hmem : a ∈ names) (ha : IsName a) :
    IsLongest names a.toList a where
  mem := hmem
  nonempty := ha.nonempty
  begins := List.prefix_rfl
  longest _ hother := by
    rw [← String.length_toList, ← String.length_toList]
    exact hother.begins.length_le

/-- A reference to a capture, with nothing around it, is this capture. -/
theorem parse_reference (hmem : a ∈ q.captures) (ha : IsName a) :
    parse ('@' :: a.toList) q = .ok ⟨'@' :: a.toList, [.placeholder a]⟩ := by
  have hrun : a.toList ≠ [] := fun hnil => ha.nonempty (String.toList_eq_nil_iff.1 hnil)
  have htokens : TemplateToken.ofText ('@' :: a.toList) = [.reference a.toList] := by
    have hread : TemplateToken.ofText ('@' :: (a.toList ++ [])) =
        .reference a.toList :: TemplateToken.ofText [] :=
      TemplateToken.ofText_reference hrun ha.chars nofun
    rwa [List.append_nil, TemplateToken.ofText_nil] at hread
  have hname : longestName? q.captures a.toList a.toList.length = some (a, []) :=
    longestName?_run_eq_some_iff.2 ⟨isLongest_self hmem ha, (List.append_nil _).symm⟩
  rw [parse_eq_ok_iff, htokens, resolve, hname]
  exact ⟨rfl, rfl⟩

/-- It is filled in with what the first node covers. -/
theorem render_placeholder (text : Text) (m : Match) (source : Text) {n : Node}
    (hn : m.capture? a = some n) :
    render ⟨text, [.placeholder a]⟩ m source = n.textIn source := by
  rw [render, List.flatMap_singleton, renderSegment, hn]
  rfl

end Template

/-! ## Splicing in what was there -/

namespace Substitution

variable {s : Substitution} {source : Text}

/-- A replacement that puts the bytes of its span back. -/
structure IsOwn (source : Text) (r : Replacement) : Prop where
  forward : r.span.start ≤ r.span.stop
  text_eq : r.text = source.slice r.span.start r.span.stop

/-- **A walk that puts back what it takes out changes nothing.** -/
theorem spliceFrom_own {rs : List Replacement} (hown : ∀ r ∈ rs, IsOwn source r) {position : Nat}
    {output : Text} (h : spliceFrom source position rs = .ok output) :
    source.slice? position source.size = some output := by
  induction rs generalizing position output with
  | nil => exact spliceFrom_nil_eq_ok_iff.1 h
  | cons r rs ih =>
    obtain ⟨hr, hrs⟩ := List.forall_mem_cons.1 hown
    obtain ⟨kept, rest, hkept, hstop, hrest, rfl⟩ := spliceFrom_cons_eq_ok_iff.1 h
    have hstart := (Text.isSome_slice?_iff.1 ⟨kept, hkept⟩).2.2
    obtain ⟨old, hold⟩ := Text.isSome_slice?_iff.2 ⟨hr.forward, hstart, hstop⟩
    have htext : r.text = old := by rw [hr.text_eq, Text.slice, hold, Option.getD_some]
    -- What is kept, the span and what follows it are neighbouring slices of the source.
    rw [htext]
    exact Text.slice?_trans (Text.slice?_trans hkept hold) (ih hrs hrest)

theorem splice_own {rs : List Replacement} (hown : ∀ r ∈ rs, IsOwn source r) {output : Text}
    (h : splice source rs = .ok output) : output = source := by
  have hwalk : ∀ r ∈ byStart rs, IsOwn source r := fun r hr =>
    hown r ((byStart_perm rs).mem_iff.1 hr)
  exact (Text.eq_of_slice?_zero_size (spliceFrom_own hwalk h)).symm

/-- With the template that refers to the anchor, every replacement puts its span back. -/
theorem isOwn_of_replacement {tree : SyntaxTree} (htree : tree.Forward) {text : Text}
    (hs : s.template = ⟨text, [.placeholder s.anchor]⟩) {m : Match} (hm : m ∈ s.found tree)
    {r : Replacement} (hr : s.replacement? tree.source m = some r) : IsOwn tree.source r := by
  obtain ⟨n, hn, rfl⟩ := Option.map_eq_some_iff.1 hr
  refine ⟨htree n (mem_preorder_of_anchor hm hn), ?_⟩
  rw [hs, Template.render_placeholder text m tree.source hn]
  rfl

/-- A run whose template refers to its anchor, and has nothing else, writes the source. -/
theorem output_eq_source {tree : SyntaxTree} (htree : tree.Forward) (text : Text)
    (hs : s.template = ⟨text, [.placeholder s.anchor]⟩) {r : Substituted}
    (hr : s.run tree = .ok r) : r.output = tree.source := by
  obtain ⟨-, rs, output, hcollect, hsplice, rfl⟩ := run_eq_ok_iff.1 hr
  obtain ⟨new, heq, hrs, -, -⟩ := collect_eq_ok_iff.1 hcollect
  obtain rfl : rs = new := heq
  refine splice_own (fun r hr => ?_) hsplice
  obtain ⟨i, hi⟩ := List.mem_iff_getElem?.1 hr
  obtain ⟨m, hm, hreplaced⟩ := exists_of_getElem?_right hrs hi
  exact isOwn_of_replacement htree hs (List.mem_of_getElem? hm) hreplaced

/-- **Rewriting an anchor to itself is the identity.** For every query that compiles and every
    capture `a` of it there is the substitution with template `@a` and anchor `a`, and whenever
    it runs through on a tree, it makes a replacement for every match and its output is the
    source. -/
theorem exists_identity {language : Language} {text : Text} {registry : Registry} {q : Query}
    (hq : Query.compile language text registry = .ok q) {a : String} (ha : a ∈ q.captures) :
    ∃ s, Substitution.new q.language q ('@' :: a.toList) = .ok s ∧ (s.withAnchor a).anchor = a ∧
      ∀ tree : SyntaxTree, tree.Forward → ∀ r, (s.withAnchor a).run tree = .ok r →
        r.output = tree.source ∧ r.replacements = ((s.withAnchor a).found tree).length := by
  have hname := Query.isName_of_mem_captures hq ha
  have hanchor := hname.withoutSigil_eq
  refine ⟨⟨q, ⟨'@' :: a.toList, [.placeholder a]⟩, Config.defaults.anchor⟩, ?_, hanchor,
    fun tree htree r hr => ⟨output_eq_source htree ('@' :: a.toList) ?_ hr, ?_⟩⟩
  · rw [Substitution.new, Template.parse_reference ha hname]
    simp
  · rw [withAnchor, hanchor]
  · obtain ⟨-, rs, output, hcollect, -, rfl⟩ := run_eq_ok_iff.1 hr
    obtain ⟨new, heq, hrs, -, -⟩ := collect_eq_ok_iff.1 hcollect
    obtain rfl : rs = new := heq
    exact hrs.length_eq.symm

/-- Two blocks, of two statements and of one, with letters of two bytes. -/
def twoBlocks : SyntaxTree :=
  ⟨.python, "if a:\n é\n ü\nif b:\n ñ".toList,
    .node (namedLabel "module" 0 23 none) [
      .node (namedLabel "if_statement" 0 13 none) [
        .node (tokenLabel "if" 0 2) [],
        .node (namedLabel "identifier" 3 4 (some "condition")) [],
        .node (tokenLabel ":" 4 5) [],
        .node (namedLabel "block" 7 13 (some "consequence")) [
          .node (namedLabel "expression_statement" 7 9 none) [
            .node (namedLabel "identifier" 7 9 none) []],
          .node (namedLabel "expression_statement" 11 13 none) [
            .node (namedLabel "identifier" 11 13 none) []]]],
      .node (namedLabel "if_statement" 14 23 none) [
        .node (tokenLabel "if" 14 16) [],
        .node (namedLabel "identifier" 17 18 (some "condition")) [],
        .node (tokenLabel ":" 18 19) [],
        .node (namedLabel "block" 21 23 (some "consequence")) [
          .node (namedLabel "expression_statement" 21 23 none) [
            .node (namedLabel "identifier" 21 23 none) []]]]]⟩

/-- The statements of each block rewritten to themselves: two matches, of which the first binds
    two nodes. -/
theorem identity_twoBlocks :
    ∃ q s r, Query.compile .python "(block (expression_statement)+ @s)".toList .builtins = .ok q ∧
      "s" ∈ q.captures ∧ Substitution.new q.language q "@s".toList = .ok s ∧
      twoBlocks.Forward ∧
      ((s.withAnchor "s").found twoBlocks).map (·.captures.map (·.node.span)) =
        [[⟨7, 9⟩, ⟨11, 13⟩], [⟨21, 23⟩]] ∧
      (s.withAnchor "s").run twoBlocks = .ok r ∧ r.replacements = 2 ∧
      r.output = twoBlocks.source := by
  have hrun : (Query.compile .python "(block (expression_statement)+ @s)".toList
      .builtins).toOption.any (fun q => "s" ∈ q.captures ∧
        (Substitution.new q.language q "@s".toList).toOption.any fun s =>
          ((s.withAnchor "s").found twoBlocks).map (·.captures.map (·.node.span)) =
            [[⟨7, 9⟩, ⟨11, 13⟩], [⟨21, 23⟩]] ∧
          ((s.withAnchor "s").run twoBlocks).toOption.isSome) = true := by
    simp only [run, found_eq_insertionSort, splice_eq_spliceFrom, byStart_eq_insertionSort]
    decide +kernel
  obtain ⟨q, hq, hrun⟩ := Query.exists_compile_of_any hrun
  obtain ⟨ha, hrun⟩ := of_decide_eq_true hrun
  obtain ⟨s, hs, -, hidentity⟩ := exists_identity hq ha
  have hforward : twoBlocks.Forward := by
    show ∀ n ∈ twoBlocks.rootNode.preorder, n.start ≤ n.stop
    decide
  rw [show "@s".toList = '@' :: "s".toList from rfl, hs] at hrun
  obtain ⟨hfound, hsome⟩ := of_decide_eq_true hrun
  obtain ⟨r, hr⟩ := Option.isSome_iff_exists.1 hsome
  have hok : (s.withAnchor "s").run twoBlocks = .ok r := by
    cases h : (s.withAnchor "s").run twoBlocks with
    | error e => simp [h, Except.toOption] at hr
    | ok r' => simpa [h, Except.toOption] using hr
  obtain ⟨houtput, hcount⟩ := hidentity twoBlocks hforward r hok
  refine ⟨q, s, r, hq, ha, hs, hforward, hfound, hok, ?_, houtput⟩
  rw [hcount, ← List.length_map (f := fun m : Match => m.captures.map (·.node.span)), hfound]
  rfl

end Substitution
end TreeQuery
