/-
  TreeQuery.Proofs.Substitution.Template

  Templates are read exactly. What the tokens of a text are is said by rules
  (`TemplateToken.Reads`), one for each meaning that an `@` can have, and the splitting
  function is the only reading there is (`TemplateToken.reads_iff`).

  A reference is resolved to the longest beginning of its run that is a name. The tokens
  become characters and placeholders one after the other, and the segments are these with
  neighbouring characters put together (`Template.ofAtoms`). Nothing else has the same
  characters and placeholders without an empty or a split literal, so these three facts
  say what the segments are (`Template.parse_exact`).
-/

import Mathlib.Data.List.Chain
import Mathlib.Data.List.Forall2
import Mathlib.Data.List.TakeWhile
import TreeQuery.Proofs.Except
import TreeQuery.Substitution.Template

namespace TreeQuery

/-! ## The tokens of a text -/

theorem isNameChar_sigil : isNameChar '@' = false := by decide

namespace TemplateToken

/-- The text can be read as these tokens, from left to right. -/
inductive Reads : Text → List TemplateToken → Prop where
  /-- Nothing is left. -/
  | nil : Reads [] []
  /-- Two `@` stand for one. -/
  | doubled {rest tokens} : Reads rest tokens → Reads ('@' :: '@' :: rest) (.char '@' :: tokens)
  /-- An `@` before name characters refers to as many of them as there are. -/
  | reference {run rest tokens} : run ≠ [] → (∀ c ∈ run, isNameChar c = true) →
      (∀ c ∈ rest.head?, isNameChar c = false) → Reads rest tokens →
      Reads ('@' :: (run ++ rest)) (.reference run :: tokens)
  /-- An `@` before anything else stands for itself. -/
  | lone {rest tokens} : (∀ c ∈ rest.head?, c ≠ '@' ∧ isNameChar c = false) →
      Reads rest tokens → Reads ('@' :: rest) (.char '@' :: tokens)
  /-- And so does every other character. -/
  | other {c rest tokens} : c ≠ '@' → Reads rest tokens → Reads (c :: rest) (.char c :: tokens)

theorem ofText_nil : ofText [] = [] := by rw [ofText]

theorem ofText_doubled (rest : Text) :
    ofText ('@' :: '@' :: rest) = .char '@' :: ofText rest := by rw [ofText]

theorem ofText_other {c : Char} (h : c ≠ '@') (rest : Text) :
    ofText (c :: rest) = .char c :: ofText rest := by
  rw [ofText]
  · rintro more rfl
    exact absurd rfl h
  · exact h

/-- A run ends before a character that no name has. -/
theorem takeWhile_isNameChar_eq_nil {rest : Text} (h : ∀ c ∈ rest.head?, isNameChar c = false) :
    rest.takeWhile isNameChar = [] := by
  cases rest with
  | nil => rfl
  | cons c rest => rw [List.takeWhile_cons, h c rfl, if_neg Bool.false_ne_true]

theorem ofText_reference {run rest : Text} (hne : run ≠ [])
    (hrun : ∀ c ∈ run, isNameChar c = true) (hrest : ∀ c ∈ rest.head?, isNameChar c = false) :
    ofText ('@' :: (run ++ rest)) = .reference run :: ofText rest := by
  obtain ⟨c, run, rfl⟩ := List.exists_cons_of_ne_nil hne
  have hc : c ≠ '@' := by
    rintro rfl
    exact absurd (hrun '@' List.mem_cons_self) (by simp [isNameChar_sigil])
  have htake := takeWhile_isNameChar_eq_nil hrest
  have hdrop : rest.dropWhile isNameChar = rest := by
    have hwhole := List.takeWhile_append_dropWhile (p := isNameChar) (l := rest)
    rwa [htake] at hwhole
  rw [ofText]
  · simp only [List.takeWhile_append_of_pos hrun, List.dropWhile_append_of_pos hrun, htake, hdrop,
      List.append_nil]
    rfl
  · intro more h
    exact hc (List.cons.inj h).1

theorem ofText_lone {rest : Text} (hrest : ∀ c ∈ rest.head?, c ≠ '@' ∧ isNameChar c = false) :
    ofText ('@' :: rest) = .char '@' :: ofText rest := by
  have htake := takeWhile_isNameChar_eq_nil fun c hc => (hrest c hc).2
  rw [ofText]
  · rw [htake]
    rfl
  · rintro more rfl
    exact (hrest '@' rfl).1 rfl

/-- The splitting function follows the rules. -/
theorem reads_ofText (text : Text) : Reads text (ofText text) := by
  -- By the recursion of the splitting function, which has a case for each rule.
  induction text using ofText.induct with
  | case1 => exact ofText_nil ▸ .nil
  | case2 rest ih =>
    rw [ofText_doubled]
    exact .doubled ih
  | case3 rest hsingle run hrun ih =>
    have hnext : ∀ c ∈ rest.head?, c ≠ '@' ∧ isNameChar c = false := by
      intro c hc
      obtain ⟨more, rfl⟩ := List.head?_eq_some_iff.mp hc
      constructor
      · rintro rfl
        exact hsingle more rfl
      · rw [List.isEmpty_iff, List.takeWhile_eq_nil_iff] at hrun
        exact Bool.not_eq_true _ ▸ hrun (Nat.succ_pos _)
    rw [ofText_lone hnext]
    exact .lone hnext ih
  | case4 rest _ run hrun ih =>
    have hne : rest.takeWhile isNameChar ≠ [] := fun hnil => hrun (List.isEmpty_iff.mpr hnil)
    have hall : ∀ c ∈ rest.takeWhile isNameChar, isNameChar c = true :=
      fun c hc => List.mem_takeWhile_imp hc
    have hmaximal : ∀ c ∈ (rest.dropWhile isNameChar).head?, isNameChar c = false := by
      intro c hc
      have hhead := List.head?_dropWhile_not isNameChar rest
      rw [hc] at hhead
      exact hhead
    have hreads := Reads.reference hne hall hmaximal ih
    rw [← ofText_reference hne hall hmaximal, List.takeWhile_append_dropWhile] at hreads
    exact hreads
  | case5 c rest _ hc ih =>
    rw [ofText_other hc]
    exact .other hc ih

/-- There is one reading of a text, the one that the splitting function finds. -/
theorem reads_iff {text : Text} {tokens : List TemplateToken} :
    Reads text tokens ↔ tokens = ofText text := by
  constructor
  · intro h
    induction h with
    | nil => exact ofText_nil.symm
    | doubled _ ih => rw [ofText_doubled, ih]
    | reference hne hrun hrest _ ih => rw [ofText_reference hne hrun hrest, ih]
    | lone hrest _ ih => rw [ofText_lone hrest, ih]
    | other hc _ ih => rw [ofText_other hc, ih]
  · rintro rfl
    exact reads_ofText text

/-- The text splits at each of its references: what stands on both sides is read by itself, and
the run is as long as it can be. -/
theorem Reads.exists_split {text run : Text} {earlier later : List TemplateToken}
    (h : Reads text (earlier ++ .reference run :: later)) :
    ∃ before after, text = before ++ '@' :: (run ++ after) ∧
      Reads before earlier ∧ Reads after later ∧
      run ≠ [] ∧ (∀ c ∈ run, isNameChar c = true) ∧ ∀ c ∈ after.head?, isNameChar c = false := by
  induction earlier generalizing text with
  | nil =>
    cases h with
    | @reference run rest _ hne hrun hrest hlater =>
      exact ⟨[], rest, rfl, .nil, hlater, hne, hrun, hrest⟩
  | cons token earlier ih =>
    -- A character that follows in what stands in front follows in the text as well.
    cases h with
    | doubled h =>
      obtain ⟨before, after, rfl, hbefore, hrun⟩ := ih h
      exact ⟨'@' :: '@' :: before, after, rfl, .doubled hbefore, hrun⟩
    | @reference run' _ _ hne' hrun' hrest' h =>
      obtain ⟨before, after, rfl, hbefore, hrun⟩ := ih h
      have hnext : ∀ c ∈ before.head?, isNameChar c = false :=
        fun c hc => hrest' c (List.mem_head?_append_of_mem_head? hc)
      exact ⟨'@' :: (run' ++ before), after, by simp, .reference hne' hrun' hnext hbefore, hrun⟩
    | lone hrest' h =>
      obtain ⟨before, after, rfl, hbefore, hrun⟩ := ih h
      have hnext : ∀ c ∈ before.head?, c ≠ '@' ∧ isNameChar c = false :=
        fun c hc => hrest' c (List.mem_head?_append_of_mem_head? hc)
      exact ⟨'@' :: before, after, rfl, .lone hnext hbefore, hrun⟩
    | @other c _ _ hc h =>
      obtain ⟨before, after, rfl, hbefore, hrun⟩ := ih h
      exact ⟨c :: before, after, rfl, .other hc hbefore, hrun⟩

/-- A token as it is written, but for doubled `@`. -/
def spell : TemplateToken → Text
  | .char c => [c]
  | .reference run => '@' :: run

end TemplateToken

namespace Template

/-- A text in which each pair of `@`, from left to right, is one. -/
def undouble : Text → Text
  | [] => []
  | '@' :: '@' :: rest => '@' :: undouble rest
  | c :: rest => c :: undouble rest

theorem undouble_cons {c : Char} {rest : Text} (h : c ≠ '@' ∨ rest.head? ≠ some '@') :
    undouble (c :: rest) = c :: undouble rest := by
  rw [undouble]
  rintro more rfl rfl
  simp at h

theorem undouble_append {run : Text} (hrun : ∀ c ∈ run, c ≠ '@') (rest : Text) :
    undouble (run ++ rest) = run ++ undouble rest := by
  induction run with
  | nil => rfl
  | cons c run ih =>
    rw [List.forall_mem_cons] at hrun
    rw [List.cons_append, undouble_cons (.inl hrun.1), ih hrun.2, List.cons_append]

/-- The tokens of a text spell it, with each pair of `@` as one. -/
theorem spell_of_reads {text : Text} {tokens : List TemplateToken}
    (h : TemplateToken.Reads text tokens) :
    tokens.flatMap TemplateToken.spell = undouble text := by
  induction h with
  | nil => rfl
  | doubled _ ih => simp [undouble, TemplateToken.spell, ih]
  | @reference run rest tokens hne hrun _ _ ih =>
    have hsigil : ∀ c ∈ run, c ≠ '@' := by
      rintro c hc rfl
      exact absurd (hrun '@' hc) (by simp [isNameChar_sigil])
    have hhead : (run ++ rest).head? ≠ some '@' := by
      obtain ⟨c, run, rfl⟩ := List.exists_cons_of_ne_nil hne
      simpa using hsigil c List.mem_cons_self
    rw [undouble_cons (.inr hhead), undouble_append hsigil, ← ih]
    rfl
  | lone hrest _ ih =>
    rw [undouble_cons (.inr fun h => (hrest '@' h).1 rfl), ← ih]
    rfl
  | other hc _ ih =>
    rw [undouble_cons (.inl hc), ← ih]
    rfl

/-! ## The name of a reference -/

/-- `name` is one of the names, not empty, and begins the run. -/
structure Begins (names : List String) (run : Text) (name : String) : Prop where
  mem : name ∈ names
  nonempty : name ≠ ""
  begins : name.toList <+: run

/-- Some name begins the run. -/
def HasName (names : List String) (run : Text) : Prop := ∃ name, Begins names run name

/-- Of the names that begin the run, this one is the longest. -/
structure IsLongest (names : List String) (run : Text) (name : String) : Prop extends
    Begins names run name where
  longest : ∀ other, Begins names run other → other.length ≤ name.length

theorem IsLongest.eq {names : List String} {run : Text} {a b : String}
    (ha : IsLongest names run a) (hb : IsLongest names run b) : a = b := by
  -- Two beginnings of one run that are equally long are the same.
  have hlength : a.toList.length = b.toList.length := by
    have := ha.longest b hb.toBegins
    have := hb.longest a ha.toBegins
    simp only [String.length_toList]
    omega
  exact String.toList_inj.mp
    ((List.prefix_of_prefix_length_le ha.begins hb.begins hlength.le).eq_of_length hlength)

theorem Begins.length_le {names : List String} {run : Text} {name : String}
    (h : Begins names run name) : name.length ≤ run.length := by
  rw [← String.length_toList]
  exact h.begins.length_le

/-- A name that begins the run is a front of it, and is found there. -/
theorem Begins.take_mem {names : List String} {run : Text} {name : String}
    (h : Begins names run name) : String.ofList (run.take name.length) ∈ names := by
  have htake := List.prefix_iff_eq_take.mp h.begins
  rw [String.length_toList] at htake
  rw [← htake, String.ofList_toList]
  exact h.mem

/-- A front of the run that is looked up and found. -/
theorem begins_take {names : List String} {run : Text} {n : Nat} (hn : n + 1 ≤ run.length)
    (hmem : String.ofList (run.take (n + 1)) ∈ names) :
    Begins names run (String.ofList (run.take (n + 1))) ∧
      (String.ofList (run.take (n + 1))).length = n + 1 := by
  have hlength : (String.ofList (run.take (n + 1))).length = n + 1 := by
    rw [← String.length_toList, String.toList_ofList, List.length_take]
    omega
  refine ⟨⟨hmem, fun h => ?_, ?_⟩, hlength⟩
  · simp [h] at hlength
  · rw [String.toList_ofList]
    exact List.take_prefix (n + 1) run

/-- The search from `n` characters downwards finds nothing just when every name that begins the
run is longer. -/
theorem longestName?_eq_none_iff {names : List String} {run : Text} {n : Nat}
    (hn : n ≤ run.length) :
    longestName? names run n = none ↔ ∀ name, Begins names run name → n < name.length := by
  induction n with
  | zero =>
    refine iff_of_true rfl fun name h => ?_
    rw [← String.length_toList, List.length_pos_iff_ne_nil, ne_eq, String.toList_eq_nil_iff]
    exact h.nonempty
  | succ n ih =>
    rw [longestName?]
    by_cases hmem : String.ofList (run.take (n + 1)) ∈ names
    · rw [if_pos (List.contains_iff_mem.mpr hmem)]
      refine iff_of_false (by simp) fun h => ?_
      obtain ⟨hbegins, hlength⟩ := begins_take hn hmem
      have := h _ hbegins
      omega
    · rw [if_neg (by simpa using hmem), ih (by omega)]
      refine ⟨fun h name hname => ?_, fun h name hname => by have := h name hname; omega⟩
      -- A name of just `n + 1` characters would be the one that was looked up.
      have hne : n + 1 ≠ name.length := fun heq => hmem (heq ▸ hname.take_mem)
      have := h name hname
      omega

/-- What the search finds begins the run, and is the longest name that does so within `n`. -/
theorem longestName?_eq_some {names : List String} {run rest : Text} {name : String} {n : Nat}
    (hn : n ≤ run.length) (h : longestName? names run n = some (name, rest)) :
    Begins names run name ∧ run = name.toList ++ rest ∧
      ∀ other, Begins names run other → other.length ≤ n → other.length ≤ name.length := by
  induction n with
  | zero => simp [longestName?] at h
  | succ n ih =>
    rw [longestName?] at h
    by_cases hmem : String.ofList (run.take (n + 1)) ∈ names
    · simp only [if_pos (List.contains_iff_mem.mpr hmem), Option.some.injEq, Prod.mk.injEq] at h
      obtain ⟨rfl, rfl⟩ := h
      obtain ⟨hbegins, hlength⟩ := begins_take hn hmem
      exact ⟨hbegins, by simp, fun other _ hle => hle.trans hlength.ge⟩
    · rw [if_neg (by simpa using hmem)] at h
      obtain ⟨hname, hrun, hlongest⟩ := ih (by omega) h
      refine ⟨hname, hrun, fun other hother hle => hlongest other hother ?_⟩
      have hne : n + 1 ≠ other.length := fun heq => hmem (heq ▸ hother.take_mem)
      omega

/-- A run has no name just when the search over all of it finds none. -/
theorem longestName?_run_eq_none_iff {names : List String} {run : Text} :
    longestName? names run run.length = none ↔ ¬ HasName names run := by
  rw [longestName?_eq_none_iff le_rfl, HasName, not_exists]
  refine forall_congr' fun name => ⟨fun h hname => ?_, fun h hname => absurd hname h⟩
  have := h hname
  have := hname.length_le
  omega

/-- The search over all of a run finds its longest name and what follows it. -/
theorem longestName?_run_eq_some_iff {names : List String} {run rest : Text} {name : String} :
    longestName? names run run.length = some (name, rest) ↔
      IsLongest names run name ∧ run = name.toList ++ rest := by
  have sound {name rest} (h : longestName? names run run.length = some (name, rest)) :
      IsLongest names run name ∧ run = name.toList ++ rest := by
    obtain ⟨hname, hrun, hlongest⟩ := longestName?_eq_some le_rfl h
    exact ⟨⟨hname, fun other hother => hlongest other hother hother.length_le⟩, hrun⟩
  refine ⟨sound, ?_⟩
  rintro ⟨hname, hrun⟩
  cases hfound : longestName? names run run.length with
  | none => exact absurd ⟨name, hname.toBegins⟩ (longestName?_run_eq_none_iff.mp hfound)
  | some found =>
    obtain ⟨hname', hrun'⟩ := sound hfound
    have heq : name = found.1 := hname.eq hname'
    subst heq
    have hrest : found.2 = rest := List.append_cancel_left (hrun'.symm.trans hrun)
    rw [← hrest]

end Template

/-! ## Characters and placeholders -/

namespace Segment

/-- The characters and placeholders of a segment. -/
def atoms : Segment → List (Char ⊕ String)
  | .literal text => text.map .inl
  | .placeholder name => [.inr name]

/-- The segment is text. -/
def IsLiteral (s : Segment) : Prop := ∃ text, s = .literal text

/-- A segment with its placeholder written as `@` and its name. -/
def spell : Segment → Text
  | .literal text => text
  | .placeholder name => '@' :: name.toList

end Segment

namespace Template

/-- No literal is empty and no two literals are neighbours. -/
structure Tidy (segments : List Segment) : Prop where
  filled : .literal [] ∉ segments
  apart : segments.IsChain fun a b => ¬ (a.IsLiteral ∧ b.IsLiteral)

theorem Tidy.tail {s : Segment} {segments : List Segment} (h : Tidy (s :: segments)) :
    Tidy segments :=
  ⟨fun hmem => h.filled (List.mem_cons_of_mem _ hmem), h.apart.tail⟩

@[simp] theorem consLiteral_nil (segments : List Segment) : consLiteral [] segments = segments :=
  rfl

theorem consLiteral_append (a b : Text) (segments : List Segment) :
    consLiteral (a ++ b) segments = consLiteral a (consLiteral b segments) := by
  cases a with
  | nil => simp
  | cons x a =>
    cases b with
    | nil => simp
    | cons y b =>
      match segments with
      | [] => simp [consLiteral]
      | .literal more :: rest => simp [consLiteral]
      | .placeholder name :: rest => simp [consLiteral]

theorem atoms_consLiteral (text : Text) (segments : List Segment) :
    (consLiteral text segments).flatMap Segment.atoms =
      text.map .inl ++ segments.flatMap Segment.atoms := by
  cases text with
  | nil => simp
  | cons c text =>
    match segments with
    | [] => simp [consLiteral, Segment.atoms]
    | .literal more :: rest => simp [consLiteral, Segment.atoms]
    | .placeholder name :: rest => simp [consLiteral, Segment.atoms]

theorem Tidy.consLiteral {segments : List Segment} (h : Tidy segments) (text : Text) :
    Tidy (consLiteral text segments) := by
  cases text with
  | nil => exact h
  | cons c text =>
    match segments with
    | [] => exact ⟨by simp [Template.consLiteral], by simp [Template.consLiteral]⟩
    | .literal more :: rest =>
      refine ⟨?_, ?_⟩
      · have := h.tail.filled
        simp [Template.consLiteral, this]
      · -- A literal with a longer literal in its place.
        have := List.isChain_cons.mp h.apart
        refine List.isChain_cons.mpr ⟨fun s hs hboth => ?_, this.2⟩
        exact this.1 s hs ⟨⟨more, rfl⟩, hboth.2⟩
    | .placeholder name :: rest =>
      refine ⟨?_, ?_⟩
      · have := h.filled
        simpa [Template.consLiteral] using this
      · refine List.isChain_cons.mpr ⟨?_, h.apart⟩
        rintro s hs ⟨-, more, rfl⟩
        simp at hs

theorem Tidy.placeholder {segments : List Segment} (h : Tidy segments) (name : String) :
    Tidy (.placeholder name :: segments) := by
  refine ⟨by simpa using h.filled, List.isChain_cons.mpr ⟨?_, h.apart⟩⟩
  rintro s - ⟨⟨text, hname⟩, -⟩
  cases hname

/-- The segments made of characters and placeholders, with neighbouring characters in one. -/
def ofAtoms : List (Char ⊕ String) → List Segment
  | [] => []
  | .inl c :: rest => consLiteral [c] (ofAtoms rest)
  | .inr name :: rest => .placeholder name :: ofAtoms rest

theorem atoms_ofAtoms (atoms : List (Char ⊕ String)) :
    (ofAtoms atoms).flatMap Segment.atoms = atoms := by
  induction atoms with
  | nil => rfl
  | cons atom atoms ih =>
    cases atom with
    | inl c => simp [ofAtoms, atoms_consLiteral, ih]
    | inr name => simp [ofAtoms, Segment.atoms, ih]

theorem tidy_ofAtoms (atoms : List (Char ⊕ String)) : Tidy (ofAtoms atoms) := by
  induction atoms with
  | nil => exact ⟨List.not_mem_nil, List.isChain_nil⟩
  | cons atom atoms ih =>
    cases atom with
    | inl c => exact ih.consLiteral [c]
    | inr name => exact ih.placeholder name

theorem ofAtoms_chars_append (text : Text) (atoms : List (Char ⊕ String)) :
    ofAtoms (text.map .inl ++ atoms) = consLiteral text (ofAtoms atoms) := by
  induction text with
  | nil => rfl
  | cons c text ih =>
    have : consLiteral (c :: text) (ofAtoms atoms) =
        consLiteral [c] (consLiteral text (ofAtoms atoms)) := consLiteral_append [c] text _
    rw [this, ← ih]
    rfl

/-- Tidy segments are made of their characters and placeholders. -/
theorem Tidy.ofAtoms_atoms {segments : List Segment} (h : Tidy segments) :
    ofAtoms (segments.flatMap Segment.atoms) = segments := by
  induction segments with
  | nil => rfl
  | cons s segments ih =>
    rw [List.flatMap_cons]
    cases s with
    | placeholder name => exact congrArg (Segment.placeholder name :: ·) (ih h.tail)
    | literal text =>
      rw [Segment.atoms, ofAtoms_chars_append, ih h.tail]
      obtain ⟨c, text, rfl⟩ : ∃ c more, text = c :: more := by
        cases text with
        | nil => exact absurd List.mem_cons_self h.filled
        | cons c text => exact ⟨c, text, rfl⟩
      -- The next segment is no literal, so the text does not run into it.
      cases segments with
      | nil => rfl
      | cons next rest =>
        cases next with
        | placeholder name => rfl
        | literal more =>
          exact absurd ⟨⟨_, rfl⟩, ⟨more, rfl⟩⟩ ((List.isChain_cons.mp h.apart).1 _ rfl)

/-- Segments with these characters and placeholders and nothing to tidy are determined. -/
theorem eq_ofAtoms_iff {segments : List Segment} {atoms : List (Char ⊕ String)} :
    segments = ofAtoms atoms ↔ segments.flatMap Segment.atoms = atoms ∧ Tidy segments := by
  constructor
  · rintro rfl
    exact ⟨atoms_ofAtoms atoms, tidy_ofAtoms atoms⟩
  · rintro ⟨rfl, h⟩
    exact h.ofAtoms_atoms.symm

/-! ## Resolving -/

/-- What a token becomes: a character stands for itself, a reference for the placeholder of its
longest name and the rest of its run as text. -/
inductive Resolves (names : List String) : TemplateToken → List (Char ⊕ String) → Prop where
  | char (c : Char) : Resolves names (.char c) [.inl c]
  | reference {run rest : Text} {name : String} : IsLongest names run name →
      run = name.toList ++ rest →
      Resolves names (.reference run) (.inr name :: rest.map .inl)

/-- Resolving succeeds with the segments made of what the tokens become. -/
theorem resolve_eq_ok_iff {names : List String} {tokens : List TemplateToken}
    {segments : List Segment} :
    resolve names tokens = .ok segments ↔
      ∃ parts, tokens.Forall₂ (Resolves names) parts ∧ segments = ofAtoms parts.flatten := by
  induction tokens generalizing segments with
  | nil => simp [resolve, ofAtoms, eq_comm]
  | cons token tokens ih =>
    cases token with
    | char c =>
      rw [resolve, bind_eq_ok_iff]
      constructor
      · rintro ⟨later, hlater, hsegments⟩
        obtain ⟨parts, hparts, rfl⟩ := ih.mp hlater
        cases hsegments
        exact ⟨[.inl c] :: parts, .cons (.char c) hparts, rfl⟩
      · rintro ⟨_, hparts, rfl⟩
        cases hparts with
        | cons hc hparts =>
          cases hc
          exact ⟨_, ih.mpr ⟨_, hparts, rfl⟩, rfl⟩
    | reference run =>
      rw [resolve]
      cases hfound : longestName? names run run.length with
      | none =>
        refine iff_of_false (by simp) ?_
        rintro ⟨_, hparts, -⟩
        cases hparts with
        | cons hrun _ =>
          cases hrun with
          | reference hname _ =>
            exact longestName?_run_eq_none_iff.mp hfound ⟨_, hname.toBegins⟩
      | some found =>
        obtain ⟨name, rest⟩ := found
        obtain ⟨hname, hrun⟩ := longestName?_run_eq_some_iff.mp hfound
        rw [bind_eq_ok_iff]
        -- The rest of the run runs into the characters that follow it.
        constructor
        · rintro ⟨later, hlater, hsegments⟩
          obtain ⟨parts, hparts, rfl⟩ := ih.mp hlater
          cases hsegments
          refine ⟨(.inr name :: rest.map .inl) :: parts, .cons (.reference hname hrun) hparts, ?_⟩
          exact congrArg (Segment.placeholder name :: ·)
            (ofAtoms_chars_append rest parts.flatten).symm
        · rintro ⟨_, hparts, rfl⟩
          cases hparts with
          | cons htoken hparts =>
            cases htoken with
            | reference hname' hrun' =>
              obtain rfl := hname.eq hname'
              obtain rfl := List.append_cancel_left (hrun.symm.trans hrun')
              refine ⟨_, ih.mpr ⟨_, hparts, rfl⟩, ?_⟩
              exact congrArg (fun s => Except.ok (Segment.placeholder name :: s))
                (ofAtoms_chars_append rest _).symm

/-- The first reference without a name is the first of what follows a token that has one. -/
theorem exists_unnamed_cons_iff {names : List String} {token : TemplateToken}
    {tokens : List TemplateToken} {P : Text → Prop}
    (htoken : ∀ run, token = .reference run → HasName names run) :
    (∃ before run after, token :: tokens = before ++ .reference run :: after ∧
        (∀ earlier, .reference earlier ∈ before → HasName names earlier) ∧
        ¬ HasName names run ∧ P run) ↔
      ∃ before run after, tokens = before ++ .reference run :: after ∧
        (∀ earlier, .reference earlier ∈ before → HasName names earlier) ∧
        ¬ HasName names run ∧ P run := by
  constructor
  · rintro ⟨before, run, after, htokens, hbefore, hrun, hP⟩
    cases before with
    | nil => exact absurd (htoken run (List.cons.inj htokens).1) hrun
    | cons first before =>
      obtain ⟨rfl, rfl⟩ := List.cons.inj htokens
      exact ⟨before, run, after, rfl,
        fun earlier h => hbefore earlier (List.mem_cons_of_mem _ h), hrun, hP⟩
  · rintro ⟨before, run, after, rfl, hbefore, hrun, hP⟩
    refine ⟨token :: before, run, after, rfl, fun earlier h => ?_, hrun, hP⟩
    rcases List.mem_cons.mp h with h | h
    · exact htoken earlier h.symm
    · exact hbefore earlier h

/-- Resolving fails on the first reference whose run no name begins. -/
theorem resolve_eq_error_iff {names : List String} {tokens : List TemplateToken} {e : Text} :
    resolve names tokens = .error e ↔
      ∃ before run after, tokens = before ++ .reference run :: after ∧
        (∀ earlier, .reference earlier ∈ before → HasName names earlier) ∧
        ¬ HasName names run ∧ e = reportedName run := by
  induction tokens with
  | nil => simp [resolve]
  | cons token tokens ih =>
    cases token with
    | char c =>
      have hchar : ∀ run, TemplateToken.char c = .reference run → HasName names run := nofun
      rw [resolve, bind_eq_error_iff, exists_unnamed_cons_iff hchar, ← ih]
      simp [pure, Except.pure]
    | reference run =>
      rw [resolve]
      cases hfound : longestName? names run run.length with
      | none =>
        have hrun : ¬ HasName names run := longestName?_run_eq_none_iff.mp hfound
        constructor
        · intro h
          cases h
          exact ⟨[], run, tokens, rfl, nofun, hrun, rfl⟩
        · rintro ⟨before, run', after, htokens, hbefore, -, rfl⟩
          cases before with
          | nil =>
            cases htokens
            rfl
          | cons first before =>
            -- The reference itself would stand before the first that has no name.
            obtain ⟨rfl, -⟩ := List.cons.inj htokens
            exact absurd (hbefore run List.mem_cons_self) hrun
      | some found =>
        have hname := (longestName?_run_eq_some_iff.mp hfound).1
        have hrun : ∀ run', TemplateToken.reference run = .reference run' →
            HasName names run' := by
          rintro _ ⟨⟩
          exact ⟨_, hname.toBegins⟩
        rw [bind_eq_error_iff, exists_unnamed_cons_iff hrun, ← ih]
        simp [pure, Except.pure]

/-! ## Spelling -/

/-- A character, or a placeholder as `@` and its name. -/
def spellAtom : Char ⊕ String → Text
  | .inl c => [c]
  | .inr name => '@' :: name.toList

theorem flatMap_spellAtom_inl (text : Text) : (text.map .inl).flatMap spellAtom = text := by
  induction text with
  | nil => rfl
  | cons c text ih => simp [spellAtom, ih]

theorem segment_spell_eq (s : Segment) : s.spell = s.atoms.flatMap spellAtom := by
  cases s with
  | literal text => exact (flatMap_spellAtom_inl text).symm
  | placeholder name => exact (List.append_nil _).symm

/-- What the tokens become is written as they are, when each reference is written as its name and
the rest of its run. -/
theorem flatMap_of_resolves {names : List String} {tokens : List TemplateToken}
    {parts : List (List (Char ⊕ String))} (h : tokens.Forall₂ (Resolves names) parts)
    {writeAtom : Char ⊕ String → Text} {write : TemplateToken → Text}
    (hchar : ∀ c, writeAtom (.inl c) = write (.char c))
    (hreference : ∀ name rest, .reference (name.toList ++ rest) ∈ tokens →
      writeAtom (.inr name) ++ (rest.map .inl).flatMap writeAtom =
        write (.reference (name.toList ++ rest))) :
    parts.flatten.flatMap writeAtom = tokens.flatMap write := by
  induction h with
  | nil => rfl
  | cons htoken _ ih =>
    rw [List.flatten_cons, List.flatMap_append, List.flatMap_cons,
      ih fun name rest hmem => hreference name rest (List.mem_cons_of_mem _ hmem)]
    congr 1
    cases htoken with
    | char c => rw [List.flatMap_singleton, hchar]
    | reference _ hrun =>
      subst hrun
      rw [List.flatMap_cons, hreference _ _ List.mem_cons_self]

/-- What the tokens become is spelled as they are. -/
theorem spell_of_resolves {names : List String} {tokens : List TemplateToken}
    {parts : List (List (Char ⊕ String))} (h : tokens.Forall₂ (Resolves names) parts) :
    parts.flatten.flatMap spellAtom = tokens.flatMap TemplateToken.spell := by
  refine flatMap_of_resolves h (fun _ => rfl) fun name rest _ => ?_
  rw [flatMap_spellAtom_inl]
  rfl

/-! ## Parsing -/

/-- The segments that a template says when its tokens are these. -/
structure Says (names : List String) (text : Text) (tokens : List TemplateToken)
    (segments : List Segment) : Prop where
  /-- Each token becomes what it stands for, in order. -/
  resolved : ∃ parts, tokens.Forall₂ (Resolves names) parts ∧
    segments.flatMap Segment.atoms = parts.flatten
  /-- With placeholders written out, this is the text with each pair of `@` as one. -/
  spelled : segments.flatMap Segment.spell = undouble text
  tidy : Tidy segments

theorem resolve_eq_ok_iff_says {names : List String} {text : Text} {tokens : List TemplateToken}
    {segments : List Segment} (h : TemplateToken.Reads text tokens) :
    resolve names tokens = .ok segments ↔ Says names text tokens segments := by
  rw [resolve_eq_ok_iff]
  constructor
  · rintro ⟨parts, hparts, hsegments⟩
    obtain ⟨hatoms, htidy⟩ := eq_ofAtoms_iff.mp hsegments
    refine ⟨⟨parts, hparts, hatoms⟩, ?_, htidy⟩
    calc segments.flatMap Segment.spell
        = (segments.flatMap Segment.atoms).flatMap spellAtom := by
          rw [List.flatMap_assoc, funext segment_spell_eq]
      _ = tokens.flatMap TemplateToken.spell := by rw [hatoms, spell_of_resolves hparts]
      _ = undouble text := spell_of_reads h
  · rintro ⟨⟨parts, hparts, hatoms⟩, -, htidy⟩
    exact ⟨parts, hparts, eq_ofAtoms_iff.mpr ⟨hatoms, htidy⟩⟩

theorem parse_eq_ok_iff {text : Text} {q : Query} {t : Template} :
    parse text q = .ok t ↔
      t.text = text ∧ resolve q.captures (TemplateToken.ofText text) = .ok t.segments := by
  obtain ⟨text', segments⟩ := t
  rw [parse, bind_eq_ok_iff]
  constructor
  · rintro ⟨segments', h, ht⟩
    cases ht
    exact ⟨rfl, h⟩
  · rintro ⟨rfl, h⟩
    exact ⟨segments, h, rfl⟩

theorem parse_eq_error_iff {text e : Text} {q : Query} :
    parse text q = .error e ↔ resolve q.captures (TemplateToken.ofText text) = .error e := by
  rw [parse, bind_eq_error_iff]
  simp [pure, Except.pure]

theorem HasName.of_resolves {names : List String} {tokens : List TemplateToken}
    {parts : List (List (Char ⊕ String))} (h : tokens.Forall₂ (Resolves names) parts) {run : Text}
    (hrun : .reference run ∈ tokens) : HasName names run := by
  induction h with
  | nil => exact absurd hrun List.not_mem_nil
  | cons htoken _ ih =>
    rcases List.mem_cons.mp hrun with rfl | hrun
    · cases htoken with
      | reference hname _ => exact ⟨_, hname.toBegins⟩
    · exact ih hrun

/-- A template can be resolved when each of its references has a name. -/
theorem exists_resolve_iff {names : List String} {tokens : List TemplateToken} :
    (∃ segments, resolve names tokens = .ok segments) ↔
      ∀ run, .reference run ∈ tokens → HasName names run := by
  constructor
  · rintro ⟨segments, h⟩ run hrun
    obtain ⟨parts, hparts, -⟩ := resolve_eq_ok_iff.mp h
    exact .of_resolves hparts hrun
  · intro h
    cases hresolve : resolve names tokens with
    | ok segments => exact ⟨segments, rfl⟩
    | error e =>
      obtain ⟨before, run, after, rfl, -, hrun, -⟩ := resolve_eq_error_iff.mp hresolve
      exact absurd (h run (List.mem_append_right _ List.mem_cons_self)) hrun

/-- Templates are read exactly. A text has one reading, from left to right. It is a template of
a query when a capture begins the run of each of its references, and then the segments are what
the tokens stand for, each reference resolved to the longest such capture. Otherwise the first
reference that no capture begins is reported. -/
theorem parse_exact (text : Text) (q : Query) :
    ∃ tokens, TemplateToken.Reads text tokens ∧
      (∀ others, TemplateToken.Reads text others ↔ others = tokens) ∧
      ((∃ t, parse text q = .ok t) ↔
        ∀ run, .reference run ∈ tokens → HasName q.captures run) ∧
      (∀ t, parse text q = .ok t ↔ t.text = text ∧ Says q.captures text tokens t.segments) ∧
      ∀ e, parse text q = .error e ↔
        ∃ before run after, tokens = before ++ .reference run :: after ∧
          (∀ earlier, .reference earlier ∈ before → HasName q.captures earlier) ∧
          ¬ HasName q.captures run ∧ e = reportedName run := by
  have hreads := TemplateToken.reads_ofText text
  have hok (t : Template) : parse text q = .ok t ↔
      t.text = text ∧ Says q.captures text (TemplateToken.ofText text) t.segments := by
    rw [parse_eq_ok_iff, resolve_eq_ok_iff_says hreads]
  refine ⟨TemplateToken.ofText text, hreads, fun _ => TemplateToken.reads_iff, ?_, hok, ?_⟩
  · rw [← exists_resolve_iff]
    constructor
    · rintro ⟨t, ht⟩
      exact ⟨t.segments, (parse_eq_ok_iff.mp ht).2⟩
    · rintro ⟨segments, h⟩
      exact ⟨⟨text, segments⟩, parse_eq_ok_iff.mpr ⟨rfl, h⟩⟩
  · intro e
    rw [parse_eq_error_iff, resolve_eq_error_iff]

end Template
end TreeQuery
