/-
  TreeQuery.Proofs.Predicate.Registrations

  Calls that register predicates, one after the other. A call needs the bare name of a
  predicate (`Registry.IsPredicateName`) that is not taken, and then adds it
  (`Registry.register_eq_ok_iff`); a call that fails says over what, and changes nothing.
  From what one call does to the names that are found (`Registry.get?_attempt`) follows
  what a run of calls does (`Registry.get?_after`): the predicate of a name is the one that
  was there, or that of the one call that succeeded under it.
-/

import Mathlib.Data.List.Infix
import Mathlib.Data.List.Nodup
import TreeQuery.Predicate.Registry
import TreeQuery.Proofs.Text.Order

namespace TreeQuery

/-- A letter is a name character. -/
theorem isNameChar_of_isLetter {c : Char} (h : isLetter c = true) : isNameChar c = true := by
  have hnumber : isLetterOrNumber c = true := by
    unfold isLetter at h
    unfold isLetterOrNumber
    split at h
    · next hascii => rw [if_pos hascii, Char.isAlphanum, h, Bool.true_or]
    · next hascii => rw [if_neg hascii, h, Bool.true_or]
  simp [isNameChar, hnumber]

namespace Registry

/-! ## Names of predicates -/

/-- A letter or `_`, then name characters, and `?` or `!` at the end. -/
def IsPredicateName (bare : String) : Prop :=
  ∃ first middle mark, bare.toList = first :: (middle ++ [mark]) ∧
    (isLetter first = true ∨ first = '_') ∧ (∀ c ∈ middle, isNameChar c = true) ∧
    (mark = '?' ∨ mark = '!')

/-- What is wrong with a name that is none of a predicate: its end, before anything else. -/
def nameFault (bare : String) : NameFault := if endsInMark bare then .notIdentifier else .noMark

theorem endsInMark_iff {bare : String} :
    endsInMark bare = true ↔ ∃ front mark, bare.toList = front ++ [mark] ∧
      (mark = '?' ∨ mark = '!') := by
  rw [endsInMark]
  cases hlast : bare.toList.getLast? with
  | none =>
    rw [List.getLast?_eq_none_iff] at hlast
    simp [hlast]
  | some c =>
    obtain ⟨front, hfront⟩ := List.getLast?_eq_some_iff.mp hlast
    simp [hfront]

theorem isIdentifier_iff {bare : String} :
    isIdentifier bare = true ↔ (∀ c ∈ bare.toList, isNameChar c = true) ∧
      ∃ first, bare.toList.head? = some first ∧ (isLetter first = true ∨ first = '_') := by
  simp [isIdentifier, List.all_eq_true, Option.any_eq_true]

theorem isPredicateName_iff {bare : String} :
    IsPredicateName bare ↔ endsInMark bare = true ∧ isIdentifier bare = true := by
  rw [endsInMark_iff, isIdentifier_iff]
  constructor
  · rintro ⟨first, middle, mark, hbare, hfirst, hmiddle, hmark⟩
    refine ⟨⟨first :: middle, mark, hbare, hmark⟩, fun c hc => ?_, first, by simp [hbare], hfirst⟩
    rw [hbare, List.mem_cons, List.mem_append, List.mem_singleton] at hc
    rcases hc with rfl | hc | rfl
    · rcases hfirst with hletter | rfl
      · exact isNameChar_of_isLetter hletter
      · decide
    · exact hmiddle c hc
    · rcases hmark with rfl | rfl <;> decide
  · rintro ⟨⟨front, mark, hbare, hmark⟩, hchars, first, hhead, hfirst⟩
    cases front with
    | nil =>
      -- A lone mark would have to be a letter.
      obtain rfl : mark = first := by simpa [hbare] using hhead
      rcases hmark with rfl | rfl <;> exact absurd hfirst (by decide)
    | cons c middle =>
      obtain rfl : c = first := by simpa [hbare] using hhead
      refine ⟨c, middle, mark, hbare, hfirst, fun d hd => hchars d ?_, hmark⟩
      rw [hbare]
      exact List.mem_cons_of_mem _ (List.mem_append_left _ hd)

theorem validName_eq_ok_iff {name bare : String} :
    validName name = .ok bare ↔ bare = bareName name ∧ IsPredicateName bare := by
  rw [validName]
  by_cases hmark : endsInMark (bareName name) = true
  · by_cases hidentifier : isIdentifier (bareName name) = true
    · simp only [hmark, hidentifier]
      constructor
      · intro h
        obtain rfl := Except.ok.inj h
        exact ⟨rfl, isPredicateName_iff.mpr ⟨hmark, hidentifier⟩⟩
      · rintro ⟨rfl, -⟩
        rfl
    · refine iff_of_false (by simp [hmark, hidentifier]) ?_
      rintro ⟨rfl, h⟩
      exact hidentifier (isPredicateName_iff.mp h).2
  · refine iff_of_false (by simp [hmark]) ?_
    rintro ⟨rfl, h⟩
    exact hmark (isPredicateName_iff.mp h).1

/-- Any other name is refused for what is wrong with it. -/
theorem validName_eq_error_iff {name : String} {e : RegistryError} :
    validName name = .error e ↔
      ¬ IsPredicateName (bareName name) ∧ e = .invalidName name (nameFault (bareName name)) := by
  rw [isPredicateName_iff, validName, nameFault, @eq_comm _ e]
  by_cases hmark : endsInMark (bareName name) = true
  · by_cases hidentifier : isIdentifier (bareName name) = true
    · simp [hmark, hidentifier]
    · simp [hmark, hidentifier]
  · simp [hmark]

/-! ## One call -/

variable {r s : Registry} {name n : String} {p q : Predicate} {e : RegistryError}

theorem contains_iff : r.contains n = true ↔ ∃ p, r.get? n = some p := by
  rw [contains, get?, List.any_eq_true, ← Option.isSome_iff_exists, Option.isSome_map,
    List.find?_isSome]

theorem contains_eq_false_iff : r.contains n = false ↔ r.get? n = none := by
  rw [← Bool.not_eq_true, contains_iff, ← Option.isSome_iff_exists, Option.not_isSome_iff_eq_none]

/-- A call succeeds when its bare name is that of a predicate and not taken, and adds it. -/
theorem register_eq_ok_iff : r.register name p = .ok s ↔
    IsPredicateName (bareName name) ∧ r.get? (bareName name) = none ∧
      s = ⟨r.entries ++ [(bareName name, p)]⟩ := by
  unfold register
  cases hvalid : validName name with
  | error e =>
    refine iff_of_false (by simp) fun h => ?_
    exact (validName_eq_error_iff.mp hvalid).1 h.1
  | ok bare =>
    obtain ⟨rfl, hname⟩ := validName_eq_ok_iff.mp hvalid
    cases hcontains : r.contains (bareName name) with
    | true =>
      refine iff_of_false (by simp [hcontains]) fun h => ?_
      rw [contains_eq_false_iff.mpr h.2.1] at hcontains
      cases hcontains
    | false => simp [hcontains, hname, contains_eq_false_iff.mp hcontains, eq_comm]

/-- A call fails over its name, or else because the bare name is taken. -/
theorem register_eq_error_iff : r.register name p = .error e ↔
    (¬ IsPredicateName (bareName name) ∧ e = .invalidName name (nameFault (bareName name))) ∨
      (IsPredicateName (bareName name) ∧ r.contains (bareName name) = true ∧
        e = .duplicate (bareName name)) := by
  unfold register
  rw [@eq_comm _ e, @eq_comm _ e]
  cases hvalid : validName name with
  | error e' =>
    obtain ⟨hname, rfl⟩ := validName_eq_error_iff.mp hvalid
    simp [hname]
  | ok bare =>
    obtain ⟨rfl, hname⟩ := validName_eq_ok_iff.mp hvalid
    cases hcontains : r.contains (bareName name) with
    | true => simp [hcontains, hname]
    | false => simp [hcontains, hname]

/-- An entry under a new name is found under it, and nothing else changes. -/
theorem get?_concat (hfree : r.get? name = none) :
    (Registry.mk (r.entries ++ [(name, p)])).get? n = some q ↔
      r.get? n = some q ∨ name = n ∧ p = q := by
  rw [get?, Option.map_eq_none_iff] at hfree
  rw [get?, get?, List.find?_append, Option.map_or]
  by_cases hname : name = n
  · subst hname
    simp [hfree]
  · simp [hname, Option.or_none]

/-- A call that registers a predicate under a name. -/
structure Registration where
  name : String
  predicate : Predicate

/-- The call goes through. -/
def Accepts (r : Registry) (c : Registration) : Prop :=
  ∃ s, r.register c.name c.predicate = .ok s

/-- The registry after a call; one that fails leaves it as it is. -/
def attempt (r : Registry) (c : Registration) : Registry :=
  match r.register c.name c.predicate with
  | .ok s => s
  | .error _ => r

variable {c d : Registration}

theorem accepts_iff : r.Accepts c ↔ IsPredicateName (bareName c.name) ∧
    r.get? (bareName c.name) = none := by
  simp only [Accepts, register_eq_ok_iff, exists_and_left, exists_eq, and_true]

theorem attempt_of_error (h : r.register c.name c.predicate = .error e) : r.attempt c = r := by
  unfold attempt
  rw [h]

/-- What is found after a call: what was found before it, and its predicate under its bare name
if it went through. -/
theorem get?_attempt : (r.attempt c).get? n = some p ↔
    r.get? n = some p ∨ r.Accepts c ∧ bareName c.name = n ∧ c.predicate = p := by
  unfold attempt
  cases hcall : r.register c.name c.predicate with
  | error e => simp [Accepts, hcall]
  | ok s =>
    obtain ⟨-, hfree, rfl⟩ := register_eq_ok_iff.mp hcall
    simp [get?_concat hfree, Accepts, hcall]

theorem get?_of_accepts (h : r.Accepts c) :
    (r.attempt c).get? (bareName c.name) = some c.predicate :=
  get?_attempt.mpr (.inr ⟨h, rfl, rfl⟩)

/-- No name is there twice. -/
def Distinct (r : Registry) : Prop := (r.entries.map (·.1)).Nodup

theorem get?_eq_none_iff : r.get? n = none ↔ n ∉ r.entries.map (·.1) := by
  rw [get?, Option.map_eq_none_iff, List.find?_eq_none, List.mem_map, not_exists]
  refine forall_congr' fun entry => ?_
  rw [not_and, beq_iff_eq]

theorem Distinct.attempt (h : r.Distinct) : (r.attempt c).Distinct := by
  unfold Registry.attempt
  cases hcall : r.register c.name c.predicate with
  | error e => exact h
  | ok s =>
    obtain ⟨-, hfree, rfl⟩ := register_eq_ok_iff.mp hcall
    rw [get?_eq_none_iff] at hfree
    rw [Distinct, List.map_append]
    exact List.Nodup.append h (List.nodup_singleton _) (by simpa using hfree)

/-! ## Calls one after the other -/

/-- The registry after calls. -/
def after (r : Registry) (calls : List Registration) : Registry := calls.foldl attempt r

/-- In a run of calls, the call `c` is made after those `before` it, and goes through. -/
def Succeeds (start : Registry) (calls before : List Registration) (c : Registration) : Prop :=
  before ++ [c] <+: calls ∧ (start.after before).Accepts c

variable {start : Registry} {calls before before' : List Registration}

@[simp] theorem after_nil (r : Registry) : r.after [] = r := rfl

@[simp] theorem after_cons (r : Registry) (c : Registration) (calls : List Registration) :
    r.after (c :: calls) = (r.attempt c).after calls := by
  rw [after, after, List.foldl_cons]

theorem after_append (r : Registry) (calls more : List Registration) :
    r.after (calls ++ more) = (r.after calls).after more := List.foldl_append

theorem Distinct.after (h : r.Distinct) (calls : List Registration) : (r.after calls).Distinct := by
  induction calls generalizing r with
  | nil => exact h
  | cons c calls ih => exact ih h.attempt

theorem not_succeeds_nil : ¬ Succeeds start [] before c := by
  rintro ⟨h, -⟩
  simp at h

/-- The first call succeeds at the start, and the others after it. -/
theorem succeeds_cons_iff : Succeeds start (d :: calls) before c ↔
    (before = [] ∧ c = d ∧ start.Accepts c) ∨
      ∃ later, before = d :: later ∧ Succeeds (start.attempt d) calls later c := by
  rw [Succeeds]
  cases before with
  | nil => simp [Succeeds, List.cons_prefix_cons]
  | cons b later =>
    simp only [List.cons_append, List.cons_prefix_cons, after_cons, Succeeds]
    constructor
    · rintro ⟨⟨rfl, hbegins⟩, haccepts⟩
      exact .inr ⟨later, rfl, hbegins, haccepts⟩
    · rintro (⟨h, -⟩ | ⟨_, h, hbegins, haccepts⟩)
      · cases h
      · cases h
        exact ⟨⟨rfl, hbegins⟩, haccepts⟩

/-- **What a run of calls does.** A name has the predicate that it had at the start, or that of a
    call that succeeded under it. -/
theorem get?_after : (start.after calls).get? n = some p ↔ start.get? n = some p ∨
    ∃ before c, Succeeds start calls before c ∧ bareName c.name = n ∧ c.predicate = p := by
  induction calls generalizing start with
  | nil => simp [not_succeeds_nil]
  | cons d calls ih =>
    rw [after_cons, ih, get?_attempt]
    constructor
    · rintro ((hstart | ⟨haccepts, hname, hp⟩) | ⟨later, c, hc, hname, hp⟩)
      · exact .inl hstart
      · exact .inr ⟨[], d, succeeds_cons_iff.mpr (.inl ⟨rfl, rfl, haccepts⟩), hname, hp⟩
      · exact .inr ⟨d :: later, c, succeeds_cons_iff.mpr (.inr ⟨later, rfl, hc⟩), hname, hp⟩
    · rintro (hstart | ⟨before, c, hc, hname, hp⟩)
      · exact .inl (.inl hstart)
      · rcases succeeds_cons_iff.mp hc with ⟨rfl, rfl, haccepts⟩ | ⟨later, rfl, hlater⟩
        · exact .inl (.inr ⟨haccepts, hname, hp⟩)
        · exact .inr ⟨later, c, hlater, hname, hp⟩

/-- A name keeps its predicate. -/
theorem get?_after_of_get? (h : r.get? n = some p) (calls : List Registration) :
    (r.after calls).get? n = some p := get?_after.mpr (.inl h)

/-- Behind a call that succeeded, no call succeeds under its bare name. -/
theorem Succeeds.not_accepts (h : Succeeds start calls before c)
    (hbegins : before ++ [c] <+: before') (hname : bareName d.name = bareName c.name) :
    ¬ (start.after before').Accepts d := by
  obtain ⟨more, rfl⟩ := hbegins
  intro haccepts
  have htaken := get?_after_of_get? (get?_of_accepts h.2) more
  have hfree := (accepts_iff.mp haccepts).2
  rw [after_append, after_append, hname] at hfree
  cases htaken.symm.trans hfree

theorem Succeeds.eq_of_begins (h : Succeeds start calls before c)
    (h' : Succeeds start calls before' d) (hname : bareName d.name = bareName c.name)
    (hbegins : before ++ [c] <+: before' ++ [d]) : before = before' ∧ c = d := by
  rcases List.prefix_concat_iff.mp hbegins with heq | hearlier
  · obtain ⟨hbefore, hc⟩ := List.append_inj' heq rfl
    exact ⟨hbefore, List.singleton_inj.mp hc⟩
  · exact absurd h'.2 (h.not_accepts hearlier hname)

/-- One call at most succeeds under a bare name. -/
theorem Succeeds.unique (h : Succeeds start calls before c) (h' : Succeeds start calls before' d)
    (hname : bareName c.name = bareName d.name) : before = before' ∧ c = d := by
  rcases List.prefix_or_prefix_of_prefix h.1 h'.1 with hbegins | hbegins
  · exact h.eq_of_begins h' hname.symm hbegins
  · obtain ⟨hbefore, hc⟩ := h'.eq_of_begins h hname hbegins
    exact ⟨hbefore.symm, hc.symm⟩

/-! ## The names in order -/

theorem mem_names_iff : n ∈ r.names ↔ r.contains n = true := by
  rw [names, List.mem_mergeSort, ← not_iff_not, ← get?_eq_none_iff, ← contains_eq_false_iff,
    Bool.not_eq_true]

/-- Names that are there once each are listed in ascending order of their bytes. -/
theorem Distinct.names_ascending (h : r.Distinct) :
    r.names.Pairwise fun a b => Text.bytes a.toList < Text.bytes b.toList := by
  have htrans : ∀ a b c : String, decide (a ≤ b) = true → decide (b ≤ c) = true →
      decide (a ≤ c) = true := fun _ _ _ hab hbc =>
    decide_eq_true (String.le_trans (of_decide_eq_true hab) (of_decide_eq_true hbc))
  have htotal : ∀ a b : String, (decide (a ≤ b) || decide (b ≤ a)) = true := fun a b => by
    rw [Bool.or_eq_true, decide_eq_true_iff, decide_eq_true_iff]
    exact String.le_total a b
  have hsorted := List.pairwise_mergeSort htrans htotal (r.entries.map (·.1))
  have hnodup : r.names.Nodup := (List.mergeSort_perm _ _).nodup_iff.mpr h
  refine (hsorted.and hnodup).imp fun {a b} hab => Text.bytes_lt_bytes ?_
  have hle : a ≤ b := of_decide_eq_true hab.1
  by_contra hlt
  exact hab.2 (String.le_antisymm hle hlt)

/-! ## Runs from the predicates that are always there, or from none -/

/-- One `#` before the name of a predicate does not count. -/
theorem bareName_eq {written : String} (hname : IsPredicateName name)
    (h : written = name ∨ written = "#" ++ name) : bareName written = name := by
  rcases h with rfl | rfl
  · obtain ⟨first, middle, mark, hchars, hfirst, -⟩ := hname
    rw [bareName]
    split
    · next rest hsigil =>
      obtain rfl : first = '#' := (List.cons.inj (hchars.symm.trans hsigil)).1
      exact absurd hfirst (by decide)
    · rfl
  · have hchars : ("#" ++ name).toList = '#' :: name.toList := by
      rw [String.toList_append]
      rfl
    rw [bareName, hchars]
    exact String.ofList_toList

theorem distinct_builtinsWith (explain : Text → String) : (builtinsWith explain).Distinct := by
  have hnames : ["eq?", "match?", "in_message_map?"].Nodup := by decide
  exact hnames

/-- What holds after calls from a start: of the next call, and of the names that are found. -/
structure KeepsFirst (start : Registry) (calls : List Registration) : Prop where
  /-- A call that fails changes nothing. -/
  unchanged : ∀ c e, (start.after calls).register c.name c.predicate = .error e →
    start.after (calls ++ [c]) = start.after calls
  /-- A name is invalid when the bare name is none of a predicate. -/
  invalid : ∀ name p written fault,
    (start.after calls).register name p = .error (.invalidName written fault) ↔
      ¬ IsPredicateName (bareName name) ∧ written = name ∧ fault = nameFault (bareName name)
  /-- Of the valid names, those are duplicates whose bare names are there already. -/
  duplicate : ∀ name p taken, (start.after calls).register name p = .error (.duplicate taken) ↔
    IsPredicateName (bareName name) ∧ (start.after calls).contains (bareName name) = true ∧
      taken = bareName name
  /-- After a call under a name, with `#` or without, there is none under it any more. -/
  collide : ∀ name, IsPredicateName name → ∀ first second,
    (first = name ∨ first = "#" ++ name) → (second = name ∨ second = "#" ++ name) → ∀ p q,
      (start.after (calls ++ [⟨first, p⟩])).register second q = .error (.duplicate name)
  /-- What is found is what was there at the start, and the predicates of the calls that
  succeeded, under their bare names. -/
  found : ∀ n p, (start.after calls).get? n = some p ↔ start.get? n = some p ∨
    ∃ before c, Succeeds start calls before c ∧ bareName c.name = n ∧ c.predicate = p
  contained : ∀ n, (start.after calls).contains n = true ↔ ∃ p, (start.after calls).get? n = some p
  /-- No name of the start is registered again, -/
  fresh : ∀ before c, Succeeds start calls before c → start.get? (bareName c.name) = none
  /-- and none is registered twice. -/
  once : ∀ before c before' c', Succeeds start calls before c → Succeeds start calls before' c' →
    bareName c.name = bareName c'.name → before = before' ∧ c = c'
  ascending : (start.after calls).names.Pairwise fun a b =>
    Text.bytes a.toList < Text.bytes b.toList
  listed : ∀ n, n ∈ (start.after calls).names ↔ (start.after calls).contains n = true
  counted : (start.after calls).names.length = (start.after calls).size

/-- **The first registration of a name is kept, and nothing else.** This holds after any calls, of
    which some may fail, from the predicates that are always there or from none. -/
theorem first_registration_kept (hstart : start = empty ∨ ∃ explain, start = builtinsWith explain)
    (calls : List Registration) : KeepsFirst start calls where
  unchanged c e h := by
    rw [after_append]
    exact attempt_of_error h
  invalid name p written fault := by simp [register_eq_error_iff]
  duplicate name p taken := by simp [register_eq_error_iff]
  collide name hname first second hfirst hsecond p q := by
    have hbare := bareName_eq hname hsecond
    refine register_eq_error_iff.mpr (.inr ⟨hbare.symm ▸ hname, ?_, by rw [hbare]⟩)
    -- After the first call the name is taken, whether the call succeeded or not.
    rw [contains_iff, hbare, after_append]
    cases hfree : (start.after calls).get? name with
    | some taken => exact ⟨taken, get?_after_of_get? hfree _⟩
    | none =>
      have haccepts : (start.after calls).Accepts ⟨first, p⟩ := by
        rw [accepts_iff, bareName_eq hname hfirst]
        exact ⟨hname, hfree⟩
      have hfound := get?_of_accepts haccepts
      rw [bareName_eq hname hfirst] at hfound
      exact ⟨p, hfound⟩
  found n p := get?_after
  contained n := contains_iff
  fresh before c h := by
    cases hget : start.get? (bareName c.name) with
    | none => rfl
    | some p =>
      have hfree := (accepts_iff.mp h.2).2
      rw [get?_after_of_get? hget] at hfree
      cases hfree
  once before c before' c' h h' hname := h.unique h' hname
  ascending := by
    have hdistinct : start.Distinct := by
      rcases hstart with rfl | ⟨explain, rfl⟩
      · exact List.nodup_nil
      · exact distinct_builtinsWith explain
    exact (hdistinct.after calls).names_ascending
  listed n := mem_names_iff
  counted := by rw [names, List.length_mergeSort, List.length_map, size]

/-- A new name and the same with other spellings, a name that is always there, and names that
are none of a predicate. -/
def sixCalls : List Registration :=
  [⟨"#é-1?", Predicate.matchesExpr fun _ => ""⟩, ⟨"é-1?", Predicate.eq⟩,
    ⟨"##é-1?", Predicate.eq⟩, ⟨"eq?", Predicate.matchesExpr fun _ => ""⟩,
    ⟨"1é?", Predicate.eq⟩, ⟨"é-1", Predicate.eq⟩]

/-- Only the first of these calls succeeds. -/
theorem first_registration_kept_sixCalls :
    KeepsFirst builtins sixCalls ∧
      (builtins.after sixCalls).get? "é-1?" = some (Predicate.matchesExpr fun _ => "") ∧
      (builtins.after sixCalls).get? "eq?" = some Predicate.eq ∧
      (∀ p, (builtins.after sixCalls).register "#é-1?" p = .error (.duplicate "é-1?")) ∧
      (builtins.after sixCalls).size = 4 := by
  have hkept := first_registration_kept (.inr ⟨fun _ => "", rfl⟩) sixCalls
  have hname : IsPredicateName "é-1?" := isPredicateName_iff.mpr (by decide +kernel)
  have hfirst : Succeeds builtins sixCalls []
      ⟨"#é-1?", Predicate.matchesExpr fun _ => ""⟩ :=
    ⟨⟨_, rfl⟩, accepts_iff.mpr ⟨hname, contains_eq_false_iff.mp (by decide +kernel)⟩⟩
  have hfound := (hkept.found "é-1?" _).mpr (.inr ⟨_, _, hfirst, rfl, rfl⟩)
  refine ⟨hkept, hfound, (hkept.found "eq?" _).mpr (.inl rfl), fun p => ?_, by decide +kernel⟩
  exact (hkept.duplicate "#é-1?" p _).mpr
    ⟨hname, (hkept.contained _).mpr ⟨_, hfound⟩, rfl⟩

end Registry
end TreeQuery
