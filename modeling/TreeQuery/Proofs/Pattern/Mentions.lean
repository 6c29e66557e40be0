/-
  TreeQuery.Proofs.Pattern.Mentions

  What the text of an item says of captures and clauses, in the order in which it says
  it: `@name` after an item binds a name, and a clause stands among the items.

  * `Item.clauses_eq`: the clauses of an item are those that it mentions.
  * `Item.quantity_eq_zero_iff`: a match binds no node to a capture exactly when the item
    does not mention it.
-/

import TreeQuery.Pattern.Item

namespace TreeQuery

/-- One thing that an item says of captures or clauses. -/
inductive Mention where
  | binds (name : String)
  | clause (c : Clause)
  deriving DecidableEq, Repr

def Mention.clause? : Mention → Option Clause
  | binds _ => none
  | clause c => some c

/-! ## Quantities -/

namespace Quantity

theorem add_eq_zero_iff {p q : Quantity} : add p q = zero ↔ p = zero ∧ q = zero := by
  cases p <;> cases q <;> decide

theorem join_eq_zero_iff {p q : Quantity} : join p q = zero ↔ p = zero ∧ q = zero := by
  cases p <;> cases q <;> decide

theorem mul_eq_zero_iff {p q : Quantity} : mul p q = zero ↔ p = zero ∨ q = zero := by
  cases p <;> cases q <;> decide

end Quantity

namespace Suffix

/-- What suffixes mention. -/
def mentions (suffixes : List Suffix) : List Mention := (captures suffixes).map .binds

theorem captures_append (suffixes more : List Suffix) :
    captures (suffixes ++ more) = captures suffixes ++ captures more :=
  List.filterMap_append

theorem mentions_append (suffixes more : List Suffix) :
    mentions (suffixes ++ more) = mentions suffixes ++ mentions more := by
  rw [mentions, captures_append, List.map_append]
  rfl

theorem filterMap_clause?_mentions (suffixes : List Suffix) :
    (mentions suffixes).filterMap Mention.clause? = [] := by
  rw [List.filterMap_eq_nil_iff]
  intro m hm
  obtain ⟨name, -, rfl⟩ := List.mem_map.1 hm
  rfl

/-- Suffixes never say that an item matches no node. -/
theorem total_ne_zero (suffixes : List Suffix) : total suffixes ≠ .zero := by
  have hjoin : ∀ q : Quantity, q ≠ .zero →
      suffixes.foldl (fun q s => Quantity.join s.quantity q) q ≠ .zero := by
    induction suffixes with
    | nil => exact fun _ hq => hq
    | cons s suffixes ih =>
      intro q hq
      refine ih _ fun hzero => ?_
      exact hq (Quantity.join_eq_zero_iff.1 hzero).2
  exact hjoin .one (by decide)

/-- An item with suffixes binds a name when its inside does or a suffix names it. -/
theorem scale_eq_zero_iff {name : String} {suffixes : List Suffix} {inner : Quantity} :
    scale name suffixes inner = .zero ↔ inner = .zero ∧ name ∉ captures suffixes := by
  have hfold : ∀ (names : List String) (q : Quantity),
      names.foldl (fun q n => if n = name then Quantity.add q .one else q) q = .zero ↔
        q = .zero ∧ name ∉ names := by
    intro names
    induction names with
    | nil => simp
    | cons n names ih =>
      intro q
      rw [List.foldl_cons, ih, List.mem_cons, not_or]
      by_cases hn : n = name
      · simp [hn, Quantity.add_eq_zero_iff]
      · simp [hn, Ne.symm hn]
  rw [scale, Quantity.mul_eq_zero_iff, hfold, or_iff_right (total_ne_zero suffixes)]

theorem binds_mem_mentions_iff {name : String} {suffixes : List Suffix} :
    Mention.binds name ∈ mentions suffixes ↔ name ∈ captures suffixes := by
  simp [mentions]

end Suffix

namespace Item

mutual
/-- What an item mentions, in the order of the text. -/
def mentions : Item → List Mention
  | node _ _ children _ _ suffixes => mentionsOfList children ++ Suffix.mentions suffixes
  | leaf _ _ suffixes => Suffix.mentions suffixes
  | group _ items suffixes => mentionsOfList items ++ Suffix.mentions suffixes
  | choice _ branches suffixes => mentionsOfList branches ++ Suffix.mentions suffixes
  | labelled _ _ item => mentions item
  | anchored item => mentions item
  | clause _ c => [.clause c]

/-- What several items mention, in the order of the text. -/
def mentionsOfList : List Item → List Mention
  | [] => []
  | i :: is => mentions i ++ mentionsOfList is
end

theorem mentionsOfList_append (is js : List Item) :
    mentionsOfList (is ++ js) = mentionsOfList is ++ mentionsOfList js := by
  induction is with
  | nil => rfl
  | cons i is ih => rw [List.cons_append, mentionsOfList, mentionsOfList, ih, List.append_assoc]

theorem mentionsOfList_singleton (i : Item) : mentionsOfList [i] = i.mentions := by
  rw [mentionsOfList, mentionsOfList, List.append_nil]

/-- Whether suffixes can follow the item. -/
def takesSuffixes : Item → Bool
  | node .. | leaf .. | group .. | choice .. => true
  | labelled .. | anchored _ | clause .. => false

theorem mentions_addSuffix {i : Item} (h : i.takesSuffixes = true) (s : Suffix) :
    (i.addSuffix s).mentions = i.mentions ++ Suffix.mentions [s] := by
  cases i with
  | node o test children absent closed suffixes =>
    simp only [addSuffix, mentions, Suffix.mentions_append, List.append_assoc]
  | leaf o test suffixes => simp only [addSuffix, mentions, Suffix.mentions_append]
  | group o items suffixes =>
    simp only [addSuffix, mentions, Suffix.mentions_append, List.append_assoc]
  | choice o branches suffixes =>
    simp only [addSuffix, mentions, Suffix.mentions_append, List.append_assoc]
  | labelled o field item => cases h
  | anchored item => cases h
  | clause o c => cases h

theorem takesSuffixes_addSuffix (i : Item) (s : Suffix) :
    (i.addSuffix s).takesSuffixes = i.takesSuffixes := by
  cases i <;> rfl

theorem offset_addSuffix (i : Item) (s : Suffix) : (i.addSuffix s).offset = i.offset := by
  cases i <;> rfl

/-! ## Clauses -/

mutual
/-- The clauses of an item are those that it mentions. -/
theorem clauses_eq (i : Item) : i.clauses = i.mentions.filterMap Mention.clause? := by
  match i with
  | node _ _ children _ _ suffixes =>
    rw [clauses, mentions, List.filterMap_append, Suffix.filterMap_clause?_mentions,
      List.append_nil, clausesOfList_eq children]
  | leaf _ _ suffixes => rw [clauses, mentions, Suffix.filterMap_clause?_mentions]
  | group _ items suffixes =>
    rw [clauses, mentions, List.filterMap_append, Suffix.filterMap_clause?_mentions,
      List.append_nil, clausesOfList_eq items]
  | choice _ branches suffixes =>
    rw [clauses, mentions, List.filterMap_append, Suffix.filterMap_clause?_mentions,
      List.append_nil, clausesOfList_eq branches]
  | labelled _ _ item => rw [clauses, mentions, clauses_eq item]
  | anchored item => rw [clauses, mentions, clauses_eq item]
  | clause _ c => rfl

theorem clausesOfList_eq (is : List Item) :
    clausesOfList is = (mentionsOfList is).filterMap Mention.clause? := by
  match is with
  | [] => rfl
  | i :: is =>
    rw [clausesOfList, mentionsOfList, List.filterMap_append, clauses_eq i, clausesOfList_eq is]
end

theorem mem_clauses_iff {i : Item} {c : Clause} : c ∈ i.clauses ↔ .clause c ∈ i.mentions := by
  rw [clauses_eq, List.mem_filterMap]
  constructor
  · rintro ⟨m, hm, hc⟩
    cases m with
    | binds name => cases hc
    | clause d =>
      obtain rfl := Option.some.inj hc
      exact hm
  · exact fun h => ⟨_, h, rfl⟩

/-! ## Captures -/

mutual
/-- **An item binds what it mentions.** A match can bind nodes to a capture exactly when the
    item mentions it. -/
theorem quantity_eq_zero_iff (name : String) (i : Item) :
    i.quantity name = .zero ↔ .binds name ∉ i.mentions := by
  match i with
  | node _ _ children _ _ suffixes =>
    rw [quantity, mentions, Suffix.scale_eq_zero_iff, sumQuantity_eq_zero_iff name children,
      List.mem_append, not_or, Suffix.binds_mem_mentions_iff]
  | leaf _ _ suffixes =>
    rw [quantity, mentions, Suffix.scale_eq_zero_iff, Suffix.binds_mem_mentions_iff]
    simp
  | group _ items suffixes =>
    rw [quantity, mentions, Suffix.scale_eq_zero_iff, sumQuantity_eq_zero_iff name items,
      List.mem_append, not_or, Suffix.binds_mem_mentions_iff]
  | choice _ branches suffixes =>
    rw [quantity, mentions, Suffix.scale_eq_zero_iff, joinQuantity_eq_zero_iff name branches,
      List.mem_append, not_or, Suffix.binds_mem_mentions_iff]
  | labelled _ _ item => rw [quantity, mentions, quantity_eq_zero_iff name item]
  | anchored item => rw [quantity, mentions, quantity_eq_zero_iff name item]
  | clause _ c => simp [quantity, mentions]

theorem sumQuantity_eq_zero_iff (name : String) (is : List Item) :
    sumQuantity name is = .zero ↔ .binds name ∉ mentionsOfList is := by
  match is with
  | [] => simp [sumQuantity, mentionsOfList]
  | i :: is =>
    rw [sumQuantity, mentionsOfList, Quantity.add_eq_zero_iff, quantity_eq_zero_iff name i,
      sumQuantity_eq_zero_iff name is, List.mem_append, not_or]

theorem joinQuantity_eq_zero_iff (name : String) (is : List Item) :
    joinQuantity name is = .zero ↔ .binds name ∉ mentionsOfList is := by
  match is with
  | [] => simp [joinQuantity, mentionsOfList]
  | [i] =>
    rw [joinQuantity, mentionsOfList, mentionsOfList, List.append_nil, quantity_eq_zero_iff name i]
  | i :: j :: is =>
    rw [joinQuantity, mentionsOfList, Quantity.join_eq_zero_iff, quantity_eq_zero_iff name i,
      joinQuantity_eq_zero_iff name (j :: is), List.mem_append, not_or]
    exact fun h => by cases h
end

end Item
end TreeQuery
