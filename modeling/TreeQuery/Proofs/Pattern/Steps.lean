/-
  TreeQuery.Proofs.Pattern.Steps

  What one step of a reading can do. Every step reads on, and of what the state says of
  captures and clauses it changes one thing at most (`Reading.Effect`): a capture is
  bound, a clause begins, takes an argument, or ends.

  * `Reading.mentions` is all that has been said so far, in the order of the text.
  * `Reading.landmarks` is where patterns and clauses have started so far.
  * `Reading.Act` is what a step can do to it, and `Reading.Effect` relates the states
    before and after.
  * `Reading.step_effect`: every step has such an effect.
-/

import TreeQuery.Pattern.Reader
import TreeQuery.Proofs.Except
import TreeQuery.Proofs.Pattern.Mentions
import TreeQuery.Proofs.Pattern.Places

namespace TreeQuery

/-! ## What has been said so far -/

/-- The items that an open construct has, in the order of the text. -/
def Frame.items : Frame → List Item
  | choice _ branches => branches.reverse
  | group _ items _ => items.reverse
  | node _ _ children _ _ _ => children.reverse
  | field .. => []

/-- Where an open construct starts. -/
def Frame.offset : Frame → Nat
  | choice offset _ => offset
  | group offset .. => offset
  | node offset .. => offset
  | field offset _ => offset

/-- What open constructs mention, the innermost last. -/
def Frame.mentionsOfList (frames : List Frame) : List Mention :=
  frames.reverse.flatMap fun frame => Item.mentionsOfList frame.items

/-- What the item that suffixes can follow mentions. -/
def Mode.mentions : Mode → List Mention
  | suffixes item => item.mentions
  | items | clause .. => []

/-- Whether suffixes can follow the item that waits for them. -/
def Mode.isSound : Mode → Bool
  | suffixes item => item.takesSuffixes
  | items | clause .. => true

def Mode.isClause : Mode → Bool
  | clause .. => true
  | items | suffixes _ => false

theorem Mode.ne_clause {m : Mode} (h : m.isClause = false) {offset opener : Nat} {name : String}
    {arguments : List ClauseArgument} : m ≠ .clause offset opener name arguments := by
  rintro rfl
  cases h

namespace Frame

theorem mentionsOfList_cons (frame : Frame) (frames : List Frame) :
    mentionsOfList (frame :: frames) =
      mentionsOfList frames ++ Item.mentionsOfList frame.items := by
  simp [mentionsOfList]

end Frame

namespace Reading

/-- What complete patterns mention. -/
def closedMentions (s : Reading) : List Mention := s.patterns.reverse.flatMap (·.item.mentions)

/-- All that has been said so far, in the order of the text. -/
def mentions (s : Reading) : List Mention :=
  s.closedMentions ++ Frame.mentionsOfList s.frames ++ s.mode.mentions

end Reading

/-! ## Where patterns and clauses start -/

/-- A place of the text at which something starts: a pattern, or a clause with its `#` or `.`. -/
inductive Landmark where
  | start (offset : Nat)
  | opener (offset : Nat)
  deriving DecidableEq, Repr

def Landmark.offset : Landmark → Nat
  | start offset => offset
  | opener offset => offset

/-- Where the clauses among the mentions open. -/
def Mention.landmarks (mentions : List Mention) : List Landmark :=
  (mentions.filterMap clause?).map (.opener ·.opener)

@[simp] theorem Mention.landmarks_nil : landmarks [] = [] := rfl

@[simp] theorem Mention.landmarks_append (mentions more : List Mention) :
    landmarks (mentions ++ more) = landmarks mentions ++ landmarks more := by
  rw [landmarks, List.filterMap_append, List.map_append]
  rfl

theorem Suffix.landmarks_mentions (suffixes : List Suffix) :
    Mention.landmarks (mentions suffixes) = [] := by
  rw [Mention.landmarks, filterMap_clause?_mentions, List.map_nil]

/-- Where a pattern starts, and where its clauses open. -/
def Pattern.landmarks (p : Pattern) : List Landmark :=
  .start p.start :: Mention.landmarks p.item.mentions

/-- Where the outermost of the open constructs starts; if there is none, what is inside them. -/
def Frame.start? (inner : Option Nat) : List Frame → Option Nat
  | [] => inner
  | frame :: frames => start? (some frame.offset) frames

/-- Where the item or clause starts that is being read. -/
def Mode.start? : Mode → Option Nat
  | items => none
  | suffixes item => some item.offset
  | clause offset .. => some offset

/-- Where clauses open in the item that is being read. -/
def Mode.landmarks : Mode → List Landmark
  | items => []
  | suffixes item => Mention.landmarks item.mentions
  | clause _ opener .. => [.opener opener]

namespace Reading

/-- Where complete patterns start, the open one, and all their clauses; inside the open constructs
something starts at `inner` and has clauses at `openers`. -/
def landmarksOf (patterns : List Pattern) (frames : List Frame) (inner : Option Nat)
    (openers : List Landmark) : List Landmark :=
  patterns.reverse.flatMap Pattern.landmarks ++ (Frame.start? inner frames).toList.map .start ++
    Mention.landmarks (Frame.mentionsOfList frames) ++ openers

/-- Where patterns and clauses have started so far. -/
def landmarks (s : Reading) : List Landmark :=
  landmarksOf s.patterns s.frames s.mode.start? s.mode.landmarks

/-- The innermost construct is inside the others. -/
theorem landmarksOf_cons (patterns : List Pattern) (frame : Frame) (frames : List Frame)
    (inner : Option Nat) (openers : List Landmark) :
    landmarksOf patterns (frame :: frames) inner openers =
      landmarksOf patterns frames (some frame.offset)
        (Mention.landmarks (Item.mentionsOfList frame.items) ++ openers) := by
  simp only [landmarksOf, Frame.start?, Frame.mentionsOfList_cons, Mention.landmarks_append,
    List.append_assoc]

/-- `new` is the landmark of something that starts at the place of the state, if it is the first
of a pattern. -/
def Starts (s : Reading) (new : List Landmark) : Prop := new = [] ∨ new = [.start s.place.offset]

/-- What starts between items starts a pattern if no construct is open. -/
theorem exists_landmarksOf_some (s : Reading) (openers : List Landmark) :
    ∃ new, s.Starts new ∧
      landmarksOf s.patterns s.frames (some s.place.offset) openers =
        landmarksOf s.patterns s.frames none [] ++ (new ++ openers) := by
  cases hframes : s.frames with
  | nil => exact ⟨_, Or.inr rfl, by simp [landmarksOf, Frame.start?, Frame.mentionsOfList]⟩
  | cons frame frames => exact ⟨[], Or.inl rfl, by simp [landmarksOf, Frame.start?]⟩

/-! ## Delivering an item -/

theorem mentions_anchorIf (anchor : Bool) (item : Item) :
    (anchorIf anchor item).mentions = item.mentions := by
  cases anchor <;> rfl

/-- A delivered item goes into the construct around it, or is a pattern when there is none. -/
theorem deliver_mentions {v : Vocabulary} {patterns patterns' : List Pattern} {item : Item}
    {frames frames' : List Frame}
    (h : deliver v patterns item frames = .ok (patterns', frames')) :
    patterns'.reverse.flatMap (·.item.mentions) ++ Frame.mentionsOfList frames' =
      patterns.reverse.flatMap (·.item.mentions) ++ Frame.mentionsOfList frames ++
        item.mentions := by
  induction frames generalizing item with
  | nil =>
    obtain ⟨rfl, rfl⟩ := Prod.mk.inj (Except.ok.inj h)
    simp [Frame.mentionsOfList]
  | cons frame frames ih =>
    cases frame with
    | choice o branches =>
      obtain ⟨rfl, rfl⟩ := Prod.mk.inj (Except.ok.inj h)
      simp [Frame.mentionsOfList_cons, Frame.items, Item.mentionsOfList_append,
        Item.mentionsOfList_singleton]
    | group o items anchor =>
      obtain ⟨rfl, rfl⟩ := Prod.mk.inj (Except.ok.inj h)
      simp [Frame.mentionsOfList_cons, Frame.items, Item.mentionsOfList_append,
        Item.mentionsOfList_singleton, mentions_anchorIf]
    | node o test children absent anchor first =>
      obtain ⟨rfl, rfl⟩ := Prod.mk.inj (Except.ok.inj h)
      simp [Frame.mentionsOfList_cons, Frame.items, Item.mentionsOfList_append,
        Item.mentionsOfList_singleton, mentions_anchorIf]
    | field o name =>
      -- A field ends with its item, and the labelled item goes on outwards.
      rw [deliver] at h
      split at h
      · rw [ih h, Frame.mentionsOfList_cons]
        simp [Frame.items, Item.mentions, Item.mentionsOfList]
      · cases h

/-- It starts where it started, and its clauses open where they opened. -/
theorem deliver_landmarks {v : Vocabulary} {patterns patterns' : List Pattern} {item : Item}
    {frames frames' : List Frame}
    (h : deliver v patterns item frames = .ok (patterns', frames')) :
    landmarksOf patterns' frames' none [] =
      landmarksOf patterns frames (some item.offset) (Mention.landmarks item.mentions) := by
  induction frames generalizing item with
  | nil =>
    obtain ⟨rfl, rfl⟩ := Prod.mk.inj (Except.ok.inj h)
    simp [landmarksOf, Frame.start?, Frame.mentionsOfList, Pattern.landmarks]
  | cons frame frames ih =>
    cases frame with
    | choice o branches =>
      obtain ⟨rfl, rfl⟩ := Prod.mk.inj (Except.ok.inj h)
      simp [landmarksOf_cons, Frame.items, Frame.offset, Item.mentionsOfList_append,
        Item.mentionsOfList_singleton]
    | group o items anchor =>
      obtain ⟨rfl, rfl⟩ := Prod.mk.inj (Except.ok.inj h)
      simp [landmarksOf_cons, Frame.items, Frame.offset, Item.mentionsOfList_append,
        Item.mentionsOfList_singleton, mentions_anchorIf]
    | node o test children absent anchor first =>
      obtain ⟨rfl, rfl⟩ := Prod.mk.inj (Except.ok.inj h)
      simp [landmarksOf_cons, Frame.items, Frame.offset, Item.mentionsOfList_append,
        Item.mentionsOfList_singleton, mentions_anchorIf]
    | field o name =>
      rw [deliver] at h
      split at h
      · rw [ih h, landmarksOf_cons]
        simp [Frame.items, Frame.offset, Item.offset, Item.mentions, Item.mentionsOfList]
      · cases h

/-- What a state is after a complete item. -/
theorem finishItem_eq_ok {v : Vocabulary} {s t : Reading} {item : Item}
    (h : finishItem v s item = .ok t) :
    t.place = s.place ∧ t.mode = .items ∧ t.captures = s.captures ∧
      t.mentions = s.closedMentions ++ Frame.mentionsOfList s.frames ++ item.mentions := by
  obtain ⟨⟨patterns, frames⟩, hdeliver, hstate⟩ := bind_eq_ok_iff.1 h
  obtain rfl := Except.ok.inj hstate
  refine ⟨rfl, rfl, rfl, ?_⟩
  rw [mentions, Mode.mentions, List.append_nil]
  exact deliver_mentions hdeliver

theorem finishItem_landmarks {v : Vocabulary} {s t : Reading} {item : Item}
    (h : finishItem v s item = .ok t) :
    t.landmarks =
      landmarksOf s.patterns s.frames (some item.offset) (Mention.landmarks item.mentions) := by
  obtain ⟨⟨patterns, frames⟩, hdeliver, hstate⟩ := bind_eq_ok_iff.1 h
  obtain rfl := Except.ok.inj hstate
  exact deliver_landmarks hdeliver

/-! ## Between items -/

/-- What a step between items can do: it opens or alters a construct, makes an item, or begins a
clause. None of it says anything of captures or clauses, and what it makes starts where the state
stands or where it was opened. -/
inductive Act (s : Reading) : Reading → Prop
  | opens {place : Place} {frame : Frame} (hplace : Scan.Reads s.place place)
      (hitems : frame.items = []) (hoffset : frame.offset = s.place.offset) :
      Act s { s with place := place, frames := frame :: s.frames }
  | alters {place : Place} {frame frame' : Frame} {frames : List Frame}
      (hframes : s.frames = frame :: frames) (hplace : Scan.Reads s.place place)
      (hitems : frame'.items = frame.items) (hoffset : frame'.offset = frame.offset) :
      Act s { s with place := place, frames := frame' :: frames }
  | closes {place : Place} {frame : Frame} {frames : List Frame} {item : Item}
      (hframes : s.frames = frame :: frames) (hplace : Scan.Reads s.place place)
      (hitem : item.mentions = Item.mentionsOfList frame.items)
      (hsound : item.takesSuffixes = true) (hoffset : item.offset = frame.offset) :
      Act s { s with place := place, mode := .suffixes item, frames := frames }
  | makes {place : Place} {item : Item} (hplace : Scan.Reads s.place place)
      (hitem : item.mentions = []) (hsound : item.takesSuffixes = true)
      (hoffset : item.offset = s.place.offset) :
      Act s { s with place := place, mode := .suffixes item }
  | begins {p : Place} {c : Char} {rest : Text} (hplace : Scan.Reads s.place p)
      (hrest : p.rest = c :: rest) (hc : c = '#' ∨ c = '.')
      (hname : Scan.atName ⟨p.offset + 1, rest⟩ = true) :
      Act s { s with
        place := Scan.blanks (Scan.name ⟨p.offset + 1, rest⟩).2
        mode := .clause s.place.offset p.offset (Scan.name ⟨p.offset + 1, rest⟩).1 [] }

theorem readToken_reads {v : Vocabulary} {p q : Place} {test : NodeTest} {rest : Text}
    (hp : p.rest = '"' :: rest) (h : readToken v p = .ok (test, q)) : Scan.Reads p q := by
  rw [readToken, hp, List.tail_cons] at h
  split at h
  · cases h
  · next text after hstring =>
    simp only at h
    split at h
    · obtain ⟨-, rfl⟩ := Prod.mk.inj (Except.ok.inj h)
      exact .string hp hstring
    · cases h

theorem readMissing_reads {v : Vocabulary} {p q : Place} {test : NodeTest}
    (h : readMissing v p = .ok (test, q)) : q = p ∨ Scan.Reads p q := by
  rw [readMissing] at h
  split at h
  · next hname =>
    simp only at h
    split at h
    · obtain ⟨-, rfl⟩ := Prod.mk.inj (Except.ok.inj h)
      exact Or.inr (.name hname)
    · cases h
  · split at h
    · next hhead =>
      obtain ⟨rest, hrest⟩ := List.head?_eq_some_iff.1 hhead
      obtain ⟨⟨test', after⟩, htoken, hresult⟩ := bind_eq_ok_iff.1 h
      obtain ⟨-, rfl⟩ := Prod.mk.inj (Except.ok.inj hresult)
      exact Or.inr (readToken_reads hrest htoken)
    · obtain ⟨-, rfl⟩ := Prod.mk.inj (Except.ok.inj h)
      exact Or.inl rfl
    · cases h

theorem readSubtype_reads {v : Vocabulary} {start : Nat} {test test' : NodeTest} {p q : Place}
    (h : readSubtype v start test p = .ok (test', q)) : q = p ∨ Scan.Reads p q := by
  rw [readSubtype] at h
  split at h
  · next rest hrest =>
    split at h
    · cases h
    · simp only at h
      split at h
      · next hname =>
        split at h
        · cases h
        · split at h
          · obtain ⟨-, rfl⟩ := Prod.mk.inj (Except.ok.inj h)
            exact Or.inr (.trans (.sign hrest (by decide)) (.blanks (.name hname)))
          · cases h
      · cases h
  · obtain ⟨-, rfl⟩ := Prod.mk.inj (Except.ok.inj h)
    exact Or.inl rfl

theorem readTest_reads {v : Vocabulary} {p q : Place} {test : NodeTest}
    (h : readTest v p = .ok (test, q)) : Scan.Reads p q := by
  rw [readTest] at h
  split at h
  · next hname =>
    have hafter : Scan.Reads p (Scan.name p).2 := .name hname
    -- Whatever the name is, a slash and a kind may follow what belongs to it.
    have hend : ∀ {test' : NodeTest} {p' : Place}, Scan.Reads p p' →
        readSubtype v p.offset test' (Scan.blanks p') = .ok (test, q) → Scan.Reads p q := by
      intro test' p' htest h
      rcases readSubtype_reads h with rfl | hsubtype
      · exact .blanks htest
      · exact .trans (.blanks htest) hsubtype
    simp only [bind, Except.bind, pure, Except.pure] at h
    split at h
    · exact hend hafter h
    · split at h
      · split at h
        · cases h
        · next hmissing =>
          rcases readMissing_reads hmissing with heq | hmissing
          · exact hend (heq ▸ .blanks hafter) h
          · exact hend (.trans (.blanks hafter) hmissing) h
      · split at h
        · exact hend hafter h
        · cases h
  · cases h

theorem closeRound_act {s t : Reading} {rest : Text} (hrest : s.place.rest = ')' :: rest)
    (h : closeRound s (.past s.place.offset ')' rest) = .ok t) : Act s t := by
  have hplace : Scan.Reads s.place (Scan.blanks (.past s.place.offset ')' rest)) :=
    .blanks (.sign hrest (by decide))
  rw [closeRound] at h
  split at h
  · next hframes =>
    split at h
    · cases h
    · obtain rfl := Except.ok.inj h
      exact .closes hframes hplace (List.append_nil _) rfl rfl
  · next hframes =>
    obtain rfl := Except.ok.inj h
    exact .closes hframes hplace (List.append_nil _) rfl rfl
  · cases h

theorem closeSquare_act {s t : Reading} {rest : Text} (hrest : s.place.rest = ']' :: rest)
    (h : closeSquare s (.past s.place.offset ']' rest) = .ok t) : Act s t := by
  rw [closeSquare] at h
  split at h
  · next hframes =>
    obtain rfl := Except.ok.inj h
    exact .closes hframes (.blanks (.sign hrest (by decide))) (List.append_nil _) rfl rfl
  · cases h

theorem openRound_act {v : Vocabulary} {s t : Reading} {rest : Text}
    (hrest : s.place.rest = '(' :: rest)
    (h : openRound v s (.past s.place.offset '(' rest) = .ok t) : Act s t := by
  have hplace : Scan.Reads s.place (Scan.blanks (.past s.place.offset '(' rest)) :=
    .blanks (.sign hrest (by decide))
  rw [openRound] at h
  simp only at h
  split at h
  · obtain rfl := Except.ok.inj h
    exact .opens hplace rfl rfl
  · obtain rfl := Except.ok.inj h
    exact .opens hplace rfl rfl
  · obtain rfl := Except.ok.inj h
    exact .opens hplace rfl rfl
  · next hmore =>
    split at h
    · next hname =>
      obtain rfl := Except.ok.inj h
      exact .begins hplace hmore (Or.inl rfl) hname
    · cases h
  · next hmore =>
    split at h
    · next hname =>
      obtain rfl := Except.ok.inj h
      exact .begins hplace hmore (Or.inr rfl) hname
    · cases h
  · obtain ⟨⟨test, after⟩, htest, hstate⟩ := bind_eq_ok_iff.1 h
    obtain rfl := Except.ok.inj hstate
    exact .opens (.blanks (.trans hplace (readTest_reads htest))) rfl rfl

theorem readLabel_act {s t : Reading} (hname : Scan.atName s.place = true)
    (h : readLabel s = .ok t) : Act s t := by
  rw [readLabel] at h
  simp only at h
  split at h
  · next hcolon =>
    obtain rfl := Except.ok.inj h
    exact .opens (.blanks (.trans (.blanks (.name hname)) (.sign hcolon (by decide)))) rfl rfl
  · cases h

theorem openItem_act {v : Vocabulary} {s t : Reading} {c : Char} {rest : Text}
    (hrest : s.place.rest = c :: rest)
    (h : openItem v s c (.past s.place.offset c rest) = .ok t) : Act s t := by
  unfold openItem at h
  split at h
  · exact openRound_act hrest h
  · obtain rfl := Except.ok.inj h
    exact .opens (.blanks (.sign hrest (by decide))) rfl rfl
  · exact closeRound_act hrest h
  · exact closeSquare_act hrest h
  · obtain rfl := Except.ok.inj h
    exact .makes (.blanks (.sign hrest (by decide))) rfl rfl rfl
  · obtain ⟨⟨test, after⟩, htoken, hstate⟩ := bind_eq_ok_iff.1 h
    obtain rfl := Except.ok.inj hstate
    exact .makes (.blanks (readToken_reads hrest htoken)) rfl rfl rfl
  · split at h
    · exact readLabel_act ‹_› h
    · cases h

theorem readAbsent_act {v : Vocabulary} {s t : Reading} {rest : Text} {o : Nat} {test : NodeTest}
    {children : List Item} {absent : List String} {first : Bool} {frames : List Frame}
    (hrest : s.place.rest = '!' :: rest)
    (hframes : s.frames = .node o test children absent false first :: frames)
    (h : readAbsent v s (.past s.place.offset '!' rest) o test children absent first frames =
      .ok t) : Act s t := by
  rw [readAbsent] at h
  simp only at h
  split at h
  · next hname =>
    split at h
    · obtain rfl := Except.ok.inj h
      exact .alters hframes
        (.blanks (.trans (.blanks (.sign hrest (by decide))) (.name hname))) rfl rfl
    · cases h
  · cases h

theorem stepItems_act {v : Vocabulary} {s t : Reading} (h : stepItems v s = .ok t) : Act s t := by
  rw [stepItems] at h
  split at h
  · cases h
  · next c rest hrest =>
    simp only at h
    split at h
    · next hframes => exact readAbsent_act hrest hframes h
    · next hframes =>
      obtain rfl := Except.ok.inj h
      exact .alters hframes (.blanks (.sign hrest (by decide))) rfl rfl
    · next hframes =>
      obtain rfl := Except.ok.inj h
      exact .alters hframes (.blanks (.sign hrest (by decide))) rfl rfl
    · exact openItem_act hrest h

/-! ## One step -/

/-- What a step changes of what has been said, and what starts there. -/
inductive Effect (s t : Reading) : Prop
  | silent {new : List Landmark} (hplace : Scan.Reads s.place t.place)
      (hmode : t.mode.isClause = false) (hcaptures : t.captures = s.captures)
      (hmentions : t.mentions = s.mentions) (hnew : s.Starts new)
      (hlandmarks : t.landmarks = s.landmarks ++ new)
  | binds {name : String} (hplace : Scan.Reads s.place t.place) (hmode : t.mode.isClause = false)
      (hname : name.toList.all Scan.continuesName = true)
      (hcaptures : t.captures =
        if s.captures.contains name then s.captures else s.captures ++ [name])
      (hmentions : t.mentions = s.mentions ++ [.binds name])
      (hlandmarks : t.landmarks = s.landmarks) (hnonempty : name ≠ "")
  | begins {p : Place} {c : Char} {rest : Text} {offset : Nat} {new : List Landmark}
      (hplace : Scan.Reads s.place p) (hrest : p.rest = c :: rest) (hc : c = '#' ∨ c = '.')
      (hname : Scan.atName ⟨p.offset + 1, rest⟩ = true)
      (hend : t.place = Scan.blanks (Scan.name ⟨p.offset + 1, rest⟩).2)
      (hmode : t.mode = .clause offset p.offset (Scan.name ⟨p.offset + 1, rest⟩).1 [])
      (hcaptures : t.captures = s.captures) (hmentions : t.mentions = s.mentions)
      (hnew : s.Starts new) (hlandmarks : t.landmarks = s.landmarks ++ (new ++ [.opener p.offset]))
  | argues {offset opener : Nat} {name : String} {arguments : List ClauseArgument}
      {argument : ClauseArgument} (hplace : Scan.Reads s.place t.place)
      (hmode : s.mode = .clause offset opener name arguments)
      (hmode' : t.mode = .clause offset opener name (argument :: arguments))
      (hargument : ∀ capture, argument = .capture capture → capture ∈ s.captures)
      (hcaptures : t.captures = s.captures) (hmentions : t.mentions = s.mentions)
      (hlandmarks : t.landmarks = s.landmarks)
  | ends {offset opener : Nat} {name : String} {arguments : List ClauseArgument}
      (hplace : Scan.Reads s.place t.place)
      (hmode : s.mode = .clause offset opener name arguments)
      (hmode' : t.mode.isClause = false) (hcaptures : t.captures = s.captures)
      (hmentions : t.mentions = s.mentions ++ [.clause ⟨opener, name, arguments.reverse⟩])
      (hlandmarks : t.landmarks = s.landmarks)

/-- A step between items that follows the state `s`. -/
theorem Act.effect {s s' t : Reading} (h : Act s' t) (hmode : s'.mode = .items)
    (hplace : s'.place = s.place) (hcaptures : s'.captures = s.captures)
    (hmentions : s'.mentions = s.mentions) (hlandmarks : s'.landmarks = s.landmarks) :
    t.mode.isSound = true ∧ Effect s t := by
  rw [mentions, hmode, Mode.mentions, List.append_nil] at hmentions
  rw [landmarks, hmode, Mode.start?, Mode.landmarks] at hlandmarks
  -- Something starts at the place of `s`, and that may be a pattern.
  obtain ⟨new, hnew, hstart⟩ := exists_landmarksOf_some s' []
  rw [Starts, hplace] at hnew
  rw [List.append_nil, hlandmarks] at hstart
  cases h with
  | opens hreads hitems hoffset =>
    refine ⟨by simp [hmode, Mode.isSound],
      .silent (hplace ▸ hreads) (by simp [hmode, Mode.isClause]) hcaptures ?_ hnew ?_⟩
    · rw [← hmentions, mentions, hmode, Mode.mentions, List.append_nil, Frame.mentionsOfList_cons,
        hitems, Item.mentionsOfList, List.append_nil]
      rfl
    · rw [landmarks, hmode, landmarksOf_cons, hitems, hoffset, ← hstart]
      rfl
  | alters hframes hreads hitems hoffset =>
    refine ⟨by simp [hmode, Mode.isSound],
      .silent (hplace ▸ hreads) (by simp [hmode, Mode.isClause]) hcaptures ?_ (Or.inl rfl) ?_⟩
    · rw [← hmentions, mentions, hmode, Mode.mentions, List.append_nil, Frame.mentionsOfList_cons,
        hitems, hframes, Frame.mentionsOfList_cons]
      rfl
    · rw [landmarks, hmode, landmarksOf_cons, hitems, hoffset, List.append_nil, ← hlandmarks,
        hframes, landmarksOf_cons]
      rfl
  | closes hframes hreads hitem hsound hoffset =>
    refine ⟨hsound, .silent (hplace ▸ hreads) rfl hcaptures ?_ (Or.inl rfl) ?_⟩
    · rw [← hmentions, mentions, Mode.mentions, hitem, hframes, Frame.mentionsOfList_cons,
        List.append_assoc]
      rfl
    · rw [landmarks, Mode.start?, Mode.landmarks, hitem, hoffset, List.append_nil, ← hlandmarks,
        hframes, landmarksOf_cons, List.append_nil]
  | makes hreads hitem hsound hoffset =>
    refine ⟨hsound, .silent (hplace ▸ hreads) rfl hcaptures ?_ hnew ?_⟩
    · rw [← hmentions, mentions, Mode.mentions, hitem, List.append_nil]
      rfl
    · rw [landmarks, Mode.start?, Mode.landmarks, hitem, hoffset, ← hstart]
      rfl
  | begins hreads hrest hc hname =>
    obtain ⟨new, hnew, hstart⟩ := exists_landmarksOf_some s' [.opener _]
    rw [Starts, hplace] at hnew
    rw [hlandmarks] at hstart
    refine ⟨rfl, .begins (hplace ▸ hreads) hrest hc hname rfl rfl hcaptures ?_ hnew hstart⟩
    rw [← hmentions, mentions, Mode.mentions, List.append_nil]
    rfl

/-- Suffixes are added to the item that waits for them. -/
theorem mentions_addSuffix {s t : Reading} {item : Item} {suffix : Suffix}
    (hs : s.mode = .suffixes item) (hsound : s.mode.isSound = true)
    (ht : t.mode = .suffixes (item.addSuffix suffix)) (hpatterns : t.patterns = s.patterns)
    (hframes : t.frames = s.frames) :
    t.mode.isSound = true ∧ t.mentions = s.mentions ++ Suffix.mentions [suffix] ∧
      t.landmarks = s.landmarks := by
  rw [hs, Mode.isSound] at hsound
  refine ⟨?_, ?_, ?_⟩
  · rw [ht, Mode.isSound, Item.takesSuffixes_addSuffix, hsound]
  · rw [mentions, mentions, closedMentions, closedMentions, hs, ht, hpatterns, hframes,
      Mode.mentions, Mode.mentions, Item.mentions_addSuffix hsound, List.append_assoc,
      List.append_assoc, List.append_assoc]
  · rw [landmarks, landmarks, hs, ht, hpatterns, hframes, Mode.start?, Mode.start?,
      Mode.landmarks, Mode.landmarks, Item.offset_addSuffix, Item.mentions_addSuffix hsound,
      Mention.landmarks_append, Suffix.landmarks_mentions, List.append_nil]

theorem stepSuffixes_effect {v : Vocabulary} {s t : Reading} {item : Item}
    (hmode : s.mode = .suffixes item) (hsound : s.mode.isSound = true)
    (h : stepSuffixes v s item = .ok t) : t.mode.isSound = true ∧ Effect s t := by
  -- `+`, `*` and `?` say nothing of captures.
  have hquiet : ∀ {suffix : Suffix} {after : Place}, Suffix.captures [suffix] = [] →
      Scan.Reads s.place after → stepSuffixes.addSuffix s item suffix after = t →
      t.mode.isSound = true ∧ Effect s t := by
    rintro suffix after hsuffix hreads rfl
    obtain ⟨hsound', hmentions, hlandmarks⟩ := mentions_addSuffix
      (t := stepSuffixes.addSuffix s item suffix after) hmode hsound rfl rfl rfl
    rw [Suffix.mentions, hsuffix, List.map_nil, List.append_nil] at hmentions
    rw [← List.append_nil s.landmarks] at hlandmarks
    exact ⟨hsound', .silent (.blanks hreads) rfl rfl hmentions (Or.inl rfl) hlandmarks⟩
  unfold stepSuffixes at h
  split at h
  · next hrest => exact hquiet rfl (.sign hrest (by decide)) (Except.ok.inj h)
  · next hrest => exact hquiet rfl (.sign hrest (by decide)) (Except.ok.inj h)
  · next hrest => exact hquiet rfl (.sign hrest (by decide)) (Except.ok.inj h)
  · next rest hrest =>
    simp only at h
    split at h
    · next hname =>
      obtain ⟨hsound', hmentions, hlandmarks⟩ := mentions_addSuffix (t := t) hmode hsound
        (congrArg Reading.mode (Except.ok.inj h)).symm
        (congrArg Reading.patterns (Except.ok.inj h)).symm
        (congrArg Reading.frames (Except.ok.inj h)).symm
      obtain rfl := Except.ok.inj h
      exact ⟨hsound', .binds (.blanks (.trans (.sign hrest (by decide)) (.name hname))) rfl
        (Scan.all_continuesName_name _) rfl hmentions hlandmarks (Scan.name_ne_empty hname)⟩
    · cases h
  · -- Anything else ends the item, and the step is one between items.
    obtain ⟨s', hfinish, hitem⟩ := bind_eq_ok_iff.1 h
    obtain ⟨hplace, hitems, hcaptures, hmentions⟩ := finishItem_eq_ok hfinish
    refine (stepItems_act hitem).effect hitems hplace hcaptures ?_ ?_
    · rw [hmentions, mentions, hmode]
      rfl
    · rw [finishItem_landmarks hfinish, landmarks, hmode]
      rfl

theorem stepClause_effect {v : Vocabulary} {s t : Reading} {offset opener : Nat} {name : String}
    {arguments : List ClauseArgument} (hmode : s.mode = .clause offset opener name arguments)
    (h : stepClause v s offset opener name arguments = .ok t) :
    t.mode.isSound = true ∧ Effect s t := by
  -- An argument is put aside until the clause ends, so nothing is said yet.
  have hargues : ∀ {argument : ClauseArgument} {after : Place}, Scan.Reads s.place after →
      (∀ capture, argument = .capture capture → capture ∈ s.captures) →
      stepClause.addArgument s offset opener name arguments argument after = t →
      t.mode.isSound = true ∧ Effect s t := by
    rintro argument after hreads hargument rfl
    refine ⟨rfl, .argues (.blanks hreads) hmode rfl hargument rfl ?_ ?_⟩
    · rw [mentions, mentions, hmode]
      rfl
    · rw [landmarks, landmarks, hmode]
      rfl
  unfold stepClause at h
  split at h
  · next rest hrest =>
    obtain ⟨hplace, hitems, hcaptures, hmentions⟩ := finishItem_eq_ok h
    refine ⟨by rw [hitems]; rfl, .ends ?_ hmode (by rw [hitems]; rfl) hcaptures ?_ ?_⟩
    · rw [hplace]
      exact .blanks (.sign hrest (by decide))
    · rw [hmentions, mentions, hmode, Mode.mentions, List.append_nil]
      rfl
    · rw [finishItem_landmarks h, landmarks, hmode]
      rfl
  · next rest hrest =>
    simp only at h
    split at h
    · next hname =>
      split at h
      · next hbound =>
        refine hargues (.trans (.sign hrest (by decide)) (.name hname)) ?_ (Except.ok.inj h)
        rintro capture ⟨⟩
        exact List.contains_iff_mem.1 hbound
      · cases h
    · cases h
  · next rest hrest =>
    split at h
    · next hstring =>
      exact hargues (.string hrest hstring) (fun _ h => by cases h) (Except.ok.inj h)
    · cases h
  · split at h
    · next hname =>
      exact hargues (.name hname) (fun _ h => by cases h) (Except.ok.inj h)
    · cases h

/-- **One step.** It reads on, and it changes one thing at most. -/
theorem step_effect {v : Vocabulary} {s t : Reading} (hsound : s.mode.isSound = true)
    (h : step v s = .ok t) : t.mode.isSound = true ∧ Effect s t := by
  cases hmode : s.mode with
  | items =>
    rw [step, hmode] at h
    exact (stepItems_act h).effect hmode rfl rfl rfl rfl
  | suffixes item =>
    rw [step, hmode] at h
    exact stepSuffixes_effect hmode hsound h
  | clause offset opener name arguments =>
    rw [step, hmode] at h
    exact stepClause_effect hmode h

theorem Effect.past {s t : Reading} (h : Effect s t) : s.place.Past t.place := by
  cases h with
  | silent hplace => exact hplace.past
  | binds hplace => exact hplace.past
  | argues hplace => exact hplace.past
  | ends hplace => exact hplace.past
  | @begins p c rest offset new hplace hrest hc hname hend =>
    have hopener : Place.Past _ _ := Place.past_past hrest
    have hwidth : c.utf8Size = 1 := by rcases hc with rfl | rfl <;> rfl
    rw [Place.past, hwidth] at hopener
    rw [hend]
    exact ((hplace.past.trans hopener).trans (Scan.name_past hname)).trans_upto
      (Scan.blanks_upto _)

end Reading
end TreeQuery
