/-
  TreeQuery.Proofs.Document.Atomic

  Operations on a document are done as a whole or not at all. What an operation asks of its
  offsets is written down as a list of checks, each with its fault: an offset must lie in
  the text and then between two characters (`offsetChecks`), a range must not be inverted
  and then have such a start and such an end (`rangeChecks`). `Enforced` says that a
  computation makes the checks of a list in their order: it succeeds when all of them hold,
  and it fails with the first that does not.

  * `Enforced.bind`: checks in a row are made one after the other.
  * `Buffer.checkRange_enforced`, `Buffer.checkOffset_enforced`: the two kinds of checks.
  * `Document.begin_enforced`: the operations with offsets make theirs.
  * `Document.all_or_nothing`: what an operation leaves when it fails, and when it succeeds.
-/

import TreeQuery.Proofs.Document.Deeds
import TreeQuery.Proofs.Except

namespace TreeQuery

/-! ## Checks -/

/-- Something that an operation asks for, and the error when it is not so. -/
structure DocumentCheck where
  holds : Prop
  fault : DocumentError

/-- The first check that does not hold has the fault `e`. -/
def FirstFailing (checks : List DocumentCheck) (e : DocumentError) : Prop :=
  ∃ front c back, checks = front ++ c :: back ∧ (∀ c' ∈ front, c'.holds) ∧ ¬ c.holds ∧
    c.fault = e

/-- The computation makes the checks in their order: it succeeds when all of them hold, and fails
    with the first that does not. -/
structure Enforced {α : Type} (checks : List DocumentCheck) (r : Except DocumentError α) :
    Prop where
  ok_iff : (∃ a, r = .ok a) ↔ ∀ c ∈ checks, c.holds
  error_iff : ∀ e, r = .error e ↔ FirstFailing checks e

/-- The checks of an offset into a text. -/
def offsetChecks (text : Text) (offset : Nat) : List DocumentCheck :=
  [⟨offset ≤ text.size, .outOfBounds offset text.size⟩,
    ⟨text.isBoundary offset = true, .notBoundary offset⟩]

/-- The checks of a range of a text: those of its start come before those of its end. -/
def rangeChecks (text : Text) (start stop : Nat) : List DocumentCheck :=
  ⟨start ≤ stop, .inverted start stop⟩ :: (offsetChecks text start ++ offsetChecks text stop)

theorem not_firstFailing_nil {e : DocumentError} : ¬ FirstFailing [] e := by
  rintro ⟨front, c, back, h, -⟩
  cases front <;> cases h

/-- The first failing check is the head, or the head holds and it is in the tail. -/
theorem firstFailing_cons_iff {c : DocumentCheck} {checks : List DocumentCheck}
    {e : DocumentError} :
    FirstFailing (c :: checks) e ↔
      (¬ c.holds ∧ c.fault = e) ∨ (c.holds ∧ FirstFailing checks e) := by
  constructor
  · rintro ⟨front, c', back, hchecks, hfront, hc', rfl⟩
    cases front with
    | nil =>
      obtain ⟨rfl, rfl⟩ := List.cons.inj hchecks
      exact .inl ⟨hc', rfl⟩
    | cons d front =>
      obtain ⟨rfl, rfl⟩ := List.cons.inj hchecks
      rw [List.forall_mem_cons] at hfront
      exact .inr ⟨hfront.1, front, c', back, rfl, hfront.2, hc', rfl⟩
  · rintro (⟨hc, rfl⟩ | ⟨hc, front, c', back, rfl, hfront, hc', rfl⟩)
    · exact ⟨[], c, checks, rfl, nofun, hc, rfl⟩
    · exact ⟨c :: front, c', back, rfl, List.forall_mem_cons.2 ⟨hc, hfront⟩, hc', rfl⟩

theorem firstFailing_append_iff {checks more : List DocumentCheck} {e : DocumentError} :
    FirstFailing (checks ++ more) e ↔
      FirstFailing checks e ∨ ((∀ c ∈ checks, c.holds) ∧ FirstFailing more e) := by
  induction checks with
  | nil => simp [not_firstFailing_nil]
  | cons c checks ih =>
    rw [List.cons_append, firstFailing_cons_iff, firstFailing_cons_iff, ih, List.forall_mem_cons]
    tauto

namespace Enforced

variable {α β : Type} {checks more : List DocumentCheck} {r : Except DocumentError α}
  {f : α → Except DocumentError β}

theorem ok (a : α) : Enforced [] (.ok a : Except DocumentError α) :=
  ⟨by simp, fun e => by simp [not_firstFailing_nil]⟩

/-- A check comes first. -/
theorem cons {p : Prop} {e : DocumentError} (hfails : ¬ p → r = .error e)
    (hholds : p → Enforced checks r) : Enforced (⟨p, e⟩ :: checks) r := by
  by_cases hp : p
  · obtain ⟨hok, herror⟩ := hholds hp
    constructor
    · rw [hok, List.forall_mem_cons, and_iff_right hp]
    · intro e'
      rw [herror, firstFailing_cons_iff]
      simp [hp]
  · rw [hfails hp]
    constructor
    · simp [hp]
    · intro e'
      rw [firstFailing_cons_iff]
      simp [hp]

/-- Checks in a row are made one after the other. -/
theorem bind (h : Enforced checks r) (hf : ∀ a, r = .ok a → Enforced more (f a)) :
    Enforced (checks ++ more) (r >>= f) := by
  constructor
  · rw [List.forall_mem_append, ← h.ok_iff]
    constructor
    · rintro ⟨b, hb⟩
      obtain ⟨a, ha, hb⟩ := bind_eq_ok_iff.1 hb
      exact ⟨⟨a, ha⟩, (hf a ha).ok_iff.1 ⟨b, hb⟩⟩
    · rintro ⟨⟨a, ha⟩, hmore⟩
      obtain ⟨b, hb⟩ := (hf a ha).ok_iff.2 hmore
      exact ⟨b, bind_eq_ok_iff.2 ⟨a, ha, hb⟩⟩
  · intro e
    rw [bind_eq_error_iff, firstFailing_append_iff, ← h.ok_iff, ← h.error_iff]
    refine or_congr_right ?_
    constructor
    · rintro ⟨a, ha, he⟩
      exact ⟨⟨a, ha⟩, ((hf a ha).error_iff e).1 he⟩
    · rintro ⟨⟨a, ha⟩, he⟩
      exact ⟨a, ha, ((hf a ha).error_iff e).2 he⟩

/-- What cannot fail makes no more checks. -/
theorem bind_ok (h : Enforced checks r) (g : α → β) :
    Enforced checks (r >>= fun a => .ok (g a)) := by
  have hmore := h.bind (f := fun a => .ok (g a)) (fun a _ => ok (g a))
  rwa [List.append_nil] at hmore

end Enforced

/-! ## Operations of a buffer -/

namespace Buffer

theorem checkOffset_enforced (b : Buffer) (offset : Nat) :
    Enforced (offsetChecks b.text offset) (b.checkOffset offset) := by
  refine .cons (fun hout => ?_) fun hin => .cons (fun hinside => ?_) fun hboundary => ?_
  · rw [checkOffset, if_pos (Nat.not_le.1 hout)]
  · rw [checkOffset, if_neg (Nat.not_lt.2 hin), if_neg hinside]
  · rw [checkOffset, if_neg (Nat.not_lt.2 hin), if_pos hboundary]
    exact .ok ()

theorem checkRange_enforced (b : Buffer) (start stop : Nat) :
    Enforced (rangeChecks b.text start stop) (b.checkRange start stop) := by
  refine .cons (fun hinverted => ?_) fun horder => ?_
  · rw [checkRange, if_pos (Nat.not_le.1 hinverted)]
    rfl
  · rw [checkRange, if_neg (Nat.not_lt.2 horder)]
    exact (b.checkOffset_enforced start).bind fun _ _ => b.checkOffset_enforced stop

theorem lineColumn_enforced (b : Buffer) (offset : Nat) :
    Enforced (offsetChecks b.text offset) (b.lineColumn offset) :=
  (b.checkOffset_enforced offset).bind_ok _

theorem setCursor_enforced (b : Buffer) (offset : Nat) :
    Enforced (offsetChecks b.text offset) (b.setCursor offset) :=
  (b.checkOffset_enforced offset).bind_ok _

theorem replace_enforced (b : Buffer) (start stop : Nat) (text : Text) :
    Enforced (rangeChecks b.text start stop) (b.replace start stop text) :=
  (b.checkRange_enforced start stop).bind_ok _

end Buffer

/-! ## Operations of a document -/

/-- The checks of an operation with offsets on a document that has a text; the other actions name
marks and listeners. -/
def Action.checks? (text : Text) : Action → Option (List DocumentCheck)
  | .replace start stop _ => some (rangeChecks text start stop)
  | .setCursor offset => some (offsetChecks text offset)
  | .createMark offset => some (offsetChecks text offset)
  | _ => none

namespace Document

theorem replace_enforced (d : Document) (start stop : Nat) (new : Text) :
    Enforced (rangeChecks d.buffer.text start stop) (d.replace start stop new) := by
  have hreplace := (d.buffer.replace_enforced start stop new).bind_ok fun (buffer, edit) =>
    ({ d with
      buffer := buffer
      registrations := d.live
      agenda := d.live.map (Task.tell d.history.length · edit) ++ d.agenda
      history := d.history ++ [Event.applied edit] } : Document)
  rw [replace]
  cases h : d.buffer.replace start stop new with
  | error e => rwa [h] at hreplace
  | ok result => rwa [h] at hreplace

theorem setCursor_enforced (d : Document) (offset : Nat) :
    Enforced (offsetChecks d.buffer.text offset) (d.setCursor offset) := by
  have hcursor := (d.buffer.setCursor_enforced offset).bind_ok fun buffer =>
    ({ d with buffer := buffer } : Document)
  rw [setCursor]
  cases h : d.buffer.setCursor offset with
  | error e => rwa [h] at hcursor
  | ok buffer => rwa [h] at hcursor

theorem createMark_enforced (d : Document) (offset : Nat) :
    Enforced (offsetChecks d.buffer.text offset) (d.createMark offset) := by
  have hmark := (d.buffer.checkOffset_enforced offset).bind_ok fun _ => d.marked offset
  rw [createMark]
  cases h : d.buffer.checkOffset offset with
  | error e => rwa [h] at hmark
  | ok _ => rwa [h] at hmark

/-- An operation with offsets answers what its checks do. -/
theorem begin_enforced (d : Document) {a : Action} {checks : List DocumentCheck}
    (h : a.checks? d.buffer.text = some checks) :
    ∃ outcome r, d.begin a = d.answer outcome r ∧ Enforced checks r := by
  cases a with
  | replace start stop new =>
    obtain rfl := Option.some.inj h
    exact ⟨_, _, rfl, d.replace_enforced start stop new⟩
  | setCursor offset =>
    obtain rfl := Option.some.inj h
    exact ⟨_, _, rfl, d.setCursor_enforced offset⟩
  | createMark offset =>
    obtain rfl := Option.some.inj h
    exact ⟨_, _, rfl, d.createMark_enforced offset⟩
  | restore | dropMark | subscribe | resubscribe | unsubscribe | dropRecorder => cases h

theorem exists_answer_eq_ok_iff (d : Document) {outcome : Outcome}
    {r : Except DocumentError Document} :
    (∃ outcome', (d.answer outcome r).1 = .ok outcome') ↔ ∃ d', r = .ok d' := by
  cases r <;> simp [answer]

theorem answer_eq_error_iff (d : Document) {outcome : Outcome}
    {r : Except DocumentError Document} {fault : ActionFault} :
    (d.answer outcome r).1 = .error fault ↔ ∃ e, fault = .rejected e ∧ r = .error e := by
  cases r <;> simp [answer, eq_comm]

end Document

/-! ## The text afterwards -/

/-- A step of a run without an edit keeps the text. -/
theorem Turn.text_of_no_edit {allows : Caller → List Deed → Document → Action → Prop}
    {deeds deeds' : List Deed} {d d' : Document} (h : Turn allows deeds d deeds' d') :
    ∃ more, deeds' = deeds ++ more ∧ (editsOf more = [] → d'.buffer.text = d.buffer.text) := by
  cases h with
  | @act begun a hbegins =>
    have htext : begun.buffer.text = d.buffer.text := by cases hbegins <;> rfl
    refine ⟨_, rfl, fun hnone => ?_⟩
    have heffect := Document.begin_effect begun a
    generalize begun.deed? a = deed, (begun.begin a).2 = after at heffect hnone
    rcases Document.edited_or_ne deed with ⟨e, rfl⟩ | hedit
    · cases hnone
    · rw [(heffect.frame hedit).1, htext]
  | @tell round whom e rest hagenda =>
    obtain ⟨asked, -, hstep⟩ := Document.step_tell d round whom e rest
    exact ⟨[], (List.append_nil _).symm, fun _ => by rw [hstep]; rfl⟩
  | finish hagenda => exact ⟨[], (List.append_nil _).symm, fun _ => rfl⟩

/-- Without another edit the text stays. -/
theorem Onward.text_of_no_edit {allows : Caller → List Deed → Document → Action → Prop}
    {deeds₀ deeds : List Deed} {d₀ d : Document} (h : Onward allows deeds₀ d₀ deeds d) :
    ∃ more, deeds = deeds₀ ++ more ∧ (editsOf more = [] → d.buffer.text = d₀.buffer.text) := by
  induction h with
  | refl => exact ⟨[], (List.append_nil _).symm, fun _ => rfl⟩
  | turn _ hturn ih =>
    obtain ⟨more, rfl, htext⟩ := ih
    obtain ⟨last, rfl, hlast⟩ := hturn.text_of_no_edit
    refine ⟨more ++ last, List.append_assoc .., fun hnone => ?_⟩
    rw [editsOf_append, List.append_eq_nil_iff] at hnone
    rw [hlast hnone.2, htext hnone.1]

namespace Document

/-- **All or nothing.** A replacement, and so an insertion and a removal, a move of the cursor and a
    new mark succeed exactly when their checks hold, and fail with the first that does not; so it
    is with a question for the line and the column. An action that fails leaves the document as it
    was, with all marks, logs and numbers. A replacement that succeeds puts the new text in the
    place of the range before anybody is told, and after the calls of the listeners that is the
    text unless one of them made another edit. -/
theorem all_or_nothing (d : Document) :
    (∀ a checks, a.checks? d.buffer.text = some checks →
      ((∃ outcome, (d.perform a).1 = .ok outcome) ↔ ∀ c ∈ checks, c.holds) ∧
      ∀ fault, (d.perform a).1 = .error fault ↔
        ∃ e, fault = .rejected e ∧ FirstFailing checks e) ∧
    (∀ offset, Enforced (offsetChecks d.buffer.text offset) (d.buffer.lineColumn offset)) ∧
    (∀ a fault, (d.perform a).1 = .error fault →
      (d.begin a).2 = d ∧ (d.agenda = [] → (d.perform a).2 = d)) ∧
    (∀ start stop new outcome, (d.perform (.replace start stop new)).1 = .ok outcome →
      ∃ front old back, d.buffer.text = front ++ old ++ back ∧ front.size = start ∧
        (front ++ old).size = stop ∧
        (d.begin (.replace start stop new)).2.buffer.text = front ++ new ++ back ∧
        ∃ more, Onward Unlimited [] (d.begin (.replace start stop new)).2 more
            (d.perform (.replace start stop new)).2 ∧
          (editsOf more = [] →
            (d.perform (.replace start stop new)).2.buffer.text = front ++ new ++ back)) := by
  refine ⟨fun a checks hchecks => ?_, d.buffer.lineColumn_enforced, fun a fault hfault => ?_,
    fun start stop new outcome hok => ?_⟩
  · obtain ⟨outcome, r, hbegin, hr⟩ := d.begin_enforced hchecks
    simp only [perform, hbegin]
    exact ⟨(d.exists_answer_eq_ok_iff).trans hr.ok_iff, fun fault =>
      (d.answer_eq_error_iff).trans (exists_congr fun e => and_congr_right fun _ => hr.error_iff e)⟩
  · have hsame := begin_eq_error hfault
    refine ⟨hsame, fun hidle => ?_⟩
    rw [perform, hsame, settle_of_idle hidle]
  · obtain ⟨-, front, old, back, htext, rfl, rfl, hedited⟩ := begin_replace hok
    have hafter : (d.begin (.replace front.size (front.size + old.size) new)).2.buffer.text =
        front ++ new ++ back := by rw [hedited]; rfl
    obtain ⟨more, hmore, -⟩ := Onward.exists_settle []
      (d.begin (.replace front.size (front.size + old.size) new)).2
    refine ⟨front, old, back, htext, rfl, Text.size_append .., hafter, more, hmore, fun hnone => ?_⟩
    obtain ⟨more', hdeeds, hkept⟩ := hmore.text_of_no_edit
    rw [List.nil_append, List.nil_append] at hdeeds
    rw [← hafter]
    exact hkept (hdeeds ▸ hnone)

/-- A document with a character of two bytes, a recorder and a mark after the character. -/
def accented : Document := ((Document.ofText "aéb".toList).subscribe []).marked 3

/-- A start inside the character comes before an end that is out of bounds, and nothing is done;
    the character as a whole can be replaced. -/
theorem all_or_nothing_accented :
    (accented.perform (.replace 2 9 "x".toList)).1 = .error (.rejected (.notBoundary 2)) ∧
      (accented.perform (.replace 2 9 "x".toList)).2 = accented ∧
      ∃ outcome, (accented.perform (.replace 1 3 "xyz".toList)).1 = .ok outcome ∧
        (accented.begin (.replace 1 3 "xyz".toList)).2.buffer.text = "axyzb".toList := by
  obtain ⟨hchecks, -, hfails, hreplaces⟩ := all_or_nothing accented
  have hfault : (accented.perform (.replace 2 9 "x".toList)).1 =
      .error (.rejected (.notBoundary 2)) := by
    refine ((hchecks (.replace 2 9 _) _ rfl).2 _).2 ⟨_, rfl, ?_⟩
    refine ⟨[⟨2 ≤ 9, _⟩, ⟨2 ≤ accented.buffer.text.size, _⟩],
      ⟨accented.buffer.text.isBoundary 2 = true, _⟩, offsetChecks accented.buffer.text 9,
      rfl, ?_, by decide, rfl⟩
    simp only [List.forall_mem_cons]
    exact ⟨by decide, by decide, nofun⟩
  obtain ⟨outcome, hok⟩ : ∃ outcome,
      (accented.perform (.replace 1 3 "xyz".toList)).1 = .ok outcome := by
    refine (hchecks (.replace 1 3 _) _ rfl).1.2 ?_
    simp only [rangeChecks, offsetChecks, List.cons_append, List.nil_append, List.forall_mem_cons]
    exact ⟨by decide, by decide, by decide, by decide, by decide, nofun⟩
  obtain ⟨front, old, back, htext, hfront, hold, hafter, -⟩ := hreplaces 1 3 _ outcome hok
  have hbefore : accented.buffer.text.before 1 = front := by
    rw [htext, ← hfront, List.append_assoc, Text.before_append]
  have hback : accented.buffer.text.after 3 = back := by
    rw [htext, ← hold, Text.after_append]
  refine ⟨hfault, (hfails _ _ hfault).2 rfl, outcome, hok, ?_⟩
  rw [hafter, ← hbefore, ← hback]
  decide

end Document
end TreeQuery
