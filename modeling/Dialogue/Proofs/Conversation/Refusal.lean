/-
# Refusals change nothing

An event is refused if all it gets is a notice: an answer was not accepted, too few options are
selected, or nothing takes the text up. On the way to the notice the store of profiles was told of
the event and may have been asked, and the selection was taken out of the session and put back. In
the end nothing has changed but the time of the session and, at most, that an empty selection is
recorded where there was none.

Nobody can tell an empty selection from none: `Session.Equiv` is the relation, and turns keep it. So
any number of refused events may come before an event without changing what it does, as long as the
session is not over in the meantime.
-/

import Dialogue.Proofs.Conversation.Replies
import Dialogue.Proofs.Conversation.Selection
import Dialogue.Proofs.Profile.Indifference

namespace Dialogue

/-! ## Sessions that cannot be told apart -/

/-- Two sessions that are the same but for selections that are empty in one and absent in the
other. -/
structure Session.Equiv (s s' : Session) : Prop where
  current : s.current = s'.current
  pending : s.pending = s'.pending
  selected : ∀ node, s.selected node = s'.selected node

namespace Session.Equiv

variable {s s' s'' : Session}

theorem refl (s : Session) : s.Equiv s := ⟨rfl, rfl, fun _ => rfl⟩

theorem symm (equiv : s.Equiv s') : s'.Equiv s :=
  ⟨equiv.current.symm, equiv.pending.symm, fun node => (equiv.selected node).symm⟩

theorem trans (first : s.Equiv s') (second : s'.Equiv s'') : s.Equiv s'' :=
  ⟨first.current.trans second.current, first.pending.trans second.pending,
    fun node => (first.selected node).trans (second.selected node)⟩

theorem select (equiv : s.Equiv s') (node : NodeId) (values : List String) :
    (s.select node values).Equiv (s'.select node values) where
  current := equiv.current
  pending := equiv.pending
  selected other := by rw [selected_select, selected_select, equiv.selected]

theorem forget (equiv : s.Equiv s') (node : NodeId) : (s.forget node).Equiv (s'.forget node) where
  current := equiv.current
  pending := equiv.pending
  selected other := by rw [selected_forget, selected_forget, equiv.selected]

theorem arrive (equiv : s.Equiv s') (n : Node) : (Turn.arrive s n).Equiv (Turn.arrive s' n) where
  current := rfl
  pending := rfl
  selected node := by
    have emptied := (equiv.select n.id []).selected node
    unfold Turn.arrive
    cases n.multiSelect.isSome with
    | true => exact emptied
    | false => exact equiv.selected node

theorem finishing (equiv : s.Equiv s') (n : Node) : s.finishing n = s'.finishing n := by
  unfold Session.finishing
  rw [equiv.selected]

/-- The same trigger amounts to the same in both. -/
theorem move (equiv : s.Equiv s') (flow : Flow) (trigger : Trigger) :
    s.move flow trigger = s'.move flow trigger := by
  have finishes : s.finishing = s'.finishing := by
    funext n
    exact equiv.finishing n
  cases trigger with
  | start => rfl
  | enter node => rfl
  | act action =>
      show s.acting flow action = s'.acting flow action
      unfold acting
      rw [finishes]
  | say text =>
      show s.saying flow text = s'.saying flow text
      unfold saying
      rw [equiv.current, equiv.pending, finishes]

theorem answer? (equiv : s.Equiv s') (move : Move) : move.answer? s = move.answer? s' := by
  cases move with
  | finish n m =>
      show some _ = some _
      rw [equiv.selected]
  | _ => rfl

theorem settle (equiv : s.Equiv s') (move : Move) : (move.settle s).Equiv (move.settle s') := by
  cases move with
  | toggle n m c =>
      show (s.select n.id _).Equiv (s'.select n.id _)
      rw [equiv.selected]
      exact equiv.select n.id _
  | insist n m =>
      show (s.select n.id _).Equiv (s'.select n.id _)
      rw [equiv.selected]
      exact equiv.select n.id _
  | finish n m => exact equiv.forget n.id
  | accept p answer => exact ⟨equiv.current, rfl, equiv.selected⟩
  | _ => exact equiv

end Session.Equiv

/-! ## Turns -/

/-- Two turns that agree but for sessions that cannot be told apart. -/
structure Turn.Equiv {σ : Type} (left right : Turn σ) : Prop where
  session : left.session.Equiv right.session
  profiles : left.profiles = right.profiles
  replies : left.replies = right.replies
  failure : left.failure = right.failure

namespace Turn.Equiv

variable {σ : Type} {left right : Turn σ}

theorem reply (equiv : left.Equiv right) (r : Reply) : (left.reply r).Equiv (right.reply r) where
  session := equiv.session
  profiles := equiv.profiles
  replies := by
    unfold Turn.reply
    rw [equiv.replies]
  failure := equiv.failure

theorem fail (equiv : left.Equiv right) (f : Failure) : (left.fail f).Equiv (right.fail f) where
  session := equiv.session
  profiles := equiv.profiles
  replies := equiv.replies
  failure := rfl

variable [ProfileStore σ]

theorem vars (equiv : left.Equiv right) (flow : Flow) (user : User) :
    left.vars flow user = right.vars flow user := by
  unfold Turn.vars Turn.profile
  rw [equiv.profiles]

theorem afterRead (equiv : left.Equiv right) (user : UserId) :
    (left.afterRead user).Equiv (right.afterRead user) where
  session := equiv.session
  profiles := by
    unfold Turn.afterRead
    rw [equiv.profiles]
  replies := equiv.replies
  failure := equiv.failure

theorem takenUp (equiv : left.Equiv right) (user : User) (n : Node) :
    (left.takenUp user n).Equiv (right.takenUp user n) := by
  apply afterRead
  exact ⟨equiv.session.arrive n, equiv.profiles, equiv.replies, equiv.failure⟩

theorem screen? (equiv : left.Equiv right) (flow : Flow) (user : User) (n : Node) :
    left.screen? flow user n = right.screen? flow user n := by
  unfold Turn.screen?
  rw [equiv.vars flow user, (equiv.session.arrive n).selected n.id]

theorem enterFrom (flow : Flow) (user : User) (first : NodeId) (steps : Nat) (id : NodeId)
    (left right : Turn σ) (equiv : left.Equiv right) :
    (Turn.enterFrom flow user first steps id left).Equiv
      (Turn.enterFrom flow user first steps id right) := by
  induction steps generalizing id left right with
  | zero => exact equiv.fail _
  | succ steps ih =>
      cases found : flow.node? id with
      | none =>
          rw [enterFrom_of_missing first steps left found,
            enterFrom_of_missing first steps right found, equiv.session.current]
          exact equiv.fail _
      | some n =>
          have taken := equiv.takenUp user n
          rw [enterFrom_of_found user first steps left found,
            enterFrom_of_found user first steps right found, equiv.screen? flow user n]
          cases right.screen? flow user n with
          | none => exact taken.fail .noRoom
          | some screen =>
              dsimp only
              cases n.autoNext with
              | none => exact taken.reply _
              | some next => exact ih next _ _ (taken.reply _)

theorem keep (equiv : left.Equiv right) (user : UserId) (answer : Option (String × Value)) :
    (left.keep user answer).Equiv (right.keep user answer) := by
  cases answer with
  | none => exact equiv
  | some answer =>
      refine ⟨equiv.session, ?_, equiv.replies, equiv.failure⟩
      show (ProfileStore.write left.profiles _ _ _).2 = (ProfileStore.write right.profiles _ _ _).2
      rw [equiv.profiles]

theorem utter (equiv : left.Equiv right) (flow : Flow) (user : User) (move : Move) :
    (Turn.utter flow user move left).Equiv (Turn.utter flow user move right) := by
  cases move with
  | toggle n m c =>
      unfold Turn.utter
      dsimp only
      rw [equiv.session.selected]
      split
      · exact equiv.fail .noRoom
      · exact equiv.reply _
  | insist n m => exact equiv.reply _
  | reject p rejection => exact equiv.reply _
  | remark text =>
      unfold Turn.utter
      dsimp only
      rw [equiv.vars flow user]
      exact (equiv.afterRead user.id).reply _
  | _ => exact equiv

/-- The same move keeps turns alike. -/
theorem perform (equiv : left.Equiv right) (flow : Flow) (user : User) (move : Move) :
    (left.perform flow user move).Equiv (right.perform flow user move) := by
  have prepared : (left.prepare flow user move).Equiv (right.prepare flow user move) := by
    have kept := equiv.keep user.id (move.answer? left.session)
    unfold Turn.prepare
    apply utter
    rw [equiv.session.answer? move] at kept ⊢
    exact ⟨equiv.session.settle move, kept.profiles, kept.replies, kept.failure⟩
  unfold Turn.perform enter?
  cases move.target? with
  | none => exact prepared
  | some id => exact enterFrom flow user id maxAutoAdvance id _ _ prepared

end Turn.Equiv

/-! ## Refusals -/

namespace Session

/-- A session as it was, except that an empty selection may be recorded at a node that had none. -/
inductive KeptAt (node : NodeId) (s : Session) : Session → Prop where
  | same : KeptAt node s s
  | recorded (absent : s.selections.get? node = none) : KeptAt node s (s.select node [])

variable {s s' : Session} {node : NodeId}

theorem selected_of_absent (absent : s.selections.get? node = none) : s.selected node = [] := by
  rw [selected, absent, Option.getD_none]

/-- To take a selection out and put it back does nothing, unless there was none. -/
theorem keptAt_select (s : Session) (node : NodeId) :
    s.KeptAt node (s.select node (s.selected node)) := by
  cases stored : s.selections.get? node with
  | none =>
      rw [selected_of_absent stored]
      exact .recorded stored
  | some values =>
      have same : s.selections.insert node (s.selected node) = s.selections := by
        apply Table.ext_get?
        intro other
        rw [Table.get?_insert, selected, stored, Option.getD_some]
        split
        · next own => rw [own, stored]
        · rfl
      rw [select, same]
      exact .same

theorem KeptAt.equiv (kept : s.KeptAt node s') : s.Equiv s' := by
  cases kept with
  | same => exact .refl s
  | recorded absent =>
      refine ⟨rfl, rfl, ?_⟩
      intro other
      rw [selected_select]
      split
      · next own => rw [own, selected_of_absent absent]
      · rfl

end Session

/-- Why an event is refused in a session, with the notice about it and the session after it. -/
inductive Refusal (flow : Flow) (vars : Variables) (s : Session) : String → Session → Prop where
  /-- The prompt that waits does not accept what was said. -/
  | rejected {p : Pending} {said : String} {rejection : Rejection} (waits : s.pending = some p)
      (judged : p.prompt.accept said = .error rejection) :
      Refusal flow vars s (p.prompt.noticeOf rejection) s
  /-- Nothing takes the text up. -/
  | unheard {text : String} (fallback : flow.fallbackText = some text) :
      Refusal flow vars s (Template.substitute .plain vars text) s
  /-- Too few options are selected at a node. -/
  | tooFew {n : Node} {m : MultiSelect} {after : Session} (found : flow.node? n.id = some n)
      (selects : n.multiSelect = some m) (few : (s.selected n.id).length < m.minSelected)
      (kept : s.KeptAt n.id after) :
      Refusal flow vars s (Turn.tooFewNotice m.minSelected) after

/-- Nobody can tell that something was refused in a session. -/
theorem Refusal.equiv {flow : Flow} {vars : Variables} {s after : Session} {text : String}
    (refusal : Refusal flow vars s text after) : s.Equiv after := by
  cases refusal with
  | rejected waits judged => exact .refl s
  | unheard fallback => exact .refl s
  | tooFew found selects few kept => exact kept.equiv

namespace Turn

variable {σ : Type} [ProfileStore σ] {flow : Flow} {user : User} {move : Move} {t : Turn σ}

theorem replies_keep (t : Turn σ) (user : UserId) (answer : Option (String × Value)) :
    (t.keep user answer).replies = t.replies := by
  cases answer with
  | none => rfl
  | some answer => rfl

/-- What is answered with a notice alone says it before a node is entered: nodes show screens. -/
theorem not_quiet_of_notice {text : String}
    (answered : (t.perform flow user move).replies = [.notice text]) :
    (t.prepare flow user move).replies ≠ [] := by
  intro quiet
  have screens : ∀ r ∈ (t.perform flow user move).replies, ∃ screen, r = .screen screen := by
    have none : ∀ r ∈ (t.prepare flow user move).replies, ∃ screen, r = .screen screen := by
      rw [quiet]
      intro r listed
      cases listed
    unfold perform enter?
    cases move.target? with
    | none => exact none
    | some id =>
        apply replies_enterFrom _ maxAutoAdvance id _ none
        intro n vars selected screen found shown
        exact ⟨screen, rfl⟩
  rw [answered] at screens
  obtain ⟨screen, same⟩ := screens _ (List.mem_singleton_self _)
  cases same

/-- A move that is answered with nothing but a notice is a refusal, and stores no answer. -/
theorem refusal_of_notice {trigger : Trigger} {text : String} (silent : t.replies = [])
    (justified : move.Justified flow t.session trigger)
    (answered : (t.perform flow user move).replies = [.notice text]) :
    Refusal flow (t.vars flow user) t.session text (t.perform flow user move).session ∧
      move.answer? t.session = none := by
  have spoken {said : String} (replied : t.replies ++ [.notice said] = [.notice text]) :
      said = text := by
    rw [silent, List.nil_append] at replied
    cases replied
    rfl
  have kept (answer : Option (String × Value)) : (t.keep user.id answer).replies = [] :=
    (t.replies_keep user.id answer).trans silent
  cases move with
  | insist n m =>
      obtain ⟨found, selects, few⟩ := justified
      cases spoken answered
      exact ⟨.tooFew found selects few (t.session.keptAt_select n.id), rfl⟩
  | reject p rejection =>
      obtain ⟨waits, said, judged⟩ := justified
      cases spoken answered
      exact ⟨.rejected waits judged, rfl⟩
  | remark fallback =>
      cases spoken answered
      exact ⟨.unheard justified, rfl⟩
  | toggle n m c =>
      rcases replies_perform_toggle flow user n m c t silent with none | ⟨_, rows, _, redrawn⟩
      · rw [none] at answered
        cases answered
      · rw [redrawn] at answered
        cases answered
  | idle => exact (not_quiet_of_notice answered silent).elim
  | enter target => exact (not_quiet_of_notice answered silent).elim
  | press n b => exact (not_quiet_of_notice answered (kept _)).elim
  | finish n m => exact (not_quiet_of_notice answered (kept _)).elim
  | accept p answer => exact (not_quiet_of_notice answered (kept _)).elim

end Turn

/-! ## Sessions that are kept -/

namespace Conversation

section Saved

variable {σ : Type} {c : Conversation σ} {user : UserId}

/-- The session that is kept of a user, whether or not it is over. -/
def saved (c : Conversation σ) (user : UserId) : Session :=
  ((c.sessions.entries.get? user).map Prod.fst).getD .fresh

/-- The session of a user is not over at some time. -/
def Lasts (c : Conversation σ) (user : UserId) (now : Time) : Prop :=
  ∀ entry ∈ c.sessions.entries.get? user, now - entry.2 < c.sessions.lifetime

instance (c : Conversation σ) (user : UserId) (now : Time) : Decidable (c.Lasts user now) :=
  inferInstanceAs
    (Decidable (∀ entry ∈ c.sessions.entries.get? user, now - entry.2 < c.sessions.lifetime))

theorem get_of_lasts {now : Time} (lasts : c.Lasts user now) :
    (c.sessions.get user now).1 = c.saved user := by
  rw [SessionStore.get_fst, saved]
  cases stored : c.sessions.entries.get? user with
  | none => rfl
  | some entry =>
      have running : c.sessions.isExpired entry.2 now = false :=
        decide_eq_false (Int.not_le.2 (lasts entry stored))
      rw [Option.filter_some, running]
      rfl

/-- An event finds a fresh session at the start, and the one that is kept otherwise. -/
theorem sessionFor_of_lasts {now : Time} {e : Event} (lasts : c.Lasts e.user.id now) :
    (c.sessionFor now e).1 = if e.trigger = .start then .fresh else c.saved e.user.id := by
  rw [sessionFor]
  split
  · rfl
  · exact get_of_lasts lasts

variable [ProfileStore σ] (flow : Flow) (now : Time) (e : Event)

/-- After an event the session of the turn is kept, or the one that was found if it crashed. -/
theorem saved_handle (c : Conversation σ) :
    (c.handle flow now e).2.saved e.user.id =
      if (c.turn flow now e).failure = some .noRoom then (c.sessionFor now e).1
      else (c.turn flow now e).session := by
  rw [saved, handle_sessions]
  split
  · rw [← sessionFor_fst]
  · rw [SessionStore.get?_save, if_pos rfl]
    rfl

theorem get?_handle_of_other {other : UserId} (foreign : other ≠ e.user.id)
    (c : Conversation σ) :
    (c.handle flow now e).2.sessions.entries.get? other = c.sessions.entries.get? other := by
  have concerns : (Happening.event now e).concerns other = false :=
    decide_eq_false (Ne.symm foreign)
  exact c.get?_step_of_other flow concerns fun _ => nofun

end Saved

/-! ## Events before and after refusals -/

variable {σ : Type} [ProfileStore σ]

/-- What a refused event leaves behind. -/
structure Unmoved (flow : Flow) (now : Time) (e : Event) (text : String) (c : Conversation σ) :
    Prop where
  /-- The session that was found is saved as the refusal leaves it. -/
  session : ∃ after,
    Refusal flow (e.user.vars (ProfileStore.shown c.profiles e.user.id) flow.userName)
        (c.sessions.get e.user.id now).1 text after ∧
      (c.handle flow now e).2.sessions.entries.get? e.user.id = some (after, now)
  /-- The sessions of the others are not touched. -/
  others : ∀ other, other ≠ e.user.id →
    (c.handle flow now e).2.sessions.entries.get? other = c.sessions.entries.get? other
  /-- Everybody has the same answers. -/
  answers : ∀ user,
    (ProfileStore.read (c.handle flow now e).2.profiles user).1 =
      (ProfileStore.read c.profiles user).1

/-- A conversation after some events of a user that were all refused, and came before the session
was over. -/
inductive Refusals (flow : Flow) (user : UserId) (c : Conversation σ) : Conversation σ → Prop where
  | none : Refusals flow user c c
  | more {c' : Conversation σ} {now : Time} {e : Event} (text : String)
      (before : Refusals flow user c c') (own : e.user.id = user) (lasts : c'.Lasts user now)
      (refused : (c'.handle flow now e).1 = .replies [.notice text]) :
      Refusals flow user c (c'.handle flow now e).2

/-- An event does the same in two conversations. -/
structure SameEffect (flow : Flow) (e : Event) (now now' : Time) (left right : Conversation σ) :
    Prop where
  outcome : (left.handle flow now e).1 = (right.handle flow now' e).1
  session : ((left.handle flow now e).2.saved e.user.id).Equiv
    ((right.handle flow now' e).2.saved e.user.id)
  others : ∀ other, other ≠ e.user.id →
    (left.handle flow now e).2.sessions.entries.get? other =
      (right.handle flow now' e).2.sessions.entries.get? other
  answers : ∀ user,
    (ProfileStore.read (left.handle flow now e).2.profiles user).1 =
      (ProfileStore.read (right.handle flow now' e).2.profiles user).1

/-- Refusals change nothing in a conversation, neither at once nor for what comes after them. -/
structure Steadfast (flow : Flow) (c : Conversation σ) : Prop where
  /-- An event that gets nothing but a notice leaves everything as it was. -/
  unmoved : ∀ now e text, (c.handle flow now e).1 = .replies [.notice text] →
    c.Unmoved flow now e text
  /-- After any number of refusals an event does what it would have done at once. -/
  sameEffect : ∀ c' now now' e, c.Refusals flow e.user.id c' → c'.Lasts e.user.id now →
    c.Lasts e.user.id now' → SameEffect flow e now now' c' c

/-- Two conversations that cannot be told apart, but for the time of the session of one user. -/
structure Akin (R : σ → σ → Prop) (user : UserId) (left right : Conversation σ) : Prop where
  saved : (left.saved user).Equiv (right.saved user)
  others : ∀ other, other ≠ user →
    left.sessions.entries.get? other = right.sessions.entries.get? other
  profiles : R left.profiles right.profiles

variable {R : σ → σ → Prop} (indifference : ProfileStore.Indifference R) {flow : Flow}
  {c left right : Conversation σ} {user : UserId} {now now' : Time} {e : Event} {text : String}

theorem turn_of_refused (refused : (c.handle flow now e).1 = .replies [.notice text]) :
    (c.turn flow now e).failure = none ∧ (c.turn flow now e).replies = [.notice text] := by
  rw [handle_outcome, outcomeOf] at refused
  split at refused
  · next done => exact ⟨done, Outcome.replies.inj refused⟩
  · cases refused
  · cases refused

/-- A start is never refused. -/
theorem sessionFor_of_refused (refused : (c.handle flow now e).1 = .replies [.notice text]) :
    (c.sessionFor now e).1 = (c.sessions.get e.user.id now).1 := by
  have answered := (turn_of_refused refused).2
  by_cases starts : e.trigger = .start
  · rw [turn, moveOf, starts] at answered
    exact (Turn.not_quiet_of_notice answered rfl).elim
  · rw [sessionFor, if_neg starts]

theorem refusal_of_refused (refused : (c.handle flow now e).1 = .replies [.notice text]) :
    Refusal flow ((c.opened now e).vars flow e.user) (c.sessions.get e.user.id now).1 text
        (c.turn flow now e).session ∧
      (c.moveOf flow now e).answer? (c.opened now e).session = none := by
  have justified := Session.move_justified flow (c.sessionFor now e).1 e.trigger
  rw [← sessionFor_of_refused refused]
  exact Turn.refusal_of_notice (t := c.opened now e) rfl justified (turn_of_refused refused).2

/-- The session of a refused event is saved. -/
theorem get?_of_refused (refused : (c.handle flow now e).1 = .replies [.notice text]) :
    (c.handle flow now e).2.sessions.entries.get? e.user.id =
      some ((c.turn flow now e).session, now) := by
  have saves : (c.turn flow now e).failure ≠ some .noRoom := by
    rw [(turn_of_refused refused).1]
    exact (Option.some_ne_none _).symm
  rw [handle_sessions, if_neg saves, SessionStore.get?_save, if_pos rfl]

include indifference

/-- A refused event leaves a store that cannot be told from the one before. -/
theorem profiles_of_refused (refused : (c.handle flow now e).1 = .replies [.notice text]) {t : σ}
    (related : R c.profiles t) : R (c.handle flow now e).2.profiles t := by
  rw [handle_profiles]
  apply Turn.profiles_perform (P := fun s => R s t)
  · intro s related
    exact indifference.asked e.user.id related
  · rw [(refusal_of_refused refused).2]
    exact indifference.noted e.user related

theorem unmoved_of_refused (same : R c.profiles c.profiles)
    (refused : (c.handle flow now e).1 = .replies [.notice text]) :
    c.Unmoved flow now e text where
  session := by
    have vars : (c.opened now e).vars flow e.user =
        e.user.vars (ProfileStore.shown c.profiles e.user.id) flow.userName := by
      rw [← indifference.shown e.user.id (indifference.noted e.user same)]
      rfl
    rw [← vars]
    exact ⟨_, (refusal_of_refused refused).1, get?_of_refused refused⟩
  others other foreign := get?_handle_of_other flow now e foreign c
  answers user := indifference.answer user (profiles_of_refused indifference refused same)

namespace Akin

/-- To refuse something in one of two conversations leaves them akin. -/
theorem refuse (akin : Akin R e.user.id left right) (lasts : left.Lasts e.user.id now)
    (refused : (left.handle flow now e).1 = .replies [.notice text]) :
    Akin R e.user.id (left.handle flow now e).2 right where
  saved := by
    have kept : (left.handle flow now e).2.saved e.user.id = (left.turn flow now e).session := by
      rw [Conversation.saved, get?_of_refused refused]
      rfl
    have refusal := (refusal_of_refused refused).1
    rw [get_of_lasts lasts] at refusal
    rw [kept]
    exact refusal.equiv.symm.trans akin.saved
  others other foreign :=
    (get?_handle_of_other flow now e foreign left).trans (akin.others other foreign)
  profiles := profiles_of_refused indifference refused akin.profiles

/-- The same event finds the same in both, and does the same. -/
theorem handle (akin : Akin R e.user.id left right) (flow : Flow)
    (lasts : left.Lasts e.user.id now) (lasts' : right.Lasts e.user.id now') :
    SameEffect flow e now now' left right := by
  have found : (left.sessionFor now e).1.Equiv (right.sessionFor now' e).1 := by
    rw [sessionFor_of_lasts lasts, sessionFor_of_lasts lasts']
    split
    · exact .refl _
    · exact akin.saved
  -- Between the two turns is one with the session of the right and the store of the left.
  let middle : Turn σ :=
    { session := (right.sessionFor now' e).1
      profiles := (ProfileStore.record left.profiles e.user).2 }
  have sessions : (left.turn flow now e).Equiv
      (middle.perform flow e.user (right.moveOf flow now' e)) := by
    have opened : (left.opened now e).Equiv middle := ⟨found, rfl, rfl, rfl⟩
    rw [turn, moveOf, moveOf, found.move flow e.trigger]
    exact opened.perform flow e.user _
  have stores : (middle.perform flow e.user (right.moveOf flow now' e)).Alike R
      (right.turn flow now' e) := by
    have opened : middle.Alike R (right.opened now' e) :=
      ⟨rfl, rfl, rfl, indifference.record e.user akin.profiles⟩
    exact opened.perform (indifference.simulationFor e.user.id) flow _
  have failure := sessions.failure.trans stores.failure
  have replies := sessions.replies.trans stores.replies
  refine ⟨?_, ?_, ?_, ?_⟩
  · rw [handle_outcome, handle_outcome, outcomeOf, outcomeOf, failure, replies]
  · rw [saved_handle, saved_handle, failure]
    split
    · exact found
    · rw [← stores.session]
      exact sessions.session
  · intro other foreign
    rw [get?_handle_of_other flow now e foreign, get?_handle_of_other flow now' e foreign]
    exact akin.others other foreign
  · intro user
    rw [handle_profiles, handle_profiles, sessions.profiles]
    exact indifference.answer user stores.profiles

end Akin

/-- Any number of refusals leave a conversation akin to what it was. -/
theorem akin_of_refusals {c' : Conversation σ} (same : R c.profiles c.profiles)
    (refusals : c.Refusals flow user c') : Akin R user c' c := by
  induction refusals with
  | none => exact ⟨.refl _, fun _ _ => rfl, same⟩
  | more text before own lasts refused ih =>
      subst own
      exact ih.refuse indifference lasts refused

/-- Whatever happens, the store cannot be told from itself. -/
theorem related_step (happening : Happening) (same : R c.profiles c.profiles) :
    R (c.step flow happening).2.profiles (c.step flow happening).2.profiles := by
  cases happening with
  | event now e =>
      show R (c.handle flow now e).2.profiles (c.handle flow now e).2.profiles
      rw [handle_profiles]
      apply Turn.profiles_perform (P := fun s => R s s)
      · intro s same
        exact indifference.read e.user.id same
      · have recorded : R (c.opened now e).profiles (c.opened now e).profiles :=
          indifference.record e.user same
        cases (c.moveOf flow now e).answer? (c.opened now e).session with
        | none => exact recorded
        | some answer => exact indifference.write e.user.id answer.1 answer.2 recorded
  | purge now => exact same
  | reset user => exact same
  | inspect user => exact indifference.read user same

theorem steadfast_of_indifference {empty : σ} (same : R empty empty) (flow : Flow) (lifetime : Int)
    (happenings : List Happening) :
    ((begin lifetime empty).run flow happenings).Steadfast flow := by
  have reached : R ((begin lifetime empty).run flow happenings).profiles
      ((begin lifetime empty).run flow happenings).profiles := by
    refine run_induction (P := fun c => R c.profiles c.profiles) ?_ happenings _ same
    intro c happening same
    exact related_step indifference happening same
  refine ⟨?_, ?_⟩
  · intro now e text refused
    exact unmoved_of_refused indifference reached refused
  · intro c' now now' e refusals lasts lasts'
    exact (akin_of_refusals indifference reached refusals).handle indifference flow lasts lasts'

omit indifference

/-- **Refusals change nothing.** In every run that begins with nothing, an event that is answered
with a notice alone leaves the answers of everybody and the session of its user as they were, and
after any number of such events another one does what it would have done without them: over memory,
over a store that always refuses some kinds of calls, and over a fallback store, with nothing behind
it or with a store that refuses any calls. -/
theorem steadfast_run (flow : Flow) (lifetime : Int) (happenings : List Happening) :
    ((begin lifetime ({} : MemoryStore)).run flow happenings).Steadfast flow ∧
      (∀ refused,
        ((begin lifetime (Unreliable.emptyRefusing refused)).run flow happenings).Steadfast flow) ∧
      ((begin lifetime ({} : FallbackStore MemoryStore)).run flow happenings).Steadfast flow ∧
      ∀ refuses,
        ((begin lifetime (FallbackStore.overEmpty refuses)).run flow happenings).Steadfast
          flow := by
  refine ⟨?_, ?_, ?_, ?_⟩
  · exact steadfast_of_indifference MemoryStore.indifference (fun _ => rfl) flow lifetime happenings
  · intro refused
    have together (user : UserId) :
        Unreliable.Together (fun _ (s t : MemoryStore) => ∀ user, s.answers user = t.answers user)
          user (Unreliable.emptyRefusing refused) (Unreliable.emptyRefusing refused) :=
      ⟨rfl, fun _ _ _ => rfl, fun _ => rfl⟩
    exact steadfast_of_indifference (Unreliable.indifference MemoryStore.indifference) together flow
      lifetime happenings
  · have bare : FallbackStore.Bare ({} : FallbackStore MemoryStore) {} := ⟨rfl, rfl⟩
    exact steadfast_of_indifference (FallbackStore.indifference FallbackStore.bare_simulation)
      ⟨{}, {}, bare, bare, fun _ => rfl⟩ flow lifetime happenings
  · intro refuses
    have mirrors := FallbackStore.overEmpty_mirrors refuses
    exact steadfast_of_indifference (FallbackStore.indifference FallbackStore.mirrors_simulation)
      ⟨{}, {}, mirrors, mirrors, fun _ => rfl⟩ flow lifetime happenings

/-- A number is asked for, and then a selection. -/
def enquiry : Flow where
  name := "enquiry"
  start := "age"
  nodes := [
    { id := "age", text := "How old are you?", next := some "pets",
      input := some
        { variableName := "age", kind := .number, retryText := some "A number, please." } },
    { id := "pets", text := "Which pets do you have?",
      multiSelect := some
        { variableName := "pets", options := [{ text := "cat" }, { text := "dog" }],
          minSelected := 1 } }]

/-- Something that the user of the enquiry does. -/
def enquiryEvent (trigger : Trigger) : Event := { user := { id := 7 }, trigger }

/-- The number has been asked for. -/
def asked : Conversation MemoryStore :=
  (begin 25 {}).run enquiry [.event 0 (enquiryEvent .start)]

/-- The user has said something else instead. -/
def astray : Conversation MemoryStore := (asked.handle enquiry 10 (enquiryEvent (.say "old"))).2

/-- The user has tried to end the selection that is still to come. -/
def hasty : Conversation MemoryStore :=
  (astray.handle enquiry 20 (enquiryEvent (.act (.done "pets")))).2

/-- The user has said something else once more. -/
def pestered : Conversation MemoryStore :=
  (hasty.handle enquiry 30 (enquiryEvent (.say "42 years"))).2

/-- The number is taken at last as it would have been at first. By then the session would have been
over, had nothing been refused. -/
theorem pestered_sameEffect :
    asked.Refusals enquiry 7 pestered ∧ pestered.saved 7 ≠ asked.saved 7 ∧ ¬asked.Lasts 7 40 ∧
      SameEffect enquiry (enquiryEvent (.say "42")) 40 20 pestered asked ∧
      (pestered.handle enquiry 40 (enquiryEvent (.say "42"))).2.profiles.answers 7 =
        (∅ : Profile).insert "age" (.text "42") := by
  have rejected : asked.Refusals enquiry 7 astray :=
    .more "A number, please." .none rfl (by decide +kernel) (by decide +kernel)
  have insisted : asked.Refusals enquiry 7 hasty :=
    .more (Turn.tooFewNotice 1) rejected rfl (by decide +kernel) (by decide +kernel)
  have refusals : asked.Refusals enquiry 7 pestered :=
    .more "A number, please." insisted rfl (by decide +kernel) (by decide +kernel)
  have steadfast := (steadfast_run enquiry 25 [.event 0 (enquiryEvent .start)]).1
  have same := steadfast.sameEffect pestered 40 20 (enquiryEvent (.say "42")) refusals
    (by decide +kernel) (by decide +kernel)
  exact ⟨refusals, by decide +kernel, by decide +kernel, same, by decide +kernel⟩

end Conversation

end Dialogue
