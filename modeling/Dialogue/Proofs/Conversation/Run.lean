/-
# Runs of a conversation

A conversation begins without sessions, and then things happen to it, in any order and at any
times: events of users, a purge of idle sessions, the reset of a session, a look at the answers
of a user. A run is a list of such happenings. The clock is not assumed to go forward, and a
crashed event is followed by further ones.

What one event does is stated once, as the fields of the conversation after it; what holds after
every run follows by `Conversation.run_induction` from what one happening keeps.
-/

import Dialogue.Proofs.Conversation.Move

namespace Dialogue

/-- One thing that happens to a conversation. -/
inductive Happening where
  /-- A user does something. -/
  | event (now : Time) (e : Event)
  /-- Idle sessions are dropped. -/
  | purge (now : Time)
  /-- The session of a user is dropped. -/
  | reset (user : UserId)
  /-- The answers of a user are looked at. -/
  | inspect (user : UserId)

/-- What can be seen of a happening at once. -/
inductive Sight where
  | outcome (outcome : Outcome)
  | dropped (count : Nat)
  | lines (lines : List (String × String))
  | nothing

namespace Conversation

variable {σ : Type} [ProfileStore σ]

/-- A conversation that nobody has entered yet. -/
def begin (lifetime : Int) (profiles : σ) : Conversation σ where
  sessions := { lifetime }
  profiles := profiles

/-- Let one thing happen. -/
def step (flow : Flow) (c : Conversation σ) : Happening → Sight × Conversation σ
  | .event now e => let (outcome, c) := c.handle flow now e; (.outcome outcome, c)
  | .purge now => let (count, c) := c.purge now; (.dropped count, c)
  | .reset user => (.nothing, { c with sessions := c.sessions.reset user })
  | .inspect user => let (lines, c) := c.profileLines user; (.lines lines, c)

/-- Let one thing happen after another. -/
def run (flow : Flow) (happenings : List Happening) (c : Conversation σ) : Conversation σ :=
  happenings.foldl (fun c happening => (c.step flow happening).2) c

@[simp]
theorem run_nil (flow : Flow) (c : Conversation σ) : c.run flow [] = c := rfl

@[simp]
theorem run_cons (flow : Flow) (happening : Happening) (rest : List Happening)
    (c : Conversation σ) :
    c.run flow (happening :: rest) = (c.step flow happening).2.run flow rest := rfl

theorem run_append (flow : Flow) (first second : List Happening) (c : Conversation σ) :
    c.run flow (first ++ second) = (c.run flow first).run flow second :=
  List.foldl_append

/-- What holds at first and is kept by every happening holds after every run. -/
theorem run_induction {P : Conversation σ → Prop} {flow : Flow}
    (kept : ∀ c happening, P c → P (c.step flow happening).2)
    (happenings : List Happening) (c : Conversation σ) (holds : P c) :
    P (c.run flow happenings) := by
  induction happenings generalizing c with
  | nil => exact holds
  | cons happening rest ih =>
      rw [run_cons]
      apply ih
      exact kept c happening holds

/-! ## One event -/

/-- The turn of an event before anything is done. -/
def opened (now : Time) (e : Event) (c : Conversation σ) : Turn σ where
  session := (c.sessionFor now e).1
  profiles := (ProfileStore.record c.profiles e.user).2

/-- What an event amounts to. -/
def moveOf (flow : Flow) (now : Time) (e : Event) (c : Conversation σ) : Move :=
  (c.sessionFor now e).1.move flow e.trigger

/-- The turn of an event when all is done. -/
def turn (flow : Flow) (now : Time) (e : Event) (c : Conversation σ) : Turn σ :=
  (c.opened now e).perform flow e.user (c.moveOf flow now e)

/-- What becomes known of a turn that broke off, or did not. -/
def outcomeOf (t : Turn σ) : Outcome :=
  match t.failure with
  | none => .replies t.replies
  | some (.flow error) => .failed error
  | some .noRoom => .crashed

variable (flow : Flow) (now : Time) (e : Event) (c : Conversation σ)

theorem dispatch_opened : (c.opened now e).dispatch flow e.user e.trigger = c.turn flow now e :=
  Turn.dispatch_eq_perform flow e.user e.trigger (c.opened now e)

/-- An event carries out one move; the session is saved unless a keyboard could not be laid out. -/
theorem handle_eq :
    c.handle flow now e =
      (outcomeOf (c.turn flow now e),
        { sessions :=
            if (c.turn flow now e).failure = some .noRoom then (c.sessionFor now e).2
            else (c.sessionFor now e).2.save e.user.id (c.turn flow now e).session now
          profiles := (c.turn flow now e).profiles }) := by
  rw [handle]
  dsimp only
  have opens : Turn.dispatch flow e.user e.trigger
      { session := (c.sessionFor now e).1, profiles := (ProfileStore.record c.profiles e.user).2 } =
        c.turn flow now e := dispatch_opened flow now e c
  rw [opens]
  rw [outcomeOf]
  cases broke : (c.turn flow now e).failure with
  | none => rfl
  | some failure =>
      cases failure with
      | flow error => rfl
      | noRoom => rfl

theorem handle_outcome : (c.handle flow now e).1 = outcomeOf (c.turn flow now e) := by
  rw [handle_eq]

theorem handle_sessions :
    (c.handle flow now e).2.sessions =
      if (c.turn flow now e).failure = some .noRoom then (c.sessionFor now e).2
      else (c.sessionFor now e).2.save e.user.id (c.turn flow now e).session now := by
  rw [handle_eq]

theorem handle_profiles : (c.handle flow now e).2.profiles = (c.turn flow now e).profiles := by
  rw [handle_eq]

end Conversation

/-! ## What every session satisfies -/

/-- Every saved session satisfies a predicate. -/
def SessionStore.All (P : Session → Prop) (store : SessionStore) : Prop :=
  ∀ user session saved, store.entries.get? user = some (session, saved) → P session

namespace SessionStore.All

variable {P : Session → Prop} {store : SessionStore}

theorem save {session : Session} (all : store.All P) (holds : P session) (user : UserId)
    (now : Time) : (store.save user session now).All P := by
  intro other found saved stored
  rcases Table.get?_insert_eq_some_iff.1 stored with ⟨_, same⟩ | ⟨_, kept⟩
  · cases same
    exact holds
  · exact all other found saved kept

theorem reset (all : store.All P) (user : UserId) : (store.reset user).All P := by
  intro other found saved stored
  obtain ⟨_, kept⟩ := Table.get?_erase_eq_some_iff.1 stored
  exact all other found saved kept

theorem purge (all : store.All P) (now : Time) : (store.purge now).2.All P := by
  intro user session saved stored
  have kept : (store.entries.get? user).filter (fun entry => !store.isExpired entry.2 now) =
      some (session, saved) := by
    rw [← Table.get?_filter fun _ (entry : Session × Time) => !store.isExpired entry.2 now]
    exact stored
  exact all user session saved (Option.filter_eq_some_iff.1 kept).1

/-- What is found for a user is saved or fresh, and the finding adds nothing. -/
theorem get (all : store.All P) (fresh : P .fresh) (user : UserId) (now : Time) :
    P (store.get user now).1 ∧ (store.get user now).2.All P := by
  rw [SessionStore.get]
  cases stored : store.entries.get? user with
  | none => exact ⟨fresh, all⟩
  | some entry =>
      obtain ⟨session, saved⟩ := entry
      dsimp only
      split
      · exact ⟨fresh, all.reset user⟩
      · exact ⟨all user session saved stored, all⟩

end SessionStore.All

namespace Conversation

variable {σ : Type} {P : Session → Prop} {flow : Flow} {c : Conversation σ}

theorem sessionFor_all (all : c.sessions.All P) (fresh : P .fresh) (now : Time) (e : Event) :
    P (c.sessionFor now e).1 ∧ (c.sessionFor now e).2.All P := by
  rw [sessionFor]
  split
  · exact ⟨fresh, all.reset e.user.id⟩
  · exact all.get fresh e.user.id now

variable [ProfileStore σ]

/-- What every turn keeps of its session, every happening keeps of all sessions. -/
theorem step_all (fresh : P .fresh)
    (turns : ∀ (c : Conversation σ) now e,
      P (c.sessionFor now e).1 → P (c.turn flow now e).session)
    (happening : Happening) (all : c.sessions.All P) :
    (c.step flow happening).2.sessions.All P := by
  cases happening with
  | event now e =>
      obtain ⟨found, others⟩ := sessionFor_all all fresh now e
      show (c.handle flow now e).2.sessions.All P
      rw [handle_sessions]
      split
      · exact others
      · exact others.save (turns c now e found) e.user.id now
  | purge now => exact all.purge now
  | reset user => exact all.reset user
  | inspect user => exact all

/-- What holds of a fresh session and is kept by every turn holds of all sessions of every run. -/
theorem run_all (fresh : P .fresh)
    (turns : ∀ (c : Conversation σ) now e,
      P (c.sessionFor now e).1 → P (c.turn flow now e).session)
    (lifetime : Int) (profiles : σ) (happenings : List Happening) :
    ((begin lifetime profiles).run flow happenings).sessions.All P := by
  refine run_induction (P := fun c => c.sessions.All P) ?_ happenings _ ?_
  · intro c happening all
    exact step_all fresh turns happening all
  · intro user session saved stored
    cases stored

end Conversation

end Dialogue
