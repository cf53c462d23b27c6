/-
# Conversations over two stores

A conversation asks its store of profiles for three things: to note that a user has written, to
show the answers of a user, and to store an answer. Whether a call succeeded is never looked at;
answers that cannot be read count as none. So two stores that always show the same answers lead to
the same conversation.

This module states that as a simulation. A relation between the states of two stores that every
call keeps, and under which both show the same answers, carries over to turns, to conversations and
to whole runs. The runs then agree in everything that can be seen.
-/

import Dialogue.Proofs.Conversation.Run

namespace Dialogue

variable {σ τ : Type}

section Stores

variable [ProfileStore σ] [ProfileStore τ]

/-- The answers of a user that a store shows; none if it cannot give them. -/
def ProfileStore.shown (store : σ) (user : UserId) : Profile :=
  match (ProfileStore.read store user).1 with
  | .ok profile => profile
  | .error _ => ∅

/-- A relation between two stores that no call breaks and no user sees. -/
structure ProfileStore.Simulation (R : σ → τ → Prop) : Prop where
  shown : ∀ {s : σ} {t : τ} (user : UserId), R s t →
    ProfileStore.shown s user = ProfileStore.shown t user
  record : ∀ {s : σ} {t : τ} (user : User), R s t →
    R (ProfileStore.record s user).2 (ProfileStore.record t user).2
  read : ∀ {s : σ} {t : τ} (user : UserId), R s t →
    R (ProfileStore.read s user).2 (ProfileStore.read t user).2
  write : ∀ {s : σ} {t : τ} (user : UserId) (key : String) (value : Value), R s t →
    R (ProfileStore.write s user key value).2 (ProfileStore.write t user key value).2

/-- A relation between two stores that no call for one user breaks and that this user does not
see. -/
structure ProfileStore.SimulationFor (user : UserId) (R : σ → τ → Prop) : Prop where
  shown : ∀ {s : σ} {t : τ}, R s t → ProfileStore.shown s user = ProfileStore.shown t user
  record : ∀ {s : σ} {t : τ} (who : User), who.id = user → R s t →
    R (ProfileStore.record s who).2 (ProfileStore.record t who).2
  read : ∀ {s : σ} {t : τ}, R s t → R (ProfileStore.read s user).2 (ProfileStore.read t user).2
  write : ∀ {s : σ} {t : τ} (key : String) (value : Value), R s t →
    R (ProfileStore.write s user key value).2 (ProfileStore.write t user key value).2

theorem ProfileStore.Simulation.restrict {R : σ → τ → Prop} (simulation : Simulation R)
    (user : UserId) : SimulationFor user R where
  shown := simulation.shown user
  record who _ := simulation.record who
  read := simulation.read user
  write := simulation.write user

end Stores

/-! ## Turns -/

namespace Turn

/-- Two turns that agree but for their stores, which are related. -/
structure Alike (R : σ → τ → Prop) (left : Turn σ) (right : Turn τ) : Prop where
  session : left.session = right.session
  replies : left.replies = right.replies
  failure : left.failure = right.failure
  profiles : R left.profiles right.profiles

namespace Alike

variable {R : σ → τ → Prop} {left : Turn σ} {right : Turn τ}

theorem reply (alike : Alike R left right) (r : Reply) :
    Alike R (left.reply r) (right.reply r) where
  session := alike.session
  replies := by
    unfold Turn.reply
    rw [alike.replies]
  failure := alike.failure
  profiles := alike.profiles

theorem fail (alike : Alike R left right) (f : Failure) :
    Alike R (left.fail f) (right.fail f) where
  session := alike.session
  replies := alike.replies
  failure := rfl
  profiles := alike.profiles

theorem withSession (alike : Alike R left right) {s s' : Session} (same : s = s') :
    Alike R { left with session := s } { right with session := s' } where
  session := same
  replies := alike.replies
  failure := alike.failure
  profiles := alike.profiles

variable [ProfileStore σ] [ProfileStore τ] {user : User}
variable (simulation : ProfileStore.SimulationFor user.id R) (alike : Alike R left right)
include simulation alike

theorem vars (flow : Flow) : left.vars flow user = right.vars flow user := by
  show user.vars (ProfileStore.shown left.profiles user.id) flow.userName =
    user.vars (ProfileStore.shown right.profiles user.id) flow.userName
  rw [simulation.shown alike.profiles]

theorem afterRead : Alike R (left.afterRead user.id) (right.afterRead user.id) where
  session := alike.session
  replies := alike.replies
  failure := alike.failure
  profiles := simulation.read alike.profiles

theorem keep (answer : Option (String × Value)) :
    Alike R (left.keep user.id answer) (right.keep user.id answer) := by
  cases answer with
  | none => exact alike
  | some answer =>
      exact ⟨alike.session, alike.replies, alike.failure,
        simulation.write answer.1 answer.2 alike.profiles⟩

theorem utter (flow : Flow) (move : Move) :
    Alike R (Turn.utter flow user move left) (Turn.utter flow user move right) := by
  cases move with
  | toggle n m c =>
      unfold Turn.utter
      dsimp only
      rw [alike.session]
      split
      · exact alike.fail .noRoom
      · exact alike.reply _
  | insist n m => exact alike.reply _
  | reject p rejection => exact alike.reply _
  | remark text =>
      unfold Turn.utter
      dsimp only
      rw [vars simulation alike flow]
      exact (afterRead simulation alike).reply _
  | _ => exact alike

theorem prepare (flow : Flow) (move : Move) :
    Alike R (left.prepare flow user move) (right.prepare flow user move) := by
  apply utter simulation
  have kept := keep simulation alike (move.answer? left.session)
  rw [alike.session] at kept ⊢
  exact kept.withSession rfl

theorem takenUp (n : Node) :
    Alike R (left.takenUp user n) (right.takenUp user n) := by
  have arrived : arrive left.session n = arrive right.session n := by
    rw [alike.session]
  exact afterRead simulation (alike.withSession arrived)

theorem screen? (flow : Flow) (n : Node) :
    left.screen? flow user n = right.screen? flow user n := by
  unfold Turn.screen?
  rw [vars simulation alike flow, alike.session]

omit alike in
/-- Passages over related stores agree node by node. -/
theorem enterFrom (flow : Flow) (first : NodeId) (steps : Nat) (id : NodeId)
    (left : Turn σ) (right : Turn τ) (alike : Alike R left right) :
    Alike R (Turn.enterFrom flow user first steps id left)
      (Turn.enterFrom flow user first steps id right) := by
  induction steps generalizing id left right with
  | zero => exact alike.fail _
  | succ steps ih =>
      cases found : flow.node? id with
      | none =>
          rw [enterFrom_of_missing first steps left found,
            enterFrom_of_missing first steps right found, alike.session]
          exact alike.fail _
      | some n =>
          have taken := takenUp simulation alike n
          rw [enterFrom_of_found user first steps left found,
            enterFrom_of_found user first steps right found, screen? simulation alike flow n]
          cases right.screen? flow user n with
          | none => exact taken.fail .noRoom
          | some screen =>
              dsimp only
              cases n.autoNext with
              | none => exact taken.reply _
              | some next => exact ih next _ _ (taken.reply _)

theorem perform (flow : Flow) (move : Move) :
    Alike R (left.perform flow user move) (right.perform flow user move) := by
  have prepared := prepare simulation alike flow move
  unfold Turn.perform enter?
  cases move.target? with
  | none => exact prepared
  | some id => exact enterFrom simulation flow id maxAutoAdvance id _ _ prepared

end Alike

end Turn

/-! ## Conversations -/

namespace Conversation

/-- What can be seen of a conversation after a happening: what the happening showed, the sessions
with their times, and the answers of every user. -/
structure View where
  sight : Sight
  sessions : SessionStore
  lines : UserId → List (String × String)

/-- What can be seen of a run, happening by happening. -/
def trace [ProfileStore σ] (flow : Flow) : List Happening → Conversation σ → List View
  | [], _ => []
  | happening :: rest, c =>
      let (sight, c) := c.step flow happening
      { sight, sessions := c.sessions, lines := fun user => (c.profileLines user).1 } ::
        trace flow rest c

/-- A turn looks at nothing but the session that it finds and the answers of its user. Nor does the
time matter, once the session has been found. -/
theorem turn_alike [ProfileStore σ] [ProfileStore τ] {R : σ → τ → Prop} {left : Conversation σ}
    {right : Conversation τ} {now now' : Time} {e : Event}
    (simulation : ProfileStore.SimulationFor e.user.id R) (flow : Flow)
    (found : (left.sessionFor now e).1 = (right.sessionFor now' e).1)
    (related : R left.profiles right.profiles) :
    (left.turn flow now e).Alike R (right.turn flow now' e) := by
  have opened : (left.opened now e).Alike R (right.opened now' e) :=
    ⟨found, rfl, rfl, simulation.record e.user rfl related⟩
  rw [turn, turn, moveOf, moveOf, found]
  exact opened.perform simulation flow _

/-- Events that find the same session over related stores have the same outcome. The sessions stay
related if they are so when the session has been found, and after every save. -/
theorem handle_alike [ProfileStore σ] [ProfileStore τ] {R : σ → τ → Prop}
    {S : SessionStore → SessionStore → Prop} {left : Conversation σ} {right : Conversation τ}
    {now now' : Time} {e : Event} (simulation : ProfileStore.SimulationFor e.user.id R)
    (flow : Flow) (found : (left.sessionFor now e).1 = (right.sessionFor now' e).1)
    (sessions : S (left.sessionFor now e).2 (right.sessionFor now' e).2)
    (saved : ∀ session, S ((left.sessionFor now e).2.save e.user.id session now)
      ((right.sessionFor now' e).2.save e.user.id session now'))
    (related : R left.profiles right.profiles) :
    (left.handle flow now e).1 = (right.handle flow now' e).1 ∧
      S (left.handle flow now e).2.sessions (right.handle flow now' e).2.sessions ∧
      R (left.handle flow now e).2.profiles (right.handle flow now' e).2.profiles := by
  have turns := turn_alike simulation flow found related
  refine ⟨?_, ?_, ?_⟩
  · rw [handle_outcome, handle_outcome, outcomeOf, outcomeOf, turns.failure, turns.replies]
  · rw [handle_sessions, handle_sessions, turns.failure, turns.session]
    split
    · exact sessions
    · exact saved _
  · rw [handle_profiles, handle_profiles]
    exact turns.profiles

/-- The lines of a user are the answers that the store shows. -/
theorem profileLines_alike [ProfileStore σ] [ProfileStore τ] {R : σ → τ → Prop}
    {left : Conversation σ} {right : Conversation τ} {user : UserId}
    (simulation : ProfileStore.SimulationFor user R) (related : R left.profiles right.profiles) :
    (left.profileLines user).1 = (right.profileLines user).1 := by
  show (ProfileStore.shown left.profiles user).toList.map _ =
    (ProfileStore.shown right.profiles user).toList.map _
  rw [simulation.shown related]

/-- Two conversations with the same sessions and related stores. -/
structure Alike (R : σ → τ → Prop) (left : Conversation σ) (right : Conversation τ) : Prop where
  sessions : left.sessions = right.sessions
  profiles : R left.profiles right.profiles

namespace Alike

variable {R : σ → τ → Prop} {left : Conversation σ} {right : Conversation τ}

theorem sessionFor (alike : Alike R left right) (now : Time) (e : Event) :
    left.sessionFor now e = right.sessionFor now e := by
  unfold Conversation.sessionFor
  rw [alike.sessions]

variable [ProfileStore σ] [ProfileStore τ]
variable (simulation : ProfileStore.Simulation R) (alike : Alike R left right)
include simulation alike

theorem profileLines (user : UserId) :
    (left.profileLines user).1 = (right.profileLines user).1 :=
  profileLines_alike (simulation.restrict user) alike.profiles

/-- An event over related stores has the same outcome and leaves the conversations alike. -/
theorem handle (flow : Flow) (now : Time) (e : Event) :
    (left.handle flow now e).1 = (right.handle flow now e).1 ∧
      Alike R (left.handle flow now e).2 (right.handle flow now e).2 := by
  have found := alike.sessionFor now e
  have sessions : (left.sessionFor now e).2 = (right.sessionFor now e).2 := by rw [found]
  have saved (session : Session) :
      (left.sessionFor now e).2.save e.user.id session now =
        (right.sessionFor now e).2.save e.user.id session now := by
    rw [sessions]
  obtain ⟨outcome, sessions, profiles⟩ :=
    handle_alike (S := (· = ·)) (simulation.restrict e.user.id) flow (congrArg Prod.fst found)
      sessions saved alike.profiles
  exact ⟨outcome, sessions, profiles⟩

theorem step (flow : Flow) (happening : Happening) :
    (left.step flow happening).1 = (right.step flow happening).1 ∧
      Alike R (left.step flow happening).2 (right.step flow happening).2 := by
  cases happening with
  | event now e =>
      obtain ⟨outcome, after⟩ := handle simulation alike flow now e
      exact ⟨congrArg Sight.outcome outcome, after⟩
  | purge now =>
      have purged : left.sessions.purge now = right.sessions.purge now := by
        rw [alike.sessions]
      exact ⟨congrArg Sight.dropped (congrArg Prod.fst purged), congrArg Prod.snd purged,
        alike.profiles⟩
  | reset user =>
      have reset : left.sessions.reset user = right.sessions.reset user := by
        rw [alike.sessions]
      exact ⟨rfl, reset, alike.profiles⟩
  | inspect user =>
      exact ⟨congrArg Sight.lines (profileLines simulation alike user), alike.sessions,
        simulation.read user alike.profiles⟩

omit alike in
/-- Runs over related stores look the same. -/
theorem trace (flow : Flow) (happenings : List Happening) (left : Conversation σ)
    (right : Conversation τ) (alike : Alike R left right) :
    left.trace flow happenings = right.trace flow happenings := by
  induction happenings generalizing left right with
  | nil => rfl
  | cons happening rest ih =>
      obtain ⟨sight, after⟩ := step simulation alike flow happening
      have lines : (fun user => ((left.step flow happening).2.profileLines user).1) =
          fun user => ((right.step flow happening).2.profileLines user).1 := by
        funext user
        exact profileLines simulation after user
      unfold Conversation.trace
      dsimp only
      rw [sight, after.sessions, lines, ih _ _ after]

end Alike

end Conversation

end Dialogue
