/-
# A new start

To start anew drops the session of a user and keeps all answers. So after a start nothing but the
answers is left of the past: a user whose answers are the same after two different pasts cannot tell
them apart, whatever happens next.

The pasts may have taken different times, so the second conversation may go on with a delay. Its
session is then the same but for the moment of the save, and both are over after the same time. The
clock may go back here: this comparison is exact and needs no moment to have passed.
-/

import Dialogue.Proofs.Conversation.Isolation

namespace Dialogue

namespace Happening

/-- The same happening at a later time. -/
def delay (d : Int) : Happening → Happening
  | .event now e => .event (now + d) e
  | .purge now => .purge (now + d)
  | .reset user => .reset user
  | .inspect user => .inspect user

@[simp]
theorem concerns_delay (d : Int) (user : UserId) (happening : Happening) :
    (happening.delay d).concerns user = happening.concerns user := by
  cases happening with
  | _ => rfl

end Happening

/-! ## Sessions -/

/-- Two stores with the same session of a user, saved in the second one with a delay. -/
structure SessionStore.Delayed (user : UserId) (d : Int) (left right : SessionStore) : Prop where
  lifetime : left.lifetime = right.lifetime
  entry : right.entries.get? user =
    (left.entries.get? user).map fun entry => (entry.1, entry.2 + d)

namespace SessionStore.Delayed

variable {user : UserId} {d : Int} {left right : SessionStore}

/-- The session is over after the same time in both. -/
theorem unexpired (delayed : Delayed user d left right) (now : Time) :
    ((right.entries.get? user).filter fun entry => !right.isExpired entry.2 (now + d)) =
      ((left.entries.get? user).filter fun entry => !left.isExpired entry.2 now).map
        fun entry => (entry.1, entry.2 + d) := by
  have ends (saved : Time) : right.isExpired (saved + d) (now + d) = left.isExpired saved now := by
    unfold isExpired
    rw [delayed.lifetime, Int.add_sub_add_right]
  rw [delayed.entry]
  cases left.entries.get? user with
  | none => rfl
  | some entry =>
      rw [Option.map_some, Option.filter_some, Option.filter_some, ends]
      split
      · rfl
      · rfl

theorem found (delayed : Delayed user d left right) (now : Time) :
    (left.get user now).1 = (right.get user (now + d)).1 := by
  rw [get_fst, get_fst, delayed.unexpired now, Option.map_map]
  rfl

theorem get (delayed : Delayed user d left right) (now : Time) :
    Delayed user d (left.get user now).2 (right.get user (now + d)).2 where
  lifetime := by rw [lifetime_get, lifetime_get, delayed.lifetime]
  entry := by
    rw [get?_get, get?_get]
    simp only [decide_true, Bool.true_and]
    exact delayed.unexpired now

theorem purge (delayed : Delayed user d left right) (now : Time) :
    Delayed user d (left.purge now).2 (right.purge (now + d)).2 where
  lifetime := delayed.lifetime
  entry := by
    rw [get?_purge, get?_purge]
    exact delayed.unexpired now

theorem save (delayed : Delayed user d left right) (session : Session) (now : Time) :
    Delayed user d (left.save user session now) (right.save user session (now + d)) where
  lifetime := delayed.lifetime
  entry := by rw [get?_save, get?_save, if_pos rfl, if_pos rfl, Option.map_some]

/-- A reset takes away what the stores had of the user, so they need not have been related. -/
theorem ofReset (lifetime : left.lifetime = right.lifetime) (user : UserId) (d : Int) :
    Delayed user d (left.reset user) (right.reset user) where
  lifetime := lifetime
  entry := by rw [get?_reset, get?_reset, if_pos rfl, if_pos rfl, Option.map_none]

end SessionStore.Delayed

/-! ## Runs -/

namespace Conversation

variable {σ : Type} [ProfileStore σ]

/-- Two conversations that are the same for a user, the second one with a delay. -/
structure Delayed (R : UserId → σ → σ → Prop) (user : UserId) (d : Int)
    (left right : Conversation σ) : Prop where
  sessions : left.sessions.Delayed user d right.sessions
  profiles : R user left.profiles right.profiles

namespace Delayed

variable {R : UserId → σ → σ → Prop} {user : UserId} {d : Int} {left right : Conversation σ}

omit [ProfileStore σ] in
/-- An event of the user finds the same session in both. -/
theorem sessionFor {e : Event} (delayed : Delayed R e.user.id d left right) (now : Time) :
    (left.sessionFor now e).1 = (right.sessionFor (now + d) e).1 ∧
      (left.sessionFor now e).2.Delayed e.user.id d (right.sessionFor (now + d) e).2 := by
  unfold Conversation.sessionFor
  split
  · exact ⟨rfl, .ofReset delayed.sessions.lifetime e.user.id d⟩
  · exact ⟨delayed.sessions.found now, delayed.sessions.get now⟩

variable (isolation : ProfileStore.Isolation R)
include isolation

theorem handle {e : Event} {now : Time} (flow : Flow)
    (found : (left.sessionFor now e).1 = (right.sessionFor (now + d) e).1)
    (sessions : (left.sessionFor now e).2.Delayed e.user.id d (right.sessionFor (now + d) e).2)
    (same : R e.user.id left.profiles right.profiles) :
    (left.handle flow now e).1 = (right.handle flow (now + d) e).1 ∧
      Delayed R e.user.id d (left.handle flow now e).2 (right.handle flow (now + d) e).2 := by
  obtain ⟨outcome, sessions, profiles⟩ :=
    handle_alike (isolation.simulationFor e.user.id) flow found sessions
      (fun session => sessions.save session now) same
  exact ⟨outcome, sessions, profiles⟩

/-- What concerns the user shows the same in both. -/
theorem step {happening : Happening} (delayed : Delayed R user d left right)
    (own : happening.concerns user = true) (flow : Flow) :
    (left.step flow happening).1 = (right.step flow (happening.delay d)).1 ∧
      Delayed R user d (left.step flow happening).2 (right.step flow (happening.delay d)).2 := by
  cases happening with
  | event now e =>
      obtain rfl : e.user.id = user := of_decide_eq_true own
      obtain ⟨found, sessions⟩ := delayed.sessionFor now
      obtain ⟨outcome, after⟩ := handle isolation flow found sessions delayed.profiles
      exact ⟨congrArg Sight.outcome outcome, after⟩
  | purge now => cases own
  | reset who =>
      obtain rfl : who = user := of_decide_eq_true own
      exact ⟨rfl, .ofReset delayed.sessions.lifetime who d, delayed.profiles⟩
  | inspect who =>
      obtain rfl : who = user := of_decide_eq_true own
      have lines := profileLines_alike (isolation.simulationFor who) delayed.profiles
      exact ⟨congrArg Sight.lines lines, delayed.sessions, isolation.read delayed.profiles⟩

/-- What does not concern the user may show different things, but the user does not notice. -/
theorem stepOther {happening : Happening} (delayed : Delayed R user d left right)
    (foreign : happening.concerns user = false) (flow : Flow) :
    Delayed R user d (left.step flow happening).2 (right.step flow (happening.delay d)).2 := by
  have foreign' : (happening.delay d).concerns user = false := by simp [foreign]
  refine ⟨?_, ?_⟩
  · cases happening with
    | purge now => exact delayed.sessions.purge now
    | _ =>
        refine ⟨?_, ?_⟩
        · rw [lifetime_step, lifetime_step, delayed.sessions.lifetime]
        · rw [get?_step_of_other left flow foreign (fun now => nofun),
            get?_step_of_other right flow foreign' (fun now => nofun), delayed.sessions.entry]
  · -- The others may have different pasts, so each side is moved on its own.
    apply isolation.symm
    apply right.profiles_step_of_other flow isolation foreign'
    apply isolation.symm
    exact left.profiles_step_of_other flow isolation foreign delayed.profiles

theorem run (flow : Flow) (happenings : List Happening) (left right : Conversation σ)
    (delayed : Delayed R user d left right) :
    left.sights flow user happenings = right.sights flow user (happenings.map (·.delay d)) ∧
      Delayed R user d (left.run flow happenings)
        (right.run flow (happenings.map (·.delay d))) := by
  induction happenings generalizing left right with
  | nil => exact ⟨rfl, delayed⟩
  | cons happening rest ih =>
      have own' : (happening.delay d).concerns user = happening.concerns user :=
        happening.concerns_delay d user
      rw [List.map_cons]
      cases own : happening.concerns user with
      | true =>
          obtain ⟨sight, after⟩ := delayed.step isolation own flow
          obtain ⟨sights, final⟩ := ih _ _ after
          rw [sights_of_own own, sights_of_own (own'.trans own), sight, sights]
          exact ⟨rfl, final⟩
      | false =>
          obtain ⟨sights, final⟩ := ih _ _ (delayed.stepOther isolation own flow)
          rw [sights_of_other own, sights_of_other (own'.trans own), sights]
          exact ⟨rfl, final⟩

/-- A start makes conversations the same for the user if they agree about the answers. -/
theorem ofStart {user : User} {start : Happening} {now : Time}
    (starts : start = .event now ⟨user, .start⟩) (flow : Flow)
    (lifetime : left.sessions.lifetime = right.sessions.lifetime)
    (same : R user.id left.profiles right.profiles) (d : Int) :
    (left.step flow start).1 = (right.step flow (start.delay d)).1 ∧
      Delayed R user.id d (left.step flow start).2 (right.step flow (start.delay d)).2 := by
  subst starts
  have found : (left.sessionFor now ⟨user, .start⟩).1 =
      (right.sessionFor (now + d) ⟨user, .start⟩).1 := rfl
  have sessions : (left.sessionFor now ⟨user, .start⟩).2.Delayed user.id d
      (right.sessionFor (now + d) ⟨user, .start⟩).2 := .ofReset lifetime user.id d
  obtain ⟨outcome, after⟩ := handle isolation flow found sessions same
  exact ⟨congrArg Sight.outcome outcome, after⟩

end Delayed

/-- A start changes no answer of anybody. -/
theorem answers_handle_start (c : Conversation MemoryStore) (flow : Flow) (now : Time) (user : User)
    (other : UserId) :
    (c.handle flow now ⟨user, .start⟩).2.profiles.answers other = c.profiles.answers other := by
  rw [handle_profiles]
  apply Turn.profiles_perform (P := fun s : MemoryStore =>
    s.answers other = c.profiles.answers other)
  · intro s same
    exact same
  · exact c.profiles.answers_countOne user.id other

/-- Two conversations that a user cannot tell apart in the course of some happenings, which come to
the second one with a delay. -/
structure Indistinct (flow : Flow) (user : UserId) (d : Int) (happenings : List Happening)
    (left right : Conversation MemoryStore) : Prop where
  /-- Every event of the user has the same outcome. -/
  sights :
    left.sights flow user happenings = right.sights flow user (happenings.map (·.delay d))
  /-- The user has the same session at the end, for the same time. -/
  session : ∀ later,
    ((left.run flow happenings).sessions.get user later).1 =
      ((right.run flow (happenings.map (·.delay d))).sessions.get user (later + d)).1
  /-- The user has the same answers at the end. -/
  answers :
    (left.run flow happenings).profiles.answers user =
      (right.run flow (happenings.map (·.delay d))).profiles.answers user

/-- **A start leaves nothing of the past but the answers.** Two pasts after which the answers of a
user are the same cannot be told apart by this user from a start on, whatever sessions they ended
with. The start itself changes no answer. -/
theorem indistinct_of_start (flow : Flow) (lifetime : Int) (user : User)
    (first second : List Happening) (left right : Conversation MemoryStore)
    (leftRun : (begin lifetime {}).run flow first = left)
    (rightRun : (begin lifetime {}).run flow second = right)
    (same : left.profiles.answers user.id = right.profiles.answers user.id)
    (now : Time) (d : Int) (rest : List Happening) :
    Indistinct flow user.id d (.event now ⟨user, .start⟩ :: rest) left right ∧
      ∀ other, (left.handle flow now ⟨user, .start⟩).2.profiles.answers other =
        left.profiles.answers other := by
  have lifetimes : left.sessions.lifetime = right.sessions.lifetime := by
    rw [← leftRun, ← rightRun, lifetime_run, lifetime_run]
  obtain ⟨sight, after⟩ := Delayed.ofStart MemoryStore.isolation rfl flow lifetimes same d
  obtain ⟨sights, final⟩ := after.run MemoryStore.isolation flow rest
  refine ⟨⟨?_, final.sessions.found, final.profiles⟩, left.answers_handle_start flow now user⟩
  have own : (Happening.event now ⟨user, .start⟩).concerns user.id = true := decide_eq_true rfl
  have own' := (Happening.concerns_delay d user.id (.event now ⟨user, .start⟩)).trans own
  rw [List.map_cons, sights_of_own own, sights_of_own own', sight, sights]

/-- A user selects a drink and is asked for a name. -/
def brief : List Happening :=
  [.event 0 { user := { id := 7 }, trigger := .start },
   .event 1 { user := { id := 7 }, trigger := .act (.toggle "drinks" 1) },
   .event 2 { user := { id := 7 }, trigger := .act (.done "drinks") }]

/-- The user does not say a name, but starts anew, selects another drink and leaves it at that. -/
def winding : List Happening :=
  brief ++
    [.event 50 { user := { id := 7 }, trigger := .start },
     .event 51 { user := { id := 7 }, trigger := .act (.toggle "drinks" 0) }]

/-- A selection is made again and then forgotten for too long. -/
def again : List Happening :=
  [.event 11 { user := { id := 7 }, trigger := .act (.toggle "drinks" 0) },
   .event 12 { user := { id := 8 }, trigger := .start },
   .purge 50,
   .event 51 { user := { id := 7 }, trigger := .say "Ann" }]

theorem brief_indistinct_winding :
    (((begin 30 ({} : MemoryStore)).run cafe brief).sessions.get 7 10).1 ≠
        (((begin 30 ({} : MemoryStore)).run cafe winding).sessions.get 7 60).1 ∧
      Indistinct cafe 7 50 (.event 10 { user := { id := 7 }, trigger := .start } :: again)
        ((begin 30 {}).run cafe brief) ((begin 30 {}).run cafe winding) ∧
      (((begin 30 ({} : MemoryStore)).run cafe brief).handle cafe 10
          { user := { id := 7 }, trigger := .start }).2.profiles.answers 7 =
        (∅ : Profile).insert "drinks" (.ofTexts ["coffee"]) := by
  have differ : (((begin 30 ({} : MemoryStore)).run cafe brief).sessions.get 7 10).1 ≠
      (((begin 30 ({} : MemoryStore)).run cafe winding).sessions.get 7 60).1 := by decide +kernel
  have answers : ((begin 30 ({} : MemoryStore)).run cafe brief).profiles.answers 7 =
      (∅ : Profile).insert "drinks" (.ofTexts ["coffee"]) := by decide +kernel
  have same : ((begin 30 ({} : MemoryStore)).run cafe brief).profiles.answers 7 =
      ((begin 30 ({} : MemoryStore)).run cafe winding).profiles.answers 7 := by decide +kernel
  obtain ⟨indistinct, kept⟩ :=
    indistinct_of_start cafe 30 { id := 7 } brief winding _ _ rfl rfl same 10 50 again
  exact ⟨differ, indistinct, (kept 7).trans answers⟩

end Conversation

end Dialogue
