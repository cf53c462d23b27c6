/-
# Users do not notice each other

A run is compared with the run of what concerns one user alone, at the same times. The others may do
anything in between, and idle sessions may be purged at any point, as long as the clock does not go
back. The user sees the same outcomes, and at every moment has the same session and the same
answers.

The two runs are not in the same state as far as the user goes: a purge may have dropped a session
that the other run still has. So the sessions are compared by what a look-up finds from now on.
-/

import Dialogue.Proofs.Conversation.Validity
import Dialogue.Proofs.Profile.Isolation
import Dialogue.Proofs.Session.Lookup

namespace Dialogue

namespace Happening

/-- Whether something happens to a user. A purge happens to nobody in particular. -/
def concerns (user : UserId) : Happening → Bool
  | .event _ e => e.user.id = user
  | .purge _ => false
  | .reset other => other = user
  | .inspect other => other = user

/-- The time of a happening, if it has one. -/
def times : Happening → List Time
  | .event now _ => [now]
  | .purge now => [now]
  | .reset _ => []
  | .inspect _ => []

/-- The clock does not go back in the course of some happenings. -/
def Forward (happenings : List Happening) : Prop := (happenings.flatMap times).Pairwise (· ≤ ·)

instance (happenings : List Happening) : Decidable (Forward happenings) :=
  inferInstanceAs (Decidable ((happenings.flatMap times).Pairwise (· ≤ ·)))

end Happening

/-! ## Sessions -/

/-- Two stores in which a user finds the same session from now on, after some moments have
passed. -/
structure SessionStore.AgreeFor (user : UserId) (past : List Time) (left right : SessionStore) :
    Prop where
  lifetime : left.lifetime = right.lifetime
  found : ∀ now, (∀ t ∈ past, t ≤ now) → (left.get user now).1 = (right.get user now).1

namespace SessionStore.AgreeFor

variable {user : UserId} {past : List Time} {left right : SessionStore}

theorem later (agree : AgreeFor user past left right) (more : List Time) :
    AgreeFor user (past ++ more) left right where
  lifetime := agree.lifetime
  found now passed := agree.found now fun t listed => passed t (List.mem_append_left _ listed)

theorem reset (agree : AgreeFor user past left right) :
    AgreeFor user past (left.reset user) (right.reset user) where
  lifetime := agree.lifetime
  found now _ := by rw [get_reset, get_reset]

theorem save (agree : AgreeFor user past left right) (session : Session) (now : Time) :
    AgreeFor user past (left.save user session now) (right.save user session now) where
  lifetime := agree.lifetime
  found later _ := by rw [get_save, get_save, agree.lifetime]

theorem get (agree : AgreeFor user past left right) (now : Time) :
    AgreeFor user (past ++ [now]) (left.get user now).2 (right.get user now).2 where
  lifetime := by rw [lifetime_get, lifetime_get, agree.lifetime]
  found later passed := by
    have forward : now ≤ later := passed now (by simp)
    rw [get_get user user forward, get_get user user forward]
    exact (agree.later [now]).found later passed

theorem purge (agree : AgreeFor user past left right) (now : Time) :
    AgreeFor user (past ++ [now]) (left.purge now).2 right where
  lifetime := agree.lifetime
  found later passed := by
    rw [get_purge user (passed now (by simp))]
    exact (agree.later [now]).found later passed

/-- What happens to the sessions of others does not matter. -/
theorem congr_left (agree : AgreeFor user past left right) {left' : SessionStore}
    (lifetime : left'.lifetime = left.lifetime)
    (entry : left'.entries.get? user = left.entries.get? user) :
    AgreeFor user past left' right where
  lifetime := lifetime.trans agree.lifetime
  found now passed := (get_congr lifetime entry now).trans (agree.found now passed)

end SessionStore.AgreeFor

/-! ## What is left alone -/

namespace Conversation

section Others

variable {σ : Type} (c : Conversation σ) {user : UserId}

theorem lifetime_sessionFor (now : Time) (e : Event) :
    (c.sessionFor now e).2.lifetime = c.sessions.lifetime := by
  rw [sessionFor]
  split
  · rfl
  · exact c.sessions.lifetime_get e.user.id now

theorem get?_sessionFor_of_other (now : Time) {e : Event} (foreign : user ≠ e.user.id) :
    (c.sessionFor now e).2.entries.get? user = c.sessions.entries.get? user := by
  rw [sessionFor]
  split
  · rw [SessionStore.get?_reset, if_neg foreign]
  · rw [SessionStore.get?_get]
    cases c.sessions.entries.get? user with
    | none => rfl
    | some entry => simp [foreign, Option.filter_some]

variable [ProfileStore σ] (flow : Flow) {happening : Happening}

theorem lifetime_step (happening : Happening) :
    (c.step flow happening).2.sessions.lifetime = c.sessions.lifetime := by
  cases happening with
  | event now e =>
      show (c.handle flow now e).2.sessions.lifetime = c.sessions.lifetime
      rw [handle_sessions, ← c.lifetime_sessionFor now e]
      split
      · rfl
      · rfl
  | _ => rfl

theorem lifetime_run (happenings : List Happening) :
    (c.run flow happenings).sessions.lifetime = c.sessions.lifetime := by
  apply run_induction (P := fun c' => c'.sessions.lifetime = c.sessions.lifetime)
  · intro c' happening same
    rw [lifetime_step, same]
  · rfl

/-- Except by a purge, nobody loses a session because of what happens to others. -/
theorem get?_step_of_other (foreign : happening.concerns user = false)
    (stays : ∀ now, happening ≠ .purge now) :
    (c.step flow happening).2.sessions.entries.get? user = c.sessions.entries.get? user := by
  cases happening with
  | event now e =>
      have other : user ≠ e.user.id := Ne.symm (of_decide_eq_false foreign)
      show (c.handle flow now e).2.sessions.entries.get? user = _
      rw [handle_sessions, ← c.get?_sessionFor_of_other now other]
      split
      · rfl
      · rw [SessionStore.get?_save, if_neg other]
  | purge now => exact absurd rfl (stays now)
  | reset who =>
      have other : user ≠ who := Ne.symm (of_decide_eq_false foreign)
      show (c.sessions.reset who).entries.get? user = _
      rw [SessionStore.get?_reset, if_neg other]
  | inspect who => rfl

/-- What happens to others touches nothing that the store keeps of a user. -/
theorem profiles_step_of_other {R : UserId → σ → σ → Prop} (isolation : ProfileStore.Isolation R)
    {t : σ} (foreign : happening.concerns user = false) (same : R user c.profiles t) :
    R user (c.step flow happening).2.profiles t := by
  cases happening with
  | event now e =>
      have other : user ≠ e.user.id := Ne.symm (of_decide_eq_false foreign)
      show R user (c.handle flow now e).2.profiles t
      rw [handle_profiles]
      apply Turn.profiles_perform (P := fun s => R user s t)
      · intro s same
        exact isolation.readOther other same
      · have recorded : R user (c.opened now e).profiles t :=
          isolation.recordOther e.user other same
        cases (c.moveOf flow now e).answer? (c.opened now e).session with
        | none => exact recorded
        | some answer => exact isolation.writeOther answer.1 answer.2 other recorded
  | purge now => exact same
  | reset who => exact same
  | inspect who => exact isolation.readOther (Ne.symm (of_decide_eq_false foreign)) same

end Others

/-! ## Runs -/

variable {σ : Type} [ProfileStore σ]

/-- What a run shows of the happenings that concern a user, one after the other. -/
def sights (flow : Flow) (user : UserId) : List Happening → Conversation σ → List Sight
  | [], _ => []
  | happening :: rest, c =>
      let (sight, c) := c.step flow happening
      if happening.concerns user then sight :: sights flow user rest c
      else sights flow user rest c

theorem sights_of_own {happening : Happening} {user : UserId}
    (own : happening.concerns user = true) (flow : Flow) (rest : List Happening)
    (c : Conversation σ) :
    c.sights flow user (happening :: rest) =
      (c.step flow happening).1 :: (c.step flow happening).2.sights flow user rest :=
  if_pos own

theorem sights_of_other {happening : Happening} {user : UserId}
    (foreign : happening.concerns user = false) (flow : Flow) (rest : List Happening)
    (c : Conversation σ) :
    c.sights flow user (happening :: rest) = (c.step flow happening).2.sights flow user rest :=
  if_neg (Bool.not_eq_true _ ▸ foreign)

/-- Two conversations that are the same for a user from now on, after some moments have passed. -/
structure SameFor (R : UserId → σ → σ → Prop) (user : UserId) (past : List Time)
    (left right : Conversation σ) : Prop where
  sessions : left.sessions.AgreeFor user past right.sessions
  profiles : R user left.profiles right.profiles

namespace SameFor

variable {R : UserId → σ → σ → Prop} {user : UserId} {past : List Time}
  {left right : Conversation σ}

omit [ProfileStore σ] in
/-- An event of the user finds the same session in both. -/
theorem sessionFor {e : Event} {now : Time} (same : SameFor R e.user.id past left right)
    (passed : ∀ t ∈ past, t ≤ now) :
    (left.sessionFor now e).1 = (right.sessionFor now e).1 ∧
      (left.sessionFor now e).2.AgreeFor e.user.id (past ++ [now]) (right.sessionFor now e).2 := by
  unfold Conversation.sessionFor
  split
  · exact ⟨rfl, same.sessions.reset.later [now]⟩
  · exact ⟨same.sessions.found now passed, same.sessions.get now⟩

variable (isolation : ProfileStore.Isolation R)
include isolation

/-- What concerns the user shows the same in both. -/
theorem step {happening : Happening} (same : SameFor R user past left right)
    (own : happening.concerns user = true)
    (passed : ∀ t ∈ past, ∀ now ∈ happening.times, t ≤ now) (flow : Flow) :
    (left.step flow happening).1 = (right.step flow happening).1 ∧
      SameFor R user (past ++ happening.times) (left.step flow happening).2
        (right.step flow happening).2 := by
  cases happening with
  | event now e =>
      obtain rfl : e.user.id = user := of_decide_eq_true own
      obtain ⟨found, sessions⟩ :=
        same.sessionFor fun t listed => passed t listed now (by simp [Happening.times])
      obtain ⟨outcome, sessions, profiles⟩ :=
        handle_alike (isolation.simulationFor e.user.id) flow found sessions
          (fun session => sessions.save session now) same.profiles
      exact ⟨congrArg Sight.outcome outcome, sessions, profiles⟩
  | purge now => cases own
  | reset who =>
      obtain rfl : who = user := of_decide_eq_true own
      exact ⟨rfl, same.sessions.reset.later [], same.profiles⟩
  | inspect who =>
      obtain rfl : who = user := of_decide_eq_true own
      have lines := profileLines_alike (isolation.simulationFor who) same.profiles
      exact ⟨congrArg Sight.lines lines, same.sessions.later [], isolation.read same.profiles⟩

/-- What does not concern the user may happen in one of them only. -/
theorem stepOther {happening : Happening} (same : SameFor R user past left right)
    (foreign : happening.concerns user = false) (flow : Flow) :
    SameFor R user (past ++ happening.times) (left.step flow happening).2 right where
  sessions := by
    cases happening with
    | purge now => exact same.sessions.purge now
    | _ =>
        apply (same.sessions.later _).congr_left (left.lifetime_step flow _)
        apply left.get?_step_of_other flow foreign
        intro now isPurge
        cases isPurge
  profiles := left.profiles_step_of_other flow isolation foreign same.profiles

/-- A run and what it has for the user alone stay the same for the user. -/
theorem run (flow : Flow) (happenings : List Happening) (past : List Time)
    (left right : Conversation σ) (same : SameFor R user past left right)
    (forward : (past ++ happenings.flatMap Happening.times).Pairwise (· ≤ ·)) :
    left.sights flow user happenings =
        right.sights flow user (happenings.filter (·.concerns user)) ∧
      SameFor R user (past ++ happenings.flatMap Happening.times) (left.run flow happenings)
        (right.run flow (happenings.filter (·.concerns user))) := by
  -- The time of every happening passes for both, also where only the left one does something.
  induction happenings generalizing past left right with
  | nil => exact ⟨rfl, same.sessions.later [], same.profiles⟩
  | cons happening rest ih =>
      rw [List.flatMap_cons, ← List.append_assoc] at forward ⊢
      cases own : happening.concerns user with
      | true =>
          have passed : ∀ t ∈ past, ∀ now ∈ happening.times, t ≤ now :=
            (List.pairwise_append.1 (List.pairwise_append.1 forward).1).2.2
          obtain ⟨sight, after⟩ := same.step isolation own passed flow
          obtain ⟨sights, final⟩ := ih _ _ _ after forward
          rw [List.filter_cons_of_pos own, sights_of_own own, sights_of_own own, sight, sights]
          exact ⟨rfl, final⟩
      | false =>
          obtain ⟨sights, final⟩ := ih _ _ _ (same.stepOther isolation own flow) forward
          rw [List.filter_cons_of_neg (by simp [own]), sights_of_other own, sights]
          exact ⟨rfl, final⟩

end SameFor

/-- A user gets the same out of a run that begins with nothing as out of the part of it that
concerns this user. -/
structure AsIfAlone (flow : Flow) (lifetime : Int) (empty : σ) (happenings : List Happening)
    (user : UserId) : Prop where
  /-- Every event of the user has the same outcome. -/
  sights :
    (begin lifetime empty).sights flow user happenings =
      (begin lifetime empty).sights flow user (happenings.filter (·.concerns user))
  /-- The user has the same session from then on. -/
  session : ∀ now, (∀ t ∈ happenings.flatMap Happening.times, t ≤ now) →
    (((begin lifetime empty).run flow happenings).sessions.get user now).1 =
      (((begin lifetime empty).run flow
        (happenings.filter (·.concerns user))).sessions.get user now).1
  /-- The user has the same answers. -/
  profile :
    (ProfileStore.read ((begin lifetime empty).run flow happenings).profiles user).1 =
      (ProfileStore.read ((begin lifetime empty).run flow
        (happenings.filter (·.concerns user))).profiles user).1

theorem asIfAlone {R : UserId → σ → σ → Prop} (isolation : ProfileStore.Isolation R) (flow : Flow)
    (lifetime : Int) {empty : σ} {happenings : List Happening} {user : UserId}
    (same : R user empty empty) (forward : Happening.Forward happenings) :
    AsIfAlone flow lifetime empty happenings user := by
  have start : SameFor R user [] (begin lifetime empty) (begin lifetime empty) :=
    ⟨⟨rfl, fun _ _ => rfl⟩, same⟩
  obtain ⟨sights, final⟩ := start.run isolation flow happenings [] _ _ forward
  exact ⟨sights, final.sessions.found, isolation.answer final.profiles⟩

end Conversation

/-- A durable store without answers that always refuses some kinds of calls. -/
def Unreliable.emptyRefusing (refused : List StoreCall) : Unreliable MemoryStore :=
  Unreliable.refusing { inner := {} } refused

theorem Unreliable.together_emptyRefusing (refused : List StoreCall) (user : UserId) :
    Together (fun user (s t : MemoryStore) => s.answers user = t.answers user) user
      (emptyRefusing refused) (emptyRefusing refused) where
  refuses := rfl
  steady _ _ _ := rfl
  inner := rfl

namespace Conversation

/-- **Users do not notice each other.** As long as the clock does not go back, every user gets out
of a run what the user would get alone: over memory, over a store that always refuses some kinds of
calls, and over a fallback store, with or without such a store behind it. -/
theorem asIfAlone_of_forward (flow : Flow) (lifetime : Int) (happenings : List Happening)
    (forward : Happening.Forward happenings) (user : UserId) :
    AsIfAlone flow lifetime ({} : MemoryStore) happenings user ∧
      (∀ refused, AsIfAlone flow lifetime (Unreliable.emptyRefusing refused) happenings user) ∧
      AsIfAlone flow lifetime ({} : FallbackStore MemoryStore) happenings user ∧
      ∀ refused, AsIfAlone flow lifetime
        ({ durable := some (Unreliable.emptyRefusing refused) } :
          FallbackStore (Unreliable MemoryStore)) happenings user := by
  have refusing := Unreliable.isolation MemoryStore.isolation
  refine ⟨?_, ?_, ?_, ?_⟩
  · exact asIfAlone MemoryStore.isolation flow lifetime rfl forward
  · intro refused
    exact asIfAlone refusing flow lifetime (Unreliable.together_emptyRefusing refused user) forward
  · exact asIfAlone (FallbackStore.isolation MemoryStore.isolation) flow lifetime
      ⟨rfl, rfl, .none⟩ forward
  · intro refused
    exact asIfAlone (FallbackStore.isolation refusing) flow lifetime
      ⟨rfl, rfl, .some (Unreliable.together_emptyRefusing refused user)⟩ forward

/-- Two users at once. The first one stays away for so long that the session is purged while the
second is still there. -/
def rush : List Happening :=
  [.event 0 { user := { id := 7 }, trigger := .start },
   .event 1 { user := { id := 8 }, trigger := .start },
   .event 2 { user := { id := 7 }, trigger := .act (.toggle "drinks" 1) },
   .event 3 { user := { id := 8 }, trigger := .act (.toggle "drinks" 0) },
   .event 20 { user := { id := 8 }, trigger := .act (.done "drinks") },
   .purge 40,
   .event 41 { user := { id := 7 }, trigger := .act (.done "drinks") },
   .event 42 { user := { id := 8 }, trigger := .say "Bob" },
   .inspect 8]

/-- The store of the rush takes no answers. -/
def closed : FallbackStore (Unreliable MemoryStore) where
  durable := some (Unreliable.emptyRefusing [.write])

theorem rush_asIfAlone :
    Happening.Forward rush ∧ AsIfAlone cafe 30 closed rush 7 ∧ AsIfAlone cafe 30 closed rush 8 ∧
      ((begin 30 closed).run cafe (rush.take 6)).sessions.entries.keys = [8] ∧
      ((begin 30 closed).run cafe rush).profiles.memory.answers 8 =
        ((∅ : Profile).insert "drinks" (.ofTexts ["tea"])).insert "name" (.text "Bob") := by
  have forward : Happening.Forward rush := by decide
  exact ⟨forward, (asIfAlone_of_forward cafe 30 rush forward 7).2.2.2 [.write],
    (asIfAlone_of_forward cafe 30 rush forward 8).2.2.2 [.write], by decide +kernel,
    by decide +kernel⟩

end Conversation

end Dialogue
