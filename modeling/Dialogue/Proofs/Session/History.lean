/-
# Sessions over a history of calls

A history is a list of calls of a session store, each with the time of the clock. This module says
what a look-up finds after a history, in terms of the calls alone: the session that its user saved
last, if no call since has ended it and its lifetime is not over, and a fresh one otherwise.

Look-ups drop sessions as well, and the history does not count them among the calls that end one.
That is where the clock matters. It goes forward, so what an earlier look-up found to be over is
over now. The moment of a purge is free; only a purge at the present is without consequence.
-/

import Dialogue.Proofs.Session.Lookup

namespace Dialogue

/-- A call of a session store, with the time at which it is made. -/
inductive SessionCall where
  | get (user : UserId) (now : Time)
  | save (user : UserId) (session : Session) (now : Time)
  | reset (user : UserId) (now : Time)
  /-- Drop the sessions that are over at a moment, be it past, present or future. -/
  | purge (moment now : Time)

namespace SessionCall

/-- The time of the clock when a call is made. -/
def time : SessionCall → Time
  | .get _ now => now
  | .save _ _ now => now
  | .reset _ now => now
  | .purge _ now => now

/-- The clock does not go back in the course of some calls. -/
def Forward (calls : List SessionCall) : Prop := (calls.map time).Pairwise (· ≤ ·)

instance (calls : List SessionCall) : Decidable (Forward calls) :=
  inferInstanceAs (Decidable ((calls.map time).Pairwise (· ≤ ·)))

/-- The session and the time that a call notes down for a user. -/
def noted? (user : UserId) : SessionCall → Option (Session × Time)
  | .save other session now => if other = user then some (session, now) else none
  | _ => none

/-- Whether a call ends the session that a user saved at a time. -/
def ends (lifetime : Int) (user : UserId) (saved : Time) : SessionCall → Bool
  | .reset other _ => other = user
  | .purge moment _ => lifetime ≤ moment - saved
  | _ => false

/-- Whether a call makes the store drop the session that a user saved at a time. A look-up does so
without ending the session, which was over already. -/
def drops (lifetime : Int) (user : UserId) (saved : Time) : SessionCall → Bool
  | .get other now => other = user && lifetime ≤ now - saved
  | call => call.ends lifetime user saved

/-- A save, and the calls after it. -/
structure Save where
  session : Session
  time : Time
  later : List SessionCall

/-- The last save of a user in a history. -/
def lastSave? (user : UserId) : List SessionCall → Option Save
  | [] => none
  | call :: later =>
      (lastSave? user later).or ((call.noted? user).map fun entry => ⟨entry.1, entry.2, later⟩)

/-- Nothing has ended the saved session of a user, and its lifetime is not over at a time. -/
def Save.Stands (lifetime : Int) (user : UserId) (now : Time) (last : Save) : Prop :=
  (∀ call ∈ last.later, call.ends lifetime user last.time = false) ∧ now - last.time < lifetime

instance (lifetime : Int) (user : UserId) (now : Time) (last : Save) :
    Decidable (last.Stands lifetime user now) :=
  inferInstanceAs (Decidable (_ ∧ _))

/-- The session that a history leaves to a user at a time: the one that was saved last, if it
stands, and a fresh one otherwise. -/
def sessionAfter (lifetime : Int) (history : List SessionCall) (user : UserId) (now : Time) :
    Session :=
  match lastSave? user history with
  | some last => if last.Stands lifetime user now then last.session else .fresh
  | none => .fresh

/-! ## The last save -/

theorem lastSave?_append (user : UserId) (first second : List SessionCall) :
    lastSave? user (first ++ second) =
      (lastSave? user second).or
        ((lastSave? user first).map fun last => { last with later := last.later ++ second }) := by
  induction first with
  | nil => simp [lastSave?]
  | cons call first ih =>
      rw [List.cons_append, lastSave?, ih, lastSave?]
      cases lastSave? user second with
      | some last => rfl
      | none =>
          cases lastSave? user first with
          | some last => rfl
          | none => simp [Function.comp_def]

theorem noted?_eq_some_iff {user : UserId} {call : SessionCall} {session : Session} {saved : Time} :
    call.noted? user = some (session, saved) ↔ call = .save user session saved := by
  cases call with
  | save other session now => simp [noted?]
  | _ => simp [noted?]

theorem lastSave?_eq_none_iff {user : UserId} {history : List SessionCall} :
    lastSave? user history = none ↔ ∀ call ∈ history, call.noted? user = none := by
  induction history with
  | nil => simp [lastSave?]
  | cons call history ih => simp [lastSave?, ih, and_comm]

/-- The last save of a user is a save of that user with no other after it. -/
theorem lastSave?_eq_some_iff {user : UserId} {history : List SessionCall} {last : Save} :
    lastSave? user history = some last ↔
      (∃ earlier, history = earlier ++ .save user last.session last.time :: last.later) ∧
        ∀ call ∈ last.later, call.noted? user = none := by
  constructor
  · intro found
    induction history with
    | nil => cases found
    | cons call history ih =>
        rw [lastSave?] at found
        cases later : lastSave? user history with
        | some save =>
            rw [later, Option.some_or] at found
            obtain ⟨⟨earlier, split⟩, unsaved⟩ := ih (later.trans found)
            exact ⟨⟨call :: earlier, congrArg (call :: ·) split⟩, unsaved⟩
        | none =>
            rw [later, Option.none_or] at found
            obtain ⟨entry, noted, rfl⟩ := Option.map_eq_some_iff.1 found
            obtain rfl := noted?_eq_some_iff.1 noted
            exact ⟨⟨[], rfl⟩, lastSave?_eq_none_iff.1 later⟩
  · rintro ⟨⟨earlier, rfl⟩, unsaved⟩
    have none : lastSave? user last.later = none := lastSave?_eq_none_iff.2 unsaved
    simp [lastSave?_append, lastSave?, none, noted?]

/-- A call of a history that goes forward to a time is not later than that time. -/
theorem Forward.time_le {history : List SessionCall} {call next : SessionCall}
    (forward : Forward (history ++ [next])) (listed : call ∈ history) : call.time ≤ next.time := by
  rw [Forward, List.map_append, List.pairwise_append] at forward
  exact forward.2.2 _ (List.mem_map_of_mem listed) _ (List.mem_map_of_mem List.mem_cons_self)

/-- A session stands exactly if no call has dropped it and it is not over: before it is over, no
look-up drops it. -/
theorem Save.stands_iff {lifetime : Int} {user : UserId} {now : Time} {last : Save}
    (past : ∀ call ∈ last.later, call.time ≤ now) :
    last.Stands lifetime user now ↔
      (∀ call ∈ last.later, call.drops lifetime user last.time = false) ∧
        now - last.time < lifetime := by
  rw [Stands, and_congr_left_iff]
  intro live
  apply forall₂_congr
  intro call listed
  cases call with
  | get other looked =>
      have young : looked - last.time < lifetime :=
        Int.lt_of_le_of_lt (Int.sub_le_sub_right (past _ listed) last.time) live
      simp [drops, ends, young]
  | _ => rfl

/-- A purge at a time that has come ends nothing that would stand. -/
theorem Save.stands_purge_iff {lifetime : Int} {user : UserId} {clock now : Time}
    (passed : clock ≤ now) (session : Session) (saved : Time) (earlier later : List SessionCall) :
    Save.Stands lifetime user now ⟨session, saved, earlier ++ .purge clock clock :: later⟩ ↔
      Save.Stands lifetime user now ⟨session, saved, earlier ++ later⟩ := by
  rw [Stands, Stands, and_congr_left_iff]
  intro live
  have young : ends lifetime user saved (.purge clock clock) = false := by
    have young : clock - saved < lifetime :=
      Int.lt_of_le_of_lt (Int.sub_le_sub_right passed saved) live
    simp [ends, young]
  simp only [List.forall_mem_append, List.forall_mem_cons, young, true_and]

end SessionCall

namespace SessionStore

open SessionCall

/-- The store after a call. -/
def serve (store : SessionStore) : SessionCall → SessionStore
  | .get user now => (store.get user now).2
  | .save user session now => store.save user session now
  | .reset user _ => store.reset user
  | .purge moment _ => (store.purge moment).2

/-- The store after a history. -/
def after (lifetime : Int) (history : List SessionCall) : SessionStore :=
  history.foldl serve { lifetime }

theorem lifetime_serve (store : SessionStore) (call : SessionCall) :
    (store.serve call).lifetime = store.lifetime := by
  cases call with
  | get user now => exact store.lifetime_get user now
  | _ => rfl

/-- A call notes an entry down for a user, or leaves the one that there is unless it drops it. -/
theorem get?_serve (store : SessionStore) (call : SessionCall) (user : UserId) :
    (store.serve call).entries.get? user =
      (call.noted? user).or
        ((store.entries.get? user).filter fun e => !call.drops store.lifetime user e.2) := by
  cases call with
  | get other now =>
      rw [serve, get?_get]
      simp [noted?, drops, isExpired, eq_comm]
  | save other session now =>
      rw [serve, get?_save]
      by_cases same : user = other
      · simp [noted?, same]
      · cases store.entries.get? user <;>
          simp [noted?, drops, ends, same, Ne.symm same, Option.filter_some]
  | reset other now =>
      rw [serve, get?_reset]
      by_cases same : user = other
      · cases store.entries.get? user <;> simp [noted?, drops, ends, same, Option.filter_some]
      · cases store.entries.get? user <;>
          simp [noted?, drops, ends, same, Ne.symm same, Option.filter_some]
  | purge moment now =>
      rw [serve, get?_purge]
      simp [noted?, drops, ends, isExpired]

/-- An entry as far as it lasts through some calls. -/
def lasting (lifetime : Int) (user : UserId) (calls : List SessionCall)
    (entry : Option (Session × Time)) : Option (Session × Time) :=
  entry.filter fun e => calls.all fun call => !call.drops lifetime user e.2

/-- After some calls a user has the entry of the last save among them, or of the store that was
there before, as far as it lasts. -/
theorem get?_foldl_serve (calls : List SessionCall) (store : SessionStore) (user : UserId) :
    (calls.foldl serve store).entries.get? user =
      (lastSave? user calls).elim (lasting store.lifetime user calls (store.entries.get? user))
        fun last => lasting store.lifetime user last.later (some (last.session, last.time)) := by
  induction calls generalizing store with
  | nil =>
      show store.entries.get? user = lasting store.lifetime user [] (store.entries.get? user)
      cases store.entries.get? user <;> rfl
  | cons call calls ih =>
      rw [List.foldl_cons, ih, lifetime_serve, get?_serve, lastSave?]
      cases lastSave? user calls with
      | some last => rfl
      | none =>
          cases call.noted? user with
          | some entry => rfl
          | none => simp [lasting, Option.filter_filter]

theorem get?_after (lifetime : Int) (history : List SessionCall) (user : UserId) :
    (after lifetime history).entries.get? user =
      (lastSave? user history).bind fun last =>
        lasting lifetime user last.later (some (last.session, last.time)) := by
  rw [after, get?_foldl_serve]
  cases lastSave? user history with
  | none => rfl
  | some last => rfl

theorem lifetime_after (lifetime : Int) (history : List SessionCall) :
    (after lifetime history).lifetime = lifetime := by
  rw [after]
  have kept (store : SessionStore) : (history.foldl serve store).lifetime = store.lifetime := by
    induction history generalizing store with
    | nil => rfl
    | cons call history ih => rw [List.foldl_cons, ih, lifetime_serve]
  exact kept _

/-! ## Look-ups after a history -/

theorem get_after {lifetime : Int} {history : List SessionCall} {user : UserId} {now : Time}
    (past : ∀ call ∈ history, call.time ≤ now) :
    ((after lifetime history).get user now).1 = sessionAfter lifetime history user now := by
  rw [get_fst, get?_after, sessionAfter]
  cases found : lastSave? user history with
  | none => rfl
  | some last =>
      obtain ⟨⟨earlier, split⟩, _⟩ := lastSave?_eq_some_iff.1 found
      have stands : last.Stands lifetime user now ↔ _ := Save.stands_iff fun call listed =>
        past call (by simp [split, listed])
      have kept : ((last.later.all fun call => !call.drops lifetime user last.time) &&
          !(after lifetime history).isExpired last.time now) = true ↔
            last.Stands lifetime user now := by
        simp [stands, isExpired, lifetime_after]
      rw [Option.bind_some, lasting, Option.filter_filter, Option.filter_some]
      simp only [kept]
      split
      · rfl
      · rfl

/-- A purge at a time that has come changes no later look-up. -/
theorem sessionAfter_purge {lifetime : Int} {clock now : Time} (passed : clock ≤ now)
    (earlier later : List SessionCall) (user : UserId) :
    sessionAfter lifetime (earlier ++ .purge clock clock :: later) user now =
      sessionAfter lifetime (earlier ++ later) user now := by
  rw [sessionAfter, sessionAfter, lastSave?_append, lastSave?_append, lastSave?]
  cases lastSave? user later with
  | some last => rfl
  | none =>
      cases lastSave? user earlier with
      | none => rfl
      | some last =>
          simp only [noted?, Option.map_none, Option.or_none, Option.none_or, Option.map_some,
            Save.stands_purge_iff passed]

/-- What is in the store for a user was saved last by that user. -/
theorem exists_lastSave?_of_get?_after {lifetime : Int} {history : List SessionCall} {user : UserId}
    {session : Session} {saved : Time}
    (stored : (after lifetime history).entries.get? user = some (session, saved)) :
    ∃ later, lastSave? user history = some ⟨session, saved, later⟩ := by
  rw [get?_after] at stored
  obtain ⟨last, found, kept⟩ := Option.bind_eq_some_iff.1 stored
  obtain ⟨same, _⟩ := Option.filter_eq_some_iff.1 kept
  cases same
  exact ⟨last.later, found⟩

/-- **A session store keeps what its history says.** After any calls with a clock that does not go
back, a look-up finds the session that its user saved last, provided that no later reset of the user
and no later purge has ended it and that its lifetime is not over, and a fresh one otherwise. A
purge counts the sessions that it removes; these are the ones that are over at its moment, by the
time of the last save. A purge at the present changes no later look-up. -/
theorem get_of_history (lifetime : Int) (history : List SessionCall) (user : UserId) (now : Time)
    (forward : Forward (history ++ [.get user now])) (store : SessionStore)
    (reached : after lifetime history = store) :
    (store.get user now).1 = sessionAfter lifetime history user now ∧
      (∀ moment,
        (store.purge moment).1 =
            (store.entries.keys.filter fun other =>
              !(store.purge moment).2.entries.contains other).length ∧
          ∀ other session saved, store.entries.get? other = some (session, saved) →
            (∃ later, lastSave? other history = some ⟨session, saved, later⟩) ∧
              (store.purge moment).2.entries.get? other =
                if moment - saved < lifetime then some (session, saved) else none) ∧
      ∀ earlier later clock, history = earlier ++ .purge clock clock :: later →
        ((after lifetime (earlier ++ later)).get user now).1 = (store.get user now).1 := by
  subst reached
  have past : ∀ call ∈ history, call.time ≤ now := fun call listed => forward.time_le listed
  refine ⟨get_after past, ?_, ?_⟩
  · intro moment
    refine ⟨purge_fst _ moment, ?_⟩
    intro other session saved stored
    refine ⟨exists_lastSave?_of_get?_after stored, ?_⟩
    rw [get?_purge, stored, Option.filter_some, isExpired, lifetime_after]
    by_cases live : moment - saved < lifetime
    · simp [live]
    · simp [live, Int.not_lt.1 live]
  · intro earlier later clock split
    have without : ∀ call ∈ earlier ++ later, call.time ≤ now := by
      intro call listed
      apply past
      rw [split]
      rcases List.mem_append.1 listed with before | since
      · exact List.mem_append_left _ before
      · exact List.mem_append_right _ (List.mem_cons_of_mem _ since)
    have passed : clock ≤ now := past (.purge clock clock) (by simp [split])
    rw [get_after without, get_after past, split, sessionAfter_purge passed]

/-- Three users save sessions. A purge looks ahead, a look-up finds nothing any more, a session is
reset, and the last purge is at the present. -/
def evening : List SessionCall :=
  [.save 1 { current := some "ask" } 0, .save 2 { current := some "bye" } 10, .purge 35 20,
   .get 1 21, .save 3 { current := some "ask" } 22, .reset 3 23, .purge 24 24]

theorem evening_get :
    Forward (evening ++ [.get 2 39]) ∧
      ((after 30 evening).get 2 39).1 = { current := some "bye" } ∧
      ((after 30 evening).purge 40).1 = 1 ∧
      ((after 30 (evening.take 6)).get 2 39).1 = { current := some "bye" } := by
  have forward : Forward (evening ++ [.get 2 39]) := by decide
  obtain ⟨found, purged, without⟩ := get_of_history 30 evening 2 39 forward _ rfl
  have kept : sessionAfter 30 evening 2 39 = { current := some "bye" } := by decide
  refine ⟨forward, found.trans kept, (purged 40).1.trans (by decide), ?_⟩
  exact (without (evening.take 6) [] 24 rfl).trans (found.trans kept)

end SessionStore

end Dialogue
