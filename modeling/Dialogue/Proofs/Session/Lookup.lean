/-
# What a session store finds

A session ends in two places: a look-up drops the session that it finds to be over, and a purge
drops all those that are over at its moment. Both are the same filter on the entry of a user. This
module says for every operation which entry it leaves to which user, and from that what a later
look-up finds.

Dropping what is over cannot be noticed as long as the clock goes forward: what is over now is over
later, and a look-up would not have found it.
-/

import Dialogue.Session

namespace Dialogue

namespace SessionStore

variable (store : SessionStore)

theorem isExpired_iff {saved now : Time} :
    store.isExpired saved now = true ↔ store.lifetime ≤ now - saved :=
  decide_eq_true_iff

/-- What is over stays over. -/
theorem isExpired_mono {saved now later : Time} (forward : now ≤ later)
    (expired : store.isExpired saved now = true) : store.isExpired saved later = true := by
  rw [isExpired_iff] at expired ⊢
  exact Int.le_trans expired (Int.sub_le_sub_right forward saved)

/-! ## Entries -/

theorem get?_save (user other : UserId) (session : Session) (now : Time) :
    (store.save user session now).entries.get? other =
      if other = user then some (session, now) else store.entries.get? other :=
  Table.get?_insert store.entries user other (session, now)

theorem get?_reset (user other : UserId) :
    (store.reset user).entries.get? other =
      if other = user then none else store.entries.get? other :=
  Table.get?_erase store.entries user other

theorem get?_purge (moment : Time) (other : UserId) :
    (store.purge moment).2.entries.get? other =
      (store.entries.get? other).filter fun entry => !store.isExpired entry.2 moment :=
  Table.get?_filter (fun _ (entry : Session × Time) => !store.isExpired entry.2 moment) _ other

/-- A look-up drops nothing but the session of its user, and this only if it is over. -/
theorem get?_get (user other : UserId) (now : Time) :
    (store.get user now).2.entries.get? other =
      (store.entries.get? other).filter fun entry =>
        !(other = user && store.isExpired entry.2 now) := by
  by_cases same : other = user
  · subst same
    rw [get]
    cases kept : store.entries.get? other with
    | none => simp [kept]
    | some entry =>
        cases expired : store.isExpired entry.2 now with
        | true => simp [expired, Option.filter_some]
        | false => simp [expired, kept, Option.filter_some]
  · have kept : (store.get user now).2.entries.get? other = store.entries.get? other := by
      rw [get]
      split
      · split
        · exact (Table.get?_erase _ _ _).trans (if_neg same)
        · rfl
      · rfl
    rw [kept]
    cases store.entries.get? other <;> simp [same, Option.filter_some]

theorem lifetime_get (user : UserId) (now : Time) :
    (store.get user now).2.lifetime = store.lifetime := by
  rw [get]
  split
  · split
    · rfl
    · rfl
  · rfl

/-- A look-up finds the session of the entry, unless it is over. -/
theorem get_fst (user : UserId) (now : Time) :
    (store.get user now).1 =
      (((store.entries.get? user).filter fun entry =>
        !store.isExpired entry.2 now).map Prod.fst).getD .fresh := by
  rw [get]
  cases store.entries.get? user with
  | none => rfl
  | some entry =>
      obtain ⟨session, saved⟩ := entry
      cases expired : store.isExpired saved now with
      | true => simp [expired, Option.filter_some]
      | false => simp [expired, Option.filter_some]

/-- A purge counts the users who lose their session. -/
theorem purge_fst (moment : Time) :
    (store.purge moment).1 =
      (store.entries.keys.filter fun user =>
        !(store.purge moment).2.entries.contains user).length :=
  store.entries.size_sub_size_filter fun _ (entry : Session × Time) =>
    !store.isExpired entry.2 moment

/-! ## Look-ups after an operation -/

variable {store}

theorem get_congr {other : SessionStore} {user : UserId}
    (lifetime : store.lifetime = other.lifetime)
    (entry : store.entries.get? user = other.entries.get? user) (now : Time) :
    (store.get user now).1 = (other.get user now).1 := by
  rw [get_fst, get_fst, entry]
  simp only [isExpired, lifetime]

theorem get_save (user : UserId) (session : Session) (saved now : Time) :
    ((store.save user session saved).get user now).1 =
      if store.lifetime ≤ now - saved then .fresh else session := by
  rw [get_fst, get?_save, if_pos rfl]
  by_cases expired : store.lifetime ≤ now - saved
  · simp [expired, isExpired, save, Option.filter_some]
  · simp [expired, isExpired, save, Option.filter_some]

theorem get_reset (user : UserId) (now : Time) : ((store.reset user).get user now).1 = .fresh := by
  rw [get_fst, get?_reset, if_pos rfl]
  rfl

/-- Entries that were dropped because they were over are not missed later. -/
theorem get_of_dropped {after : SessionStore} {user : UserId} {now later : Time}
    (dropped : Session × Time → Bool) (lifetime : after.lifetime = store.lifetime)
    (entry : after.entries.get? user = (store.entries.get? user).filter fun e => !dropped e)
    (expired : ∀ e, dropped e = true → store.isExpired e.2 now = true) (forward : now ≤ later) :
    (after.get user later).1 = (store.get user later).1 := by
  have same : ∀ e : Session × Time,
      (!dropped e && !after.isExpired e.2 later) = !store.isExpired e.2 later := by
    intro e
    have still : after.isExpired e.2 later = store.isExpired e.2 later := by
      simp only [isExpired, lifetime]
    rw [still]
    cases gone : dropped e with
    | false => simp
    | true => simp [store.isExpired_mono forward (expired e gone)]
  rw [get_fst, get_fst, entry, Option.filter_filter]
  simp only [same]

/-- A look-up does not change what later look-ups find. -/
theorem get_get (user other : UserId) {now later : Time} (forward : now ≤ later) :
    ((store.get user now).2.get other later).1 = (store.get other later).1 := by
  apply get_of_dropped _ (store.lifetime_get user now) (store.get?_get user other now) _ forward
  intro e dropped
  simp only [Bool.and_eq_true] at dropped
  exact dropped.2

/-- The second of two look-ups finds what the first has found, or nothing that lasts. -/
theorem get_get_self (store : SessionStore) (user : UserId) (now later : Time) :
    ((store.get user now).2.get user later).1 = .fresh ∨
      ((store.get user now).2.get user later).1 = (store.get user now).1 := by
  rw [get_fst, get_fst, get?_get]
  cases store.entries.get? user with
  | none => exact .inl rfl
  | some entry =>
      simp only [Option.filter_some, decide_true, Bool.true_and]
      cases store.isExpired entry.2 now with
      | true => exact .inl rfl
      | false =>
          simp only [Bool.not_false, if_true, Option.filter_some]
          split
          · exact .inr rfl
          · exact .inl rfl

/-- A purge does not change what later look-ups find. -/
theorem get_purge (user : UserId) {now later : Time} (forward : now ≤ later) :
    ((store.purge now).2.get user later).1 = (store.get user later).1 :=
  get_of_dropped _ rfl (store.get?_purge now user) (fun _ expired => expired) forward

end SessionStore

end Dialogue
