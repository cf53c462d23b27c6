/-
# Deliveries step by step

A delivery makes calls one after another, and a failure stops it in the middle. To say what it does,
an assertion speaks about the outbox and about something that is observed from outside: each call of
the log, with its result, is shown to an observer. `Delivery.Meets` is a triple of a precondition, a
delivery and a postcondition for the result, the outbox and the state of the observer afterwards.

There is one rule for each way of putting deliveries together.
-/

import Dialogue.Delivery

namespace Dialogue.Delivery

variable {α β : Type}

/-! ## What the operations of a delivery compute -/

theorem bind_apply (d : Delivery α) (f : α → Delivery β) (o : Outbox) :
    (d >>= f) o = match d o with
      | (.ok a, o) => f a o
      | (.error e, o) => (.error e, o) := by
  simp only [bind, ExceptT.bind, ExceptT.mk, StateT.bind]
  obtain ⟨result, after⟩ := d o
  cases result with
  | ok a => rfl
  | error e => rfl

theorem tryCatch_apply (d : Delivery α) (handler : CallError → Delivery α) (o : Outbox) :
    (tryCatch d handler) o = match d o with
      | (.ok a, o) => (.ok a, o)
      | (.error e, o) => handler e o := by
  simp only [tryCatch, tryCatchThe, MonadExceptOf.tryCatch, ExceptT.tryCatch, ExceptT.mk, bind,
    StateT.bind]
  obtain ⟨result, after⟩ := d o
  cases result with
  | ok a => rfl
  | error e => rfl

theorem modify_apply (f : Outbox → Outbox) (o : Outbox) :
    (modify f : Delivery Unit) o = (.ok (), f o) := rfl

theorem discard_apply (d : Delivery α) (o : Outbox) :
    (discard d : Delivery Unit) o = ((d o).1.map fun _ => (), (d o).2) := by
  have same : (discard d : Delivery Unit) = d >>= fun _ => pure () := rfl
  rw [same, bind_apply]
  obtain ⟨result, after⟩ := d o
  cases result with
  | ok a => rfl
  | error e => rfl

/-- To attach buttons is to store their payloads and then to make a call. -/
theorem attach_apply {t : Target} {message : MessageId} {rows : InlineRows} {o : Outbox}
    {markup : InlineMarkup} {callbacks : CallbackStore}
    (packed : o.callbacks.pack t.chat message rows.markup = (markup, callbacks)) :
    attach t message rows o =
      ((o.messenger.result (.editMarkup t.chat message markup)).map fun _ => (),
        { o with
          callbacks
          messenger := o.messenger.after (.editMarkup t.chat message markup) }) := by
  have asks : (get : Delivery Outbox) o = (.ok o, o) := rfl
  have stores (o o' : Outbox) : (set o' : Delivery Unit) o = (.ok (), o') := rfl
  rw [attach, bind_apply, asks]
  dsimp only
  rw [packed]
  dsimp only
  rw [bind_apply, stores]
  dsimp only
  rw [discard_apply]
  rfl

/-! ## Triples -/

variable {ω : Type} {observe : ω → CallEntry → ω}

/-- An assertion about the outbox and the state of an observer. -/
abbrev Assertion (ω : Type) := Outbox → ω → Prop

/-- From a state that satisfies the precondition the delivery leads to one that satisfies the
postcondition, when an observer has seen the calls that it made. -/
def Meets (observe : ω → CallEntry → ω) (d : Delivery α) (pre : Assertion ω)
    (post : Except CallError α → Assertion ω) : Prop :=
  ∀ o w, pre o w → ∃ calls : List CallEntry,
    (d o).2.messenger.log = o.messenger.log ++ calls ∧
      post (d o).1 (d o).2 (calls.foldl observe w)

/-- The delivery does not fail, and the assertion holds afterwards. -/
def Succeeds (p : Assertion ω) : Except CallError α → Assertion ω
  | .ok _ => p
  | .error _ => fun _ _ => False

namespace Meets

variable {d : Delivery α} {pre : Assertion ω} {post mid : Except CallError α → Assertion ω}

theorem weaken {post' : Except CallError α → Assertion ω} (meets : Meets observe d pre post)
    (implies : ∀ result o w, post result o w → post' result o w) :
    Meets observe d pre post' := by
  intro o w holds
  obtain ⟨calls, log, after⟩ := meets o w holds
  exact ⟨calls, log, implies _ _ _ after⟩

theorem of_succeeds {p : Assertion ω} (meets : Meets observe d pre (Succeeds p))
    (implies : ∀ a o w, p o w → post (.ok a) o w) : Meets observe d pre post := by
  apply meets.weaken
  intro result o w succeeds
  cases result with
  | ok a => exact implies a o w succeeds
  | error e => cases succeeds

theorem ret {a : α} (implies : ∀ o w, pre o w → post (.ok a) o w) :
    Meets observe (pure a : Delivery α) pre post := by
  intro o w holds
  exact ⟨[], (List.append_nil _).symm, implies o w holds⟩

/-- A change of the outbox that makes no call. -/
theorem change {f : Outbox → Outbox} {post : Except CallError Unit → Assertion ω}
    (silent : ∀ o, (f o).messenger = o.messenger)
    (implies : ∀ o w, pre o w → post (.ok ()) (f o) w) :
    Meets observe (modify f : Delivery Unit) pre post := by
  intro o w holds
  rw [modify_apply]
  refine ⟨[], ?_, implies o w holds⟩
  rw [silent, List.append_nil]

/-- A call. -/
theorem call {call : Call} {post : Except CallError Receipt → Assertion ω}
    (implies : ∀ o w, pre o w →
      post (o.messenger.result call) { o with messenger := o.messenger.after call }
        (observe w ⟨call, o.messenger.result call⟩)) :
    Meets observe (request call) pre post := by
  intro o w holds
  exact ⟨[⟨call, o.messenger.result call⟩], rfl, implies o w holds⟩

/-- One delivery after another. The second is not begun if the first fails. -/
theorem seq {f : α → Delivery β} {post : Except CallError β → Assertion ω}
    (first : Meets observe d pre mid) (next : ∀ a, Meets observe (f a) (mid (.ok a)) post)
    (stops : ∀ e o w, mid (.error e) o w → post (.error e) o w) :
    Meets observe (d >>= f) pre post := by
  intro o w holds
  obtain ⟨calls, log, between⟩ := first o w holds
  rw [bind_apply]
  generalize d o = ran at log between ⊢
  obtain ⟨result, after⟩ := ran
  cases result with
  | error e => exact ⟨calls, log, stops e _ _ between⟩
  | ok a =>
      obtain ⟨more, log', done⟩ := next a after _ between
      refine ⟨calls ++ more, ?_, ?_⟩
      · rw [← List.append_assoc]
        dsimp only at log ⊢
        rw [← log]
        exact log'
      · rw [List.foldl_append]
        exact done

/-- One delivery after another that does not fail. -/
theorem after {f : α → Delivery β} {p : Assertion ω} {post : Except CallError β → Assertion ω}
    (first : Meets observe d pre (Succeeds p)) (next : ∀ a, Meets observe (f a) p post) :
    Meets observe (d >>= f) pre post := by
  apply first.seq next
  intro e o w absurd
  cases absurd

/-- Buttons are attached: the payloads are stored in any case. -/
theorem attach {t : Target} {message : MessageId} {rows : InlineRows}
    {post : Except CallError Unit → Assertion ω}
    (implies : ∀ o w, pre o w → ∀ markup callbacks,
      o.callbacks.pack t.chat message rows.markup = (markup, callbacks) →
      ∀ result, o.messenger.result (.editMarkup t.chat message markup) = result →
        post (result.map fun _ => ())
          { o with
            callbacks
            messenger := o.messenger.after (.editMarkup t.chat message markup) }
          (observe w ⟨.editMarkup t.chat message markup, result⟩)) :
    Meets observe (Delivery.attach t message rows) pre post := by
  intro o w holds
  rw [attach_apply rfl]
  exact ⟨[⟨_, _⟩], rfl, implies o w holds _ _ rfl _ rfl⟩

/-- A delivery with another in case that it fails. -/
theorem rescue {handler : CallError → Delivery α} (first : Meets observe d pre mid)
    (done : ∀ a o w, mid (.ok a) o w → post (.ok a) o w)
    (otherwise : ∀ e, Meets observe (handler e) (mid (.error e)) post) :
    Meets observe (tryCatch d handler) pre post := by
  intro o w holds
  obtain ⟨calls, log, between⟩ := first o w holds
  rw [tryCatch_apply]
  generalize d o = ran at log between ⊢
  obtain ⟨result, after⟩ := ran
  cases result with
  | ok a => exact ⟨calls, log, done a _ _ between⟩
  | error e =>
      obtain ⟨more, log', rescued⟩ := otherwise e after _ between
      refine ⟨calls ++ more, ?_, ?_⟩
      · rw [← List.append_assoc]
        dsimp only at log ⊢
        rw [← log]
        exact log'
      · rw [List.foldl_append]
        exact rescued

end Meets

end Dialogue.Delivery
