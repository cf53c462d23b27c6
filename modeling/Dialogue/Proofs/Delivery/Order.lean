/-
# The order of delivery

A delivery shows screens and notices as messages, one call after another, and any of these calls may
fail. This module says that nothing is shown twice, out of turn or after a gap: the messages that
have been shown are those of the first replies, and of all replies if the delivery did not fail. It
fails only with a call that failed, and makes no call after that one.

The one delicate place is the pressed message. Its text may be replaced by the first screen, and if
that fails, the screen is sent as a message of its own. The text counts as shown even if the buttons
cannot be attached to it afterwards, so there is no second attempt then.

The calls of a delivery are described once, by the grammar `Delivery.Course`; the statements about
their order are then about lists of calls and have no delivery in them.
-/

import Dialogue.Proofs.Delivery.Triple

namespace Dialogue

/-! ## What calls show -/

theorem filterMap_cons_toList {α β : Type} (f : α → Option β) (a : α) (l : List α) :
    (a :: l).filterMap f = (f a).toList ++ l.filterMap f := by
  rw [List.filterMap_cons]
  cases f a with
  | none => rfl
  | some b => rfl

/-- What a message says, and the keyboard that comes with it. -/
structure MessageContent where
  chat : ChatId
  text : String
  mode : Option ParseMode := none
  photo : Option Photo := none
  markup : Option ReplyMarkup := none
deriving DecidableEq

/-- The message that a call is to show: a new one, or another text in the place of an old one. -/
def Call.content? : Call → Option MessageContent
  | .sendMessage chat text mode markup => some { chat, text, mode, markup }
  | .sendPhoto chat photo text mode markup => some { chat, text, mode, photo := some photo, markup }
  | .editText chat _ text mode => some { chat, text, mode }
  | .editMarkup .. => none
  | .answerCallback _ => none
  | .setCommands _ => none

/-- The message that a reply is to be shown as. A new keyboard is no message. -/
def Reply.content? (t : Target) : Reply → Option MessageContent
  | .screen s => some {
      chat := t.chat
      text := s.text
      mode := s.format.parseMode
      photo := s.photo.map (.of t.isFile)
      markup := s.keyboard.replyMarkup }
  | .notice text => some { chat := t.chat, text }
  | .keyboard _ _ => none

/-- Whether a call replaces the text of a message. -/
def Call.isEdit : Call → Bool
  | .editText .. => true
  | _ => false

namespace CallEntry

/-- The messages that calls were to show, in order. -/
def tried (calls : List CallEntry) : List MessageContent := calls.filterMap (·.call.content?)

/-- The messages that calls have shown, in order. A call that failed has shown nothing. -/
def shown (calls : List CallEntry) : List MessageContent :=
  tried (calls.filter (·.result.isOk))

@[simp]
theorem tried_append (first second : List CallEntry) :
    tried (first ++ second) = tried first ++ tried second :=
  List.filterMap_append

@[simp]
theorem shown_append (first second : List CallEntry) :
    shown (first ++ second) = shown first ++ shown second := by
  rw [shown, List.filter_append, tried_append]
  rfl

/-- Calls that are to show nothing. -/
def Silent (calls : List CallEntry) : Prop := ∀ e ∈ calls, e.call.content? = none

theorem Silent.append {first second : List CallEntry} (silent : Silent first)
    (silent' : Silent second) : Silent (first ++ second) := by
  intro e listed
  rcases List.mem_append.1 listed with early | late
  · exact silent e early
  · exact silent' e late

theorem Silent.tried_eq {calls : List CallEntry} (silent : Silent calls) : tried calls = [] :=
  List.filterMap_eq_nil_iff.2 silent

theorem Silent.shown_eq {calls : List CallEntry} (silent : Silent calls) : shown calls = [] := by
  apply List.filterMap_eq_nil_iff.2
  intro e listed
  exact silent e (List.mem_filter.1 listed).1

/-- An edit is to show something. -/
theorem Silent.not_isEdit {calls : List CallEntry} (silent : Silent calls) :
    ∀ e ∈ calls, e.call.isEdit = false := by
  intro e listed
  have nothing := silent e listed
  cases called : e.call with
  | editText chat message text mode =>
      rw [called] at nothing
      cases nothing
  | _ => rfl

theorem silent_nil : Silent [] := by
  intro e listed
  cases listed

theorem silent_editMarkup (chat : ChatId) (message : MessageId) (markup : InlineMarkup)
    (result : Except CallError Receipt) : Silent [⟨.editMarkup chat message markup, result⟩] := by
  intro e listed
  rw [List.mem_singleton.1 listed]
  rfl

end CallEntry

open CallEntry (Silent tried shown)

namespace Delivery

variable {α β : Type}

/-! ## Calls of a delivery -/

/-- An observer that remembers all calls. -/
def collect (seen : List CallEntry) (e : CallEntry) : List CallEntry := seen ++ [e]

theorem foldl_collect (seen calls : List CallEntry) : calls.foldl collect seen = seen ++ calls := by
  induction calls generalizing seen with
  | nil => rw [List.foldl_nil, List.append_nil]
  | cons e calls ih => rw [List.foldl_cons, ih, collect, List.append_assoc, List.singleton_append]

/-- A delivery fails only with its last call, and with the error of that call. -/
def FailsLast (result : Except CallError Unit) (calls : List CallEntry) : Prop :=
  ∀ e, result = .error e → ∃ earlier call, calls = earlier ++ [⟨call, .error e⟩]

namespace FailsLast

theorem of_ok (calls : List CallEntry) : FailsLast (.ok ()) calls := by
  intro e failed
  cases failed

theorem of_error (call : Call) (e : CallError) : FailsLast (.error e) [⟨call, .error e⟩] := by
  intro _ failed
  cases failed
  exact ⟨[], call, rfl⟩

/-- What was called before does not matter. -/
theorem after {result : Except CallError Unit} {more : List CallEntry}
    (fails : FailsLast result more) (calls : List CallEntry) :
    FailsLast result (calls ++ more) := by
  intro e failed
  obtain ⟨earlier, call, rfl⟩ := fails e failed
  exact ⟨calls ++ earlier, call, (List.append_assoc _ _ _).symm⟩

end FailsLast

/-- The calls that a delivery makes, and the way it ends, satisfy a relation. -/
def Logs (d : Delivery α) (P : Except CallError α → List CallEntry → Prop) : Prop :=
  ∀ seen, Meets collect d (fun _ w => w = seen)
    fun result _ w => ∃ calls, w = seen ++ calls ∧ P result calls

namespace Logs

variable {d : Delivery α} {P : Except CallError α → List CallEntry → Prop}

theorem elim (logs : Logs d P) (o : Outbox) :
    ∃ calls, (d o).2.messenger.log = o.messenger.log ++ calls ∧ P (d o).1 calls := by
  obtain ⟨calls, log, collected, same, holds⟩ := logs [] o [] rfl
  rw [foldl_collect, List.nil_append, List.nil_append] at same
  exact ⟨calls, log, same ▸ holds⟩

theorem weaken {Q : Except CallError α → List CallEntry → Prop} (logs : Logs d P)
    (implies : ∀ result calls, P result calls → Q result calls) : Logs d Q := by
  intro seen
  apply (logs seen).weaken
  rintro result o w ⟨calls, same, holds⟩
  exact ⟨calls, same, implies result calls holds⟩

theorem ret (a : α) : Logs (pure a : Delivery α) fun result calls => result = .ok a ∧ calls = [] :=
  fun seen => Meets.ret fun _ w same => ⟨[], by rw [same, List.append_nil], rfl, rfl⟩

theorem change (f : Outbox → Outbox) (silent : ∀ o, (f o).messenger = o.messenger) :
    Logs (modify f : Delivery Unit) fun result calls => result = .ok () ∧ calls = [] :=
  fun seen => Meets.change silent fun _ w same => ⟨[], by rw [same, List.append_nil], rfl, rfl⟩

theorem call (call : Call) :
    Logs (request call) fun result calls => calls = [⟨call, result⟩] := by
  intro seen
  apply Meets.call
  rintro o w rfl
  exact ⟨_, rfl, rfl⟩

theorem attach (t : Target) (message : MessageId) (rows : InlineRows) :
    Logs (Delivery.attach t message rows)
      fun result calls => Silent calls ∧ FailsLast result calls := by
  intro seen
  apply Meets.attach
  rintro o w rfl markup callbacks _ result _
  refine ⟨_, rfl, CallEntry.silent_editMarkup _ _ _ _, ?_⟩
  cases result with
  | ok receipt => exact .of_ok _
  | error e => exact .of_error _ e

/-- A delivery that is begun after some calls adds its own. -/
theorem resume {Q : Except CallError α → List CallEntry → Prop} {seen calls : List CallEntry}
    (logs : Logs d P) (joins : ∀ result more, P result more → Q result (calls ++ more)) :
    Meets collect d (fun _ w => w = seen ++ calls)
      fun result _ w => ∃ calls, w = seen ++ calls ∧ Q result calls := by
  apply (logs (seen ++ calls)).weaken
  rintro result o w ⟨more, same, holds⟩
  exact ⟨calls ++ more, by rw [same, List.append_assoc], joins result more holds⟩

/-- One delivery after another makes the calls of both, unless the first fails. -/
theorem seq {f : α → Delivery β} {Q : α → Except CallError β → List CallEntry → Prop}
    {R : Except CallError β → List CallEntry → Prop} (first : Logs d P)
    (next : ∀ a, Logs (f a) (Q a))
    (joins : ∀ a result calls more, P (.ok a) calls → Q a result more → R result (calls ++ more))
    (stops : ∀ e calls, P (.error e) calls → R (.error e) calls) : Logs (d >>= f) R := by
  intro seen
  apply (first seen).seq
  · rintro a o w ⟨calls, same, holds⟩
    exact (next a).resume (fun result more => joins a result calls more holds) o w same
  · rintro e o w ⟨calls, same, holds⟩
    exact ⟨calls, same, stops e calls holds⟩

/-- A delivery with another in case that it fails makes the calls of both in that case. -/
theorem rescue {handler : CallError → Delivery α} {Q : Except CallError α → List CallEntry → Prop}
    {R : Except CallError α → List CallEntry → Prop} (first : Logs d P)
    (otherwise : ∀ e, Logs (handler e) Q) (done : ∀ a calls, P (.ok a) calls → R (.ok a) calls)
    (joins : ∀ e result calls more, P (.error e) calls → Q result more → R result (calls ++ more)) :
    Logs (tryCatch d handler) R := by
  intro seen
  apply (first seen).rescue
  · rintro a o w ⟨calls, same, holds⟩
    exact ⟨calls, same, done a calls holds⟩
  · rintro e o w ⟨calls, same, holds⟩
    exact (otherwise e).resume (fun result more => joins e result calls more holds) o w same

end Logs

/-! ## The calls for one reply -/

/-- A message is tried once, before anything else. If the call fails, so does the delivery. -/
def Tries (call : Call) (result : Except CallError Unit) (calls : List CallEntry) : Prop :=
  ∃ answer more, calls = ⟨call, answer⟩ :: more ∧ Silent more ∧
    (answer.isOk = false → result.isOk = false) ∧ FailsLast result calls

/-- The calls for one reply. `editable` is the message whose text may be replaced. -/
inductive Attends (t : Target) (editable : Option MessageId) :
    Reply → Except CallError Unit → List CallEntry → Prop
  | notice {text : String} {result : Except CallError Unit} {calls : List CallEntry}
      (tries : Tries (.sendMessage t.chat text none none) result calls) :
      Attends t editable (.notice text) result calls
  | /-- The screen is sent at once. -/
    sent {s : Screen} {result : Except CallError Unit} {calls : List CallEntry}
      (tries : Tries (sendCall t s) result calls) : Attends t editable (.screen s) result calls
  | /-- The screen takes the place of the message. Whether its buttons could be attached does not
    matter. -/
    edited {s : Screen} {message : MessageId} {receipt : Receipt} {more : List CallEntry}
      (editing : editable = some message) (fits : isEditable s) (silent : Silent more) :
      Attends t editable (.screen s) (.ok ())
        (⟨.editText t.chat message s.text s.format.parseMode, .ok receipt⟩ :: more)
  | /-- The screen could not take the place of the message. -/
    resent {s : Screen} {message : MessageId} {e : CallError} {result : Except CallError Unit}
      {calls : List CallEntry} (editing : editable = some message) (fits : isEditable s)
      (tries : Tries (sendCall t s) result calls) :
      Attends t editable (.screen s) result
        (⟨.editText t.chat message s.text s.format.parseMode, .error e⟩ :: calls)
  | keyboard {node : NodeId} {rows : InlineRows} {result : Except CallError Unit}
      {calls : List CallEntry} (silent : Silent calls) (fails : FailsLast result calls) :
      Attends t editable (.keyboard node rows) result calls

theorem record_logs (r : MessageRecord) (receipt : Receipt) :
    Logs (record r receipt) fun result calls => result = .ok () ∧ calls = [] :=
  Logs.change _ fun _ => rfl

theorem notice_logs (t : Target) (text : String) :
    Logs (notice t text) (Tries (.sendMessage t.chat text none none)) := by
  apply (Logs.call _).seq fun receipt => record_logs _ receipt
  · rintro receipt result calls more rfl ⟨rfl, rfl⟩
    exact ⟨.ok receipt, [], rfl, CallEntry.silent_nil, nofun, .of_ok _⟩
  · rintro e calls rfl
    exact ⟨.error e, [], rfl, CallEntry.silent_nil, fun _ => rfl, .of_error _ e⟩

theorem sendScreen_logs (t : Target) (s : Screen) :
    Logs (sendScreen t s) (Tries (sendCall t s)) := by
  have recorded (r : MessageRecord) (receipt : Receipt) :
      Logs (record r receipt) fun result calls => Silent calls ∧ FailsLast result calls := by
    apply (record_logs r receipt).weaken
    rintro result calls ⟨rfl, rfl⟩
    exact ⟨CallEntry.silent_nil, .of_ok _⟩
  apply Logs.seq (Q := fun _ result calls => Silent calls ∧ FailsLast result calls) (Logs.call _)
  · intro receipt
    cases s.keyboard with
    | inline rows =>
        apply (Logs.attach t receipt.message rows).seq fun _ => recorded _ receipt
        · rintro _ result calls more ⟨silent, _⟩ ⟨silent', fails⟩
          exact ⟨silent.append silent', fails.after calls⟩
        · exact fun _ _ => id
    | none => exact recorded _ receipt
    | reply rows oneTime resize => exact recorded _ receipt
    | remove => exact recorded _ receipt
  · rintro receipt result calls more rfl ⟨silent, fails⟩
    exact ⟨.ok receipt, more, rfl, silent, nofun, fails.after [_]⟩
  · rintro e calls rfl
    exact ⟨.error e, [], rfl, CallEntry.silent_nil, fun _ => rfl, .of_error _ e⟩

/-- Editing fails only with its first call, which is then its last. -/
theorem editScreen_logs (t : Target) (s : Screen) (message : MessageId) :
    Logs (editScreen t s message) fun result calls =>
      ∃ answer more, calls = ⟨.editText t.chat message s.text s.format.parseMode, answer⟩ :: more ∧
        Silent more ∧ result.isOk = answer.isOk ∧ (answer.isOk = false → more = []) := by
  have recorded (r : MessageRecord) (receipt : Receipt) :
      Logs (record r receipt) fun result calls => result = .ok () ∧ Silent calls := by
    apply (record_logs r receipt).weaken
    rintro result calls ⟨done, rfl⟩
    exact ⟨done, CallEntry.silent_nil⟩
  have cleared (r : MessageRecord) (receipt : Receipt) :
      Logs ((modify fun o => { o with callbacks := o.callbacks.clear t.chat message }) >>=
          fun _ : Unit => record r receipt)
        fun result calls => result = .ok () ∧ Silent calls := by
    refine Logs.seq (Logs.change _ fun _ => rfl) (fun _ => recorded r receipt) ?_ ?_
    · rintro _ result calls more ⟨_, rfl⟩ done
      exact done
    · rintro e calls ⟨absurd, _⟩
      cases absurd
  apply Logs.seq (Q := fun _ result calls => result = .ok () ∧ Silent calls) (Logs.call _)
  · intro receipt
    cases s.keyboard with
    | inline rows =>
        have attached : Logs (tryCatch (attach t message rows) fun _ => pure ())
            fun result calls => result = .ok () ∧ Silent calls := by
          apply (Logs.attach t message rows).rescue fun _ => Logs.ret ()
          · rintro _ calls ⟨silent, _⟩
            exact ⟨rfl, silent⟩
          · rintro e result calls more ⟨silent, _⟩ ⟨rfl, rfl⟩
            exact ⟨rfl, silent.append CallEntry.silent_nil⟩
        apply attached.seq fun _ => recorded _ receipt
        · rintro _ result calls more ⟨_, silent⟩ ⟨done, silent'⟩
          exact ⟨done, silent.append silent'⟩
        · rintro e calls ⟨absurd, _⟩
          cases absurd
    | none => exact cleared _ receipt
    | reply rows oneTime resize => exact cleared _ receipt
    | remove => exact cleared _ receipt
  · rintro receipt result calls more rfl ⟨rfl, silent⟩
    exact ⟨.ok receipt, more, rfl, silent, rfl, nofun⟩
  · rintro e calls rfl
    exact ⟨.error e, [], rfl, CallEntry.silent_nil, rfl, fun _ => rfl⟩

theorem showScreen_logs (t : Target) (s : Screen) (editable : Option MessageId) :
    Logs (showScreen t s editable) (Attends t editable (.screen s)) := by
  rw [showScreen]
  cases chosen : editable.filter fun _ => isEditable s with
  | none => exact (sendScreen_logs t s).weaken fun _ _ => .sent
  | some message =>
      obtain ⟨editing, fits⟩ := Option.filter_eq_some_iff.1 chosen
      apply (editScreen_logs t s message).rescue fun _ => sendScreen_logs t s
      · rintro _ calls ⟨answer, more, rfl, silent, done, _⟩
        cases answer with
        | ok receipt => exact .edited editing fits silent
        | error e => cases done
      · rintro e result calls more ⟨answer, rest, rfl, _, failed, last⟩ tries
        cases answer with
        | ok receipt => cases failed
        | error e =>
            rw [last rfl]
            exact .resent editing fits tries

/-! ## The calls for all replies -/

/-- The message whose text may be replaced after a reply. -/
def editableAfter (editable : Option MessageId) : Reply → Option MessageId
  | .screen _ => none
  | .notice _ => editable
  | .keyboard _ _ => editable

/-- The calls for a list of replies: those for the first, and so on, up to the first failure. -/
inductive Course (t : Target) :
    Option MessageId → List Reply → Except CallError Unit → List CallEntry → Prop
  | done {editable : Option MessageId} : Course t editable [] (.ok ()) []
  | stop {editable : Option MessageId} {reply : Reply} {rest : List Reply} {e : CallError}
      {calls : List CallEntry} (serves : Attends t editable reply (.error e) calls) :
      Course t editable (reply :: rest) (.error e) calls
  | next {editable : Option MessageId} {reply : Reply} {rest : List Reply}
      {result : Except CallError Unit} {calls more : List CallEntry}
      (serves : Attends t editable reply (.ok ()) calls)
      (course : Course t (editableAfter editable reply) rest result more) :
      Course t editable (reply :: rest) result (calls ++ more)

theorem deliverFrom_logs (t : Target) (editable : Option MessageId) (replies : List Reply) :
    Logs (deliverFrom t editable replies) (Course t editable replies) := by
  induction replies generalizing editable with
  | nil =>
      apply (Logs.ret ()).weaken
      rintro result calls ⟨rfl, rfl⟩
      exact .done
  | cons reply rest ih =>
      have served {d : Delivery Unit} (logs : Logs d (Attends t editable reply)) :
          Logs (d >>= fun _ => deliverFrom t (editableAfter editable reply) rest)
            (Course t editable (reply :: rest)) := by
        apply logs.seq fun _ => ih (editableAfter editable reply)
        · exact fun _ _ _ _ => .next
        · exact fun _ _ => .stop
      cases reply with
      | screen s => exact served (showScreen_logs t s editable)
      | notice text => exact served ((notice_logs t text).weaken fun _ _ => .notice)
      | keyboard node rows =>
          rw [deliverFrom]
          cases t.origin with
          | none =>
              have nothing : Attends t editable (.keyboard node rows) (.ok ()) [] :=
                .keyboard CallEntry.silent_nil (.of_ok _)
              exact (ih editable).weaken fun _ _ course => .next nothing course
          | some message =>
              apply served
              apply (Logs.attach t message rows).weaken
              rintro result calls ⟨silent, fails⟩
              exact .keyboard silent fails

/-! ## What is shown -/

theorem content?_sendCall (t : Target) (s : Screen) :
    (sendCall t s).content? = (Reply.screen s).content? t := by
  unfold sendCall Reply.content?
  dsimp only
  cases s.photo with
  | none => rfl
  | some photo => rfl

/-- A screen that can take the place of a text is no more than a text. -/
theorem content?_editText {s : Screen} (fits : isEditable s) (t : Target) (message : MessageId) :
    (Call.editText t.chat message s.text s.format.parseMode).content? =
      (Reply.screen s).content? t := by
  rw [isEditable, Bool.and_eq_true, Option.isNone_iff_eq_none] at fits
  obtain ⟨bare, plain⟩ := fits
  unfold Call.content? Reply.content?
  dsimp only
  rw [bare]
  cases keyboard : s.keyboard with
  | none => rfl
  | inline rows => rfl
  | reply rows oneTime resize =>
      rw [keyboard] at plain
      cases plain
  | remove =>
      rw [keyboard] at plain
      cases plain

theorem tried_cons (call : Call) (answer : Except CallError Receipt) (more : List CallEntry) :
    tried (⟨call, answer⟩ :: more) = call.content?.toList ++ tried more :=
  filterMap_cons_toList _ _ _

theorem shown_cons_ok (call : Call) (receipt : Receipt) (more : List CallEntry) :
    shown (⟨call, .ok receipt⟩ :: more) = call.content?.toList ++ shown more :=
  tried_cons call (.ok receipt) _

theorem shown_cons_error (call : Call) (e : CallError) (more : List CallEntry) :
    shown (⟨call, .error e⟩ :: more) = shown more := rfl

variable {t : Target} {editable : Option MessageId} {reply : Reply} {replies : List Reply}
  {result : Except CallError Unit} {calls : List CallEntry}

theorem Tries.tried_eq {call : Call} (tries : Tries call result calls) :
    tried calls = call.content?.toList := by
  obtain ⟨answer, more, rfl, silent, _⟩ := tries
  rw [tried_cons, silent.tried_eq, List.append_nil]

theorem Tries.shown_eq {call : Call} (tries : Tries call result calls) :
    shown calls = call.content?.toList ∨ shown calls = [] ∧ result.isOk = false := by
  obtain ⟨answer, more, rfl, silent, fails, _⟩ := tries
  cases answer with
  | ok receipt =>
      left
      rw [shown_cons_ok, silent.shown_eq, List.append_nil]
  | error e =>
      right
      rw [shown_cons_error, silent.shown_eq]
      exact ⟨rfl, fails rfl⟩

/-- A reply is shown once, unless the delivery fails with it. -/
theorem Attends.shown_eq (serves : Attends t editable reply result calls) :
    shown calls = (reply.content? t).toList ∨ shown calls = [] ∧ result.isOk = false := by
  cases serves with
  | notice tries => exact tries.shown_eq
  | sent tries =>
      rw [← content?_sendCall]
      exact tries.shown_eq
  | edited _ fits silent =>
      left
      rw [shown_cons_ok, silent.shown_eq, List.append_nil, content?_editText fits]
  | resent _ _ tries =>
      rw [shown_cons_error, ← content?_sendCall]
      exact tries.shown_eq
  | keyboard silent _ => exact .inl silent.shown_eq

/-- Where no message can be edited, a reply is tried once. -/
theorem Attends.tried_eq (serves : Attends t none reply result calls) :
    tried calls = (reply.content? t).toList := by
  cases serves with
  | notice tries => exact tries.tried_eq
  | sent tries =>
      rw [← content?_sendCall]
      exact tries.tried_eq
  | edited editing _ _ => cases editing
  | resent editing _ _ => cases editing
  | keyboard silent _ => exact silent.tried_eq

/-- The messages that have been shown are those of the first replies. -/
theorem Course.shown_eq (course : Course t editable replies result calls) :
    ∃ done rest, replies = done ++ rest ∧ (result.isOk → rest = []) ∧
      shown calls = done.filterMap (Reply.content? t) := by
  induction course with
  | done => exact ⟨[], [], rfl, fun _ => rfl, rfl⟩
  | @stop editable reply rest e calls serves =>
      rcases serves.shown_eq with once | ⟨nothing, _⟩
      · refine ⟨[reply], rest, rfl, nofun, ?_⟩
        rw [once, filterMap_cons_toList, List.filterMap_nil, List.append_nil]
      · exact ⟨[], reply :: rest, rfl, nofun, nothing⟩
  | @next editable reply rest result calls more serves course ih =>
      obtain ⟨done, left, rfl, all, same⟩ := ih
      refine ⟨reply :: done, left, rfl, all, ?_⟩
      rcases serves.shown_eq with once | ⟨_, absurd⟩
      · rw [CallEntry.shown_append, once, same, filterMap_cons_toList]
      · cases absurd

/-! ## What is edited -/

/-- None of the calls replaces the text of a message. -/
def Editless (calls : List CallEntry) : Prop := ∀ e ∈ calls, e.call.isEdit = false

theorem editless_nil : Editless [] := List.forall_mem_nil _

theorem editless_append {first second : List CallEntry} :
    Editless (first ++ second) ↔ Editless first ∧ Editless second :=
  List.forall_mem_append

theorem isEdit_sendCall (t : Target) (s : Screen) : (sendCall t s).isEdit = false := by
  unfold sendCall
  cases s.photo with
  | none => rfl
  | some photo => rfl

theorem Tries.editless {call : Call} (tries : Tries call result calls)
    (sends : call.isEdit = false) : Editless calls := by
  obtain ⟨answer, more, rfl, silent, _⟩ := tries
  exact List.forall_mem_cons.2 ⟨sends, silent.not_isEdit⟩

theorem Attends.editless (serves : Attends t none reply result calls) : Editless calls := by
  cases serves with
  | notice tries => exact tries.editless rfl
  | sent tries => exact tries.editless (isEdit_sendCall t _)
  | edited editing _ _ => cases editing
  | resent editing _ _ => cases editing
  | keyboard silent _ => exact silent.not_isEdit

theorem editableAfter_none (reply : Reply) : editableAfter none reply = none := by
  cases reply with
  | _ => rfl

theorem Course.editless (course : Course t editable replies result calls)
    (spent : editable = none) : Editless calls := by
  induction course with
  | done => exact editless_nil
  | stop serves =>
      subst spent
      exact serves.editless
  | @next editable reply rest result calls more serves course ih =>
      subst spent
      exact editless_append.2 ⟨serves.editless, ih (editableAfter_none reply)⟩

/-- Where no message can be edited, the replies are tried in order, each once. -/
theorem Course.tried_prefix (course : Course t editable replies result calls)
    (spent : editable = none) : tried calls <+: replies.filterMap (Reply.content? t) := by
  induction course with
  | done => exact List.prefix_rfl
  | stop serves =>
      subst spent
      rw [serves.tried_eq, filterMap_cons_toList]
      exact List.prefix_append _ _
  | @next editable reply rest result calls more serves course ih =>
      subst spent
      rw [CallEntry.tried_append, serves.tried_eq, filterMap_cons_toList]
      exact (List.prefix_append_right_inj _).2 (ih (editableAfter_none reply))

/-- The text of a message is replaced at most once: that of the pressed message, by the first
screen. Where this succeeds, the calls after it are for the other replies, each tried once; where it
fails, the screen is sent before anything else happens. -/
inductive EditsOnce (t : Target) (replies : List Reply) : List CallEntry → Prop
  | never {calls : List CallEntry} (editless : Editless calls) : EditsOnce t replies calls
  | once {earlier later : List Reply} {s : Screen} {message : MessageId}
      {answer : Except CallError Receipt} {before after : List CallEntry}
      (origin : t.origin = some message)
      (split : replies = earlier ++ .screen s :: later)
      (first : ∀ reply ∈ earlier, ∀ other, reply ≠ .screen other)
      (editless : Editless before ∧ Editless after)
      (done : answer.isOk → tried after <+: later.filterMap (Reply.content? t))
      (failed : answer.isOk = false → ∃ again more, after = ⟨sendCall t s, again⟩ :: more ∧
        tried more <+: later.filterMap (Reply.content? t)) :
      EditsOnce t replies
        (before ++ ⟨.editText t.chat message s.text s.format.parseMode, answer⟩ :: after)

/-- Calls for a reply that is no screen change nothing about the edits after them. -/
theorem EditsOnce.cons {more : List CallEntry} (edits : EditsOnce t replies more)
    (other : ∀ s, reply ≠ .screen s) (plain : Editless calls) :
    EditsOnce t (reply :: replies) (calls ++ more) := by
  cases edits with
  | never editless => exact .never (editless_append.2 ⟨plain, editless⟩)
  | once origin split first editless done failed =>
      rw [split, ← List.cons_append, ← List.append_assoc]
      exact .once origin rfl (List.forall_mem_cons.2 ⟨other, first⟩)
        ⟨editless_append.2 ⟨plain, editless.1⟩, editless.2⟩ done failed

/-- The first reply is the first screen. -/
theorem EditsOnce.head {s : Screen} {message : MessageId} {answer : Except CallError Receipt}
    {after : List CallEntry} (origin : t.origin = some message) (editless : Editless after)
    (done : answer.isOk → tried after <+: replies.filterMap (Reply.content? t))
    (failed : answer.isOk = false → ∃ again more, after = ⟨sendCall t s, again⟩ :: more ∧
      tried more <+: replies.filterMap (Reply.content? t)) :
    EditsOnce t (.screen s :: replies)
      (⟨.editText t.chat message s.text s.format.parseMode, answer⟩ :: after) :=
  .once origin (List.nil_append _).symm (List.forall_mem_nil _) ⟨editless_nil, editless⟩ done failed

/-- After a screen, nothing more is edited. -/
theorem Attends.edits {s : Screen} {more : List CallEntry}
    (serves : Attends t editable (.screen s) result calls)
    (own : ∀ message, editable = some message → t.origin = some message)
    (plain : Editless more) (ordered : tried more <+: replies.filterMap (Reply.content? t)) :
    EditsOnce t (.screen s :: replies) (calls ++ more) := by
  cases serves with
  | sent tries => exact .never (editless_append.2 ⟨tries.editless (isEdit_sendCall t s), plain⟩)
  | edited editing fits silent =>
      rw [List.cons_append]
      refine .head (own _ editing) (editless_append.2 ⟨silent.not_isEdit, plain⟩) ?_ nofun
      intro _
      rw [CallEntry.tried_append, silent.tried_eq]
      exact ordered
  | resent editing fits tries =>
      rw [List.cons_append]
      have sent := tries.editless (isEdit_sendCall t s)
      refine .head (own _ editing) (editless_append.2 ⟨sent, plain⟩) nofun ?_
      intro _
      obtain ⟨again, rest, rfl, silent, _⟩ := tries
      refine ⟨again, rest ++ more, rfl, ?_⟩
      rw [CallEntry.tried_append, silent.tried_eq]
      exact ordered

theorem Course.edits (course : Course t editable replies result calls)
    (own : ∀ message, editable = some message → t.origin = some message) :
    EditsOnce t replies calls := by
  induction course with
  | done => exact .never editless_nil
  | @stop editable reply rest e calls serves =>
      rw [← List.append_nil calls]
      cases reply with
      | screen s => exact serves.edits own editless_nil List.nil_prefix
      | notice text =>
          cases serves with
          | notice tries => exact EditsOnce.cons (.never editless_nil) nofun (tries.editless rfl)
      | keyboard node rows =>
          cases serves with
          | keyboard silent _ => exact EditsOnce.cons (.never editless_nil) nofun silent.not_isEdit
  | @next editable reply rest result calls more serves course ih =>
      cases reply with
      | screen s => exact serves.edits own (course.editless rfl) (course.tried_prefix rfl)
      | notice text =>
          cases serves with
          | notice tries => exact (ih own).cons nofun (tries.editless rfl)
      | keyboard node rows =>
          cases serves with
          | keyboard silent _ => exact (ih own).cons nofun silent.not_isEdit

/-! ## What fails -/

theorem Tries.failsLast {call : Call} (tries : Tries call result calls) :
    FailsLast result calls := by
  obtain ⟨_, _, _, _, _, fails⟩ := tries
  exact fails

theorem Attends.failsLast (serves : Attends t editable reply result calls) :
    FailsLast result calls := by
  cases serves with
  | notice tries => exact tries.failsLast
  | sent tries => exact tries.failsLast
  | edited _ _ _ => exact .of_ok _
  | resent _ _ tries => exact tries.failsLast.after [_]
  | keyboard _ fails => exact fails

theorem Course.failsLast (course : Course t editable replies result calls) :
    FailsLast result calls := by
  induction course with
  | done => exact .of_ok []
  | stop serves => exact serves.failsLast
  | @next editable reply rest result calls more serves course ih => exact ih.after calls

/-! ## Deliveries -/

/-- What the calls of a delivery come to. -/
structure Orderly (t : Target) (replies : List Reply) (result : Except CallError Unit)
    (calls : List CallEntry) : Prop where
  /-- The messages that have been shown are those of the first replies, in order and each once, and
  of all replies if nothing failed. -/
  shown : ∃ done rest, replies = done ++ rest ∧ (result.isOk → rest = []) ∧
    shown calls = done.filterMap (Reply.content? t)
  edits : EditsOnce t replies calls
  /-- Without a call that failed there is no failure. -/
  failed : FailsLast result calls

/-- A delivery shows its replies in order, each once, whichever calls fail. If it fails itself, then
with the last call that it made. -/
theorem orderly_deliver (t : Target) (replies : List Reply) (o : Outbox) :
    ∃ calls, (deliver t replies o).2.messenger.log = o.messenger.log ++ calls ∧
      Orderly t replies (deliver t replies o).1 calls := by
  obtain ⟨calls, log, course⟩ := (deliverFrom_logs t t.origin replies).elim o
  exact ⟨calls, log, course.shown_eq, course.edits fun _ => id, course.failsLast⟩

end Delivery

end Dialogue
