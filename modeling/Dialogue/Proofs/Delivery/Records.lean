/-
# The records of a delivery

Whatever is shown to a user should be recorded for the observers. A record is made at the end of
three different paths, after calls that may fail, so this is not a matter of course. This module
compares the records that a delivery leaves with the calls in which something has been shown.

They agree one by one and in order, with one exception. If a screen has been sent as a new message
and its buttons cannot be attached, then the delivery fails before the record is made: the user sees
a message that no observer hears of. A screen that takes the place of the pressed message is
recorded in the same situation.
-/

import Dialogue.Proofs.Delivery.Order

namespace Dialogue

open CallEntry (Silent)

/-! ## Messages and their records -/

/-- The message that a call has shown, and the receipt for it. -/
def CallEntry.showing? (e : CallEntry) : Option (MessageContent × Receipt) :=
  e.call.content?.bind fun content => e.result.toOption.map fun receipt => (content, receipt)

/-- The messages that calls have shown, in order, with their receipts. -/
def CallEntry.showings (calls : List CallEntry) : List (MessageContent × Receipt) :=
  calls.filterMap showing?

/-- The node of a reply. A notice belongs to none. -/
def Reply.node? : Reply → Option NodeId
  | .screen s => some s.node
  | .notice _ => none
  | .keyboard node _ => some node

/-- A record of a reply that has been shown. -/
structure MessageRecord.Reports (r : MessageRecord) (t : Target) (reply : Reply)
    (content : MessageContent) (receipt : Receipt) : Prop where
  user : r.user = t.user
  direction : r.direction = .bot
  text : r.text = content.text
  node : r.node = reply.node?
  message : r.message = some receipt.message
  photo : content.photo.isSome → r.photo = receipt.photo

namespace CallEntry

@[simp]
theorem showings_append (first second : List CallEntry) :
    showings (first ++ second) = showings first ++ showings second :=
  List.filterMap_append

theorem showings_cons_ok {call : Call} {content : MessageContent}
    (shows : call.content? = some content) (receipt : Receipt) (more : List CallEntry) :
    showings (⟨call, .ok receipt⟩ :: more) = (content, receipt) :: showings more := by
  simp [showings, showing?, shows, Except.toOption]

@[simp]
theorem showings_cons_error (call : Call) (e : CallError) (more : List CallEntry) :
    showings (⟨call, .error e⟩ :: more) = showings more := by
  cases shows : call.content? with
  | none => simp [showings, showing?, shows]
  | some content => simp [showings, showing?, shows, Except.toOption]

theorem Silent.showings_eq {calls : List CallEntry} (silent : Silent calls) :
    showings calls = [] := by
  simp only [showings, List.filterMap_eq_nil_iff]
  intro e listed
  simp [showing?, silent e listed]

end CallEntry

open CallEntry (showings showings_cons_ok)

namespace Delivery

variable {α β : Type}

/-! ## Calls and records of a delivery -/

/-- A relation between the way a delivery ends, the calls that it made and the records that it
left. -/
abbrev Footprint (α : Type) :=
  Except CallError α → List CallEntry → List MessageRecord → Prop

/-- What a delivery adds to the calls and to the records satisfies a relation. -/
def Leaves (d : Delivery α) (P : Footprint α) : Prop :=
  ∀ o, ∃ calls records, (d o).2.messenger.log = o.messenger.log ++ calls ∧
    (d o).2.records = o.records ++ records ∧ P (d o).1 calls records

/-- What is left to be shown for a delivery when some calls and records have been made. -/
def Footprint.given (P : Footprint α) (calls : List CallEntry) (records : List MessageRecord) :
    Footprint α :=
  fun result more others => P result (calls ++ more) (records ++ others)

/-- What the first of two deliveries has to leave, if the second is not begun after a failure. -/
def Footprint.before (f : α → Delivery β) (P : Footprint β) : Footprint α
  | .ok a, calls, records => Leaves (f a) (P.given calls records)
  | .error e, calls, records => P (.error e) calls records

/-- What a delivery has to leave, if there is another in case that it fails. -/
def Footprint.rescued (handler : CallError → Delivery α) (P : Footprint α) : Footprint α
  | .ok a, calls, records => P (.ok a) calls records
  | .error e, calls, records => Leaves (handler e) (P.given calls records)

namespace Leaves

variable {d : Delivery α} {P : Footprint α}

theorem weaken {Q : Footprint α} (leaves : Leaves d Q)
    (implies : ∀ result calls records, Q result calls records → P result calls records) :
    Leaves d P := by
  intro o
  obtain ⟨calls, records, log, kept, holds⟩ := leaves o
  exact ⟨calls, records, log, kept, implies _ _ _ holds⟩

/-- A delivery that is begun after some calls and records adds its own. -/
theorem resume {o after : Outbox} {calls : List CallEntry} {records : List MessageRecord}
    (leaves : Leaves d (P.given calls records))
    (log : after.messenger.log = o.messenger.log ++ calls)
    (kept : after.records = o.records ++ records) :
    ∃ calls records, (d after).2.messenger.log = o.messenger.log ++ calls ∧
      (d after).2.records = o.records ++ records ∧ P (d after).1 calls records := by
  obtain ⟨more, others, log', kept', holds⟩ := leaves after
  refine ⟨calls ++ more, records ++ others, ?_, ?_, holds⟩
  · rw [log', log, List.append_assoc]
  · rw [kept', kept, List.append_assoc]

theorem ret {a : α} (holds : P (.ok a) [] []) : Leaves (pure a : Delivery α) P := by
  intro o
  exact ⟨[], [], (List.append_nil _).symm, (List.append_nil _).symm, holds⟩

/-- The stored payloads of a message are forgotten. -/
theorem clear {P : Footprint Unit} {chat : ChatId} {message : MessageId}
    (holds : P (.ok ()) [] []) :
    Leaves (modify fun o => { o with callbacks := o.callbacks.clear chat message }) P := by
  intro o
  exact ⟨[], [], (List.append_nil _).symm, (List.append_nil _).symm, holds⟩

theorem record {P : Footprint Unit} {r : MessageRecord} {receipt : Receipt}
    (holds : P (.ok ()) [] [{ r with message := some receipt.message }]) :
    Leaves (Delivery.record r receipt) P := by
  intro o
  exact ⟨[], _, (List.append_nil _).symm, rfl, holds⟩

theorem call {call : Call} {P : Footprint Receipt}
    (holds : ∀ result, P result [⟨call, result⟩] []) : Leaves (request call) P := by
  intro o
  exact ⟨_, [], rfl, (List.append_nil _).symm, holds _⟩

theorem attach {t : Target} {message : MessageId} {rows : InlineRows} {P : Footprint Unit}
    (holds : ∀ markup answer,
      P (answer.map fun _ => ()) [⟨.editMarkup t.chat message markup, answer⟩] []) :
    Leaves (Delivery.attach t message rows) P := by
  intro o
  rw [attach_apply rfl]
  exact ⟨_, [], rfl, (List.append_nil _).symm, holds _ _⟩

/-- One delivery after another. -/
theorem seq {f : α → Delivery β} {P : Footprint β} (first : Leaves d (P.before f)) :
    Leaves (d >>= f) P := by
  intro o
  obtain ⟨calls, records, log, kept, holds⟩ := first o
  rw [bind_apply]
  generalize d o = ran at log kept holds ⊢
  obtain ⟨result, after⟩ := ran
  cases result with
  | ok a => exact resume holds log kept
  | error e => exact ⟨calls, records, log, kept, holds⟩

/-- A delivery with another in case that it fails. -/
theorem rescue {handler : CallError → Delivery α} (first : Leaves d (P.rescued handler)) :
    Leaves (tryCatch d handler) P := by
  intro o
  obtain ⟨calls, records, log, kept, holds⟩ := first o
  rw [tryCatch_apply]
  generalize d o = ran at log kept holds ⊢
  obtain ⟨result, after⟩ := ran
  cases result with
  | ok a => exact ⟨calls, records, log, kept, holds⟩
  | error e => exact resume holds log kept

end Leaves

/-! ## Replies that have been shown and recorded -/

/-- A reply that has been shown, with its record. -/
structure Filing (t : Target) where
  reply : Reply
  content : MessageContent
  receipt : Receipt
  record : MessageRecord
  shows : reply.content? t = some content
  reports : record.Reports t reply content receipt

/-- What has been shown, and the receipt for it. -/
def Filing.showing {t : Target} (f : Filing t) : MessageContent × Receipt := (f.content, f.receipt)

/-- The messages of the replies, the messages that calls have shown and the records belong together,
one by one and in order. -/
def Accounted (t : Target) (replies : List Reply) (calls : List CallEntry)
    (records : List MessageRecord) : Prop :=
  ∃ filings : List (Filing t),
    (replies.filter fun reply => (reply.content? t).isSome) = filings.map (·.reply) ∧
      showings calls = filings.map (·.showing) ∧ records = filings.map (·.record)

namespace Accounted

variable {t : Target} {reply : Reply} {replies done rest : List Reply}
  {calls more : List CallEntry} {records others : List MessageRecord}

/-- There is nothing to record where nothing is to be shown. -/
theorem of_none (quiet : ∀ reply ∈ replies, reply.content? t = none)
    (unseen : showings calls = []) : Accounted t replies calls [] := by
  refine ⟨[], ?_, unseen, rfl⟩
  simp only [List.map_nil, List.filter_eq_nil_iff]
  intro reply listed
  simp [quiet reply listed]

theorem append (first : Accounted t done calls records) (second : Accounted t rest more others) :
    Accounted t (done ++ rest) (calls ++ more) (records ++ others) := by
  obtain ⟨filings, messages, shown, rfl⟩ := first
  obtain ⟨filings', messages', shown', rfl⟩ := second
  exact ⟨filings ++ filings', by simp [messages, messages'], by simp [shown, shown'], by simp⟩

/-- A reply that has been shown and recorded. -/
theorem of_reports {call : Call} {content : MessageContent} {receipt : Receipt} {r : MessageRecord}
    (shows : reply.content? t = some content) (same : call.content? = reply.content? t)
    (silent : Silent more) (reports : r.Reports t reply content receipt) :
    Accounted t [reply] (⟨call, .ok receipt⟩ :: more) [r] := by
  refine ⟨[⟨reply, content, receipt, r, shows, reports⟩], ?_, ?_, rfl⟩
  · simp [shows]
  · rw [showings_cons_ok (same.trans shows), silent.showings_eq]
    rfl

/-- A call that failed has shown nothing. -/
theorem of_error (call : Call) (e : CallError) : Accounted t [] [⟨call, .error e⟩] [] :=
  of_none (List.forall_mem_nil _) (CallEntry.showings_cons_error call e [])

end Accounted

/-! ## How a delivery ends -/

/-- The calls and records of a delivery of replies, by the way it ends. -/
inductive Filed (t : Target) (replies : List Reply) : Footprint Unit
  | /-- All replies have been shown and recorded. -/
    finished {calls : List CallEntry} {records : List MessageRecord}
      (accounted : Accounted t replies calls records) : Filed t replies (.ok ()) calls records
  | /-- The delivery failed with a reply that has not been shown. -/
    unshown {done rest : List Reply} {reply : Reply} {e : CallError} {calls : List CallEntry}
      {records : List MessageRecord} (split : replies = done ++ reply :: rest)
      (accounted : Accounted t done calls records) : Filed t replies (.error e) calls records
  | /-- The delivery failed with a screen that has been shown: its buttons could not be attached.
    There is no record of it. -/
    unattached {done rest : List Reply} {s : Screen} {rows : InlineRows} {receipt : Receipt}
      {markup : InlineMarkup} {e : CallError} {calls earlier : List CallEntry}
      {records : List MessageRecord} (split : replies = done ++ .screen s :: rest)
      (buttons : s.keyboard = .inline rows) (accounted : Accounted t done earlier records)
      (last : calls = earlier ++ [⟨sendCall t s, .ok receipt⟩,
        ⟨.editMarkup t.chat receipt.message markup, .error e⟩]) :
      Filed t replies (.error e) calls records

namespace Filed

variable {t : Target} {reply : Reply} {replies done rest : List Reply}
  {result : Except CallError Unit} {calls more : List CallEntry}
  {records others : List MessageRecord}

/-- A delivery after replies that have been shown and recorded. -/
theorem after (filed : Filed t rest result more others)
    (accounted : Accounted t done calls records) :
    Filed t (done ++ rest) result (calls ++ more) (records ++ others) := by
  cases filed with
  | finished accounted' => exact .finished (accounted.append accounted')
  | unshown split accounted' =>
      subst split
      rw [← List.append_assoc]
      exact .unshown rfl (accounted.append accounted')
  | unattached split buttons accounted' last =>
      subst split last
      rw [← List.append_assoc, ← List.append_assoc]
      exact .unattached rfl buttons (accounted.append accounted') rfl

/-- A failure does not depend on the replies that are left. -/
theorem stop {e : CallError} (filed : Filed t replies (.error e) calls records)
    (rest : List Reply) : Filed t (replies ++ rest) (.error e) calls records := by
  cases filed with
  | unshown split accounted =>
      subst split
      rw [List.append_assoc, List.cons_append]
      exact .unshown rfl accounted
  | unattached split buttons accounted last =>
      subst split
      rw [List.append_assoc, List.cons_append]
      exact .unattached rfl buttons accounted last

theorem accounted (filed : Filed t replies (.ok ()) calls records) :
    Accounted t replies calls records := by
  cases filed with
  | finished accounted => exact accounted

end Filed

/-! ## One reply -/

theorem notice_leaves (t : Target) (text : String) :
    Leaves (notice t text) (Filed t [.notice text]) := by
  apply Leaves.seq
  apply Leaves.call
  intro answer
  cases answer with
  | error e => exact .unshown (List.nil_append _).symm (.of_error _ e)
  | ok receipt =>
      apply Leaves.record
      have reports : MessageRecord.Reports
          { MessageRecord.outgoing t.user text none with message := some receipt.message } t
          (.notice text) { chat := t.chat, text } receipt :=
        ⟨rfl, rfl, rfl, rfl, rfl, nofun⟩
      exact .finished (.of_reports rfl rfl CallEntry.silent_nil reports)

theorem sendScreen_leaves (t : Target) (s : Screen) :
    Leaves (sendScreen t s) (Filed t [.screen s]) := by
  apply Leaves.seq
  apply Leaves.call
  intro answer
  cases answer with
  | error e => exact .unshown (List.nil_append _).symm (.of_error _ e)
  | ok receipt =>
      have recorded {more : List CallEntry} (silent : Silent more) :=
        Accounted.of_reports (r := {
            MessageRecord.outgoing t.user s.text (some s.node) with
            photo := receipt.photo
            message := some receipt.message })
          rfl (content?_sendCall t s) silent ⟨rfl, rfl, rfl, rfl, rfl, fun _ => rfl⟩
      cases buttons : s.keyboard with
      | inline rows =>
          apply Leaves.seq
          apply Leaves.attach
          intro markup answer
          cases answer with
          | error e =>
              exact .unattached (List.nil_append _).symm buttons
                (.of_none (List.forall_mem_nil _) rfl) (List.nil_append _).symm
          | ok _ =>
              apply Leaves.record
              exact .finished (recorded (CallEntry.silent_editMarkup _ _ markup _))
      | _ =>
          apply Leaves.record
          exact .finished (recorded CallEntry.silent_nil)

theorem photo_of_isEditable {s : Screen} (fits : isEditable s) : s.photo = none := by
  rw [isEditable, Bool.and_eq_true, Option.isNone_iff_eq_none] at fits
  exact fits.1

/-- A screen that takes the place of a message is recorded whether or not its buttons could be
attached. -/
theorem editScreen_leaves {s : Screen} (fits : isEditable s) (t : Target) (message : MessageId) :
    Leaves (editScreen t s message) fun result calls records =>
      Accounted t (if result.isOk then [.screen s] else []) calls records := by
  apply Leaves.seq
  apply Leaves.call
  intro answer
  cases answer with
  | error e => exact .of_error _ e
  | ok receipt =>
      have recorded {more : List CallEntry} (silent : Silent more) : Accounted t [.screen s]
          (⟨.editText t.chat message s.text s.format.parseMode, .ok receipt⟩ :: more)
          [{ MessageRecord.outgoing t.user s.text (some s.node) with
            message := some receipt.message }] := by
        refine .of_reports rfl (content?_editText fits t message) silent
          ⟨rfl, rfl, rfl, rfl, rfl, ?_⟩
        -- A screen with a photo cannot take the place of a text.
        simp [photo_of_isEditable fits]
      cases buttons : s.keyboard with
      | inline rows =>
          apply Leaves.seq
          apply Leaves.rescue
          apply Leaves.attach
          intro markup answer
          have silent := CallEntry.silent_editMarkup t.chat message markup answer
          cases answer with
          | error e =>
              apply Leaves.ret
              apply Leaves.record
              exact recorded silent
          | ok _ =>
              apply Leaves.record
              exact recorded silent
      | _ =>
          apply Leaves.seq
          apply Leaves.clear
          apply Leaves.record
          exact recorded CallEntry.silent_nil

theorem showScreen_leaves (t : Target) (s : Screen) (editable : Option MessageId) :
    Leaves (showScreen t s editable) (Filed t [.screen s]) := by
  rw [showScreen]
  cases chosen : editable.filter fun _ => isEditable s with
  | none => exact sendScreen_leaves t s
  | some message =>
      obtain ⟨_, fits⟩ := Option.filter_eq_some_iff.1 chosen
      apply Leaves.rescue
      apply (editScreen_leaves fits t message).weaken
      intro result calls records accounted
      cases result with
      | ok _ => exact .finished accounted
      | error e =>
          apply (sendScreen_leaves t s).weaken
          intro result more others filed
          exact filed.after accounted

theorem attach_leaves (t : Target) (message : MessageId) (node : NodeId) (rows : InlineRows) :
    Leaves (attach t message rows) (Filed t [.keyboard node rows]) := by
  apply Leaves.attach
  intro markup answer
  have unseen := (CallEntry.silent_editMarkup t.chat message markup answer).showings_eq
  cases answer with
  | error e => exact .unshown (List.nil_append _).symm (.of_none (List.forall_mem_nil _) unseen)
  | ok _ => exact .finished (.of_none (by simp [Reply.content?]) unseen)

/-! ## All replies -/

theorem deliverFrom_leaves (t : Target) (editable : Option MessageId) (replies : List Reply) :
    Leaves (deliverFrom t editable replies) (Filed t replies) := by
  induction replies generalizing editable with
  | nil => exact Leaves.ret (.finished (.of_none (List.forall_mem_nil _) rfl))
  | cons reply rest ih =>
      have served {d : Delivery Unit} (leaves : Leaves d (Filed t [reply]))
          (editable : Option MessageId) :
          Leaves (d >>= fun _ => deliverFrom t editable rest) (Filed t (reply :: rest)) := by
        apply Leaves.seq
        apply leaves.weaken
        intro result calls records filed
        cases result with
        | error e => exact filed.stop rest
        | ok _ =>
            apply (ih editable).weaken
            intro result more others later
            exact later.after filed.accounted
      cases reply with
      | screen s => exact served (showScreen_leaves t s editable) none
      | notice text => exact served (notice_leaves t text) editable
      | keyboard node rows =>
          rw [deliverFrom]
          cases t.origin with
          | none =>
              have quiet : Accounted t [.keyboard node rows] [] [] :=
                .of_none (by simp [Reply.content?]) rfl
              exact (ih editable).weaken fun _ _ _ later => later.after quiet
          | some message => exact served (attach_leaves t message node rows) editable

/-- **What is shown is recorded, unless its buttons cannot be attached.** Whichever calls fail, the
records that a delivery leaves are those of the messages that have been shown, one by one and in
order. Each has the number, the text and the node of its message. The exception is a screen sent as
a new message to which its buttons could not be attached: the delivery fails there, and this last
message is not recorded. -/
theorem filed_deliver (t : Target) (replies : List Reply) (o : Outbox) :
    ∃ calls records, (deliver t replies o).2.messenger.log = o.messenger.log ++ calls ∧
      (deliver t replies o).2.records = o.records ++ records ∧
      Filed t replies (deliver t replies o).1 calls records :=
  deliverFrom_leaves t t.origin replies o

/-- A messenger that takes messages, but no buttons. -/
def withoutButtons : List CallEntry → Call → CallAnswer
  | _, .editMarkup .. => .refused "Bad Request"
  | _, _ => .accepted none

/-- A screen with a button. -/
def gangway : Screen where
  node := "pier"
  text := "All aboard?"
  format := .plain
  photo := none
  keyboard := .inline [[⟨"aboard", .act (.button "pier" 0)⟩]]

/-- The delivery of the screen, as a new message or in the place of another. -/
def boarded (origin : Option MessageId) : Except CallError Unit × Outbox :=
  deliver { chat := 7, user := 7, origin } [.screen gangway]
    { messenger := { answer := withoutButtons } }

/-- The message has been shown, and there is no record of it. -/
theorem gangway_unrecorded :
    showings (boarded none).2.messenger.log =
        [({ chat := 7, text := "All aboard?" }, { message := 1001 })] ∧
      (boarded none).2.records = [] ∧ (boarded none).1.isOk = false := by
  decide +kernel

/-- In the place of another message it is recorded, though it has no buttons either. -/
example : (boarded (some 5)).2.records =
    [{ MessageRecord.outgoing 7 "All aboard?" (some "pier") with message := some 5 }] := by
  decide +kernel

end Delivery

end Dialogue
