/-
# What messages display

The inline keyboard of a message can be told from the calls and their results. A new message has
none, an edited text has lost the one it had, and buttons that were attached are shown. A call that
failed changes nothing. `Watch.see` follows this along the log, and notes for each keyboard the rows
that it was drawn from: a delivery attaches the keyboards of its replies in their order.

The store of payloads is faithful to what is displayed if it has the payload of every reference on
every keyboard. It is filled before it is known whether the keyboard it is filled for will be shown.
That is harmless in two cases, and `Display.Yields` names them: the message shows no keyboard at the
time, or it shows one with the same actions. Every delivery keeps to these cases, whatever calls
fail.
-/

import Dialogue.Proofs.Delivery.Triple
import Dialogue.Proofs.Conversation.Replies

namespace Dialogue

/-- The inline keyboard of a message. -/
structure Display where
  /-- The keyboard as the messenger has it. -/
  markup : InlineMarkup := []
  /-- The rows that it was drawn from. -/
  rows : InlineRows := []

/-- The inline keyboards of all messages. -/
abbrev Board := ChatId → MessageId → Display

namespace Board

/-- No message has an inline keyboard. -/
def blank : Board := fun _ _ => {}

/-- Another keyboard on one message. -/
def put (board : Board) (chat : ChatId) (message : MessageId) (d : Display) : Board :=
  fun chat' message' => if chat' = chat ∧ message' = message then d else board chat' message'

@[simp]
theorem put_self (board : Board) (chat : ChatId) (message : MessageId) (d : Display) :
    board.put chat message d chat message = d :=
  if_pos ⟨rfl, rfl⟩

end Board

/-- What an observer of the messenger knows while replies are delivered. -/
structure Watch where
  board : Board
  /-- The keyboards of the replies that have not been attached yet. -/
  awaited : List InlineRows

namespace Watch

/-- Another keyboard on one message. -/
def put (w : Watch) (chat : ChatId) (message : MessageId) (d : Display) : Watch :=
  { w with board := w.board.put chat message d }

/-- The first keyboard is not awaited any longer. -/
def advance (w : Watch) : Watch := { w with awaited := w.awaited.tail }

/-- What is known after a call. -/
def see (w : Watch) : CallEntry → Watch
  | ⟨.sendMessage chat _ _ _, .ok receipt⟩ => w.put chat receipt.message {}
  | ⟨.sendPhoto chat _ _ _ _, .ok receipt⟩ => w.put chat receipt.message {}
  | ⟨.editText chat message _ _, .ok _⟩ => w.put chat message {}
  | ⟨.editMarkup chat message markup, .ok _⟩ =>
      (w.put chat message ⟨markup, w.awaited.headD []⟩).advance
  | ⟨.editMarkup _ _ _, .error _⟩ => w.advance
  | _ => w

end Watch

/-- The inline keyboard of a screen, if it has one. -/
def ScreenKeyboard.rows : ScreenKeyboard → List InlineRows
  | .inline rows => [rows]
  | _ => []

/-- The inline keyboard of a reply, if it has one. -/
def Reply.rows : Reply → List InlineRows
  | .screen s => s.keyboard.rows
  | .notice _ => []
  | .keyboard _ rows => [rows]

/-! ## Faithful stores -/

/-- The numbers of new messages can be stated in references. -/
def Messenger.Numbered (m : Messenger) : Prop :=
  ∀ log call, Number.Fits Number.signed32 (m.number log call)

/-- The chat and the message can be stated in references. -/
structure Reachable (chat : ChatId) (message : MessageId) : Prop where
  chat : Number.Fits Number.signed64 chat
  message : Number.Fits Number.signed32 message

/-- The store has the payloads of a displayed keyboard, which is one of the flow. -/
structure Display.Backed (flow : Flow) (s : CallbackStore) (chat : ChatId) (message : MessageId)
    (d : Display) : Prop where
  carried : d.markup = CallbackStore.carryRows chat message 0 d.rows.markup
  backs : s.Backs chat message d.rows.markup.payloads
  genuine : d.rows = [] ∨ flow.Draws d.rows ∧ Reachable chat message

/-- The store can be filled for other rows while the keyboard is displayed. -/
def Display.Yields (d : Display) (rows : InlineRows) : Prop :=
  d.rows = [] ∨ d.rows.actions = rows.actions

/-- The store has the payloads of all keyboards that are displayed. -/
structure Outbox.Faithful (flow : Flow) (o : Outbox) (board : Board) : Prop where
  displays : ∀ chat message, (board chat message).Backed flow o.callbacks chat message
  numbered : o.messenger.Numbered

variable {flow : Flow}

namespace Display.Backed

variable {s : CallbackStore} {chat chat' : ChatId} {message message' : MessageId} {d : Display}

theorem empty : ({} : Display).Backed flow s chat message where
  carried := rfl
  backs := CallbackStore.backs_nil s chat message
  genuine := .inl rfl

/-- A keyboard that was just packed. -/
theorem packed (s : CallbackStore) {rows : InlineRows} (drawn : flow.Draws rows)
    (reachable : Reachable chat message) :
    Display.Backed flow (s.pack chat message rows.markup).2 chat message
      ⟨(s.pack chat message rows.markup).1, rows⟩ where
  carried := by rw [CallbackStore.pack_eq]
  backs := CallbackStore.backs_pack s rows.markup
  genuine := .inr ⟨drawn, reachable⟩

/-- The store is filled for some rows. -/
theorem pack {rows : InlineRows} (backed : d.Backed flow s chat' message')
    (yields : chat' = chat ∧ message' = message → d.Yields rows) :
    d.Backed flow (s.pack chat message rows.markup).2 chat' message' := by
  refine ⟨backed.carried, ?_, backed.genuine⟩
  by_cases here : chat' = chat ∧ message' = message
  · have same := yields here
    obtain ⟨rfl, rfl⟩ := here
    rcases same with blank | same
    · rw [blank]
      exact CallbackStore.backs_nil _ _ _
    · have payloads : d.rows.markup.payloads = rows.markup.payloads := by
        rw [InlineRows.payloads_markup, InlineRows.payloads_markup, same]
      rw [payloads]
      exact CallbackStore.backs_pack s rows.markup
  · exact backed.backs.pack_of_other rows.markup here

/-- The store forgets the payloads of a message. -/
theorem clear (backed : d.Backed flow s chat' message')
    (blank : chat' = chat ∧ message' = message → d.rows = []) :
    d.Backed flow (s.clear chat message) chat' message' := by
  refine ⟨backed.carried, ?_, backed.genuine⟩
  by_cases here : chat' = chat ∧ message' = message
  · rw [blank here]
    exact CallbackStore.backs_nil _ _ _
  · exact backed.backs.clear_of_other here

/-- What a button of a displayed keyboard gives back is read as the payload in its place. -/
theorem map_unpack (backed : d.Backed flow s chat message) (addressable : flow.Addressable) :
    d.markup.map (List.map (InlineButton.mapData s.unpack)) = d.rows.markup := by
  rw [backed.carried]
  rcases backed.genuine with blank | ⟨drawn, reachable⟩
  · rw [blank]
    rfl
  · apply backed.backs.map_unpack
    · intro payload listed
      rw [InlineRows.payloads_markup] at listed
      obtain ⟨action, _, rfl⟩ := List.mem_map.1 listed
      exact action.take_text
    · intro number counted
      refine ⟨reachable.chat, reachable.message, ?_⟩
      have bounded := drawn.length_actions_le addressable
      rw [InlineRows.payloads_markup, List.length_map] at counted
      have room : Rows.addressable + 1 < Number.unsigned64 := by decide
      show number < Number.unsigned64
      omega

/-- A displayed callback button stands in the place of a button that was drawn with its label, and
what it gives back is read as the text of that button's action. -/
theorem exists_action (backed : d.Backed flow s chat message) (addressable : flow.Addressable)
    {i j : Nat} {label data : String}
    (shown : d.markup[i]?.bind (·[j]?) = some (.callback label data)) :
    ∃ action : Action, d.rows.legible[i]?.bind (·[j]?) = some ⟨label, .act action⟩ ∧
      s.unpack data = action.text := by
  apply InlineRows.exists_action_of_markup
  obtain ⟨row, here, button⟩ := Option.bind_eq_some_iff.1 shown
  rw [← backed.map_unpack addressable, List.getElem?_map, here, Option.map_some, Option.bind_some,
    List.getElem?_map, button]
  rfl

end Display.Backed

namespace Outbox.Faithful

variable {o o' : Outbox} {board : Board}

/-- Only the store and the numbers matter. -/
theorem congr (faithful : o.Faithful flow board) (callbacks : o'.callbacks = o.callbacks)
    (number : o'.messenger.number = o.messenger.number) : o'.Faithful flow board where
  displays := by
    rw [callbacks]
    exact faithful.displays
  numbered := by
    rw [Messenger.Numbered, number]
    exact faithful.numbered

theorem put {chat : ChatId} {message : MessageId} {d : Display} (faithful : o.Faithful flow board)
    (backed : d.Backed flow o.callbacks chat message) :
    o.Faithful flow (board.put chat message d) where
  displays := by
    intro chat' message'
    rw [Board.put]
    split
    · next here =>
        obtain ⟨rfl, rfl⟩ := here
        exact backed
    · exact faithful.displays chat' message'
  numbered := faithful.numbered

theorem pack {chat : ChatId} {message : MessageId} {rows : InlineRows}
    (faithful : o.Faithful flow board) (yields : (board chat message).Yields rows) :
    { o with callbacks := (o.callbacks.pack chat message rows.markup).2 }.Faithful flow board where
  displays := by
    intro chat' message'
    apply (faithful.displays chat' message').pack
    rintro ⟨rfl, rfl⟩
    exact yields
  numbered := faithful.numbered

theorem clear {chat : ChatId} {message : MessageId} (faithful : o.Faithful flow board)
    (blank : (board chat message).rows = []) :
    { o with callbacks := o.callbacks.clear chat message }.Faithful flow board where
  displays := by
    intro chat' message'
    apply (faithful.displays chat' message').clear
    rintro ⟨rfl, rfl⟩
    exact blank
  numbered := faithful.numbered

end Outbox.Faithful

/-! ## Deliveries keep the store faithful -/

namespace Delivery

variable {awaited rest : List InlineRows} {t : Target}

/-- The store is faithful, and these keyboards are still to be attached. -/
def Awaits (flow : Flow) (awaited : List InlineRows) : Assertion Watch :=
  fun o w => o.Faithful flow w.board ∧ w.awaited = awaited

/-- The store is faithful. -/
def Fair (flow : Flow) : Assertion Watch := fun o w => o.Faithful flow w.board

/-- A call that makes a new message. -/
theorem send_meets {call : Call} (chat : ChatId)
    (sends : ∀ (w : Watch) (receipt : Receipt),
      w.see ⟨call, .ok receipt⟩ = w.put chat receipt.message {})
    (fails : ∀ (w : Watch) (e : CallError), w.see ⟨call, .error e⟩ = w)
    (isNew : ∀ number, call.message number = number) :
    Meets Watch.see (request call) (Awaits flow awaited) fun result o w =>
      Awaits flow awaited o w ∧ ∀ receipt, result = .ok receipt →
        Number.Fits Number.signed32 receipt.message ∧ (w.board chat receipt.message).rows = [] := by
  apply Meets.call
  rintro o w ⟨faithful, rfl⟩
  have kept : { o with messenger := o.messenger.after call }.Faithful flow w.board :=
    faithful.congr rfl rfl
  cases answered : o.messenger.result call with
  | error e =>
      rw [fails]
      refine ⟨⟨kept, rfl⟩, ?_⟩
      intro receipt absurd
      cases absurd
  | ok receipt =>
      rw [sends]
      refine ⟨⟨kept.put .empty, rfl⟩, ?_⟩
      intro _ same
      cases same
      constructor
      · rw [Messenger.result] at answered
        split at answered
        · cases answered
          rw [isNew]
          exact faithful.numbered _ _
        · cases answered
        · cases answered
      · show ((w.board.put chat receipt.message {}) chat receipt.message).rows = []
        rw [Board.put_self]

theorem record_meets (r : MessageRecord) (receipt : Receipt) :
    Meets Watch.see (record r receipt) (Awaits flow awaited) (Succeeds (Awaits flow awaited)) := by
  apply Meets.change
  · exact fun _ => rfl
  · rintro o w ⟨faithful, same⟩
    exact ⟨faithful.congr rfl rfl, same⟩

theorem notice_meets (t : Target) (text : String) :
    Meets Watch.see (notice t text) (Awaits flow awaited) fun _ => Awaits flow awaited := by
  have recorded (r : MessageRecord) (receipt : Receipt) :
      Meets Watch.see (record r receipt) (Awaits flow awaited) fun _ => Awaits flow awaited :=
    (record_meets r receipt).of_succeeds fun _ _ _ => id
  apply Meets.seq
  · exact send_meets t.chat (fun _ _ => rfl) (fun _ _ => rfl) fun _ => rfl
  · rintro receipt o w ⟨awaits, _⟩
    exact recorded _ receipt o w awaits
  · rintro e o w ⟨awaits, _⟩
    exact awaits

/-- Buttons are attached to a message whose keyboard yields. -/
theorem attach_meets {message : MessageId} {rows : InlineRows} (drawn : flow.Draws rows)
    (reachable : Reachable t.chat message) :
    Meets Watch.see (attach t message rows)
      (fun o w => Awaits flow (rows :: rest) o w ∧ (w.board t.chat message).Yields rows)
      fun _ => Awaits flow rest := by
  apply Meets.attach
  rintro o w ⟨⟨faithful, awaits⟩, yields⟩ markup callbacks packed result _
  have filled : { o with
      callbacks
      messenger := o.messenger.after (.editMarkup t.chat message markup) }.Faithful flow
        w.board := by
    have stored := faithful.pack yields
    rw [packed] at stored
    exact stored.congr rfl rfl
  have advanced : w.awaited.tail = rest := by
    rw [awaits]
    rfl
  cases result with
  | error e => exact ⟨filled, advanced⟩
  | ok receipt =>
      refine ⟨?_, advanced⟩
      show Outbox.Faithful flow _ (w.board.put t.chat message ⟨markup, w.awaited.headD []⟩)
      rw [awaits]
      apply filled.put
      have backed := Display.Backed.packed o.callbacks drawn reachable
      rw [packed] at backed
      exact backed

/-- The keyboards are attached, unless the delivery fails; the store is faithful in any case. -/
def Serves (flow : Flow) (rest : List InlineRows) : Except CallError Unit → Assertion Watch
  | .ok _ => Awaits flow rest
  | .error _ => Fair flow

theorem see_sendCall (t : Target) (s : Screen) (w : Watch) :
    (∀ receipt, w.see ⟨sendCall t s, .ok receipt⟩ = w.put t.chat receipt.message {}) ∧
      (∀ e, w.see ⟨sendCall t s, .error e⟩ = w) ∧
      ∀ number, (sendCall t s).message number = number := by
  unfold sendCall
  dsimp only
  cases s.photo with
  | none => exact ⟨fun _ => rfl, fun _ => rfl, fun _ => rfl⟩
  | some photo => exact ⟨fun _ => rfl, fun _ => rfl, fun _ => rfl⟩

/-- A new message has no keyboard yet when its buttons are attached. -/
theorem sendScreen_meets {s : Screen} (plain : (Reply.screen s).Plain flow)
    (reachable : Number.Fits Number.signed64 t.chat) :
    Meets Watch.see (sendScreen t s) (Awaits flow (s.keyboard.rows ++ rest))
      (Serves flow rest) := by
  have recorded (r : MessageRecord) (receipt : Receipt) :
      Meets Watch.see (record r receipt) (Awaits flow rest) (Serves flow rest) :=
    (record_meets r receipt).of_succeeds fun _ _ _ => id
  apply Meets.seq
  · apply send_meets t.chat
    · exact fun w => (see_sendCall t s w).1
    · exact fun w => (see_sendCall t s w).2.1
    · exact (see_sendCall t s ⟨.blank, []⟩).2.2
  · rintro receipt o w ⟨awaits, fresh⟩
    obtain ⟨numbered, blank⟩ := fresh receipt rfl
    cases keyboard : s.keyboard with
    | inline rows =>
        rw [keyboard] at awaits
        refine Meets.seq (attach_meets (plain rows keyboard) ⟨reachable, numbered⟩) ?_ ?_ o w
          ⟨awaits, .inl blank⟩
        · exact fun _ => recorded _ receipt
        · exact fun _ _ _ failed => failed.1
    | none =>
        rw [keyboard] at awaits
        exact recorded _ receipt o w awaits
    | reply rows oneTime resize =>
        rw [keyboard] at awaits
        exact recorded _ receipt o w awaits
    | remove =>
        rw [keyboard] at awaits
        exact recorded _ receipt o w awaits
  · rintro e o w ⟨awaits, _⟩
    exact awaits.1

theorem editText_meets (t : Target) (message : MessageId) (text : String)
    (mode : Option ParseMode) :
    Meets Watch.see (request (.editText t.chat message text mode)) (Awaits flow awaited)
      fun result o w => Awaits flow awaited o w ∧
        ∀ receipt, result = .ok receipt → (w.board t.chat message).rows = [] := by
  apply Meets.call
  rintro o w ⟨faithful, rfl⟩
  have kept : { o with
      messenger := o.messenger.after (.editText t.chat message text mode) }.Faithful flow
        w.board := faithful.congr rfl rfl
  cases o.messenger.result (.editText t.chat message text mode) with
  | error e =>
      refine ⟨⟨kept, rfl⟩, ?_⟩
      intro receipt absurd
      cases absurd
  | ok receipt =>
      refine ⟨⟨kept.put .empty, rfl⟩, ?_⟩
      intro _ _
      show ((w.board.put t.chat message {}) t.chat message).rows = []
      rw [Board.put_self]

/-- The payloads of a message are forgotten while it displays no keyboard. -/
theorem clear_meets (t : Target) (message : MessageId) :
    Meets Watch.see
      (modify fun o => { o with callbacks := o.callbacks.clear t.chat message } : Delivery Unit)
      (fun o w => Awaits flow rest o w ∧ (w.board t.chat message).rows = [])
      (Succeeds (Awaits flow rest)) := by
  apply Meets.change
  · exact fun _ => rfl
  · rintro o w ⟨⟨faithful, awaits⟩, blank⟩
    exact ⟨faithful.clear blank, awaits⟩

/-- The keyboards are attached, or nothing has changed. -/
def Edits (flow : Flow) (awaited rest : List InlineRows) : Except CallError Unit → Assertion Watch
  | .ok _ => Awaits flow rest
  | .error _ => Awaits flow awaited

/-- An edited message has lost its keyboard when the new buttons are attached. -/
theorem editScreen_meets {s : Screen} {message : MessageId} (plain : (Reply.screen s).Plain flow)
    (reachable : Reachable t.chat message) :
    Meets Watch.see (editScreen t s message) (Awaits flow (s.keyboard.rows ++ rest))
      (Edits flow (s.keyboard.rows ++ rest) rest) := by
  apply Meets.seq (editText_meets t message s.text s.format.parseMode)
  · rintro receipt o w ⟨awaits, blanked⟩
    have blank := blanked receipt rfl
    have recorded (r : MessageRecord) : Meets Watch.see (record r receipt) (Awaits flow rest)
        (Edits flow (s.keyboard.rows ++ rest) rest) :=
      (record_meets r receipt).of_succeeds fun _ _ _ => id
    have cleared (awaits : Awaits flow rest o w) :=
      (clear_meets t message).after
        (fun _ => recorded (.outgoing t.user s.text (some s.node))) o w ⟨awaits, blank⟩
    cases keyboard : s.keyboard with
    | inline rows =>
        have attached : Meets Watch.see (tryCatch (attach t message rows) fun _ => pure ())
            (fun o w => Awaits flow (rows :: rest) o w ∧ (w.board t.chat message).Yields rows)
            (Succeeds (Awaits flow rest)) := by
          apply (attach_meets (plain rows keyboard) reachable).rescue
          · exact fun _ _ _ => id
          · exact fun _ => .ret fun _ _ => id
        rw [keyboard] at awaits recorded
        exact attached.after (fun _ => recorded _) o w ⟨awaits, .inl blank⟩
    | none =>
        rw [keyboard] at awaits cleared
        exact cleared awaits
    | reply rows oneTime resize =>
        rw [keyboard] at awaits cleared
        exact cleared awaits
    | remove =>
        rw [keyboard] at awaits cleared
        exact cleared awaits
  · rintro e o w ⟨awaits, _⟩
    exact awaits

/-- Where the message cannot be edited, the screen is sent. -/
theorem showScreen_meets {s : Screen} {edit : Option MessageId}
    (plain : (Reply.screen s).Plain flow) (inRange : Number.Fits Number.signed64 t.chat)
    (editable : ∀ message, edit = some message → Number.Fits Number.signed32 message) :
    Meets Watch.see (showScreen t s edit) (Awaits flow (s.keyboard.rows ++ rest))
      (Serves flow rest) := by
  rw [showScreen]
  cases chosen : edit.filter fun _ => isEditable s with
  | none => exact sendScreen_meets plain inRange
  | some message =>
      have reachable : Reachable t.chat message :=
        ⟨inRange, editable message (Option.filter_eq_some_iff.1 chosen).1⟩
      apply (editScreen_meets plain reachable).rescue
      · exact fun _ _ _ => id
      · exact fun _ => sendScreen_meets plain inRange

/-- Replies that are messages of their own keep the store faithful, however far their delivery
gets. -/
theorem deliverFrom_meets {replies : List Reply} {editable : Option MessageId}
    (plain : ∀ r ∈ replies, r.Plain flow) (inRange : Number.Fits Number.signed64 t.chat)
    (origin : ∀ message, editable = some message → Number.Fits Number.signed32 message) :
    Meets Watch.see (deliverFrom t editable replies) (Awaits flow (replies.flatMap Reply.rows))
      fun _ => Fair flow := by
  induction replies generalizing editable with
  | nil => exact .ret fun _ _ awaits => awaits.1
  | cons reply replies ih =>
      have others : ∀ r ∈ replies, r.Plain flow := fun r listed =>
        plain r (List.mem_cons_of_mem _ listed)
      have first : reply.Plain flow := plain reply List.mem_cons_self
      rw [List.flatMap_cons]
      cases reply with
      | screen s =>
          apply (showScreen_meets first inRange origin).seq
          · intro _
            apply ih others
            intro message absurd
            cases absurd
          · exact fun _ _ _ => id
      | notice text =>
          apply (notice_meets t text).seq
          · intro _
            exact ih others origin
          · exact fun _ _ _ awaits => awaits.1
      | keyboard node rows => cases first

/-- A keyboard that takes the place of one with the same actions. -/
theorem deliver_keyboard_meets {node : NodeId} {rows : InlineRows} {message : MessageId}
    (drawn : flow.Draws rows) (reachable : Reachable t.chat message)
    (origin : t.origin = some message) :
    Meets Watch.see (deliver t [.keyboard node rows])
      (fun o w => Awaits flow [rows] o w ∧ (w.board t.chat message).Yields rows)
      fun _ => Fair flow := by
  rw [deliver, deliverFrom, origin]
  apply (attach_meets drawn reachable).seq
  · intro _
    exact .ret fun _ _ awaits => awaits.1
  · exact fun _ _ _ awaits => awaits.1

end Delivery

end Dialogue
