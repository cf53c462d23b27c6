/-
# A press does what its button shows

A bot is followed through any updates, with any calls failing and new messages numbered in any way.
Beside it goes a board, which has for each message the inline keyboard that users see and the rows
that it was drawn from. Presses are genuine: each gives back the data of a callback button that its
message displays at the time. Then the data of every displayed button are read as the text of the
action that the button was drawn with.

That the presses are genuine is needed because a toggle replaces the keyboard of the pressed
message. A press that did not come from that keyboard could make the store forget what is displayed.
-/

import Dialogue.Proofs.Bot.Updates
import Dialogue.Proofs.Delivery.Display

namespace Dialogue

/-- The displayed button of a place. -/
def Display.button? (d : Display) (i j : Nat) : Option InlineButton := d.markup[i]?.bind (·[j]?)

/-- The button that was drawn for a place. -/
def Display.drawn? (d : Display) (i j : Nat) : Option ScreenButton :=
  d.rows.legible[i]?.bind (·[j]?)

/-- The inline keyboards that an outcome brings, in the order of the replies. -/
def Outcome.keyboards : Outcome → List InlineRows
  | .replies answers => answers.flatMap Reply.rows
  | _ => []

/-- A press gives back the data of a callback button that its message displays. -/
def Update.Genuine (board : Board) : Update → Prop
  | .message m => Number.Fits Number.signed64 m.chat
  | .press p => ∀ data chat message, p.data = some data → p.message = some (chat, message) →
      ∃ i j label, (board chat message).button? i j = some (.callback label data)

/-- No command asks for the action of an inline button. -/
theorem Flow.route?_ne_act {f : Flow} {botName text : String} {action : Action} :
    f.route? botName text ≠ some (.handle (.act action)) := by
  rw [route?]
  split
  · intro absurd
    cases absurd
  · split
    · next builtin _ =>
        cases builtin with
        | settings =>
            unfold BuiltinCommand.request
            dsimp only
            split
            · intro absurd
              cases absurd
            · intro absurd
              cases absurd
        | _ =>
            intro absurd
            cases absurd
    · intro routed
      obtain ⟨c, _, asks⟩ := Option.map_eq_some_iff.1 routed
      rw [commandRequest] at asks
      split at asks
      · cases asks
      · cases asks

namespace Bot

variable {σ : Type}

/-- The calls from one state of a bot to another leave the store faithful to what is displayed. -/
def Leads (b b' : Bot σ) (w : Watch) : Prop :=
  ∃ calls, b'.outbox.messenger.log = b.outbox.messenger.log ++ calls ∧
    b'.outbox.Faithful b.flow (calls.foldl Watch.see w).board

theorem leads_refl {b : Bot σ} {w : Watch} (faithful : b.outbox.Faithful b.flow w.board) :
    b.Leads b w :=
  ⟨[], (List.append_nil _).symm, faithful⟩

theorem leads_carryOut {b : Bot σ} {d : Delivery Unit} {pre : Delivery.Assertion Watch} {w : Watch}
    (meets : Delivery.Meets Watch.see d pre fun _ => Delivery.Fair b.flow)
    (holds : pre b.outbox w) : b.Leads (b.carryOut d).2 w :=
  meets b.outbox w holds

theorem leads_notice {b : Bot σ} {w : Watch} (t : Target) (text : String)
    (faithful : b.outbox.Faithful b.flow w.board) : b.Leads (b.carryOut (.notice t text)).2 w := by
  refine leads_carryOut ((Delivery.notice_meets t text).weaken ?_) ⟨faithful, rfl⟩
  exact fun _ _ _ awaits => awaits.1

/-- The action of a genuine press is one that its message was drawn with. -/
theorem mem_actions_of_displayed {b : Bot σ} {board : Board} {chat : ChatId} {message : MessageId}
    {i j : Nat} {label data : String} {action : Action} (faithful : b.outbox.Faithful b.flow board)
    (addressable : b.flow.Addressable)
    (displayed : (board chat message).button? i j = some (.callback label data))
    (read : Action.parse? (b.outbox.callbacks.unpack data) = some action) :
    action ∈ (board chat message).rows.actions ∧ Reachable chat message := by
  have backed := faithful.displays chat message
  obtain ⟨drawn, here, spelled⟩ := backed.exists_action addressable displayed
  rw [spelled] at read
  obtain rfl : action = drawn := Action.eq_of_parse?_text read
  have listed := InlineRows.mem_actions_of_legible here
  refine ⟨listed, ?_⟩
  rcases backed.genuine with blank | ⟨_, reachable⟩
  · rw [blank] at listed
    cases listed
  · exact reachable

variable [ProfileStore σ]

/-- The inline keyboards that the replies to a happening bring. -/
def keyboardsOf (b : Bot σ) : Option Happening → List InlineRows
  | some (.event now e) => (b.conversation.handle b.flow now e).1.keyboards
  | _ => []

/-- The inline keyboards that the replies to an update bring. -/
def keyboards (b : Bot σ) (now : Time) (u : Update) : List InlineRows :=
  b.keyboardsOf (b.happening? now u)

/-- The calls that a bot makes while it handles an update. -/
def callsOf (b : Bot σ) (now : Time) (u : Update) : List CallEntry :=
  (b.receive now u).2.outbox.messenger.log.drop b.outbox.messenger.log.length

/-- What messages display after an update. -/
def boardAfter (b : Bot σ) (now : Time) (u : Update) (board : Board) : Board :=
  ((b.callsOf now u).foldl Watch.see ⟨board, b.keyboards now u⟩).board

/-- A bot comes to a state by genuine updates, and the board shows what messages display then. -/
inductive Reaches (start : Bot σ) : Bot σ → Board → Prop where
  | start : Reaches start start .blank
  | update {b : Bot σ} {board : Board} (reached : Reaches start b board) (now : Time) (u : Update)
      (genuine : u.Genuine board) : Reaches start (b.receive now u).2 (b.boardAfter now u board)

/-- The replies to an event are delivered. A toggle must come from the message that it replaces the
keyboard of. -/
theorem leads_converse {b : Bot σ} {board : Board} (now : Time) {t : Target} {e : Event}
    (faithful : b.outbox.Faithful b.flow board) (inRange : Number.Fits Number.signed64 t.chat)
    (origin : ∀ message, t.origin = some message → Number.Fits Number.signed32 message)
    (toggles : ∀ id index, e.trigger = .act (.toggle id index) →
      ∃ message, t.origin = some message ∧
        .toggle id index ∈ (board t.chat message).rows.actions) :
    b.Leads (b.converse now t e).2 ⟨board, (b.conversation.handle b.flow now e).1.keyboards⟩ := by
  have outcome := Conversation.handle_outcome b.flow now e b.conversation
  unfold converse
  dsimp only
  generalize (b.conversation.handle b.flow now e).1 = answer at outcome
  cases answer with
  | crashed => exact leads_refl faithful
  | failed error => exact leads_notice t error.notice faithful
  | replies replies =>
      have said : replies = (b.conversation.turn b.flow now e).replies := by
        rw [Conversation.outcomeOf] at outcome
        split at outcome
        · exact Outcome.replies.inj outcome
        · cases outcome
        · cases outcome
      rcases Conversation.replies_turn b.flow now e b.conversation with
        plain | ⟨n, m, index, selected, rows, asks, found, selects, drawn, keyboard⟩
      · rw [← said] at plain
        exact leads_carryOut (Delivery.deliverFrom_meets plain inRange origin) ⟨faithful, rfl⟩
      · rw [← said] at keyboard
        subst keyboard
        obtain ⟨message, pressed, listed⟩ := toggles n.id index asks
        have shown := (faithful.displays t.chat message).genuine
        have yields : (board t.chat message).Yields rows := by
          rcases shown with blank | ⟨old, _⟩
          · exact .inl blank
          · obtain ⟨n', m', found', selects', actions⟩ := old.actions_of_toggle listed
            obtain rfl : n = n' := Option.some.inj (found.symm.trans found')
            obtain rfl : m = m' := Option.some.inj (selects.symm.trans selects')
            right
            rw [actions, InlineRows.actions_of_selectRows? drawn]
        exact leads_carryOut
          (Delivery.deliver_keyboard_meets (.selection found selects drawn)
            ⟨inRange, origin message pressed⟩ pressed) ⟨⟨faithful, rfl⟩, yields⟩

/-! ## Messages -/

omit [ProfileStore σ] in
/-- No text asks for the action of an inline button. -/
theorem request_ne_act (b : Bot σ) (text : String) (action : Action) :
    b.request text ≠ .handle (.act action) := by
  rw [request]
  split
  · cases routed : b.flow.route? b.name text with
    | none =>
        intro absurd
        cases absurd
    | some request =>
        rintro rfl
        exact Flow.route?_ne_act routed
  · intro absurd
    cases absurd

theorem leads_obey {b : Bot σ} {board : Board} (now : Time) {t : Target} (user : User)
    {r : CommandRequest} (faithful : b.outbox.Faithful b.flow board)
    (inRange : Number.Fits Number.signed64 t.chat) (noOrigin : t.origin = none)
    (noAction : ∀ action, r ≠ .handle (.act action)) :
    b.Leads (b.obey now t user r).2 ⟨board, b.keyboardsOf (r.happening? now user)⟩ := by
  cases r with
  | handle trigger =>
      apply leads_converse now faithful inRange
      · intro message absurd
        rw [noOrigin] at absurd
        cases absurd
      · rintro id index rfl
        exact absurd rfl (noAction _)
  | help => exact leads_notice t b.flow.help faithful
  | profile => exact leads_notice t _ faithful
  | noSettings => exact leads_notice t noSettingsText faithful
  | ignore => exact leads_refl faithful

/-- Handling a message keeps the store faithful. -/
theorem leads_handleMessage {b : Bot σ} {board : Board} (now : Time) {m : IncomingMessage}
    (faithful : b.outbox.Faithful b.flow board) (inRange : Number.Fits Number.signed64 m.chat) :
    b.Leads (b.handleMessage now m).2 ⟨board, b.keyboards now (.message m)⟩ := by
  unfold handleMessage keyboards happening? messageHappening?
  dsimp only
  cases m.text with
  | none => exact leads_refl faithful
  | some text =>
      cases m.sender with
      | none => exact leads_refl faithful
      | some sender =>
          have recorded : (b.record (.incoming sender.known.id text m.id)).outbox.Faithful b.flow
              board := faithful.congr rfl rfl
          exact leads_obey now sender.known recorded inRange rfl (b.request_ne_act text)

/-! ## Presses -/

theorem leads_handleAction {b : Bot σ} {board : Board} (now : Time) (sender : User) {data : String}
    {chat : ChatId} {message : MessageId} {i j : Nat} {label : String}
    (faithful : b.outbox.Faithful b.flow board) (addressable : b.flow.Addressable)
    (displayed : (board chat message).button? i j = some (.callback label data)) :
    b.Leads (b.handleAction now sender data chat message).2
      ⟨board, b.keyboardsOf ((Action.parse? (b.outbox.callbacks.unpack data)).map fun action =>
        .event now ⟨sender.known, .act action⟩)⟩ := by
  unfold handleAction
  dsimp only
  cases read : Action.parse? (b.outbox.callbacks.unpack data) with
  | none => exact leads_refl faithful
  | some action =>
      obtain ⟨listed, reachable⟩ := mem_actions_of_displayed faithful addressable displayed read
      have recorded (r : MessageRecord) : (b.record r).outbox.Faithful b.flow board :=
        faithful.congr rfl rfl
      apply leads_converse now (recorded _) reachable.chat
      · intro pressed same
        cases same
        exact reachable.message
      · rintro id index same
        cases same
        exact ⟨message, rfl, listed⟩

omit [ProfileStore σ] in
theorem acknowledge_outbox (b : Bot σ) (p : IncomingPress) :
    (b.acknowledge p).2.outbox =
      { b.outbox with messenger := b.outbox.messenger.after (.answerCallback p.query) } := by
  show ((discard (Delivery.request (.answerCallback p.query)) : Delivery Unit) b.outbox).2 = _
  rw [Delivery.discard_apply]
  rfl

omit [ProfileStore σ] in
/-- The acknowledgement of a press does not change what is displayed. -/
theorem leads_of_acknowledge {b b' : Bot σ} {w : Watch} {p : IncomingPress}
    (leads : (b.acknowledge p).2.Leads b' w) : b.Leads b' w := by
  obtain ⟨calls, log, after⟩ := leads
  rw [acknowledge_outbox] at log
  refine ⟨_ :: calls, log.trans (List.append_cons _ _ _).symm, ?_⟩
  have unseen : w.see ⟨.answerCallback p.query,
      b.outbox.messenger.result (.answerCallback p.query)⟩ = w := by
    cases b.outbox.messenger.result (.answerCallback p.query) with
    | ok receipt => rfl
    | error e => rfl
  rw [List.foldl_cons, unseen]
  exact after

/-- Handling a genuine press keeps the store faithful. -/
theorem leads_handlePress {b : Bot σ} {board : Board} (now : Time) {p : IncomingPress}
    (faithful : b.outbox.Faithful b.flow board) (addressable : b.flow.Addressable)
    (genuine : (Update.press p).Genuine board) :
    b.Leads (b.handlePress now p).2 ⟨board, b.keyboards now (.press p)⟩ := by
  apply leads_of_acknowledge
  have acknowledged : (b.acknowledge p).2.outbox.Faithful b.flow board := by
    rw [acknowledge_outbox]
    exact faithful.congr rfl rfl
  have same : b.keyboardsOf = (b.acknowledge p).2.keyboardsOf := rfl
  have flow : b.flow = (b.acknowledge p).2.flow := rfl
  rw [keyboards, happening?, pressHappening?, same]
  rw [flow] at acknowledged addressable
  have opens : b.carryOut (discard (Delivery.request (.answerCallback p.query))) =
      b.acknowledge p := rfl
  rw [handlePress, opens]
  generalize b.acknowledge p = answer at acknowledged addressable ⊢
  obtain ⟨handled, b'⟩ := answer
  cases handled with
  | failed e => exact leads_refl acknowledged
  | crashed => exact leads_refl acknowledged
  | done =>
      cases data : p.data with
      | none => exact leads_refl acknowledged
      | some given =>
          cases origin : p.message with
          | none => exact leads_refl acknowledged
          | some place =>
              obtain ⟨chat, message⟩ := place
              obtain ⟨i, j, label, displayed⟩ := genuine given chat message data origin
              exact leads_handleAction now p.sender acknowledged addressable displayed

/-! ## Runs -/

/-- What a genuine update keeps. -/
theorem faithful_receive {b : Bot σ} {board : Board} (now : Time) {u : Update}
    (faithful : b.outbox.Faithful b.flow board) (addressable : b.flow.Addressable)
    (genuine : u.Genuine board) :
    (b.receive now u).2.outbox.Faithful b.flow (b.boardAfter now u board) := by
  have leads : b.Leads (b.receive now u).2 ⟨board, b.keyboards now u⟩ := by
    cases u with
    | message m => exact leads_handleMessage now faithful genuine
    | press p => exact leads_handlePress now faithful addressable genuine
  obtain ⟨calls, log, after⟩ := leads
  have made : b.callsOf now u = calls := by
    rw [callsOf, log, List.drop_left]
  rw [boardAfter, made]
  exact after

/-- The store stays faithful to what is displayed. -/
theorem Reaches.faithful {start b : Bot σ} {board : Board} (reaches : start.Reaches b board)
    (addressable : start.flow.Addressable) (numbered : start.outbox.messenger.Numbered) :
    b.flow = start.flow ∧ b.outbox.Faithful b.flow board := by
  induction reaches with
  | start => exact ⟨rfl, fun _ _ => .empty, numbered⟩
  | @update b board _ now u genuine ih =>
      obtain ⟨same, faithful⟩ := ih
      have kept := (b.receive_conversation now u).2
      refine ⟨kept.trans same, ?_⟩
      rw [kept]
      rw [← same] at addressable
      exact faithful_receive now faithful addressable genuine

/-- **A press does what its button shows.** Whatever updates a bot has received and whatever calls
have failed, each callback button that a message displays stands in the place of a button that was
drawn with its label and with some action, and the data of the button are read as the text of that
action. -/
theorem unpack_of_displayed (start b : Bot σ) (board : Board) (addressable : start.flow.Addressable)
    (numbered : start.outbox.messenger.Numbered) (reaches : start.Reaches b board) (chat : ChatId)
    (message : MessageId) (i j : Nat) (label data : String)
    (displayed : (board chat message).button? i j = some (.callback label data)) :
    ∃ action : Action, (board chat message).drawn? i j = some ⟨label, .act action⟩ ∧
      b.outbox.callbacks.unpack data = action.text := by
  obtain ⟨same, faithful⟩ := reaches.faithful addressable numbered
  rw [← same] at addressable
  exact (faithful.displays chat message).exists_action addressable displayed

/-- A flow whose one node has a name that does not fit on a button. -/
def tavern : Flow where
  name := "tavern"
  start := "напитки"
  nodes := [
    { id := "напитки", text := "Что вам налить?",
      multiSelect := some
        { variableName := "drinks", options := [{ text := "чай" }, { text := "кофе" }] } }]

/-- The bot of the tavern. The messenger refuses its fourth call. -/
def barkeeper : Bot MemoryStore where
  flow := tavern
  name := "barkeeper"
  conversation := .begin 100 {}
  outbox :=
    { messenger :=
        { answer := fun log _ => if log.length = 3 then .refused "busy" else .accepted none
          number := fun log _ => 1001 + min log.length 1000 } }

/-- A guest comes in: a message is sent, and its buttons are attached. -/
def entrance : Update :=
  .message { chat := 7, id := 1, sender := some { id := 7 }, text := some "/start" }

/-- The guest toggles an option. The press is acknowledged, but the new keyboard is refused. -/
def order : Update :=
  .press { query := "q", sender := { id := 7 }, data := some "cb:7:1001:1",
           message := some (7, 1001) }

/-- The bot when the guest has come in. -/
def served : Bot MemoryStore := (barkeeper.receive 0 entrance).2

/-- What messages display then. -/
def servedBoard : Board := barkeeper.boardAfter 0 entrance .blank

/-- The bot after the order. -/
def ordered : Bot MemoryStore := (served.receive 1 order).2

/-- What messages display after the order. -/
def orderedBoard : Board := served.boardAfter 1 order servedBoard

theorem served_displays :
    (servedBoard 7 1001).button? 1 0 = some (.callback "кофе" "cb:7:1001:1") := by
  decide +kernel

theorem barkeeper_addressable : barkeeper.flow.Addressable := by
  constructor
  · decide
  · intro n listed m selects
    obtain rfl := List.mem_singleton.1 listed
    cases selects
    decide

theorem barkeeper_numbered : barkeeper.outbox.messenger.Numbered := by
  intro log call
  show Number.Fits Number.signed32 (1001 + (min log.length 1000 : Nat))
  have limit : Number.signed32 = 2147483648 := rfl
  rw [Number.Fits, limit]
  omega

theorem ordered_reached : barkeeper.Reaches ordered orderedBoard := by
  have inRange : Number.Fits Number.signed64 7 := by decide
  have comes : barkeeper.Reaches served servedBoard := .update .start 0 entrance inRange
  apply comes.update 1 order
  intro data chat message given place
  cases given
  cases place
  exact ⟨1, 0, "кофе", served_displays⟩

/-- The keyboard that is still displayed can be read, although the store was filled for another. -/
theorem ordered_unpack :
    (orderedBoard 7 1001).button? 0 0 = some (.callback "чай" "cb:7:1001:0") ∧
      ordered.outbox.callbacks.unpack "cb:7:1001:0" = "t:напитки:0" := by
  have displayed : (orderedBoard 7 1001).button? 0 0 = some (.callback "чай" "cb:7:1001:0") := by
    decide +kernel
  have drawn : (orderedBoard 7 1001).drawn? 0 0 = some ⟨"чай", .act (.toggle "напитки" 0)⟩ := by
    decide +kernel
  obtain ⟨action, drawn', read⟩ := unpack_of_displayed barkeeper ordered orderedBoard
    barkeeper_addressable barkeeper_numbered ordered_reached 7 1001 0 0 "чай" "cb:7:1001:0"
    displayed
  rw [drawn] at drawn'
  cases drawn'
  exact ⟨displayed, read⟩

end Bot

end Dialogue
