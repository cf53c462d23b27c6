/-
# Updates as happenings of the conversation

A bot receives messages and presses. Each of them lets at most one thing happen to the
conversation, and `Bot.happening?` says which; delivery and records never touch it. The
conversation of a bot after any list of updates is therefore a run in the sense of
`Conversation.run`, and what holds after every run holds of every bot.

A message can ask for a node by name, but only through a command, and an accepted flow has the
nodes of all its commands. So the one error that a name can cause does not reach the users of a
bot.
-/

import Dialogue.Bot
import Dialogue.Proofs.Conversation.Failure

namespace Dialogue

/-- What the messenger passes on. -/
inductive Update where
  | message (message : IncomingMessage)
  | press (press : IncomingPress)

/-- What a request lets happen to the conversation. -/
def CommandRequest.happening? (now : Time) (user : User) : CommandRequest → Option Happening
  | .handle trigger => some (.event now ⟨user, trigger⟩)
  | .profile => some (.inspect user.id)
  | _ => none

namespace Bot

variable {σ : Type} [ProfileStore σ]

/-- Handle an update. -/
def receive (b : Bot σ) (now : Time) : Update → Handled × Bot σ
  | .message m => b.handleMessage now m
  | .press p => b.handlePress now p

/-- Handle updates one after another, each at its time. -/
def receiveAll (b : Bot σ) (updates : List (Time × Update)) : Bot σ :=
  updates.foldl (fun b update => (b.receive update.1 update.2).2) b

/-- Acknowledge a press. -/
def acknowledge (b : Bot σ) (p : IncomingPress) : Handled × Bot σ :=
  b.carryOut (discard (Delivery.request (.answerCallback p.query)))

/-- What a message lets happen to the conversation. -/
def messageHappening? (b : Bot σ) (now : Time) (m : IncomingMessage) : Option Happening :=
  match m.text, m.sender with
  | some text, some sender => (b.request text).happening? now sender.known
  | _, _ => none

/-- What a press lets happen to the conversation. One that could not be acknowledged, or that comes
without its data or its message, lets nothing happen. -/
def pressHappening? (b : Bot σ) (now : Time) (p : IncomingPress) : Option Happening :=
  match b.acknowledge p with
  | (.done, b) =>
      match p.data, p.message with
      | some data, some _ =>
          (Action.parse? (b.outbox.callbacks.unpack data)).map fun action =>
            .event now ⟨p.sender.known, .act action⟩
      | _, _ => none
  | _ => none

/-- What an update lets happen to the conversation. -/
def happening? (b : Bot σ) (now : Time) : Update → Option Happening
  | .message m => b.messageHappening? now m
  | .press p => b.pressHappening? now p

/-! ## The conversation of a bot -/

theorem converse_conversation (b : Bot σ) (now : Time) (t : Target) (e : Event) :
    (b.converse now t e).2.conversation = (b.conversation.handle b.flow now e).2 ∧
      (b.converse now t e).2.flow = b.flow := by
  unfold converse
  dsimp only
  split
  · exact ⟨rfl, rfl⟩
  · exact ⟨rfl, rfl⟩
  · exact ⟨rfl, rfl⟩

theorem obey_conversation (b : Bot σ) (now : Time) (t : Target) (user : User)
    (r : CommandRequest) :
    (b.obey now t user r).2.conversation =
        b.conversation.run b.flow (r.happening? now user).toList ∧
      (b.obey now t user r).2.flow = b.flow := by
  cases r with
  | handle trigger => exact b.converse_conversation now t ⟨user, trigger⟩
  | help => exact ⟨rfl, rfl⟩
  | profile => exact ⟨rfl, rfl⟩
  | noSettings => exact ⟨rfl, rfl⟩
  | ignore => exact ⟨rfl, rfl⟩

theorem handleMessage_conversation (b : Bot σ) (now : Time) (m : IncomingMessage) :
    (b.handleMessage now m).2.conversation =
        b.conversation.run b.flow (b.messageHappening? now m).toList ∧
      (b.handleMessage now m).2.flow = b.flow := by
  unfold handleMessage messageHappening?
  cases m.text with
  | none => exact ⟨rfl, rfl⟩
  | some text =>
      cases m.sender with
      | none => exact ⟨rfl, rfl⟩
      | some sender =>
          exact obey_conversation (b.record (.incoming sender.known.id text m.id)) now _ _ _

theorem handleAction_conversation (b : Bot σ) (now : Time) (sender : User) (data : String)
    (chat : ChatId) (message : MessageId) :
    (b.handleAction now sender data chat message).2.conversation =
        b.conversation.run b.flow
          ((Action.parse? (b.outbox.callbacks.unpack data)).map fun action =>
            Happening.event now ⟨sender.known, .act action⟩).toList ∧
      (b.handleAction now sender data chat message).2.flow = b.flow := by
  unfold handleAction
  dsimp only
  cases Action.parse? (b.outbox.callbacks.unpack data) with
  | none => exact ⟨rfl, rfl⟩
  | some action => exact converse_conversation _ now _ _

theorem handlePress_conversation (b : Bot σ) (now : Time) (p : IncomingPress) :
    (b.handlePress now p).2.conversation =
        b.conversation.run b.flow (b.pressHappening? now p).toList ∧
      (b.handlePress now p).2.flow = b.flow := by
  have kept : (b.acknowledge p).2.conversation = b.conversation ∧
      (b.acknowledge p).2.flow = b.flow := ⟨rfl, rfl⟩
  rw [pressHappening?, ← kept.1, ← kept.2]
  unfold handlePress acknowledge
  generalize b.carryOut (discard (Delivery.request (.answerCallback p.query))) = acknowledged
  obtain ⟨result, after⟩ := acknowledged
  cases result with
  | failed error => exact ⟨rfl, rfl⟩
  | crashed => exact ⟨rfl, rfl⟩
  | done =>
      dsimp only
      cases p.data with
      | none => exact ⟨rfl, rfl⟩
      | some data =>
          cases p.message with
          | none => exact ⟨rfl, rfl⟩
          | some message =>
              exact after.handleAction_conversation now p.sender data message.1 message.2

/-- An update lets one thing happen to the conversation, or nothing. -/
theorem receive_conversation (b : Bot σ) (now : Time) (u : Update) :
    (b.receive now u).2.conversation = b.conversation.run b.flow (b.happening? now u).toList ∧
      (b.receive now u).2.flow = b.flow := by
  cases u with
  | message m => exact b.handleMessage_conversation now m
  | press p => exact b.handlePress_conversation now p

/-- The conversation of a bot after any updates is a run. -/
theorem exists_run_of_receiveAll (b : Bot σ) (updates : List (Time × Update)) :
    (b.receiveAll updates).flow = b.flow ∧
      ∃ happenings, (b.receiveAll updates).conversation = b.conversation.run b.flow happenings := by
  induction updates generalizing b with
  | nil => exact ⟨rfl, [], rfl⟩
  | cons update rest ih =>
      obtain ⟨now, u⟩ := update
      obtain ⟨conversation, flow⟩ := b.receive_conversation now u
      obtain ⟨kept, happenings, rest⟩ := ih (b.receive now u).2
      rw [flow] at kept rest
      refine ⟨kept, (b.happening? now u).toList ++ happenings, ?_⟩
      rw [Conversation.run_append, ← conversation]
      exact rest

end Bot

/-! ## Nodes asked for by name -/

namespace Flow

variable {f : Flow}

theorem commandNode?_resolves (accepted : f.Accepted) {name : String} {id : NodeId}
    (node : f.commandNode? name = some id) : (f.node? id).isSome := by
  obtain ⟨c, listed, leads⟩ := Option.bind_eq_some_iff.1 node
  exact accepted.command_resolves (List.mem_of_find?_eq_some listed) leads

/-- A command that asks for a node asks for one of the flow. -/
theorem route?_resolves (accepted : f.Accepted) {botName text : String} {id : NodeId}
    (routed : f.route? botName text = some (.handle (.enter id))) : (f.node? id).isSome := by
  unfold route? at routed
  split at routed
  · cases routed
  · split at routed
    · next builtin _ =>
        cases builtin with
        | settings =>
            unfold BuiltinCommand.request at routed
            dsimp only at routed
            split at routed
            · next node settings =>
                cases routed
                exact accepted.settings_resolves settings
            · cases routed
        | _ => cases routed
    · obtain ⟨c, _, asks⟩ := Option.map_eq_some_iff.1 routed
      unfold commandRequest at asks
      split at asks
      · next node leads =>
          cases asks
          exact commandNode?_resolves accepted leads
      · cases asks

end Flow

namespace Bot

variable {σ : Type}

theorem request_resolves {b : Bot σ} {text : String} {id : NodeId} (accepted : b.flow.Accepted)
    (asks : b.request text = .handle (.enter id)) : (b.flow.node? id).isSome := by
  unfold request at asks
  dsimp only at asks
  split at asks
  · cases routed : b.flow.route? b.name text with
    | none =>
        rw [routed] at asks
        cases asks
    | some request =>
        rw [routed] at asks
        obtain rfl : request = .handle (.enter id) := asks
        exact Flow.route?_resolves accepted routed
  · cases asks

/-- A node that an update asks for by name is one of the flow. -/
theorem happening?_resolves {b : Bot σ} {now : Time} {u : Update} {e : Event} {id : NodeId}
    (accepted : b.flow.Accepted) (happens : b.happening? now u = some (.event now e))
    (asked : e.trigger = .enter id) : (b.flow.node? id).isSome := by
  obtain ⟨user, trigger⟩ := e
  obtain rfl : trigger = .enter id := asked
  cases u with
  | message m =>
      unfold happening? messageHappening? at happens
      dsimp only at happens
      split at happens
      · next text sender _ _ =>
          have asks : b.request text = .handle (.enter id) := by
            cases asks : b.request text with
            | handle trigger =>
                rw [asks] at happens
                cases happens
                rfl
            | _ =>
                rw [asks] at happens
                cases happens
          exact request_resolves accepted asks
      · cases happens
  | press p =>
      unfold happening? pressHappening? at happens
      dsimp only at happens
      split at happens
      · split at happens
        · obtain ⟨action, _, same⟩ := Option.map_eq_some_iff.1 happens
          cases same
        · cases happens
      · cases happens

end Bot

namespace Conversation

variable {σ : Type} [ProfileStore σ]

/-- The session that an event finds after any run is true to the flow. -/
theorem sessionFor_run_valid (flow : Flow) (lifetime : Int) (profiles : σ)
    (happenings : List Happening) (now : Time) (e : Event) :
    ((((begin lifetime profiles).run flow happenings).sessionFor now e).1).Valid flow :=
  (sessionFor_all (run_valid flow lifetime profiles happenings) .fresh now e).1

/-- **When events fail.** In an accepted flow, after any run:

* an event fails exactly with the errors of `Fails`, that is, when it asks for a node that is not
  there, or enters a passage of more nodes than the limit that can be shown up to it;
* asking for a node that is not there leaves the session of the user as it was, and only the time
  of it is renewed;
* a command asks only for nodes that are there;
* no update of a bot leads to the error that a node is not there. -/
theorem failed_iff_of_run (flow : Flow) (accepted : flow.Accepted) (lifetime : Int) (profiles : σ) :
    (∀ happenings now e error,
      (((begin lifetime profiles).run flow happenings).handle flow now e).1 = .failed error ↔
        ((begin lifetime profiles).run flow happenings).Fails flow now e error) ∧
    (∀ happenings now e id, e.trigger = .enter id → flow.node? id = none →
      let c := (begin lifetime profiles).run flow happenings
      (c.handle flow now e).2.sessions =
        (c.sessions.get e.user.id now).2.save e.user.id (c.sessions.get e.user.id now).1 now) ∧
    (∀ botName text id, flow.route? botName text = some (.handle (.enter id)) →
      (flow.node? id).isSome) ∧
    (∀ (b : Bot σ) updates now u e source target,
      b.flow = flow → b.conversation = begin lifetime profiles →
      (b.receiveAll updates).happening? now u = some (.event now e) →
      ((b.receiveAll updates).conversation.handle flow now e).1 ≠
        .failed (.unknownNode source target)) := by
  have failed (happenings : List Happening) (now : Time) (e : Event) (error : FlowError) :
      (((begin lifetime profiles).run flow happenings).handle flow now e).1 = .failed error ↔
        ((begin lifetime profiles).run flow happenings).Fails flow now e error :=
    handle_failed_iff accepted (sessionFor_run_valid flow lifetime profiles happenings now e)
  refine ⟨failed, ?_, ?_, ?_⟩
  · intro happenings now e id asked missing c
    exact sessions_of_unknown asked missing
  · intro botName text id routed
    exact Flow.route?_resolves accepted routed
  · intro b updates now u e source target hasFlow begins happens failure
    obtain ⟨sameFlow, happenings, isRun⟩ := b.exists_run_of_receiveAll updates
    rw [isRun, hasFlow, begins, failed] at failure
    cases failure with
    | unknown asked missing =>
        have acceptedToo : (b.receiveAll updates).flow.Accepted := by
          rw [sameFlow, hasFlow]
          exact accepted
        have resolves := Bot.happening?_resolves acceptedToo happens asked
        rw [sameFlow, hasFlow, missing] at resolves
        cases resolves

/-- A stair on the way up. -/
def stair (number : Nat) : Node where
  id := toString number
  text := "up"
  next := some (toString (number + 1))

/-- A stair with a link, in a row that cannot be set aside. -/
def crampedStair : Node where
  id := "cramped"
  text := "up"
  keyboard := some
    { columns := Nat.pow 2 57, buttons := [{ text := "map", url := some "https://example.com" }] }
  next := some "1"

/-- The stairs from the second one on. -/
def flight : List Node := (List.range' 1 63).map stair ++ [{ id := "64", text := "here" }]

/-- A flow with two passages of 65 nodes that differ in the first node only. -/
def stairs : Flow where
  name := "stairs"
  start := "cramped"
  nodes := crampedStair :: stair 0 :: flight

theorem flight_chain : stairs.Chain "1" flight := by decide +kernel

theorem stairs_chain : stairs.Chain "0" (stair 0 :: flight) := .pass rfl rfl flight_chain

theorem crampedStairs_chain : stairs.Chain "cramped" (crampedStair :: flight) :=
  .pass rfl rfl flight_chain

theorem stairs_accepted : stairs.Accepted := by
  have distinct : Flow.firstRepeated? [] (stairs.nodes.map (·.id)) = none := by decide +kernel
  have resolved : ∀ n ∈ stairs.nodes,
      n.fault? = none ∧ ∀ target ∈ n.targets, (stairs.node? target).isSome := by decide +kernel
  refine Flow.accepted_iff.2 ⟨nofun, distinct, rfl, resolved, nofun, nofun, nofun, ?_⟩
  intro n listed
  rcases List.mem_cons.1 listed with rfl | listed
  · exact Flow.circleOf?_eq_none_of_chain crampedStairs_chain
  · obtain ⟨front, back, split⟩ := List.append_of_mem listed
    have chain : stairs.Chain "0" (front ++ n :: back) := split ▸ stairs_chain
    exact Flow.circleOf?_eq_none_of_chain chain.suffix

/-- The passage of 65 nodes that can be shown is cut off. -/
theorem stairs_failed :
    stairs.Accepted ∧
      ((begin 100 ({} : MemoryStore)).handle stairs 0 ⟨{ id := 7 }, .enter "0"⟩).1 =
        .failed (.autoAdvanceLimit "0" 64) := by
  have failed := (failed_iff_of_run stairs stairs_accepted 100 ({} : MemoryStore)).1 []
    0 ⟨{ id := 7 }, .enter "0"⟩ (.autoAdvanceLimit "0" 64)
  have drawn : ∀ n ∈ (stair 0 :: flight).take maxAutoAdvance, n.fits := by decide
  exact ⟨stairs_accepted, failed.2 (.endless rfl stairs_chain (by decide) drawn)⟩

/-- The passage of 65 nodes that begins without room is not cut off at the limit: it crashes. -/
theorem stairs_crashed :
    stairs.Accepted ∧
      (begin 100 ({} : MemoryStore)).entered? stairs 0 ⟨{ id := 7 }, .start⟩ = some "cramped" ∧
      (∃ chain, stairs.Chain "cramped" chain ∧ maxAutoAdvance < chain.length) ∧
      ((begin 100 ({} : MemoryStore)).handle stairs 0 ⟨{ id := 7 }, .start⟩).1 = .crashed := by
  refine ⟨stairs_accepted, rfl, ⟨_, crampedStairs_chain, ?_⟩, ?_⟩
  · decide
  · decide +kernel

end Conversation

end Dialogue
