/-
# Profiles hold only what the flow grants

The answers of a user are written from three places: a prompt that accepted a text, a button that
was pressed, and a selection that was ended. `Flow.Grants` says which value a variable may have on
account of each. After any run every entry of every profile is granted, and one event changes at
most one variable of its own user.

The user may press buttons of nodes that were left long ago, or end a selection from another node.
This does no harm, because sessions stay true to the flow, and because an accepted answer is
accepted again as it is.
-/

import Dialogue.Proofs.Answer.Forms
import Dialogue.Proofs.Conversation.Validity
import Dialogue.Proofs.Profile.Ledger

namespace Dialogue

/-- A variable may have a value: the flow has a node that gives it. -/
inductive Flow.Grants (flow : Flow) : String → Value → Prop where
  /-- The value answers a prompt, which accepts it as it is. -/
  | answer {n : Node} {p : Prompt} {text : String} (listed : n ∈ flow.nodes)
      (asks : n.input = some p) (fixed : p.accept text = .ok text) :
      flow.Grants p.variableName (.text text)
  /-- The value is that of a button. -/
  | button {n : Node} {b : Button} {name : String} (listed : n ∈ flow.nodes)
      (named : n.variableName = some name) (offered : b ∈ n.buttons) :
      flow.Grants name (.text b.answer)
  /-- The value is a selection of distinct options, and large enough. -/
  | selection {n : Node} {m : MultiSelect} {values : List String} (listed : n ∈ flow.nodes)
      (selects : n.multiSelect = some m) (admitted : m.Admits values)
      (enough : m.minSelected ≤ values.length) :
      flow.Grants m.variableName (.ofTexts values)

/-- What a move stores is granted. -/
theorem Move.answer?_granted {flow : Flow} {s : Session} {trigger : Trigger} {move : Move}
    {key : String} {value : Value} (valid : s.Valid flow)
    (justified : move.Justified flow s trigger) (stores : move.answer? s = some (key, value)) :
    flow.Grants key value := by
  cases move with
  | press n b =>
      obtain ⟨found, offered⟩ := justified
      obtain ⟨name, named, pair⟩ := Option.map_eq_some_iff.1 stores
      cases pair
      exact .button (Flow.mem_of_node? found) named offered
  | finish n m =>
      obtain ⟨found, selects, enough⟩ := justified
      cases stores
      exact .selection (Flow.mem_of_node? found) selects (valid.selected_admitted found selects)
        enough
  | accept p text =>
      obtain ⟨waiting, said, accepted⟩ := justified
      obtain ⟨_, n, found, asks, _⟩ := valid.pending p waiting
      cases stores
      exact .answer (Flow.mem_of_node? found) asks (Prompt.accept_of_accept accepted)
  | _ => cases stores

/-! ## What an event does to the profiles -/

/-- One profile may have got one more answer, and nothing else has changed. -/
structure ProfileStore.Ledger.Changes {σ : Type} [ProfileStore σ] (ledger : ProfileStore.Ledger σ)
    (before after : σ) (user : UserId) (answer : Option (String × Value)) : Prop where
  sound : ledger.Sound after
  stored : ∀ other, ledger.stored after other = ledger.stored before other ∨
    other = user ∧ ∃ key value, answer = some (key, value) ∧
      ledger.stored after other = (ledger.stored before other).insert key value

namespace Conversation

variable {σ : Type} [ProfileStore σ] (ledger : ProfileStore.Ledger σ) (flow : Flow)
  {c : Conversation σ}

/-- The answer that an event stores. -/
def answerOf? (flow : Flow) (now : Time) (e : Event) (c : Conversation σ) :
    Option (String × Value) :=
  (c.moveOf flow now e).answer? (c.sessionFor now e).1

/-- The first two calls of an event note that the user has written and store the answer. -/
theorem changes_keep (now : Time) (e : Event) (answer : Option (String × Value))
    (sound : ledger.Sound c.profiles) :
    ledger.Changes c.profiles ((c.opened now e).keep e.user.id answer).profiles e.user.id
      answer := by
  obtain ⟨recorded, same⟩ := ledger.record e.user sound
  cases answer with
  | none =>
      refine ⟨recorded, ?_⟩
      intro user
      exact .inl (congrFun same user)
  | some answer =>
      obtain ⟨key, value⟩ := answer
      obtain ⟨written, changes⟩ := ledger.write e.user.id key value recorded
      refine ⟨written, ?_⟩
      intro user
      rw [← same]
      rcases changes user with unchanged | ⟨own, changed⟩
      · exact .inl unchanged
      · exact .inr ⟨own, key, value, rfl, changed⟩

/-- An event changes the profiles by storing its answer, and not otherwise. -/
theorem changes_handle (now : Time) (e : Event) (sound : ledger.Sound c.profiles) :
    ledger.Changes c.profiles (c.handle flow now e).2.profiles e.user.id
      (c.answerOf? flow now e) := by
  rw [handle_profiles]
  refine Turn.profiles_perform
    (P := fun s => ledger.Changes c.profiles s e.user.id (c.answerOf? flow now e)) ?_ _ ?_
  · intro s changes
    obtain ⟨read, unchanged⟩ := ledger.read e.user.id changes.sound
    refine ⟨read, ?_⟩
    rw [unchanged]
    exact changes.stored
  · exact changes_keep ledger now e (c.answerOf? flow now e) sound

variable {flow}

/-- Every entry of every profile is granted. -/
def Granted (flow : Flow) (c : Conversation σ) : Prop :=
  ∀ user key value, (ledger.stored c.profiles user).get? key = some value → flow.Grants key value

/-- Sessions are true to the flow, and profiles hold what the flow grants. -/
structure Honest (flow : Flow) (c : Conversation σ) : Prop where
  sessions : c.sessions.All (Session.Valid flow)
  sound : ledger.Sound c.profiles
  granted : c.Granted ledger flow

variable {ledger}

/-- The entries after an event are those before, and the answer that it stored. -/
theorem Honest.granted_handle (honest : c.Honest ledger flow) (now : Time) (e : Event) :
    (c.handle flow now e).2.Granted ledger flow := by
  intro user key value entry
  have changes := changes_handle ledger flow now e honest.sound
  rcases changes.stored user with unchanged | ⟨_, key', value', answers, changed⟩
  · rw [unchanged] at entry
    exact honest.granted user key value entry
  · rw [changed] at entry
    rcases Table.get?_insert_eq_some_iff.1 entry with ⟨rfl, rfl⟩ | ⟨_, old⟩
    · have valid : (c.sessionFor now e).1.Valid flow :=
        (sessionFor_all honest.sessions .fresh now e).1
      exact Move.answer?_granted valid (Session.move_justified flow _ e.trigger) answers
    · exact honest.granted user key value old

theorem Honest.step (honest : c.Honest ledger flow) (happening : Happening) :
    (c.step flow happening).2.Honest ledger flow := by
  have sessions := step_all .fresh (turn_valid flow) happening honest.sessions
  cases happening with
  | event now e =>
      have changes := changes_handle ledger flow now e honest.sound
      exact ⟨sessions, changes.sound, honest.granted_handle now e⟩
  | purge now => exact ⟨sessions, honest.sound, honest.granted⟩
  | reset user => exact ⟨sessions, honest.sound, honest.granted⟩
  | inspect user =>
      obtain ⟨read, unchanged⟩ := ledger.read user honest.sound
      refine ⟨sessions, read, ?_⟩
      intro user key value entry
      apply honest.granted user key value
      rw [← unchanged]
      exact entry

/-- A conversation that begins with an empty store stays honest. -/
theorem honest_run {profiles : σ} (sound : ledger.Sound profiles)
    (empty : ∀ user, ledger.stored profiles user = ∅) (flow : Flow) (lifetime : Int)
    (happenings : List Happening) :
    ((begin lifetime profiles).run flow happenings).Honest ledger flow := by
  apply run_induction
  · intro c happening honest
    exact honest.step happening
  · refine ⟨?_, sound, ?_⟩
    · intro user session saved stored
      cases stored
    · intro user key value entry
      change (ledger.stored profiles user).get? key = some value at entry
      rw [empty user] at entry
      cases entry

/-- **Profiles keep their integrity.** Let a conversation begin with an empty store that only it
writes to. After any run every entry of every profile is an answer that its prompt accepts as it is,
the value of a button, or a large enough selection of distinct options, at a node that has the
variable of the entry. The next event leaves the profiles of all other users alone and changes at
most one variable of its own user. -/
theorem granted_of_run (ledger : ProfileStore.Ledger σ) (flow : Flow) (lifetime : Int)
    (profiles : σ) (sound : ledger.Sound profiles)
    (empty : ∀ user, ledger.stored profiles user = ∅) (happenings : List Happening)
    (before : Conversation σ) (reached : (begin lifetime profiles).run flow happenings = before) :
    (∀ user key value, (ledger.stored before.profiles user).get? key = some value →
        flow.Grants key value) ∧
      ∀ now e after, (before.handle flow now e).2 = after →
        (∀ user, user ≠ e.user.id →
          ledger.stored after.profiles user = ledger.stored before.profiles user) ∧
        ∃ key, ∀ other, other ≠ key →
          (ledger.stored after.profiles e.user.id).get? other =
            (ledger.stored before.profiles e.user.id).get? other := by
  have honest : before.Honest ledger flow := by
    rw [← reached]
    exact honest_run sound empty flow lifetime happenings
  refine ⟨honest.granted, ?_⟩
  rintro now e after rfl
  have changes := (changes_handle ledger flow now e honest.sound).stored
  constructor
  · intro user foreign
    rcases changes user with unchanged | ⟨own, _⟩
    · exact unchanged
    · exact absurd own foreign
  · rcases changes e.user.id with unchanged | ⟨_, key, value, _, changed⟩
    · refine ⟨"", ?_⟩
      intro other _
      rw [unchanged]
    · refine ⟨key, ?_⟩
      intro other differs
      rw [changed, Table.get?_insert, if_neg differs]

/-- A user selects a drink, ends the selection and says a name. -/
def order : List Happening :=
  [.event 0 { user := { id := 7 }, trigger := .start },
   .event 1 { user := { id := 7 }, trigger := .act (.toggle "drinks" 1) },
   .event 2 { user := { id := 7 }, trigger := .act (.done "drinks") },
   .event 3 { user := { id := 7 }, trigger := .say "  Ann " }]

/-- A fallback store whose durable part refuses every write and every third call. -/
def shaky : FallbackStore (Unreliable MemoryStore) :=
  .overEmpty fun call kind => kind = .write || call % 3 = 0

/-- The conversation about the order. -/
def ordered : Conversation (FallbackStore (Unreliable MemoryStore)) :=
  (begin 100 shaky).run cafe order

theorem ordered_granted :
    (ordered.profiles.memory.answers 7).toList =
        [("drinks", .ofTexts ["coffee"]), ("name", .text "Ann")] ∧
      cafe.Grants "name" (.text "Ann") ∧
      ∀ user, user ≠ 7 →
        (ordered.handle cafe 4 { user := { id := 7 }, trigger := .start }).2.profiles.memory.answers
          user = ordered.profiles.memory.answers user := by
  have kept : (ordered.profiles.memory.answers 7).toList =
      [("drinks", .ofTexts ["coffee"]), ("name", .text "Ann")] := by decide +kernel
  have entry : (ordered.profiles.memory.answers 7).get? "name" = some (.text "Ann") := by
    decide +kernel
  obtain ⟨granted, changes⟩ := granted_of_run FallbackStore.ledger cafe 100 shaky
    ⟨{}, FallbackStore.overEmpty_mirrors _⟩ (fun _ => rfl) order ordered rfl
  refine ⟨kept, granted 7 "name" (.text "Ann") entry, ?_⟩
  exact (changes 4 { user := { id := 7 }, trigger := .start } _ rfl).1

end Conversation

end Dialogue
