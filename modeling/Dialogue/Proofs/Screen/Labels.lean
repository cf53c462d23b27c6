/-
# Labels of reply keyboards

A press on a button of a reply keyboard comes back as a text, and the text is the label of the
button. This module says which of these presses arrive. A label is shown as it stands in the flow,
while a text loses the blanks at its ends before it is compared with the labels.

So a label without blanks at its ends presses the first button that has it. This goes before
synonyms, before the prompt that waits, and before whatever else a text may mean. A label with
blanks at its ends never presses a button that has it. It presses the first button that is labelled
with what is left of it, and if there is none then the text is no press at all.
-/

import Dialogue.Proofs.Conversation.Replies
import Dialogue.Proofs.Screen.Agreement

namespace Dialogue

/-- The first button of a keyboard with a label. -/
structure Keyboard.First (k : Keyboard) (label : String) (index : Nat) (b : Button) : Prop where
  place : k.buttons[index]? = some b
  labelled : b.text = label
  first : ∀ earlier < index, ∀ other, k.buttons[earlier]? = some other → other.text ≠ label

theorem Keyboard.find?_eq_some_iff {k : Keyboard} {label : String} {b : Button} :
    k.buttons.find? (fun b => b.text = label) = some b ↔ ∃ index, k.First label index b := by
  rw [List.find?_eq_some_iff_getElem]
  constructor
  · rintro ⟨labelled, index, inside, place, first⟩
    refine ⟨index, ?_, by simpa using labelled, ?_⟩
    · rw [List.getElem?_eq_getElem inside, place]
    · intro earlier before other stands
      obtain ⟨_, rfl⟩ := List.getElem?_eq_some_iff.1 stands
      simpa using first earlier before
  · rintro ⟨index, place, labelled, first⟩
    obtain ⟨inside, place⟩ := List.getElem?_eq_some_iff.1 place
    refine ⟨by simpa using labelled, index, inside, place, ?_⟩
    intro earlier before
    simpa using first earlier before _ (List.getElem?_eq_getElem (by omega))

namespace Turn

variable {n : Node} {k : Keyboard} {text : String} {b : Button}

theorem replyButton?_of_reply (shows : n.keyboard = some k) (reply : k.kind = .reply) :
    replyButton? n text = k.buttons.find? fun b => b.text = text := by
  simp [replyButton?, shows, reply]

end Turn

/-! ## What a text amounts to at a reply keyboard -/

namespace Session

variable {flow : Flow} {s : Session} {n : Node} {text : String} {b : Button}

theorem finishing_ne_press (other : Node) : s.finishing other ≠ .press n b := by
  rw [finishing]
  cases other.multiSelect with
  | none => simp
  | some m =>
      dsimp only
      split <;> simp

theorem answering_ne_press (p : Pending) : answering p text ≠ .press n b := by
  rw [answering]
  cases p.prompt.accept text <;> simp

/-- A button of the current reply keyboard goes before all else. -/
theorem saying_of_button (here : s.current = some n.id) (found : flow.node? n.id = some n)
    (pressed : Turn.replyButton? n (Text.trim text) = some b) :
    s.saying flow text = .press n b := by
  simp [saying, here, found, pressed]

/-- Without such a button nothing is pressed. -/
theorem saying_ne_press (here : s.current = some n.id) (found : flow.node? n.id = some n)
    (missed : Turn.replyButton? n (Text.trim text) = none) (other : Node) (b : Button) :
    s.saying flow text ≠ .press other b := by
  simp only [saying, here, Option.bind_some, found, missed, Option.map_none]
  cases flow.synonymNode? (Text.trim text) with
  | some target => simp
  | none =>
      cases s.pending with
      | some p => exact answering_ne_press p
      | none =>
          cases (some n).filter fun n => Turn.endsSelection n (Text.trim text) with
          | some n => exact finishing_ne_press n
          | none => cases flow.fallbackText <;> simp

end Session

namespace Conversation

variable {σ : Type} [ProfileStore σ]

/-- Events of one user that find the same session and amount to the same are handled alike. -/
theorem handle_congr {flow : Flow} {now : Time} {first second : Event} {c : Conversation σ}
    (user : first.user = second.user) (finds : c.sessionFor now first = c.sessionFor now second)
    (moves : c.moveOf flow now first = c.moveOf flow now second) :
    c.handle flow now first = c.handle flow now second := by
  have turns : c.turn flow now first = c.turn flow now second := by
    rw [turn, turn, opened, opened, user, finds, moves]
  rw [handle_eq, handle_eq, turns, user, finds]

end Conversation

/-! ## What a reply keyboard shows -/

namespace Flow

variable {flow : Flow} {n : Node} {k : Keyboard} {text : String} {index : Nat} {b : Button}

/-- At a node, a text is handled like the press of a button of the node. What the session waits for
does not matter. -/
def TakesAsPress (flow : Flow) (n : Node) (text : String) (index : Nat) : Prop :=
  ∀ (σ : Type) [ProfileStore σ] (c : Conversation σ) (now : Time) (user : User),
    (c.sessions.get user.id now).1.current = some n.id →
      c.handle flow now { user, trigger := .say text } =
        c.handle flow now { user, trigger := .act (.button n.id index) }

/-- At a node, a text presses nothing. -/
def TakesAsNoPress (flow : Flow) (n : Node) (text : String) : Prop :=
  ∀ (σ : Type) [ProfileStore σ] (c : Conversation σ) (now : Time) (user : User),
    (c.sessions.get user.id now).1.current = some n.id →
      ∀ other b, c.moveOf flow now { user, trigger := .say text } ≠ .press other b

theorem takesAsPress_of_first (found : flow.node? n.id = some n) (shows : n.keyboard = some k)
    (reply : k.kind = .reply) (first : k.First (Text.trim text) index b) :
    flow.TakesAsPress n text index := by
  intro σ _ c now user here
  have pressed : Turn.replyButton? n (Text.trim text) = some b := by
    rw [Turn.replyButton?_of_reply shows reply, Keyboard.find?_eq_some_iff]
    exact ⟨index, first⟩
  have place : n.buttons[index]? = some b := by
    rw [Node.buttons_of_keyboard shows, first.place]
  have moves : c.moveOf flow now { user, trigger := .say text } =
      c.moveOf flow now { user, trigger := .act (.button n.id index) } :=
    calc (c.sessions.get user.id now).1.saying flow text
      _ = .press n b := Session.saying_of_button here found pressed
      _ = (c.sessions.get user.id now).1.acting flow (.button n.id index) := by
          simp [Session.acting, Action.node, found, place]
  exact Conversation.handle_congr rfl rfl moves

theorem takesAsNoPress_of_missing (found : flow.node? n.id = some n) (shows : n.keyboard = some k)
    (reply : k.kind = .reply) (missing : ∀ b ∈ k.buttons, b.text ≠ Text.trim text) :
    flow.TakesAsNoPress n text := by
  intro σ _ c now user here other b
  have missed : Turn.replyButton? n (Text.trim text) = none := by
    rw [Turn.replyButton?_of_reply shows reply, List.find?_eq_none]
    simpa using missing
  exact Session.saying_ne_press here found missed other b

/-- The labels of a reply keyboard, and what they do when they come back as texts. -/
structure ShowsLabels (flow : Flow) (n : Node) (k : Keyboard) (rows : List (List String)) :
    Prop where
  /-- Every button stands in its place. -/
  labels : rows.flatten = k.buttons.map (·.text)
  /-- A label without blanks at its ends presses the first button that has it. -/
  presses : ∀ label ∈ rows.flatten, Text.trim label = label →
    ∃ index b, k.First label index b ∧ flow.Presses (.button n.id index) n b ∧
      flow.TakesAsPress n label index
  /-- A label with blanks at its ends presses another button, if one has what is left of it. -/
  mistakes : ∀ label ∈ rows.flatten, Text.trim label ≠ label → ∀ index b,
    k.First (Text.trim label) index b → b.text ≠ label ∧ flow.TakesAsPress n label index
  /-- If none has, it presses nothing. -/
  misses : ∀ label ∈ rows.flatten, (∀ b ∈ k.buttons, b.text ≠ Text.trim label) →
    flow.TakesAsNoPress n label

theorem showsLabels_of_drawn {rows : List (List String)} (found : flow.node? n.id = some n)
    (shows : n.keyboard = some k) (reply : k.kind = .reply)
    (drawn : rows.flatten = k.buttons.map (·.text)) : flow.ShowsLabels n k rows where
  labels := drawn
  presses := by
    intro label shown whole
    rw [drawn, List.mem_map] at shown
    obtain ⟨b, listed, labelled⟩ := shown
    cases pressed : k.buttons.find? fun b => b.text = label with
    | none =>
        rw [List.find?_eq_none] at pressed
        exact absurd labelled (by simpa using pressed b listed)
    | some b =>
        obtain ⟨index, first⟩ := Keyboard.find?_eq_some_iff.1 pressed
        have place : n.buttons[index]? = some b := by
          rw [Node.buttons_of_keyboard shows, first.place]
        refine ⟨index, b, first, presses_of_found found place, ?_⟩
        exact takesAsPress_of_first found shows reply (by rwa [whole])
  mistakes := by
    intro label _ blanks index b first
    refine ⟨?_, takesAsPress_of_first found shows reply first⟩
    intro labelled
    exact blanks (first.labelled.symm.trans labelled)
  misses := fun label _ missing => takesAsNoPress_of_missing found shows reply missing

/-- **Reply keyboards.** Take a node of an accepted flow with a reply keyboard and no selection. The
keyboard of each of its screens shows the labels of its buttons. While a session is at this node, a
label without blanks at its ends comes back as the press of the first button that has it: the answer
of the button is stored if the node has a variable, and its target is entered, or else the node
after this one, or nothing. A label with blanks at its ends does not press a button that has it. -/
theorem reply_labels_press (accepted : flow.Accepted) (member : n ∈ flow.nodes)
    (plain : n.multiSelect = none) (shows : n.keyboard = some k) (reply : k.kind = .reply)
    {vars : Variables} {selected : List String} {screen : Screen}
    (drawn : Screen.ofNode? n vars selected = some screen) :
    ∃ rows, screen.keyboard = .reply rows k.oneTime k.resize ∧ flow.ShowsLabels n k rows := by
  have found : flow.node? n.id = some n := accepted.distinct.node?_of_mem member
  obtain ⟨keyboard, laid, rfl⟩ := Option.map_eq_some_iff.1 drawn
  simp only [Screen.keyboard?, plain, shows, reply] at laid
  obtain ⟨rows, cut, rfl⟩ := Option.map_eq_some_iff.1 laid
  exact ⟨rows, rfl, showsLabels_of_drawn found shows reply (Rows.flatten_of_layOut? cut)⟩

/-- Two buttons, and the label of one ends with a blank. -/
def consentKeys : Keyboard where
  kind := .reply
  buttons := [{ text := "Yes ", goto := some "thanks" }, { text := "No", value := some "refused" }]

/-- The node of these buttons. -/
def consent : Node where
  id := "consent"
  text := "May we ask you something?"
  keyboard := some consentKeys
  variableName := some "consent"
  next := some "bye"

/-- A flow that asks before it goes on. -/
def survey : Flow where
  name := "survey"
  start := "consent"
  fallbackText := some "Please use the buttons."
  nodes := [consent, { id := "thanks", text := "Thank you!" }, { id := "bye", text := "Farewell!" }]

/-- A user has been asked. -/
def asked : Conversation MemoryStore :=
  (Conversation.begin 100 {}).run survey [.event 0 { user := { id := 7 }, trigger := .start }]

theorem survey_no_presses :
    survey.Accepted ∧
      ∃ screen rows, Screen.ofNode? consent ∅ [] = some screen ∧
        screen.keyboard = .reply rows false true ∧ survey.ShowsLabels consent consentKeys rows ∧
        ∃ index b, consentKeys.First "No" index b ∧
          asked.handle survey 1 { user := { id := 7 }, trigger := .say "No" } =
            asked.handle survey 1
              { user := { id := 7 }, trigger := .act (.button "consent" index) } := by
  have accepted : survey.Accepted := by decide +kernel
  obtain ⟨screen, drawn⟩ : ∃ screen, Screen.ofNode? consent ∅ [] = some screen :=
    Option.isSome_iff_exists.1 (by decide +kernel)
  obtain ⟨rows, keyboard, shows⟩ :=
    reply_labels_press accepted (n := consent) (by decide +kernel) rfl rfl rfl drawn
  have shown : "No" ∈ rows.flatten := by
    rw [shows.labels]
    decide
  obtain ⟨index, b, first, _, pressed⟩ := shows.presses "No" shown (by decide +kernel)
  exact ⟨accepted, screen, rows, drawn, keyboard, shows, index, b, first,
    pressed MemoryStore asked 1 { id := 7 } (by decide +kernel)⟩

/-- The other label is shown as well, and does not come back as the press of its button. -/
theorem survey_yes_unheard :
    survey.Accepted ∧
      (Screen.ofNode? consent ∅ []).map (·.keyboard) = some (.reply [["Yes "], ["No"]] false true) ∧
      (asked.sessions.get 7 1).1.current = some "consent" ∧
      (asked.handle survey 1 { user := { id := 7 }, trigger := .say "Yes " }).1 =
        .replies [.notice "Please use the buttons."] ∧
      (asked.handle survey 1 { user := { id := 7 }, trigger := .act (.button "consent" 0) }).1 =
        .replies [.screen ⟨"thanks", "Thank you!", .plain, none, .none⟩] := by
  decide +kernel

end Flow

end Dialogue
