/-
# Buttons do what they are shown for

A button is known by its index among the buttons of its node. The index is given out when the node
is drawn, before the buttons are cut into rows and before the messenger drops what it cannot show,
and it is looked up again when the press comes. This module says that the two ends agree: whatever
is written on a button, its press is the press of the very button that was drawn with that label.

For a selection the same is said of its options. A press on an option takes the value of that option
in or out, and no other value at this node or at another.
-/

import Dialogue.Proofs.Conversation.Selection
import Mathlib.Data.List.Forall2

namespace Dialogue

/-! ## Labels and actions -/

/-- The label and the action of a button that is no link. -/
def ScreenButton.callback? (b : ScreenButton) : Option (String × Action) :=
  b.action?.map fun action => (b.text, action)

/-- The labels and actions of a keyboard, read row by row. -/
def InlineRows.callbacks (rows : InlineRows) : List (String × Action) :=
  rows.flatten.filterMap ScreenButton.callback?

theorem InlineRows.actions_eq_map (rows : InlineRows) :
    rows.actions = rows.callbacks.map Prod.snd := by
  rw [actions, callbacks, List.map_filterMap]
  congr 1
  funext b
  simp [ScreenButton.callback?, Function.comp_def]

theorem Screen.callback?_inlineButton (node : NodeId) (vars : Variables) (index : Nat)
    (b : Button) :
    (inlineButton node vars index b).callback? =
      if b.url.isNone then some (Template.substitute .plain vars b.text, .button node index)
      else none := by
  unfold inlineButton ScreenButton.callback? ScreenButton.action?
  cases b.url with
  | none => rfl
  | some url => rfl

/-! ## What the messenger shows -/

/-- The address of a link is no URL. -/
def ScreenButton.isBroken (b : ScreenButton) : Bool :=
  match b.effect with
  | .act _ => false
  | .visit url => (Url.parse? url).isNone

/-- A button in the terms of the messenger. -/
inductive ScreenButton.Becomes : ScreenButton → InlineButton → Prop
  | callback {label : String} {action : Action} :
      Becomes ⟨label, .act action⟩ (.callback label action.text)
  | link {label url : String} {address : Url} (parses : Url.parse? url = some address) :
      Becomes ⟨label, .visit url⟩ (.link label address)

/-- What the messenger shows of a keyboard: all but the broken links, in their rows, and no row that
is left empty. -/
structure InlineRows.ShownAs (rows : InlineRows) (markup : InlineMarkup) : Prop where
  shown : List.Forall₂ (List.Forall₂ ScreenButton.Becomes)
    ((rows.map fun row => row.filter fun b => !b.isBroken).filter fun row => !row.isEmpty) markup
  /-- No action is dropped. -/
  payloads : markup.payloads = rows.callbacks.map fun callback => callback.2.text

theorem ScreenButton.forall₂_filterMap (row : List ScreenButton) :
    List.Forall₂ Becomes (row.filter fun b => !b.isBroken) (row.filterMap inlineButton?) := by
  induction row with
  | nil => exact .nil
  | cons b row ih =>
      obtain ⟨label, effect⟩ := b
      cases effect with
      | act action => exact .cons .callback ih
      | visit url =>
          cases parsed : Url.parse? url with
          | none => simpa [isBroken, inlineButton?, parsed] using ih
          | some address => simpa [isBroken, inlineButton?, parsed] using ⟨.link parsed, ih⟩

theorem InlineRows.shownAs_markup (rows : InlineRows) : rows.ShownAs rows.markup where
  shown := by
    induction rows with
    | nil => exact .nil
    | cons row rows ih =>
        have related := ScreenButton.forall₂_filterMap row
        unfold markup at ih ⊢
        rw [List.map_cons, List.map_cons]
        generalize (row.filter fun b => !b.isBroken) = kept at related ⊢
        generalize row.filterMap ScreenButton.inlineButton? = shown at related ⊢
        cases related with
        | nil => exact ih
        | cons first others => exact .cons (.cons first others) ih
  payloads := by
    rw [payloads_markup, actions_eq_map, List.map_map]
    rfl

/-! ## Buttons -/

theorem Node.buttons_of_keyboard {n : Node} {k : Keyboard} (shows : n.keyboard = some k) :
    n.buttons = k.buttons := by
  simp [buttons, shows]

/-- An action presses a button of a node. Its answer is stored if the node has a variable for it.
Then the conversation goes on to the target of the button, without one to the node after its own,
and without that one it stays. -/
def Flow.Presses (flow : Flow) (action : Action) (n : Node) (b : Button) : Prop :=
  ∀ (σ : Type) [ProfileStore σ] (user : User) (t : Turn σ),
    t.act flow user action =
      (t.keep user.id (n.variableName.map fun name => (name, .text b.answer))).enter? flow user
        (b.goto <|> n.next)

/-- The keyboard of a node shows its buttons, and what it shows is what they do. -/
structure Flow.ShowsButtons (flow : Flow) (n : Node) (k : Keyboard) (vars : Variables)
    (rows : InlineRows) : Prop where
  /-- Each button stands in its place, a link as well. -/
  places : ∀ index : Nat, rows.flatten[index]? = k.buttons[index]?.map fun b =>
    { text := Template.substitute .plain vars b.text
      effect := b.url.elim (.act (.button n.id index)) .visit }
  /-- The buttons that are no links have their labels and ask for their own indices, in order. -/
  callbacks : rows.callbacks = k.buttons.zipIdx.filterMap fun entry =>
    if entry.1.url.isNone then
      some (Template.substitute .plain vars entry.1.text, .button n.id entry.2)
    else none
  /-- A press on a label presses the button with that label. -/
  presses : ∀ label action, (label, action) ∈ rows.callbacks →
    ∃ (index : Nat) (b : Button), k.buttons[index]? = some b ∧ b.url = none ∧
      label = Template.substitute .plain vars b.text ∧ action = .button n.id index ∧
      flow.Presses action n b
  shown : rows.ShownAs rows.markup

namespace Screen

variable {node : NodeId} {vars : Variables} {columns : Nat} {buttons : List Button}
  {rows : InlineRows}

theorem getElem?_flatten_of_buttons
    (drawn : Rows.layOut? buttonBytes columns (buttons.mapIdx (inlineButton node vars)) = some rows)
    (index : Nat) :
    rows.flatten[index]? = buttons[index]?.map fun b =>
      { text := Template.substitute .plain vars b.text
        effect := b.url.elim (.act (.button node index)) .visit } := by
  rw [Rows.flatten_of_layOut? drawn, List.getElem?_mapIdx]
  congr 1
  funext b
  unfold inlineButton
  cases b.url with
  | none => rfl
  | some url => rfl

theorem callbacks_of_buttons
    (drawn : Rows.layOut? buttonBytes columns (buttons.mapIdx (inlineButton node vars)) =
      some rows) :
    rows.callbacks = buttons.zipIdx.filterMap fun entry =>
      if entry.1.url.isNone then
        some (Template.substitute .plain vars entry.1.text, .button node entry.2)
      else none := by
  rw [InlineRows.callbacks, Rows.flatten_of_layOut? drawn, List.mapIdx_eq_zipIdx_map,
    List.filterMap_map]
  congr 1
  funext entry
  exact callback?_inlineButton node vars entry.2 entry.1

/-- What is written on a button and what it asks for come from one button of the node. -/
theorem exists_button_of_callback
    (drawn : Rows.layOut? buttonBytes columns (buttons.mapIdx (inlineButton node vars)) = some rows)
    {label : String} {action : Action} (listed : (label, action) ∈ rows.callbacks) :
    ∃ index b, buttons[index]? = some b ∧ b.url = none ∧
      label = Template.substitute .plain vars b.text ∧ action = .button node index := by
  rw [callbacks_of_buttons drawn, List.mem_filterMap] at listed
  obtain ⟨⟨b, index⟩, place, asks⟩ := listed
  simp only [Option.ite_none_right_eq_some, Option.isNone_iff_eq_none, Option.some.injEq,
    Prod.mk.injEq] at asks
  obtain ⟨noLink, rfl, rfl⟩ := asks
  exact ⟨index, b, List.mk_mem_zipIdx_iff_getElem?.1 place, noLink, rfl, rfl⟩

end Screen

/-- The action of an index presses the button of that index. -/
theorem Flow.presses_of_found {flow : Flow} {n : Node} {b : Button} {index : Nat}
    (found : flow.node? n.id = some n) (place : n.buttons[index]? = some b) :
    flow.Presses (.button n.id index) n b := by
  intro σ _ user t
  rw [Turn.act]
  dsimp only [Action.node]
  rw [found]
  dsimp only
  rw [place]
  dsimp only
  rw [Turn.press]
  cases n.variableName with
  | none => rfl
  | some name => rfl

theorem Flow.showsButtons_of_drawn {flow : Flow} {n : Node} {k : Keyboard} {vars : Variables}
    {rows : InlineRows} (found : flow.node? n.id = some n) (shows : n.keyboard = some k)
    (drawn : Rows.layOut? Screen.buttonBytes k.columns
      (k.buttons.mapIdx (Screen.inlineButton n.id vars)) = some rows) :
    flow.ShowsButtons n k vars rows where
  places := Screen.getElem?_flatten_of_buttons drawn
  callbacks := Screen.callbacks_of_buttons drawn
  presses := by
    intro label action listed
    obtain ⟨index, b, place, noLink, labelled, rfl⟩ := Screen.exists_button_of_callback drawn listed
    have place' : n.buttons[index]? = some b := by
      rw [Node.buttons_of_keyboard shows, place]
    exact ⟨index, b, place, noLink, labelled, rfl, Flow.presses_of_found found place'⟩
  shown := rows.shownAs_markup

/-! ## Options -/

/-- The keyboard of a selection offers each option in its place, and then the end. -/
structure MultiSelect.Offers (node : NodeId) (m : MultiSelect) (selected : List String)
    (rows : InlineRows) : Prop where
  marks : m.Marks node selected rows
  actions : rows.actions = m.actions node
  shown : rows.ShownAs rows.markup

theorem MultiSelect.exists_offers {n : Node} {m : MultiSelect} (selects : n.multiSelect = some m)
    (fits : n.fits) (selected : List String) :
    ∃ rows, Screen.selectRows? n.id m selected = some rows ∧ m.Offers n.id selected rows := by
  obtain ⟨rows, drawn, marks⟩ := exists_marks selects fits selected
  exact ⟨rows, drawn, marks, InlineRows.actions_of_selectRows? drawn, rows.shownAs_markup⟩

/-- A tap on a value concerns that value only. -/
theorem Turn.mem_toggled_iff {selected : List String} (distinct : selected.Nodup)
    {value other : String} :
    other ∈ toggled selected value ↔
      if other = value then other ∉ selected else other ∈ selected := by
  rw [toggled]
  by_cases same : other = value
  · subst same
    by_cases chosen : other ∈ selected
    · simp [chosen, distinct.not_mem_erase]
    · simp [chosen]
  · by_cases chosen : value ∈ selected
    · simp [chosen, same, List.mem_erase_of_ne same]
    · simp [chosen, same]

namespace Conversation

variable {σ : Type} [ProfileStore σ] {flow : Flow} {n : Node} {m : MultiSelect}
  {c : Conversation σ} {now : Time} {e : Event}

/-- A press on an option takes one value in or out, at this node alone, and the keyboard that comes
back offers the same options. -/
structure Flips (flow : Flow) (n : Node) (m : MultiSelect) (c : Conversation σ) (now : Time)
    (e : Event) (value : String) : Prop where
  flips : ∀ id other, other ∈ (c.handle flow now e).2.selection e.user.id id ↔
    if id = n.id ∧ other = value then other ∉ (c.sessionFor now e).1.selected id
    else other ∈ (c.sessionFor now e).1.selected id
  reply : ∃ rows, (c.handle flow now e).1 = .replies [.keyboard n.id rows] ∧
    m.Offers n.id ((c.handle flow now e).2.selection e.user.id n.id) rows

/-- The session after a press on an option differs from the one before in one selection. -/
theorem selection_handle_toggle {index : Nat} {choice : Choice} (found : flow.node? n.id = some n)
    (selects : n.multiSelect = some m) (offered : m.options[index]? = some choice)
    (tapped : e.trigger = .act (.toggle n.id index)) (room : (c.handle flow now e).1 ≠ .crashed)
    (id : NodeId) :
    (c.handle flow now e).2.selection e.user.id id =
      if id = n.id then Turn.toggled ((c.sessionFor now e).1.selected n.id) choice.answer
      else (c.sessionFor now e).1.selected id := by
  have moves : c.moveOf flow now e = .toggle n m choice := by
    rw [moveOf, tapped]
    exact Session.move_of_toggle _ found selects offered
  have settled : (c.turn flow now e).session =
      (c.sessionFor now e).1.select n.id
        (Turn.toggled ((c.sessionFor now e).1.selected n.id) choice.answer) := by
    rw [turn, moves]
    exact Turn.prepare_session flow e.user (.toggle n m choice) (c.opened now e)
  rw [selection, handle_sessions, if_neg (mt handle_crashed_iff.2 room), SessionStore.get?_save,
    if_pos rfl]
  show (c.turn flow now e).session.selected id = _
  rw [settled, Session.selected_select]

theorem flips_of_valid {index : Nat} {choice : Choice} (found : flow.node? n.id = some n)
    (selects : n.multiSelect = some m) (fits : n.fits) (offered : m.options[index]? = some choice)
    (tapped : e.trigger = .act (.toggle n.id index))
    (valid : (c.sessionFor now e).1.Valid flow) : c.Flips flow n m now e choice.answer := by
  obtain ⟨rows, drawn, offers⟩ := MultiSelect.exists_offers selects fits
    (Turn.toggled ((c.sessionFor now e).1.selected n.id) choice.answer)
  have answer : (c.handle flow now e).1 = .replies [.keyboard n.id rows] := by
    rw [handle_toggle found selects offered tapped, drawn]
    rfl
  have room : (c.handle flow now e).1 ≠ .crashed := by simp [answer]
  have after := selection_handle_toggle found selects offered tapped room
  have distinct := (valid.selected_admitted found selects).distinct
  constructor
  · intro id other
    rw [after]
    by_cases here : id = n.id
    · subst here
      simp [Turn.mem_toggled_iff distinct]
    · simp [here]
  · rw [after, if_pos rfl]
    exact ⟨rows, answer, offers⟩

end Conversation

/-! ## Accepted flows -/

namespace Screen

variable {n : Node} {vars : Variables} {selected : List String}

theorem exists_ofNode?_of_keyboard? {keyboard : ScreenKeyboard}
    (drawn : keyboard? n vars selected = some keyboard) :
    ∃ screen, ofNode? n vars selected = some screen ∧ screen.keyboard = keyboard := by
  rw [ofNode?, drawn]
  exact ⟨_, rfl, rfl⟩

theorem exists_rows_of_inline {k : Keyboard} (plain : n.multiSelect = none)
    (shows : n.keyboard = some k) (inline : k.kind = .inline) (fits : n.fits) (vars : Variables)
    (selected : List String) :
    ∃ rows, keyboard? n vars selected = some (.inline rows) ∧
      Rows.layOut? buttonBytes k.columns (k.buttons.mapIdx (inlineButton n.id vars)) =
        some rows := by
  have room : Rows.fits buttonBytes (Rows.width k.columns) = true := by
    simpa [Node.fits, plain, shows, inline] using fits
  have laid : Rows.layOut? buttonBytes k.columns (k.buttons.mapIdx (inlineButton n.id vars)) =
      some (Rows.cut k.columns (k.buttons.mapIdx (inlineButton n.id vars))) :=
    Rows.layOut?_of_fits room _
  refine ⟨_, ?_, laid⟩
  simp [keyboard?, plain, shows, inline, laid]

theorem keyboard?_of_select {m : MultiSelect} {rows : InlineRows} (selects : n.multiSelect = some m)
    (drawn : selectRows? n.id m selected = some rows) (vars : Variables) :
    keyboard? n vars selected = some (.inline rows) := by
  simp [keyboard?, selects, drawn]

end Screen

/-- **Buttons do what they are shown for.** Take a node of an accepted flow whose rows can be set
aside.

* If it has an inline keyboard and no selection, its screen shows all its buttons in their places;
  those that are no links ask for their own indices, in order and under their own labels, and the
  press of a label is the press of the button with that label.
* If it has a selection, its screen offers each option in its place and then the end. After any run,
  a press on an option takes the value of that option in or out, and nothing else, and is answered
  with a keyboard that offers the same.

In both cases the messenger drops broken links and rows that have nothing else. -/
theorem Flow.buttons_agree {σ : Type} [ProfileStore σ] {flow : Flow} (accepted : flow.Accepted)
    {n : Node} (member : n ∈ flow.nodes) (fits : n.fits) :
    (∀ k, n.multiSelect = none → n.keyboard = some k → k.kind = .inline → ∀ vars selected,
        ∃ screen rows, Screen.ofNode? n vars selected = some screen ∧
          screen.keyboard = .inline rows ∧ flow.ShowsButtons n k vars rows) ∧
      ∀ m, n.multiSelect = some m →
        (∀ vars selected, ∃ screen rows, Screen.ofNode? n vars selected = some screen ∧
          screen.keyboard = .inline rows ∧ m.Offers n.id selected rows) ∧
        ∀ lifetime (profiles : σ) happenings now (e : Event) (index : Nat) (choice : Choice),
          m.options[index]? = some choice → e.trigger = .act (.toggle n.id index) →
          ((Conversation.begin lifetime profiles).run flow happenings).Flips flow n m now e
            choice.answer := by
  have found : flow.node? n.id = some n := accepted.distinct.node?_of_mem member
  refine ⟨?_, ?_⟩
  · intro k plain shows inline vars selected
    obtain ⟨rows, drawn, laid⟩ :=
      Screen.exists_rows_of_inline plain shows inline fits vars selected
    obtain ⟨screen, shown, keyboard⟩ := Screen.exists_ofNode?_of_keyboard? drawn
    exact ⟨screen, rows, shown, keyboard, Flow.showsButtons_of_drawn found shows laid⟩
  · intro m selects
    refine ⟨?_, ?_⟩
    · intro vars selected
      obtain ⟨rows, laid, offers⟩ := MultiSelect.exists_offers selects fits selected
      obtain ⟨screen, shown, keyboard⟩ :=
        Screen.exists_ofNode?_of_keyboard? (Screen.keyboard?_of_select selects laid vars)
      exact ⟨screen, rows, shown, keyboard, offers⟩
    · intro lifetime profiles happenings now e index choice offered tapped
      have valid := (Conversation.sessionFor_all
        (Conversation.run_valid flow lifetime profiles happenings) .fresh now e).1
      exact Conversation.flips_of_valid found selects fits offered tapped valid

/-- A keyboard with a link in front and a broken one in the middle. -/
def signposts : Keyboard where
  buttons := [
    { text := "map", url := some "https://example.com" },
    { text := "{name} first", goto := some "shop" },
    { text := "old map", url := some "nowhere" },
    { text := "leave", value := some "left" }]
  columns := 2

/-- The node of this keyboard. -/
def hall : Node where
  id := "hall"
  text := "Where to?"
  keyboard := some signposts
  variableName := some "way"
  next := some "hall"

/-- Two options. -/
def souvenirs : MultiSelect where
  variableName := "souvenirs"
  options := [{ text := "postcard" }, { text := "poster" }]

/-- The node of these options. -/
def shop : Node where
  id := "shop"
  text := "What would you like?"
  multiSelect := some souvenirs

/-- A flow with a keyboard and a selection. -/
def gallery : Flow where
  name := "gallery"
  start := "hall"
  nodes := [hall, shop]

/-- The names of a guest. -/
def guestNames : Variables := (∅ : Variables).insert "name" "Ann"

/-- A guest takes a postcard, and is about to take a poster. -/
def shopping : List Happening :=
  [.event 0 { user := { id := 7 }, trigger := .enter "shop" },
   .event 1 { user := { id := 7 }, trigger := .act (.toggle "shop" 0) }]

theorem gallery_buttons_agree :
    gallery.Accepted ∧
      (∃ screen rows, Screen.ofNode? hall guestNames [] = some screen ∧
        screen.keyboard = .inline rows ∧ gallery.ShowsButtons hall signposts guestNames rows ∧
        rows.callbacks = [("Ann first", .button "hall" 1), ("leave", .button "hall" 3)]) ∧
      ((Conversation.begin 100 ({} : MemoryStore)).run gallery shopping).Flips gallery shop
        souvenirs 2 { user := { id := 7 }, trigger := .act (.toggle "shop" 1) } "poster" := by
  have accepted : gallery.Accepted := by decide +kernel
  have hallAgrees := Flow.buttons_agree (σ := MemoryStore) accepted (n := hall) (by decide)
    (by decide +kernel)
  have shopAgrees := Flow.buttons_agree (σ := MemoryStore) accepted (n := shop) (by decide)
    (by decide +kernel)
  obtain ⟨screen, rows, drawn, keyboard, shows⟩ :=
    hallAgrees.1 signposts rfl rfl rfl guestNames []
  refine ⟨accepted, ⟨screen, rows, drawn, keyboard, shows, ?_⟩, ?_⟩
  · rw [shows.callbacks]
    decide +kernel
  · exact (shopAgrees.2 souvenirs rfl).2 100 {} shopping 2 _ 1 { text := "poster" } rfl rfl

end Dialogue
