/-
# Drawn keyboards

Inline keyboards come from two places: the buttons of a node and the options of a selection. This
module says which actions such a keyboard asks for, and where they stand once the keyboard has been
put in the terms of the messenger.

A keyboard that toggles an option of a node is the keyboard of that node's selection, and its
actions do not depend on what is selected. Only the labels do.
-/

import Dialogue.Proofs.Callback.Packing
import Dialogue.Proofs.Flow.Passage
import Dialogue.Proofs.Screen.Layout
import Dialogue.Markup

namespace Dialogue

/-- The action that a button asks for. -/
def ScreenButton.action? (b : ScreenButton) : Option Action :=
  match b.effect with
  | .act action => some action
  | .visit _ => none

/-- A button that carries a payload asks for an action, and the payload is the text of it. -/
theorem ScreenButton.eq_of_inlineButton? {b : ScreenButton} {label payload : String}
    (drawn : b.inlineButton? = some (.callback label payload)) :
    ∃ action : Action, b = ⟨label, .act action⟩ ∧ payload = action.text := by
  obtain ⟨text, effect⟩ := b
  cases effect with
  | act action =>
      cases drawn
      exact ⟨action, rfl, rfl⟩
  | visit url =>
      obtain ⟨u, _, absurd⟩ := Option.map_eq_some_iff.1 drawn
      cases absurd

theorem ScreenButton.bind_data? (b : ScreenButton) :
    b.inlineButton?.bind InlineButton.data? = b.action?.map Action.text := by
  obtain ⟨text, effect⟩ := b
  cases effect with
  | act action => rfl
  | visit url =>
      unfold inlineButton? action?
      dsimp only
      cases Url.parse? url with
      | none => rfl
      | some u => rfl

namespace InlineRows

/-- The actions of a keyboard in the order of its buttons. -/
def actions (rows : InlineRows) : List Action := rows.flatten.filterMap ScreenButton.action?

/-- The buttons that the messenger shows, in their rows. -/
def legible (rows : InlineRows) : InlineRows :=
  (rows.map fun row => row.filter fun b => b.inlineButton?.isSome).filter (!·.isEmpty)

/-- The payloads are the texts of the actions. -/
theorem payloads_markup (rows : InlineRows) :
    (markup rows).payloads = (actions rows).map Action.text := by
  have flat : (markup rows).flatten = rows.flatten.filterMap ScreenButton.inlineButton? := by
    rw [markup, List.flatten_filter_not_isEmpty, List.filterMap_flatten]
  rw [InlineMarkup.payloads, flat, actions, List.filterMap_filterMap, List.map_filterMap]
  congr 1
  funext b
  exact b.bind_data?

/-- Dropping what has no image first does not change the images. -/
theorem getElem?_filterMap_inlineButton? (row : List ScreenButton) (j : Nat) :
    (row.filterMap ScreenButton.inlineButton?)[j]? =
      (row.filter fun b => b.inlineButton?.isSome)[j]?.bind ScreenButton.inlineButton? := by
  induction row generalizing j with
  | nil => rfl
  | cons b row ih =>
      cases drawn : b.inlineButton? with
      | none => simp [drawn, ih]
      | some button =>
          cases j with
          | zero => simp [drawn]
          | succ j => simp [drawn, ih]

theorem filterMap_eq_nil_iff (row : List ScreenButton) :
    row.filterMap ScreenButton.inlineButton? = [] ↔
      (row.filter fun b => b.inlineButton?.isSome) = [] := by
  rw [List.filterMap_eq_nil_iff, List.filter_eq_nil_iff]
  simp

/-- Each place of the messenger's keyboard shows the legible button of that place. -/
theorem button?_markup (rows : InlineRows) (i j : Nat) :
    (markup rows)[i]?.bind (·[j]?) =
      ((legible rows)[i]?.bind (·[j]?)).bind ScreenButton.inlineButton? := by
  induction rows generalizing i with
  | nil => rfl
  | cons row rows ih =>
      by_cases blank : row.filterMap ScreenButton.inlineButton? = []
      · have blank' := (filterMap_eq_nil_iff row).1 blank
        have dropped : markup (row :: rows) = markup rows := by
          simp [markup, blank]
        have dropped' : legible (row :: rows) = legible rows := by
          simp [legible, blank']
        rw [dropped, dropped']
        exact ih i
      · have kept : markup (row :: rows) =
            row.filterMap ScreenButton.inlineButton? :: markup rows := by
          simp [markup, blank]
        have kept' : legible (row :: rows) =
            (row.filter fun b => b.inlineButton?.isSome) :: legible rows := by
          have shown := mt (filterMap_eq_nil_iff row).2 blank
          simp [legible, shown]
        rw [kept, kept']
        cases i with
        | zero => exact getElem?_filterMap_inlineButton? row j
        | succ i => exact ih i

/-- A payload in the messenger's keyboard stands for the action of the button in its place. -/
theorem exists_action_of_markup {rows : InlineRows} {i j : Nat} {label payload : String}
    (shown : (markup rows)[i]?.bind (·[j]?) = some (.callback label payload)) :
    ∃ action : Action, (legible rows)[i]?.bind (·[j]?) = some ⟨label, .act action⟩ ∧
      payload = action.text := by
  rw [button?_markup] at shown
  obtain ⟨b, here, drawn⟩ := Option.bind_eq_some_iff.1 shown
  obtain ⟨action, rfl, spelled⟩ := ScreenButton.eq_of_inlineButton? drawn
  exact ⟨action, here, spelled⟩

/-- The action of a legible button is one of the keyboard's. -/
theorem mem_actions_of_legible {rows : InlineRows} {i j : Nat} {label : String} {action : Action}
    (shown : (legible rows)[i]?.bind (·[j]?) = some ⟨label, .act action⟩) :
    action ∈ actions rows := by
  obtain ⟨row, here, button⟩ := Option.bind_eq_some_iff.1 shown
  have kept : row ∈ rows.map fun row => row.filter fun b => b.inlineButton?.isSome :=
    (List.mem_filter.1 (List.mem_of_getElem? here)).1
  obtain ⟨whole, listed, rfl⟩ := List.mem_map.1 kept
  have member := (List.mem_filter.1 (List.mem_of_getElem? button)).1
  exact List.mem_filterMap.2 ⟨_, List.mem_flatten.2 ⟨whole, listed, member⟩, rfl⟩

end InlineRows

/-! ## The two kinds of keyboards -/

/-- The actions of a selection: one for each option, and the one that ends it. -/
def MultiSelect.actions (node : NodeId) (m : MultiSelect) : List Action :=
  (m.options.mapIdx fun index _ => .toggle node index) ++ [.done node]

/-- Buttons that ask for something according to their place alone. -/
theorem ScreenButton.filterMap_mapIdx {α : Type} {f : Nat → α → ScreenButton} {g : Nat → Action}
    (asks : ∀ index item, (f index item).action? = some (g index)) (items : List α) :
    (items.mapIdx f).filterMap action? = items.mapIdx fun index _ => g index := by
  induction items generalizing f g with
  | nil => rfl
  | cons item items ih =>
      rw [List.mapIdx_cons, List.mapIdx_cons, List.filterMap_cons_some (asks 0 item)]
      rw [ih fun index item => asks (index + 1) item]

/-- What is selected does not matter to the actions. -/
theorem InlineRows.actions_of_selectRows? {node : NodeId} {m : MultiSelect} {selected : List String}
    {rows : InlineRows} (drawn : Screen.selectRows? node m selected = some rows) :
    rows.actions = m.actions node := by
  obtain ⟨laid, options, rfl⟩ := Option.map_eq_some_iff.1 drawn
  rw [actions, List.flatten_append, Rows.flatten_of_layOut? options, List.filterMap_append]
  rw [ScreenButton.filterMap_mapIdx (g := Action.toggle node) fun _ _ => rfl]
  rfl

/-- A keyboard that some node of the flow is shown with. -/
inductive Flow.Draws (flow : Flow) : InlineRows → Prop where
  | selection {n : Node} {m : MultiSelect} {selected : List String} {rows : InlineRows}
      (found : flow.node? n.id = some n) (selects : n.multiSelect = some m)
      (drawn : Screen.selectRows? n.id m selected = some rows) : flow.Draws rows
  | buttons {n : Node} {k : Keyboard} {vars : Variables} {rows : InlineRows}
      (found : flow.node? n.id = some n) (shows : n.keyboard = some k)
      (drawn : Rows.layOut? Screen.buttonBytes k.columns
        (k.buttons.mapIdx (Screen.inlineButton n.id vars)) = some rows) : flow.Draws rows

namespace Flow

variable {flow : Flow}

/-- The inline keyboard of a screen is drawn for its node. -/
theorem draws_of_ofNode? {n : Node} {vars : Variables} {selected : List String} {screen : Screen}
    {rows : InlineRows} (found : flow.node? n.id = some n)
    (shown : Screen.ofNode? n vars selected = some screen)
    (inline : screen.keyboard = .inline rows) : flow.Draws rows := by
  obtain ⟨keyboard, drawn, rfl⟩ := Option.map_eq_some_iff.1 shown
  change keyboard = .inline rows at inline
  subst inline
  rw [Screen.keyboard?] at drawn
  split at drawn
  · next m _ selects =>
      obtain ⟨_, laid, same⟩ := Option.map_eq_some_iff.1 drawn
      cases same
      exact .selection found selects laid
  · cases drawn
  · next k _ shows =>
      split at drawn
      · obtain ⟨_, laid, same⟩ := Option.map_eq_some_iff.1 drawn
        cases same
        exact .buttons found shows laid
      · obtain ⟨_, _, absurd⟩ := Option.map_eq_some_iff.1 drawn
        cases absurd
      · cases drawn

/-- The buttons of a node ask to be pressed, and nothing else. -/
theorem action_of_buttons {n : Node} {k : Keyboard} {vars : Variables} {rows : InlineRows}
    (drawn : Rows.layOut? Screen.buttonBytes k.columns
      (k.buttons.mapIdx (Screen.inlineButton n.id vars)) = some rows) {action : Action}
    (listed : action ∈ rows.actions) : ∃ index, action = .button n.id index := by
  rw [InlineRows.actions, Rows.flatten_of_layOut? drawn, List.mem_filterMap] at listed
  obtain ⟨button, place, asks⟩ := listed
  obtain ⟨index, _, rfl⟩ := List.mem_mapIdx.1 place
  refine ⟨index, ?_⟩
  unfold Screen.inlineButton ScreenButton.action? at asks
  dsimp only at asks
  cases opens : (k.buttons[index]).url with
  | none =>
      rw [opens] at asks
      cases asks
      rfl
  | some url =>
      rw [opens] at asks
      cases asks

/-- A keyboard that toggles an option of a node is that of the node's selection. -/
theorem Draws.actions_of_toggle {rows : InlineRows} {id : NodeId} {index : Nat}
    (drawn : flow.Draws rows) (listed : Action.toggle id index ∈ rows.actions) :
    ∃ n m, flow.node? id = some n ∧ n.multiSelect = some m ∧ rows.actions = m.actions id := by
  cases drawn with
  | @selection n m selected _ found selects drawn =>
      have actions := InlineRows.actions_of_selectRows? drawn
      have own : n.id = id := by
        rw [actions, MultiSelect.actions, List.mem_append] at listed
        rcases listed with option | ending
        · obtain ⟨_, _, same⟩ := List.mem_mapIdx.1 option
          cases same
          rfl
        · rw [List.mem_singleton] at ending
          cases ending
      subst own
      exact ⟨n, m, found, selects, actions⟩
  | buttons found shows drawn =>
      obtain ⟨_, absurd⟩ := action_of_buttons drawn listed
      cases absurd

/-- The lists of a flow are no longer than memory allows. -/
structure Addressable (flow : Flow) : Prop where
  buttons : ∀ n ∈ flow.nodes, n.buttons.length ≤ Rows.addressable
  options : ∀ n ∈ flow.nodes, ∀ m, n.multiSelect = some m → m.options.length ≤ Rows.addressable

/-- The actions of a keyboard can be counted. -/
theorem Draws.length_actions_le {rows : InlineRows} (drawn : flow.Draws rows)
    (addressable : flow.Addressable) : rows.actions.length ≤ Rows.addressable + 1 := by
  cases drawn with
  | @selection n m _ _ found selects drawn =>
      have bounded := addressable.options n (mem_of_node? found) m selects
      rw [InlineRows.actions_of_selectRows? drawn, MultiSelect.actions, List.length_append,
        List.length_mapIdx, List.length_singleton]
      omega
  | @buttons n k _ _ found shows drawn =>
      have bounded := addressable.buttons n (mem_of_node? found)
      have own : n.buttons = k.buttons := by
        rw [Node.buttons, shows]
        rfl
      have counted : rows.actions.length ≤ rows.flatten.length := List.length_filterMap_le _ _
      rw [Rows.flatten_of_layOut? drawn, List.length_mapIdx, ← own] at counted
      omega

end Flow

end Dialogue
