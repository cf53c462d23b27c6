/-
# Selections under way

An option is taken in by a tap and out by the next one, so what is selected depends on all taps
since the selection began. This module says how: a value is selected if it was tapped an odd number
of times, and the selected values stand in the order of their last taps. Options may share a value,
and then a tap on one of them counts for both.

A selection begins anew with the session, when its node is entered, and when it is ended. The taps
since then are collected along the run by `Conversation.tally`. It does not look at the selected
values; all that it learns of them is whether an event ends the selection, which depends on how many
there are. Between the taps the user may do anything else, at other nodes too, and may try to end
the selection too early.
-/

import Dialogue.Proofs.Conversation.Cascade
import Dialogue.Proofs.Conversation.Isolation
import Dialogue.Proofs.Conversation.Replies
import Mathlib.Data.List.Dedup

namespace Dialogue

/-! ## What taps come to -/

/-- What is selected after some values have been tapped: those that were tapped an odd number of
times, in the order of their last taps. -/
def selectionOf (taps : List String) : List String :=
  taps.dedup.filter fun value => taps.count value % 2 = 1

theorem nodup_selectionOf (taps : List String) : (selectionOf taps).Nodup :=
  (List.nodup_dedup taps).filter _

theorem mem_selectionOf {taps : List String} {value : String} :
    value ∈ selectionOf taps ↔ taps.count value % 2 = 1 := by
  rw [selectionOf, List.mem_filter, List.mem_dedup, decide_eq_true_iff]
  constructor
  · exact And.right
  · intro odd
    refine ⟨List.count_pos_iff.1 ?_, odd⟩
    omega

/-- A value that comes again moves to the end. -/
theorem dedup_concat (taps : List String) (value : String) :
    (taps ++ [value]).dedup = taps.dedup.filter (· != value) ++ [value] := by
  induction taps with
  | nil => rfl
  | cons first taps ih =>
      rw [List.cons_append]
      by_cases again : first ∈ taps
      · rw [List.dedup_cons_of_mem (List.mem_append_left _ again), ih,
          List.dedup_cons_of_mem again]
      · rw [List.dedup_cons_of_notMem again]
        by_cases same : first = value
        · subst same
          have later : first ∈ taps ++ [first] := by simp
          rw [List.dedup_cons_of_mem later, ih, List.filter_cons_of_neg (by simp)]
        · have never : first ∉ taps ++ [value] := by simp [again, same]
          rw [List.dedup_cons_of_notMem never, ih, List.filter_cons_of_pos (by simp [same]),
            List.cons_append]

/-- One more tap takes a value in or out. -/
theorem selectionOf_concat (taps : List String) (value : String) :
    selectionOf (taps ++ [value]) = Turn.toggled (selectionOf taps) value := by
  have others : (taps.dedup.filter (· != value)).filter
      (fun other => (taps ++ [value]).count other % 2 = 1) =
        (selectionOf taps).filter (· != value) := by
    rw [selectionOf, List.filter_filter, List.filter_filter]
    apply List.filter_congr
    intro other _
    by_cases same : other = value
    · simp [same]
    · have differs : (other != value) = true := by simp [same]
      simp [List.count_append, Ne.symm same, differs]
  rw [selectionOf, dedup_concat, List.filter_append, others, Turn.toggled]
  by_cases chosen : value ∈ selectionOf taps
  · have odd := mem_selectionOf.1 chosen
    have even : ¬(taps ++ [value]).count value % 2 = 1 := by
      rw [List.count_append, List.count_singleton_self]
      omega
    rw [if_pos chosen, (nodup_selectionOf taps).erase_eq_filter,
      List.filter_cons_of_neg (by simpa using even), List.filter_nil, List.append_nil]
  · have even := mt mem_selectionOf.2 chosen
    have odd : (taps ++ [value]).count value % 2 = 1 := by
      rw [List.count_append, List.count_singleton_self]
      omega
    have untouched : (selectionOf taps).filter (· != value) = selectionOf taps := by
      apply List.filter_eq_self.2
      intro other listed
      have differs : other ≠ value := fun same => chosen (same ▸ listed)
      simp [differs]
    rw [if_neg chosen, untouched, List.filter_cons_of_pos (by simpa using odd), List.filter_nil]

example : selectionOf ["tea", "coffee", "tea", "milk", "tea"] = ["coffee", "milk", "tea"] := by
  decide

/-! ## What a turn does to a selection -/

/-- The value that a trigger takes in or out of the selection of a node. -/
def Trigger.tap? (n : Node) : Trigger → Option String
  | .act (.toggle node index) =>
      if node = n.id then n.multiSelect.bind fun m => m.options[index]?.map Choice.answer else none
  | _ => none

/-- Whether a move ends the selection of a node. -/
def Move.ends (node : NodeId) : Move → Bool
  | .finish n _ => n.id = node
  | _ => false

namespace Session

variable {flow : Flow} {n : Node} {m : MultiSelect}

theorem selected_forget (s : Session) (node other : NodeId) :
    (s.forget node).selected other = if other = node then [] else s.selected other := by
  rw [selected, forget]
  rw [Table.get?_erase]
  split <;> rfl

/-- A press on an option is a move that toggles it, whatever the session. -/
theorem move_of_toggle {index : Nat} {choice : Choice} (s : Session)
    (found : flow.node? n.id = some n) (selects : n.multiSelect = some m)
    (offered : m.options[index]? = some choice) :
    s.move flow (.act (.toggle n.id index)) = .toggle n m choice := by
  show s.acting flow (.toggle n.id index) = _
  rw [acting]
  dsimp only [Action.node]
  rw [found]
  dsimp only
  rw [selects]
  dsimp only
  rw [offered]

/-- A press on the last button ends the selection or is refused, as the selection is large enough or
not. -/
theorem move_of_done (s : Session) (found : flow.node? n.id = some n)
    (selects : n.multiSelect = some m) :
    s.move flow (.act (.done n.id)) =
      if (s.selected n.id).length < m.minSelected then .insist n m else .finish n m := by
  show s.acting flow (.done n.id) = _
  rw [acting]
  dsimp only [Action.node]
  rw [found]
  dsimp only
  rw [finishing, selects]

theorem move_of_tap {trigger : Trigger} {value : String} (s : Session)
    (found : flow.node? n.id = some n) (selects : n.multiSelect = some m)
    (tapped : trigger.tap? n = some value) :
    ∃ choice, s.move flow trigger = .toggle n m choice ∧ choice.answer = value := by
  unfold Trigger.tap? at tapped
  split at tapped
  · next node index =>
      split at tapped
      · next own =>
          rw [selects] at tapped
          obtain ⟨choice, offered, answer⟩ := Option.map_eq_some_iff.1 tapped
          subst own
          exact ⟨choice, move_of_toggle s found selects offered, answer⟩
      · cases tapped
  · cases tapped

/-- Every toggle of the node is a tap. -/
theorem tap_of_move {trigger : Trigger} {n' : Node} {m' : MultiSelect} {choice : Choice}
    {s : Session} (found : flow.node? n.id = some n)
    (moves : s.move flow trigger = .toggle n' m' choice) (own : n'.id = n.id) :
    trigger.tap? n = some choice.answer := by
  obtain ⟨index, rfl⟩ := trigger_of_toggle moves
  rw [own] at moves ⊢
  change s.acting flow (.toggle n.id index) = _ at moves
  rw [acting] at moves
  dsimp only [Action.node] at moves
  rw [found] at moves
  dsimp only at moves
  split at moves
  · cases moves
  · next selects =>
      split at moves
      · cases moves
      · next offered =>
          cases moves
          rw [Trigger.tap?, if_pos rfl, selects, Option.bind_some, offered, Option.map_some]

/-- Before a node is entered, a selection changes by a tap on it or by its end. -/
theorem selected_settle (s : Session) (trigger : Trigger) (found : flow.node? n.id = some n)
    (selects : n.multiSelect = some m) :
    ((s.move flow trigger).settle s).selected n.id =
      if (s.move flow trigger).ends n.id then []
      else (trigger.tap? n).elim (s.selected n.id) (Turn.toggled (s.selected n.id)) := by
  cases tapped : trigger.tap? n with
  | some value =>
      obtain ⟨choice, moves, rfl⟩ := move_of_tap s found selects tapped
      rw [moves]
      exact selected_select_self s n.id _
  | none =>
      cases moves : s.move flow trigger with
      | toggle n' m' choice =>
          have other : n.id ≠ n'.id := by
            intro same
            cases tapped.symm.trans (tap_of_move found moves same.symm)
          exact (selected_select s n'.id n.id _).trans (if_neg other)
      | insist n' m' =>
          refine (selected_select s n'.id n.id _).trans ?_
          split
          · next same => exact congrArg s.selected same.symm
          · rfl
      | finish n' m' =>
          refine (selected_forget s n'.id n.id).trans ?_
          by_cases same : n.id = n'.id
          · have ended : Move.ends n.id (.finish n' m') = true := decide_eq_true same.symm
            rw [if_pos same, if_pos ended]
          · have ended : Move.ends n.id (.finish n' m') = false := decide_eq_false (Ne.symm same)
            rw [if_neg same, if_neg (ended ▸ Bool.false_ne_true)]
            rfl
      | _ => rfl

end Session

namespace Turn

variable {σ : Type} [ProfileStore σ] {flow : Flow} {n : Node} {m : MultiSelect}

theorem selected_arrive_of_other {n' : Node} {node : NodeId} (s : Session)
    (apart : node = n'.id → n'.multiSelect = none) :
    (arrive s n').selected node = s.selected node := by
  rw [Session.selected, selections_arrive_of_other s apart]
  rfl

/-- A passage that could be shown empties the selections of the nodes that it takes up, and no
others. -/
theorem selected_enterFrom (user : User) (first : NodeId) (found : flow.node? n.id = some n)
    (selects : n.multiSelect = some m) (steps : Nat) (id : NodeId) (t : Turn σ)
    (shown : (enterFrom flow user first steps id t).failure ≠ some .noRoom) :
    (enterFrom flow user first steps id t).session.selected n.id =
      if n.id ∈ flow.passage steps id then [] else t.session.selected n.id := by
  induction steps generalizing id t with
  | zero => rfl
  | succ steps ih =>
      cases here : flow.node? id with
      | none =>
          rw [enterFrom_of_missing first steps t here, Flow.passage_of_missing here]
          rfl
      | some n' =>
          -- A node of the same name is the node itself, and that one waits.
          have own (same : n.id = n'.id) : n = n' := by
            have self : flow.node? n.id = some n' := by
              rw [same]
              exact Flow.node?_id_of_node? here
            exact Option.some.inj (found.symm.trans self)
          rw [enterFrom_of_found user first steps t here] at shown ⊢
          cases drawn : t.screen? flow user n' with
          | none =>
              rw [drawn] at shown
              exact absurd rfl shown
          | some screen =>
              rw [drawn] at shown
              cases onward : n'.autoNext with
              | none =>
                  rw [Flow.passage_of_stop here onward]
                  by_cases same : n.id = n'.id
                  · obtain rfl := own same
                    rw [if_pos List.mem_cons_self]
                    exact selected_arrive selects t.session
                  · rw [if_neg (by simpa using same)]
                    exact selected_arrive_of_other t.session fun absurd => (same absurd).elim
              | some next =>
                  have plain : n'.multiSelect = none := Node.multiSelect_of_autoNext onward
                  have apart : n.id ≠ n'.id := by
                    intro same
                    rw [← own same] at plain
                    cases selects.symm.trans plain
                  have kept : ((t.takenUp user n').reply (.screen screen)).session.selected n.id =
                      t.session.selected n.id :=
                    selected_arrive_of_other t.session fun _ => plain
                  rw [onward] at shown
                  dsimp only
                  rw [ih next _ shown, Flow.passage_of_pass here onward, kept]
                  simp only [List.mem_cons, apart, false_or]

/-- A move that could be shown empties the selection of a node if it takes up the node. -/
theorem selected_perform (user : User) (found : flow.node? n.id = some n)
    (selects : n.multiSelect = some m) (move : Move) (t : Turn σ)
    (shown : (t.perform flow user move).failure ≠ some .noRoom) :
    (t.perform flow user move).session.selected n.id =
      if move.target?.any fun id => n.id ∈ flow.passage maxAutoAdvance id then []
      else (move.settle t.session).selected n.id := by
  rw [perform] at shown ⊢
  cases target : move.target? with
  | none => exact congrArg (·.selected n.id) (prepare_session flow user move t)
  | some id =>
      rw [target] at shown
      have entered := selected_enterFrom user id found selects maxAutoAdvance id _ shown
      rw [prepare_session] at entered
      simp only [Option.any_some, decide_eq_true_eq]
      exact entered

end Turn

namespace Conversation

variable {σ : Type}

/-- What the session saved for a user has selected at a node. -/
def selection (c : Conversation σ) (user : UserId) (node : NodeId) : List String :=
  ((c.sessions.entries.get? user).map fun entry => entry.1.selected node).getD []

/-- Whether an event finds a fresh session: at the start, and where none is saved that lasts. -/
def isAnew (now : Time) (e : Event) (c : Conversation σ) : Bool :=
  e.trigger = .start ||
    (c.sessions.entries.get? e.user.id).all fun entry => c.sessions.isExpired entry.2 now

/-- The taps that still count when an event comes. -/
def since (now : Time) (e : Event) (c : Conversation σ) (taps : List String) : List String :=
  if c.isAnew now e then [] else taps

/-- Whether an event takes up a node. -/
def takesUp (flow : Flow) (now : Time) (e : Event) (c : Conversation σ) (node : NodeId) : Bool :=
  (c.entered? flow now e).any fun id => node ∈ flow.passage maxAutoAdvance id

variable [ProfileStore σ]

/-- The taps on a node since its selection began, after one more thing has happened. The selection
begins anew with the session, when the node is taken up and when the selection is ended. An event
that crashes leaves no trace. -/
def tally (flow : Flow) (n : Node) (user : UserId) (c : Conversation σ) (taps : List String) :
    Happening → List String
  | .event now e =>
      if e.user.id ≠ user then taps
      else if (c.handle flow now e).1 = .crashed then c.since now e taps
      else if c.takesUp flow now e n.id || (c.moveOf flow now e).ends n.id then []
      else c.since now e taps ++ (e.trigger.tap? n).toList
  | .purge now =>
      if (c.sessions.entries.get? user).any fun entry => c.sessions.isExpired entry.2 now then []
      else taps
  | .reset other => if other = user then [] else taps
  | .inspect _ => taps

/-- The taps on a node since its selection began, after a run. -/
def tallyFrom (flow : Flow) (n : Node) (user : UserId) :
    List Happening → Conversation σ → List String → List String
  | [], _, taps => taps
  | happening :: rest, c, taps =>
      tallyFrom flow n user rest (c.step flow happening).2 (c.tally flow n user taps happening)

/-! ## Selections along a run -/

section Step

variable {flow : Flow} {n : Node} {m : MultiSelect} {c : Conversation σ} {taps : List String}

omit [ProfileStore σ] in
/-- An event leaves the saved session where it is until it is done, unless it begins anew. -/
theorem get?_sessionFor (now : Time) (e : Event) (c : Conversation σ) :
    (c.sessionFor now e).2.entries.get? e.user.id =
      if c.isAnew now e then none else c.sessions.entries.get? e.user.id := by
  unfold sessionFor isAnew
  by_cases start : e.trigger = .start
  · simp only [start, decide_true, Bool.true_or, if_true]
    rw [SessionStore.get?_reset, if_pos rfl]
  · simp only [start, decide_false, Bool.false_or, if_false]
    rw [SessionStore.get?_get]
    cases c.sessions.entries.get? e.user.id with
    | none => rfl
    | some entry =>
        rw [Option.all_some, Option.filter_some]
        simp only [decide_true, Bool.true_and]
        cases c.sessions.isExpired entry.2 now with
        | true => rfl
        | false => rfl

omit [ProfileStore σ] in
/-- What an event finds is the session that is left there, or a fresh one. -/
theorem sessionFor_fst (now : Time) (e : Event) (c : Conversation σ) :
    (c.sessionFor now e).1 =
      (((c.sessionFor now e).2.entries.get? e.user.id).map Prod.fst).getD .fresh := by
  unfold sessionFor
  by_cases start : e.trigger = .start
  · simp only [start, if_true]
    rw [SessionStore.get?_reset, if_pos rfl]
    rfl
  · simp only [start, if_false]
    rw [SessionStore.get_fst, SessionStore.get?_get]
    cases c.sessions.entries.get? e.user.id with
    | none => rfl
    | some entry => simp only [Option.filter_some, decide_true, Bool.true_and]

omit [ProfileStore σ] in
/-- An event finds what the taps that still count have selected. -/
theorem selection_sessionFor {node : NodeId} (now : Time) (e : Event)
    (tracks : c.selection e.user.id node = selectionOf taps) :
    selection { c with sessions := (c.sessionFor now e).2 } e.user.id node =
      selectionOf (c.since now e taps) := by
  rw [selection, get?_sessionFor, since]
  split
  · rfl
  · exact tracks

omit [ProfileStore σ] in
theorem selected_sessionFor {node : NodeId} (now : Time) (e : Event)
    (tracks : c.selection e.user.id node = selectionOf taps) :
    (c.sessionFor now e).1.selected node = selectionOf (c.since now e taps) := by
  rw [← selection_sessionFor now e tracks, sessionFor_fst, selection]
  cases (c.sessionFor now e).2.entries.get? e.user.id with
  | none => rfl
  | some entry => rfl

theorem handle_crashed_iff {now : Time} {e : Event} :
    (c.handle flow now e).1 = .crashed ↔ (c.turn flow now e).failure = some .noRoom := by
  rw [handle_outcome, outcomeOf]
  cases (c.turn flow now e).failure with
  | none => simp
  | some failure =>
      cases failure with
      | flow error => simp
      | noRoom => simp

/-- The session of an event of the user, when it is done. -/
theorem selected_turn (now : Time) (e : Event) (found : flow.node? n.id = some n)
    (selects : n.multiSelect = some m)
    (tracks : c.selection e.user.id n.id = selectionOf taps)
    (shown : (c.turn flow now e).failure ≠ some .noRoom) :
    (c.turn flow now e).session.selected n.id =
      selectionOf (if c.takesUp flow now e n.id || (c.moveOf flow now e).ends n.id then []
        else c.since now e taps ++ (e.trigger.tap? n).toList) := by
  have settled := (c.sessionFor now e).1.selected_settle e.trigger found selects
  rw [selected_sessionFor now e tracks] at settled
  have performed := Turn.selected_perform e.user found selects (c.moveOf flow now e)
    (c.opened now e) shown
  have taken : ((c.moveOf flow now e).target?.any fun id =>
      n.id ∈ flow.passage maxAutoAdvance id) = c.takesUp flow now e n.id := rfl
  rw [taken] at performed
  refine performed.trans ?_
  cases c.takesUp flow now e n.id with
  | true => rfl
  | false =>
      refine settled.trans ?_
      change (if (c.moveOf flow now e).ends n.id then _ else _) = _
      cases (c.moveOf flow now e).ends n.id with
      | true => rfl
      | false =>
          cases e.trigger.tap? n with
          | none => exact congrArg selectionOf (List.append_nil _).symm
          | some value => exact (selectionOf_concat _ value).symm

/-- What is selected follows the taps through everything that can happen. -/
theorem selection_step {user : UserId} (happening : Happening) (found : flow.node? n.id = some n)
    (selects : n.multiSelect = some m) (tracks : c.selection user n.id = selectionOf taps) :
    (c.step flow happening).2.selection user n.id =
      selectionOf (c.tally flow n user taps happening) := by
  cases happening with
  | event now e =>
      rw [tally]
      by_cases own : e.user.id = user
      · subst own
        rw [if_neg (not_not_intro rfl)]
        show (c.handle flow now e).2.selection e.user.id n.id = _
        by_cases crashed : (c.handle flow now e).1 = .crashed
        · rw [if_pos crashed, ← selection_sessionFor now e tracks, selection, handle_sessions,
            if_pos (handle_crashed_iff.1 crashed)]
          rfl
        · have shown := mt handle_crashed_iff.2 crashed
          rw [if_neg crashed, ← selected_turn now e found selects tracks shown, selection,
            handle_sessions, if_neg shown, SessionStore.get?_save, if_pos rfl]
          rfl
      · have foreign : (Happening.event now e).concerns user = false := decide_eq_false own
        rw [if_pos own, ← tracks, selection, c.get?_step_of_other flow foreign nofun]
        rfl
  | purge now =>
      rw [selection] at tracks
      rw [tally]
      show (((c.sessions.purge now).2.entries.get? user).map _).getD [] = _
      rw [SessionStore.get?_purge]
      cases saved : c.sessions.entries.get? user with
      | none =>
          rw [saved] at tracks
          exact tracks
      | some entry =>
          rw [saved] at tracks
          rw [Option.any_some, Option.filter_some]
          cases c.sessions.isExpired entry.2 now with
          | true => rfl
          | false => exact tracks
  | reset other =>
      rw [selection] at tracks
      rw [tally]
      show (((c.sessions.reset other).entries.get? user).map _).getD [] = _
      rw [SessionStore.get?_reset]
      by_cases own : other = user
      · rw [if_pos own, if_pos own.symm]
        rfl
      · rw [if_neg own, if_neg (Ne.symm own)]
        exact tracks
  | inspect other => exact tracks

/-- What is selected follows the taps through every run. -/
theorem selection_run {user : UserId} (happenings : List Happening)
    (found : flow.node? n.id = some n) (selects : n.multiSelect = some m)
    (tracks : c.selection user n.id = selectionOf taps) :
    (c.run flow happenings).selection user n.id =
      selectionOf (c.tallyFrom flow n user happenings taps) := by
  induction happenings generalizing c taps with
  | nil => exact tracks
  | cons happening rest ih => exact ih (selection_step happening found selects tracks)

end Step

end Conversation

/-! ## The keyboard of a selection -/

/-- The places of a keyboard, and what a press on each of them does. -/
def InlineRows.effects (rows : InlineRows) : List (List ButtonEffect) :=
  rows.map (·.map ScreenButton.effect)

/-- The keyboard of a selection shows all options and which of them are selected. -/
structure MultiSelect.Marks (node : NodeId) (m : MultiSelect) (selected : List String)
    (rows : InlineRows) : Prop where
  /-- A mark stands in front of the options that are selected, and in front of no other. -/
  buttons : rows.flatten =
    m.options.mapIdx (fun index choice =>
      { text := if choice.answer ∈ selected then "✅ " ++ choice.text else choice.text
        effect := .act (.toggle node index) }) ++
      [{ text := m.doneText, effect := .act (.done node) }]
  /-- Every button stands where it stood when nothing was selected. -/
  places : ∃ shown, Screen.selectRows? node m [] = some shown ∧ rows.effects = shown.effects

theorem MultiSelect.exists_marks {n : Node} {m : MultiSelect} (selects : n.multiSelect = some m)
    (fits : n.fits) (selected : List String) :
    ∃ rows, Screen.selectRows? n.id m selected = some rows ∧ m.Marks n.id selected rows := by
  have room : Rows.fits Screen.buttonBytes (Rows.width m.columns) = true := by
    rw [Node.fits, selects] at fits
    exact fits
  have drawn (selected : List String) : Screen.selectRows? n.id m selected =
      some (Rows.cut m.columns (m.options.mapIdx (Screen.optionButton n.id selected)) ++
        [[Screen.doneButton n.id m]]) := by
    rw [Screen.selectRows?, Rows.layOut?_of_fits room]
    rfl
  -- The actions of the options depend on their places only.
  have effects (selected : List String) :
      (m.options.mapIdx (Screen.optionButton n.id selected)).map ScreenButton.effect =
        m.options.mapIdx fun index _ => .act (.toggle n.id index) := by
    apply List.ext_getElem?
    intro index
    rw [List.getElem?_map, List.getElem?_mapIdx, List.getElem?_mapIdx, Option.map_map]
    rfl
  refine ⟨_, drawn selected, ?_, _, drawn [], ?_⟩
  · rw [List.flatten_append, Rows.flatten_cut]
    rfl
  · rw [InlineRows.effects, InlineRows.effects, List.map_append, List.map_append, Rows.cut,
      Rows.map_cutFrom, effects, Rows.cut, Rows.map_cutFrom, effects]

theorem MultiSelect.selectRows?_of_cramped {n : Node} {m : MultiSelect}
    (selects : n.multiSelect = some m) (cramped : n.fits = false) (selected : List String) :
    Screen.selectRows? n.id m selected = none := by
  rw [Node.fits, selects] at cramped
  rw [← Option.not_isSome_iff_eq_none, Screen.isSome_selectRows?, Bool.not_eq_true]
  exact cramped

/-! ## The bookkeeping -/

/-- A store is another one whose answers of a user have been read, any number of times. -/
inductive ProfileStore.ReadOnly {σ : Type} [ProfileStore σ] (user : UserId) (s : σ) : σ → Prop
  | refl : ReadOnly user s s
  | read {t : σ} (earlier : ReadOnly user s t) : ReadOnly user s (ProfileStore.read t user).2

namespace Conversation

variable {σ : Type} [ProfileStore σ]

/-- The bookkeeping of a selection: what can be seen of it is what the taps have selected. -/
structure Tracks (flow : Flow) (n : Node) (m : MultiSelect) (user : UserId) (c : Conversation σ)
    (taps : List String) : Prop where
  saved : c.selection user n.id = selectionOf taps
  found : ∀ now e, e.user.id = user →
    (c.sessionFor now e).1.selected n.id = selectionOf (c.since now e taps)
  /-- A tap is answered with the keyboard that marks what is selected with it. -/
  toggle : ∀ now e index choice, e.user.id = user → e.trigger = .act (.toggle n.id index) →
    m.options[index]? = some choice → n.fits →
    ∃ rows, (c.handle flow now e).1 = .replies [.keyboard n.id rows] ∧
      m.Marks n.id (selectionOf (c.since now e taps ++ [choice.answer])) rows
  /-- Without room for the keyboard, a tap crashes and does not count. -/
  cramped : ∀ now e index choice, e.user.id = user → e.trigger = .act (.toggle n.id index) →
    m.options[index]? = some choice → n.fits = false → (c.handle flow now e).1 = .crashed
  /-- The selection is ended as soon as enough is selected. -/
  done : ∀ now e, e.user.id = user → e.trigger = .act (.done n.id) →
    c.moveOf flow now e =
      if (selectionOf (c.since now e taps)).length < m.minSelected then .insist n m else .finish n m
  /-- Ending it stores what is selected, as one answer and as the only one. -/
  stored : ∀ now e, e.user.id = user → c.moveOf flow now e = .finish n m →
    ProfileStore.ReadOnly user
      (ProfileStore.write (ProfileStore.record c.profiles e.user).2 user m.variableName
        (.ofTexts (selectionOf (c.since now e taps)))).2
      (c.handle flow now e).2.profiles

variable {flow : Flow} {n : Node} {m : MultiSelect} {c : Conversation σ} {now : Time} {e : Event}

/-- A tap on an option is answered with the keyboard of the selection, if it can be laid out. -/
theorem handle_toggle {index : Nat} {choice : Choice} (found : flow.node? n.id = some n)
    (selects : n.multiSelect = some m) (offered : m.options[index]? = some choice)
    (tapped : e.trigger = .act (.toggle n.id index)) :
    (c.handle flow now e).1 =
      (Screen.selectRows? n.id m
        (Turn.toggled ((c.sessionFor now e).1.selected n.id) choice.answer)).elim .crashed
          fun rows => .replies [.keyboard n.id rows] := by
  have moves : c.moveOf flow now e = .toggle n m choice := by
    rw [moveOf, tapped]
    exact Session.move_of_toggle _ found selects offered
  rw [handle_outcome, turn, moves]
  show outcomeOf (Turn.utter flow e.user (.toggle n m choice) _) = _
  rw [Turn.utter]
  dsimp only [Move.settle, opened]
  rw [Session.selected_select_self]
  cases Screen.selectRows? n.id m
      (Turn.toggled ((c.sessionFor now e).1.selected n.id) choice.answer) with
  | none => rfl
  | some rows => rfl

/-- The end of a selection stores what is selected and then only reads. -/
theorem readOnly_of_finish (ends : c.moveOf flow now e = .finish n m) :
    ProfileStore.ReadOnly e.user.id
      (ProfileStore.write (ProfileStore.record c.profiles e.user).2 e.user.id m.variableName
        (.ofTexts ((c.sessionFor now e).1.selected n.id))).2
      (c.handle flow now e).2.profiles := by
  rw [handle_profiles, turn, ends]
  exact Turn.profiles_perform (fun _ => .read) _ .refl

theorem tracks_of_selection {user : UserId} {taps : List String}
    (found : flow.node? n.id = some n) (selects : n.multiSelect = some m)
    (saved : c.selection user n.id = selectionOf taps) : c.Tracks flow n m user taps := by
  have finds (now : Time) (e : Event) (own : e.user.id = user) :
      (c.sessionFor now e).1.selected n.id = selectionOf (c.since now e taps) := by
    subst own
    exact selected_sessionFor now e saved
  refine ⟨saved, finds, ?_, ?_, ?_, ?_⟩
  · intro now e index choice own tapped offered fits
    obtain ⟨rows, drawn, marks⟩ := MultiSelect.exists_marks selects fits
      (selectionOf (c.since now e taps ++ [choice.answer]))
    refine ⟨rows, ?_, marks⟩
    rw [handle_toggle found selects offered tapped, finds now e own, ← selectionOf_concat, drawn]
    rfl
  · intro now e index choice own tapped offered cramped
    rw [handle_toggle found selects offered tapped,
      MultiSelect.selectRows?_of_cramped selects cramped]
    rfl
  · intro now e own pressed
    rw [← finds now e own, moveOf, pressed]
    exact Session.move_of_done _ found selects
  · intro now e own ends
    rw [← finds now e own]
    subst own
    exact readOnly_of_finish ends

/-- **Selections are kept by their taps.** Along every run, with whatever else the user and others
do in between, the selection of a node has the values that were tapped an odd number of times since
it began, in the order of their last taps. Every tap is answered with all options in their places,
marked by what is selected then, and the end of the selection stores just that. The exception is a
node without room for its keyboard: a tap on it crashes.

The flow need not be accepted for this. -/
theorem tracks_of_run {flow : Flow} {n : Node} {m : MultiSelect} (found : flow.node? n.id = some n)
    (selects : n.multiSelect = some m) (lifetime : Int) (profiles : σ)
    (happenings : List Happening) (user : UserId) :
    ((begin lifetime profiles).run flow happenings).Tracks flow n m user
      ((begin lifetime profiles).tallyFrom flow n user happenings []) :=
  tracks_of_selection found selects (selection_run happenings found selects rfl)

/-- Two of the options have the same value. -/
def blends : MultiSelect where
  variableName := "teas"
  options := [{ text := "black tea", value := some "tea" }, { text := "coffee" },
    { text := "green tea", value := some "tea" }]
  minSelected := 1
  columns := 2

/-- The node of these options. -/
def counter : Node where
  id := "counter"
  text := "What will it be?"
  multiSelect := some blends
  next := some "bill"

/-- A flow with the options and an end. -/
def teahouse : Flow where
  name := "teahouse"
  start := "counter"
  nodes := [counter, { id := "bill", text := "Thank you!" }]

/-- Tea is taken in, and out again by way of the other option. An attempt to end the selection comes
while nothing is selected. -/
def hesitation : List Happening :=
  [.event 0 { user := { id := 7 }, trigger := .start },
   .event 1 { user := { id := 7 }, trigger := .act (.toggle "counter" 0) },
   .event 2 { user := { id := 7 }, trigger := .act (.toggle "counter" 2) },
   .event 3 { user := { id := 8 }, trigger := .act (.toggle "counter" 1) },
   .event 4 { user := { id := 7 }, trigger := .act (.done "counter") },
   .event 5 { user := { id := 7 }, trigger := .act (.toggle "counter" 1) },
   .purge 6,
   .event 7 { user := { id := 7 }, trigger := .act (.toggle "counter" 2) },
   .event 8 { user := { id := 7 }, trigger := .enter "bill" }]

theorem hesitation_tracks :
    teahouse.Accepted ∧ teahouse.node? counter.id = some counter ∧
      ((begin 100 ({} : MemoryStore)).run teahouse hesitation).Tracks teahouse counter blends 7
        ["tea", "tea", "coffee", "tea"] ∧
      selectionOf ["tea", "tea", "coffee", "tea"] = ["coffee", "tea"] := by
  have accepted : teahouse.Accepted := by decide +kernel
  have found : teahouse.node? counter.id = some counter := by decide +kernel
  have counted : (begin 100 ({} : MemoryStore)).tallyFrom teahouse counter 7 hesitation [] =
      ["tea", "tea", "coffee", "tea"] := by decide +kernel
  have tracks := tracks_of_run found rfl 100 ({} : MemoryStore) hesitation 7
  rw [counted] at tracks
  exact ⟨accepted, found, tracks, by decide⟩

/-- The same flow with rows that cannot be set aside. -/
def cellar : Flow where
  name := "cellar"
  start := "counter"
  nodes := [{ counter with multiSelect := some { blends with columns := 144115188075855872 } },
    { id := "bill", text := "Thank you!" }]

/-- A tap on the tea. -/
def firstTap : Event where
  user := { id := 7 }
  trigger := .act (.toggle "counter" 0)

/-- Tea has been tapped once, and still it is not selected. -/
theorem firstTap_crashes :
    cellar.Accepted ∧ selectionOf ["tea"] = ["tea"] ∧
      ((begin 100 ({} : MemoryStore)).handle cellar 0 firstTap).1 = .crashed ∧
      ((begin 100 ({} : MemoryStore)).handle cellar 0 firstTap).2.selection 7 "counter" = [] := by
  decide +kernel

end Conversation

end Dialogue
