/-
# How an event can fail

An event can break off in three ways: a node that does not exist is asked for, a passage is longer
than the limit, or a keyboard cannot be laid out. The first two are errors of the flow, and this
module says exactly when they happen; the third comes before the second where both apply.

A passage is compared with its chain. Entering a node shows the chain one by one, so it breaks off
at the first node whose keyboard has no room, and at the limit only if all nodes up to there could
be shown. Whether a keyboard has room depends on the node alone, and not on the user.

In an accepted flow, the node that an event enters is one of the flow unless the event itself names
it. The node after a prompt is the delicate case: it is remembered in the session, and it is
known to exist because sessions stay true to the flow.
-/

import Dialogue.Proofs.Conversation.Validity
import Dialogue.Proofs.Screen.Layout

namespace Dialogue

/-- Whether the rows of the node's keyboard can be set aside. -/
def Node.fits (n : Node) : Bool :=
  match n.multiSelect, n.keyboard with
  | some m, _ => Rows.fits Screen.buttonBytes (Rows.width m.columns)
  | none, none => true
  | none, some k =>
      match k.kind with
      | .inline => Rows.fits Screen.buttonBytes (Rows.width k.columns)
      | .reply => Rows.fits Screen.labelBytes (Rows.width k.columns)
      | .remove => true

theorem Screen.isSome_selectRows? (node : NodeId) (m : MultiSelect) (selected : List String) :
    (selectRows? node m selected).isSome = Rows.fits buttonBytes (Rows.width m.columns) := by
  rw [selectRows?, Option.isSome_map, Rows.isSome_layOut?]

/-- A screen can be drawn for every user or for none. -/
theorem Screen.isSome_ofNode? (n : Node) (vars : Variables) (selected : List String) :
    (ofNode? n vars selected).isSome = n.fits := by
  rw [ofNode?, keyboard?, Node.fits]
  rw [Option.isSome_map]
  cases n.multiSelect with
  | some m =>
      dsimp only
      rw [Option.isSome_map, isSome_selectRows?]
  | none =>
      cases n.keyboard with
      | none => rfl
      | some k =>
          dsimp only
          cases k.kind with
          | inline =>
              dsimp only
              rw [Option.isSome_map, Rows.isSome_layOut?]
          | reply =>
              dsimp only
              rw [Option.isSome_map, Rows.isSome_layOut?]
          | remove => rfl

namespace Turn

variable {σ : Type} [ProfileStore σ] {flow : Flow} {user : User} {id first : NodeId} {n : Node}

/-- How a passage breaks off that may show some number of the nodes of a chain. -/
def passageFailure (first : NodeId) (steps : Nat) (chain : List Node) : Option Failure :=
  if (chain.take steps).all Node.fits then
    if steps < chain.length then some (.flow (.autoAdvanceLimit first maxAutoAdvance)) else none
  else some .noRoom

theorem passageFailure_nil (first : NodeId) (steps : Nat) :
    passageFailure first steps [] = none := by
  cases steps with
  | zero => rfl
  | succ steps => rfl

theorem passageFailure_cons (first : NodeId) (steps : Nat) (n : Node) (rest : List Node) :
    passageFailure first (steps + 1) (n :: rest) =
      if n.fits then passageFailure first steps rest else some .noRoom := by
  unfold passageFailure
  rw [List.take_succ_cons, List.all_cons, List.length_cons]
  cases n.fits with
  | false => rfl
  | true => simp only [Bool.true_and, if_true, Nat.add_lt_add_iff_right]

theorem passageFailure_eq_flow_iff {steps : Nat} {chain : List Node} {error : FlowError} :
    passageFailure first steps chain = some (.flow error) ↔
      (∀ n ∈ chain.take steps, n.fits) ∧ steps < chain.length ∧
        error = .autoAdvanceLimit first maxAutoAdvance := by
  rw [passageFailure]
  by_cases drawn : (chain.take steps).all Node.fits
  · rw [if_pos drawn]
    rw [List.all_eq_true] at drawn
    by_cases long : steps < chain.length
    · rw [if_pos long]
      constructor
      · intro same
        cases same
        exact ⟨drawn, long, rfl⟩
      · rintro ⟨_, _, rfl⟩
        rfl
    · rw [if_neg long]
      constructor
      · intro same
        cases same
      · rintro ⟨_, long', _⟩
        exact absurd long' long
  · rw [if_neg drawn]
    rw [List.all_eq_true] at drawn
    constructor
    · intro same
      cases same
    · rintro ⟨drawn', _⟩
      exact absurd drawn' drawn

theorem passageFailure_eq_noRoom_iff {steps : Nat} {chain : List Node} :
    passageFailure first steps chain = some .noRoom ↔ ∃ n ∈ chain.take steps, n.fits = false := by
  have cramped : (∃ n ∈ chain.take steps, n.fits = false) ↔
      ¬ (chain.take steps).all Node.fits = true := by
    simp
  rw [cramped, passageFailure]
  by_cases drawn : (chain.take steps).all Node.fits = true
  · rw [if_pos drawn]
    split <;> simp [drawn]
  · simp [drawn]

theorem isSome_screen? (flow : Flow) (user : User) (n : Node) (t : Turn σ) :
    (t.screen? flow user n).isSome = n.fits :=
  Screen.isSome_ofNode? n _ _

/-- A passage breaks off as its chain says. -/
theorem failure_enterFrom {chain : List Node} (isChain : flow.Chain id chain) (steps : Nat)
    (t : Turn σ) (going : t.failure = none) :
    (enterFrom flow user first steps id t).failure = passageFailure first steps chain := by
  induction isChain generalizing steps t with
  | @stop id n found ends =>
      cases steps with
      | zero => rfl
      | succ steps =>
          rw [enterFrom_of_found user first steps t found, passageFailure_cons,
            ← isSome_screen? flow user n t, ends]
          cases t.screen? flow user n with
          | none => rfl
          | some screen =>
              rw [passageFailure_nil]
              exact going
  | @pass id next n rest found onward _ ih =>
      cases steps with
      | zero => rfl
      | succ steps =>
          rw [enterFrom_of_found user first steps t found, passageFailure_cons,
            ← isSome_screen? flow user n t, onward]
          cases t.screen? flow user n with
          | none => rfl
          | some screen => exact ih steps _ going

/-- Before a node is entered, only the keyboard of a selection is laid out. -/
theorem failure_prepare_of_ne_toggle {flow : Flow} {user : User} {move : Move} {t : Turn σ}
    (going : t.failure = none) (other : ∀ n m c, move ≠ .toggle n m c) :
    (t.prepare flow user move).failure = none := by
  have stored (answer : Option (String × Value)) : (t.keep user.id answer).failure = none := by
    cases answer with
    | none => exact going
    | some answer => exact going
  cases move with
  | toggle n m c => exact absurd rfl (other n m c)
  | _ => exact stored _

/-- Before a node is entered, a turn can break off only for want of room, and a move that does so
enters none. -/
theorem failure_prepare (flow : Flow) (user : User) (move : Move) (t : Turn σ)
    (going : t.failure = none) :
    (t.prepare flow user move).failure = none ∨
      (t.prepare flow user move).failure = some .noRoom ∧ move.target? = none := by
  cases move with
  | toggle n m c =>
      rw [prepare, utter]
      dsimp only
      split
      · exact .inr ⟨rfl, rfl⟩
      · exact .inl going
  | _ => exact .inl (failure_prepare_of_ne_toggle going fun _ _ _ => Move.noConfusion)

variable {move : Move} {t : Turn σ}

/-- A move that enters no node never fails for a reason that the flow gives. -/
theorem failure_perform_of_staying (going : t.failure = none) (stays : move.target? = none) :
    (t.perform flow user move).failure = none ∨
      (t.perform flow user move).failure = some .noRoom := by
  rw [perform]
  rw [stays]
  rcases failure_prepare flow user move t going with fine | ⟨cramped, _⟩
  · exact .inl fine
  · exact .inr cramped

/-- A move that enters a node has not broken off before. -/
theorem failure_prepare_of_entering (going : t.failure = none) (entered : move.target? = some id) :
    (t.prepare flow user move).failure = none := by
  rcases failure_prepare flow user move t going with fine | ⟨_, stays⟩
  · exact fine
  · rw [stays] at entered
    cases entered

theorem failure_perform_of_chain {chain : List Node} (going : t.failure = none)
    (entered : move.target? = some id) (isChain : flow.Chain id chain) :
    (t.perform flow user move).failure = passageFailure id maxAutoAdvance chain := by
  rw [perform]
  rw [entered]
  apply failure_enterFrom isChain
  exact failure_prepare_of_entering going entered

/-- Entering a node that does not exist breaks off and leaves the session as it was settled. -/
theorem perform_of_missing (entered : move.target? = some id) (missing : flow.node? id = none) :
    (t.perform flow user move).failure =
        some (.flow (.unknownNode ((move.settle t.session).current.getD "") id)) ∧
      (t.perform flow user move).session = move.settle t.session := by
  have enters : t.perform flow user move = (t.prepare flow user move).fail
      (.flow (.unknownNode ((t.prepare flow user move).session.current.getD "") id)) := by
    rw [perform]
    rw [entered]
    exact enterFrom_of_missing id 63 _ missing
  rw [enters, prepare_session]
  exact ⟨rfl, prepare_session flow user move t⟩

end Turn

/-- In an accepted flow, the node that a move enters exists unless the trigger itself names it. -/
theorem Session.Valid.target_resolves {flow : Flow} {s : Session} {trigger : Trigger} {move : Move}
    {id : NodeId} (valid : s.Valid flow) (accepted : flow.Accepted)
    (justified : move.Justified flow s trigger) (entered : move.target? = some id) :
    (flow.node? id).isSome ∨ trigger = .enter id := by
  cases move with
  | enter target =>
      obtain rfl : target = id := Option.some.inj entered
      rcases justified with ⟨_, rfl⟩ | asked | ⟨synonym, listed, rfl⟩
      · exact .inl accepted.start_resolves
      · exact .inr asked
      · exact .inl (accepted.synonym_resolves listed)
  | press n b =>
      obtain ⟨found, listed⟩ := justified
      left
      cases leads : b.goto with
      | some target =>
          have named : b.goto = some id := by
            simpa [Move.target?, leads] using entered
          exact accepted.goto_resolves found listed named
      | none =>
          have next : n.next = some id := by
            simpa [Move.target?, leads] using entered
          exact accepted.next_resolves found next
  | finish n m =>
      obtain ⟨found, _, _⟩ := justified
      exact .inl (accepted.next_resolves found entered)
  | accept p answer =>
      -- The session remembers the node after the prompt; the flow still has it there.
      obtain ⟨waiting, _⟩ := justified
      obtain ⟨_, n, found, _, next⟩ := valid.pending p waiting
      exact .inl (accepted.next_resolves found (next.trans entered))
  | _ => cases entered

namespace Conversation

variable {σ : Type} {flow : Flow} {now : Time} {e : Event} {c : Conversation σ}

/-- The node that an event enters: the start, one that the event names, the target of a button or
the node after the button's own, the node of a synonym, or the node after a prompt or a
selection. -/
def entered? (flow : Flow) (now : Time) (e : Event) (c : Conversation σ) : Option NodeId :=
  (c.moveOf flow now e).target?

/-- The errors of an event. -/
inductive Fails (flow : Flow) (now : Time) (e : Event) (c : Conversation σ) : FlowError → Prop
  | /-- The event asks for a node that is not there. -/
    unknown {id : NodeId} (asked : e.trigger = .enter id) (missing : flow.node? id = none) :
      Fails flow now e c (.unknownNode ((c.sessionFor now e).1.current.getD "") id)
  | /-- The passage that the event enters goes on beyond the limit, and can be shown up to there. -/
    endless {id : NodeId} {chain : List Node} (entered : c.entered? flow now e = some id)
      (isChain : flow.Chain id chain) (long : maxAutoAdvance < chain.length)
      (drawn : ∀ n ∈ chain.take maxAutoAdvance, n.fits) :
      Fails flow now e c (.autoAdvanceLimit id maxAutoAdvance)

theorem moveOf_enter {id : NodeId} (asked : e.trigger = .enter id) :
    c.moveOf flow now e = .enter id := by
  rw [moveOf]
  rw [asked]
  rfl

variable [ProfileStore σ]

theorem handle_failed_iff_failure {error : FlowError} :
    (c.handle flow now e).1 = .failed error ↔
      (c.turn flow now e).failure = some (.flow error) := by
  rw [handle_outcome]
  rw [outcomeOf]
  cases (c.turn flow now e).failure with
  | none => simp
  | some failure =>
      cases failure with
      | flow error => simp
      | noRoom => simp

/-- Asking for a node that is not there fails, and the session stays what it was. -/
theorem turn_of_unknown {id : NodeId} (asked : e.trigger = .enter id)
    (missing : flow.node? id = none) :
    (c.turn flow now e).failure =
        some (.flow (.unknownNode ((c.sessionFor now e).1.current.getD "") id)) ∧
      (c.turn flow now e).session = (c.sessionFor now e).1 := by
  rw [turn]
  rw [moveOf_enter asked]
  exact Turn.perform_of_missing rfl missing

theorem sessions_of_unknown {id : NodeId} (asked : e.trigger = .enter id)
    (missing : flow.node? id = none) :
    (c.handle flow now e).2.sessions =
      (c.sessions.get e.user.id now).2.save e.user.id (c.sessions.get e.user.id now).1 now := by
  have found : c.sessionFor now e = c.sessions.get e.user.id now := by
    rw [sessionFor]
    rw [asked]
    rfl
  have unknown : (c.turn flow now e).failure =
        some (.flow (.unknownNode ((c.sessionFor now e).1.current.getD "") id)) ∧
      (c.turn flow now e).session = (c.sessionFor now e).1 := turn_of_unknown asked missing
  rw [handle_sessions, unknown.1, unknown.2, found]
  rfl

/-- In an accepted flow, an event fails exactly with the errors of `Fails`. -/
theorem handle_failed_iff {error : FlowError} (accepted : flow.Accepted)
    (valid : (c.sessionFor now e).1.Valid flow) :
    (c.handle flow now e).1 = .failed error ↔ c.Fails flow now e error := by
  rw [handle_failed_iff_failure]
  constructor
  · intro failed
    cases entered : (c.moveOf flow now e).target? with
    | none =>
        have stays : (c.turn flow now e).failure = none ∨
            (c.turn flow now e).failure = some .noRoom :=
          Turn.failure_perform_of_staying rfl entered
        rcases stays with fine | cramped
        · cases fine.symm.trans failed
        · cases cramped.symm.trans failed
    | some id =>
        by_cases resolves : (flow.node? id).isSome
        · obtain ⟨chain, isChain⟩ := accepted.exists_chain resolves
          have broke : Turn.passageFailure id maxAutoAdvance chain = some (.flow error) := by
            rw [← failed]
            exact (Turn.failure_perform_of_chain rfl entered isChain).symm
          obtain ⟨drawn, long, rfl⟩ := Turn.passageFailure_eq_flow_iff.1 broke
          exact .endless entered isChain long drawn
        · have justified := Session.move_justified flow (c.sessionFor now e).1 e.trigger
          rcases valid.target_resolves accepted justified entered with found | asked
          · exact absurd found resolves
          · have missing : flow.node? id = none := by
              rw [← Option.not_isSome_iff_eq_none]
              exact resolves
            have failure : (c.turn flow now e).failure =
                some (.flow (.unknownNode ((c.sessionFor now e).1.current.getD "") id)) :=
              (turn_of_unknown asked missing).1
            cases failure.symm.trans failed
            exact .unknown asked missing
  · intro fails
    cases fails with
    | unknown asked missing => exact (turn_of_unknown asked missing).1
    | endless entered isChain long drawn =>
        rw [turn]
        rw [Turn.failure_perform_of_chain rfl entered isChain]
        exact Turn.passageFailure_eq_flow_iff.2 ⟨drawn, long, rfl⟩

end Conversation

end Dialogue
