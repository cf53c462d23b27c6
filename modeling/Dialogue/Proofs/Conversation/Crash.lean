/-
# When an event crashes

A keyboard is laid out in rows, and the places of a row are set aside before it is filled. A flow is
accepted with any number of columns above zero, and a selection with any number at all, so a row may
need more bytes than can be addressed. This module says which keyboards those are, and that an event
crashes exactly if it has one of them laid out: it enters a passage that comes to such a node before
the limit, or it toggles an option there.

No state matters besides the move that the event amounts to. So a flow is safe in all runs exactly
if none of its nodes is oversized, and where one is, the user only has to go there.
-/

import Dialogue.Proofs.Conversation.Selection

namespace Dialogue

/-! ## Oversized keyboards -/

/-- A row of the node's keyboard takes more bytes than can be addressed. A selection takes the place
of any other keyboard. -/
inductive Node.Oversized (n : Node) : Prop
  | select {m : MultiSelect} (selects : n.multiSelect = some m)
      (wide : Rows.addressable < m.columns * Screen.buttonBytes)
  | inline {k : Keyboard} (plain : n.multiSelect = none) (shows : n.keyboard = some k)
      (kind : k.kind = .inline) (wide : Rows.addressable < k.columns * Screen.buttonBytes)
  | reply {k : Keyboard} (plain : n.multiSelect = none) (shows : n.keyboard = some k)
      (kind : k.kind = .reply) (wide : Rows.addressable < k.columns * Screen.labelBytes)

theorem Node.oversized_iff {n : Node} : n.Oversized ↔ n.fits = false := by
  have button : Screen.buttonBytes ≤ Rows.addressable := by decide
  have label : Screen.labelBytes ≤ Rows.addressable := by decide
  rw [Node.fits]
  constructor
  · intro oversized
    cases oversized with
    | select selects wide =>
        rw [selects]
        exact (Rows.fits_width_eq_false_iff button).2 wide
    | inline plain shows kind wide =>
        rw [plain, shows]
        dsimp only
        rw [kind]
        exact (Rows.fits_width_eq_false_iff button).2 wide
    | reply plain shows kind wide =>
        rw [plain, shows]
        dsimp only
        rw [kind]
        exact (Rows.fits_width_eq_false_iff label).2 wide
  · intro cramped
    cases selects : n.multiSelect with
    | some m =>
        rw [selects] at cramped
        exact .select selects ((Rows.fits_width_eq_false_iff button).1 cramped)
    | none =>
        rw [selects] at cramped
        cases shows : n.keyboard with
        | none =>
            rw [shows] at cramped
            cases cramped
        | some k =>
            rw [shows] at cramped
            dsimp only at cramped
            cases kind : k.kind with
            | inline =>
                rw [kind] at cramped
                exact .inline selects shows kind ((Rows.fits_width_eq_false_iff button).1 cramped)
            | reply =>
                rw [kind] at cramped
                exact .reply selects shows kind ((Rows.fits_width_eq_false_iff label).1 cramped)
            | remove =>
                rw [kind] at cramped
                cases cramped

/-! ## Turns without room -/

namespace Turn

variable {σ : Type} [ProfileStore σ] {flow : Flow} {user : User} {first : NodeId} {n : Node}

theorem failure_perform_toggle {m : MultiSelect} {c : Choice} {t : Turn σ}
    (going : t.failure = none) (selects : n.multiSelect = some m) :
    (t.perform flow user (.toggle n m c)).failure = some .noRoom ↔ n.Oversized := by
  have room := Screen.isSome_selectRows? n.id m
    (((Move.toggle n m c).settle t.session).selected n.id)
  rw [Node.oversized_iff, Node.fits, selects]
  dsimp only
  rw [← room]
  show (utter flow user (.toggle n m c)
    { t with session := (Move.toggle n m c).settle t.session }).failure = _ ↔ _
  rw [utter]
  dsimp only
  cases Screen.selectRows? n.id m (((Move.toggle n m c).settle t.session).selected n.id) with
  | none => simp [fail]
  | some rows => simp [reply, going]

/-- A move that neither enters a node nor toggles an option lays nothing out. -/
theorem failure_perform_of_quiet {move : Move} {t : Turn σ} (going : t.failure = none)
    (stays : move.target? = none) (other : ∀ n m c, move ≠ .toggle n m c) :
    (t.perform flow user move).failure = none := by
  rw [perform, stays]
  exact failure_prepare_of_ne_toggle going other

end Turn

namespace Conversation

variable {σ : Type} [ProfileStore σ] {flow : Flow} {now : Time} {e : Event} {c : Conversation σ}

/-- The event has an oversized keyboard laid out. -/
inductive Crashes (flow : Flow) (now : Time) (e : Event) (c : Conversation σ) : Prop
  | /-- The passage that the event enters comes to an oversized node before the limit. -/
    shown {id : NodeId} {chain : List Node} {n : Node} (entered : c.entered? flow now e = some id)
      (isChain : flow.Chain id chain) (listed : n ∈ chain.take maxAutoAdvance)
      (oversized : n.Oversized)
  | /-- The event toggles an option of an oversized node. -/
    toggled {n : Node} {m : MultiSelect} {choice : Choice}
      (toggles : c.moveOf flow now e = .toggle n m choice) (oversized : n.Oversized)

omit [ProfileStore σ] in
/-- An option that an event toggles belongs to a selection of the flow. -/
theorem found_of_toggle {n : Node} {m : MultiSelect} {choice : Choice}
    (toggles : c.moveOf flow now e = .toggle n m choice) :
    flow.node? n.id = some n ∧ n.multiSelect = some m := by
  have justified : (c.moveOf flow now e).Justified flow (c.sessionFor now e).1 e.trigger :=
    Session.move_justified flow _ e.trigger
  rw [toggles] at justified
  exact ⟨justified.1, justified.2.1⟩

/-- In an accepted flow, an event crashes in any state exactly if it has an oversized keyboard laid
out. -/
theorem handle_crashed_iff_crashes (accepted : flow.Accepted) :
    (c.handle flow now e).1 = .crashed ↔ c.Crashes flow now e := by
  rw [handle_crashed_iff]
  constructor
  · intro crashed
    cases entered : (c.moveOf flow now e).target? with
    | some id =>
        by_cases resolves : (flow.node? id).isSome
        · obtain ⟨chain, isChain⟩ := accepted.exists_chain resolves
          rw [turn, Turn.failure_perform_of_chain rfl entered isChain,
            Turn.passageFailure_eq_noRoom_iff] at crashed
          obtain ⟨n, listed, cramped⟩ := crashed
          exact .shown entered isChain listed (Node.oversized_iff.2 cramped)
        · -- A node that is not there is an error before anything is laid out.
          have missing : flow.node? id = none := Option.not_isSome_iff_eq_none.1 resolves
          have unknown : (c.turn flow now e).failure = some (.flow _) :=
            (Turn.perform_of_missing entered missing).1
          cases unknown.symm.trans crashed
    | none =>
        by_cases toggles : ∃ n m choice, c.moveOf flow now e = .toggle n m choice
        · obtain ⟨n, m, choice, moves⟩ := toggles
          rw [turn, moves, Turn.failure_perform_toggle rfl (found_of_toggle moves).2] at crashed
          exact .toggled moves crashed
        · have fine : (c.turn flow now e).failure = none :=
            Turn.failure_perform_of_quiet rfl entered fun n m choice moves =>
              toggles ⟨n, m, choice, moves⟩
          cases fine.symm.trans crashed
  · intro crashes
    cases crashes with
    | shown entered isChain listed oversized =>
        rw [turn, Turn.failure_perform_of_chain rfl entered isChain]
        exact Turn.passageFailure_eq_noRoom_iff.2 ⟨_, listed, Node.oversized_iff.1 oversized⟩
    | toggled moves oversized =>
        rw [turn, moves]
        exact (Turn.failure_perform_toggle rfl (found_of_toggle moves).2).2 oversized

omit [ProfileStore σ] in
/-- What crashes an event is a node of the flow. -/
theorem Crashes.exists_oversized (crashes : c.Crashes flow now e) :
    ∃ n ∈ flow.nodes, n.Oversized := by
  cases crashes with
  | @shown _ _ n _ isChain listed oversized =>
      have found := isChain.node?_of_mem (List.mem_of_mem_take listed)
      exact ⟨n, Flow.mem_of_node? found, oversized⟩
  | @toggled n _ _ moves oversized =>
      exact ⟨n, Flow.mem_of_node? (found_of_toggle moves).1, oversized⟩

omit [ProfileStore σ] in
/-- Whoever asks for an oversized node meets it first. -/
theorem crashes_of_enter {n : Node} (accepted : flow.Accepted) (member : n ∈ flow.nodes)
    (oversized : n.Oversized) (asked : e.trigger = .enter n.id) : c.Crashes flow now e := by
  have found : flow.node? n.id = some n := accepted.distinct.node?_of_mem member
  have entered : c.entered? flow now e = some n.id := by
    rw [entered?, moveOf_enter asked]
    rfl
  obtain ⟨chain, isChain⟩ := accepted.exists_chain (Option.isSome_iff_exists.2 ⟨n, found⟩)
  cases chain with
  | nil => cases isChain
  | cons first rest =>
      obtain rfl : n = first :=
        Option.some.inj (found.symm.trans (Flow.chain_cons_iff.1 isChain).1)
      exact .shown entered isChain List.mem_cons_self oversized

/-- **When events crash.** In an accepted flow, after any run, an event crashes exactly if it has an
oversized keyboard laid out; otherwise it is answered or fails with an error. So no event of any run
crashes exactly if the flow has no oversized node. -/
theorem crashes_iff_oversized (flow : Flow) (accepted : flow.Accepted) (lifetime : Int)
    (profiles : σ) :
    (∀ happenings now e,
      (((begin lifetime profiles).run flow happenings).handle flow now e).1 = .crashed ↔
        ((begin lifetime profiles).run flow happenings).Crashes flow now e) ∧
    ((∀ happenings now e,
        (((begin lifetime profiles).run flow happenings).handle flow now e).1 ≠ .crashed) ↔
      ∀ n ∈ flow.nodes, ¬ n.Oversized) := by
  refine ⟨fun happenings now e => handle_crashed_iff_crashes accepted, ?_⟩
  constructor
  · intro safe n member oversized
    have crashes : (begin lifetime profiles).Crashes flow 0 ⟨{ id := 0 }, .enter n.id⟩ :=
      crashes_of_enter accepted member oversized rfl
    exact safe [] 0 _ ((handle_crashed_iff_crashes accepted).2 crashes)
  · intro roomy happenings now e crashed
    obtain ⟨n, member, oversized⟩ :=
      ((handle_crashed_iff_crashes accepted).1 crashed).exists_oversized
    exact roomy n member oversized

/-- A room with more columns than there are addresses. -/
def hall : Node where
  id := "hall"
  text := "What a width!"
  keyboard := some
    { columns := 18446744073709551615
      buttons := [{ text := "map", url := some "https://example.com" },
        { text := "back", goto := some "desk" }] }

/-- A flow with one room that can be shown and one that cannot. -/
def museum : Flow where
  name := "museum"
  start := "desk"
  nodes := [
    { id := "desk", text := "Come in!",
      keyboard := some { buttons := [{ text := "in", goto := some "hall" }] } },
    hall]

/-- The visitor arrives. -/
def entrance : Event where
  user := { id := 7 }
  trigger := .start

theorem museum_unsafe :
    museum.Accepted ∧ hall.Oversized ∧
      ((begin 100 ({} : MemoryStore)).handle museum 0 entrance).1 ≠ .crashed ∧
      ¬ ∀ happenings now e,
        (((begin 100 ({} : MemoryStore)).run museum happenings).handle museum now e).1 ≠
          .crashed := by
  have accepted : museum.Accepted := by decide +kernel
  have oversized : hall.Oversized := .inline rfl rfl rfl (by decide)
  have shown : ((begin 100 ({} : MemoryStore)).handle museum 0 entrance).1 ≠ .crashed := by
    decide +kernel
  refine ⟨accepted, oversized, shown, ?_⟩
  intro safe
  exact (crashes_iff_oversized museum accepted 100 ({} : MemoryStore)).2.1 safe hall (by decide)
    oversized

/-- The visitor arrives and goes in. -/
theorem museum_crashed :
    museum.Accepted ∧
      (((begin 100 ({} : MemoryStore)).run museum [.event 0 entrance]).handle museum 1
        ⟨{ id := 7 }, .act (.button "desk" 0)⟩).1 = .crashed := by
  decide +kernel

end Conversation

end Dialogue
