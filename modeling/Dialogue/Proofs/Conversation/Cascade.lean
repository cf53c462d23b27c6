/-
# Cascades

A node that waits for nothing passes on to the next one, so that entering one node may show several.
Each of them is taken up by the session and drawn with the answers of the user at that time. This
module says what is left of it in the end: the screens of the whole chain, all drawn with the
answers that could be read when the first node was entered, and a session that has taken up the last
node and knows nothing of those before.

Only the last node of a chain can wait, so no other has a prompt or a selection to leave behind.
-/

import Dialogue.Proofs.Conversation.Failure
import Dialogue.Proofs.Profile.Steadiness

namespace Dialogue

/-! ## What a screen is drawn with -/

/-- What is selected does not show where there is nothing to select. -/
theorem Screen.ofNode?_of_no_selection {n : Node} (plain : n.multiSelect = none) (vars : Variables)
    (selected other : List String) : ofNode? n vars selected = ofNode? n vars other := by
  have same : keyboard? n vars selected = keyboard? n vars other := by
    unfold keyboard?
    rw [plain]
    cases n.keyboard with
    | none => rfl
    | some k => rfl
  rw [ofNode?, ofNode?, same]

/-- The identity of a user does not take the place of an answer. -/
theorem User.get?_vars_of_answer {answers : Profile} {key : String} {value : Value}
    (stored : answers.get? key = some value) (user : User) (otherwise : String) :
    (user.vars answers otherwise).get? key = some value.display := by
  rw [User.vars]
  refine List.foldlRecOn _ _ (motive := fun vars : Variables =>
    vars.get? key = some value.display) ?_ ?_
  · rw [Table.get?_map, stored]
    rfl
  · intro vars known entry _
    dsimp only
    split
    · exact known
    · next unknown =>
        have other : key ≠ entry.1 := by
          intro same
          exact unknown (by rw [Table.contains, ← same, known]; rfl)
        rw [Table.get?_insert, if_neg other]
        exact known

/-! ## One node of a cascade -/

theorem Node.multiSelect_of_autoNext {n : Node} {next : NodeId} (onward : n.autoNext = some next) :
    n.multiSelect = none := by
  rw [autoNext] at onward
  split at onward
  · cases onward
  · next ready =>
      rw [waits] at ready
      simp only [Bool.or_eq_true, not_or, Option.not_isSome_iff_eq_none] at ready
      exact ready.1.2

namespace Turn

/-- A node without a selection leaves no trace once another node has been taken up. -/
theorem arrive_arrive {n : Node} (none : n.multiSelect = none) (s : Session) (last : Node) :
    arrive (arrive s n) last = arrive s last := by
  unfold arrive
  rw [none]
  rfl

theorem selected_arrive {n : Node} {m : MultiSelect} (selects : n.multiSelect = some m)
    (s : Session) : (arrive s n).selected n.id = [] := by
  unfold arrive Session.selected
  rw [selects]
  show ((s.selections.insert n.id []).get? n.id).getD [] = []
  rw [Table.get?_insert_self]
  rfl

variable {σ : Type} [ProfileStore σ] {flow : Flow} {user : User}

/-- A node that is entered is shown with nothing selected. -/
theorem screen?_eq (flow : Flow) (user : User) (n : Node) (t : Turn σ) :
    t.screen? flow user n = Screen.ofNode? n (t.vars flow user) [] := by
  rw [screen?]
  cases selects : n.multiSelect with
  | none => exact Screen.ofNode?_of_no_selection selects _ _ _
  | some m => rw [selected_arrive selects]

theorem exists_screen? (flow : Flow) (user : User) {n : Node} (t : Turn σ) (fits : n.fits) :
    ∃ screen, t.screen? flow user n = some screen := by
  rw [← isSome_screen? flow user n t] at fits
  exact Option.isSome_iff_exists.1 fits

/-- Reading again gives the same values of names. -/
theorem vars_takenUp {P : σ → Prop} (steady : ProfileStore.Steady P) (flow : Flow) (user : User)
    (n : Node) (t : Turn σ) (holds : P t.profiles) :
    (t.takenUp user n).vars flow user = t.vars flow user := by
  show user.vars (ProfileStore.shown (ProfileStore.read t.profiles user.id).2 user.id)
      flow.userName = user.vars (ProfileStore.shown t.profiles user.id) flow.userName
  rw [steady.shown_read user.id holds]

/-! ## The whole cascade -/

/-- A passage through a whole chain shows every node of it with the same values of names, and takes
up the last one. -/
theorem enterFrom_of_chain {P : σ → Prop} (steady : ProfileStore.Steady P) {first id : NodeId}
    {front : List Node} {last : Node} (isChain : flow.Chain id (front ++ [last])) (steps : Nat)
    (short : (front ++ [last]).length ≤ steps) (room : ∀ n ∈ front ++ [last], n.fits)
    (t : Turn σ) (holds : P t.profiles) :
    (enterFrom flow user first steps id t).session = arrive t.session last ∧
      (enterFrom flow user first steps id t).failure = t.failure ∧
      ∃ screens : List Screen, (enterFrom flow user first steps id t).replies =
          t.replies ++ screens.map Reply.screen ∧
        screens.map some =
          (front ++ [last]).map fun n => Screen.ofNode? n (t.vars flow user) [] := by
  -- Along the chain the session is replaced and the answers are read again, with no effect on the
  -- screens still to come.
  induction front generalizing id steps t with
  | nil =>
      obtain ⟨found, goesOn⟩ := Flow.chain_cons_iff.1 isChain
      have stops : last.autoNext = none := by
        split at goesOn
        · assumption
        · cases goesOn
      obtain ⟨steps, rfl⟩ : ∃ steps', steps = steps' + 1 := Nat.exists_eq_add_of_le' short
      obtain ⟨screen, drawn⟩ := exists_screen? flow user t (room last (by simp))
      have shown : enterFrom flow user first (steps + 1) id t =
          (t.takenUp user last).reply (.screen screen) := by
        rw [enterFrom_of_found user first steps t found, drawn, stops]
      rw [shown]
      refine ⟨rfl, rfl, [screen], rfl, ?_⟩
      rw [screen?_eq] at drawn
      simp [drawn]
  | cons n front ih =>
      obtain ⟨found, goesOn⟩ := Flow.chain_cons_iff.1 isChain
      cases onward : n.autoNext with
      | none =>
          rw [onward] at goesOn
          simp at goesOn
      | some next =>
          rw [onward] at goesOn
          have chain : flow.Chain next (front ++ [last]) := goesOn
          obtain ⟨steps, rfl⟩ : ∃ steps', steps = steps' + 1 :=
            Nat.exists_eq_add_of_le' (Nat.le_trans (Nat.le_add_left 1 _) short)
          obtain ⟨screen, drawn⟩ := exists_screen? flow user t (room n (by simp))
          have shown : enterFrom flow user first (steps + 1) id t =
              enterFrom flow user first steps next ((t.takenUp user n).reply (.screen screen)) := by
            rw [enterFrom_of_found user first steps t found, drawn, onward]
          have same : ((t.takenUp user n).reply (.screen screen)).vars flow user =
              t.vars flow user := vars_takenUp steady flow user n t holds
          obtain ⟨session, failure, screens, replies, drawn'⟩ :=
            ih chain steps (Nat.le_of_succ_le_succ short)
              (fun m listed => room m (List.mem_cons_of_mem _ listed))
              ((t.takenUp user n).reply (.screen screen)) (steady.read user.id holds)
          rw [shown]
          refine ⟨?_, failure, screen :: screens, ?_, ?_⟩
          · rw [session]
            exact arrive_arrive (Node.multiSelect_of_autoNext onward) t.session last
          · rw [replies]
            show t.replies ++ [Reply.screen screen] ++ _ = _
            rw [List.append_assoc]
            rfl
          · rw [screen?_eq] at drawn
            rw [List.map_cons, List.cons_append, List.map_cons, drawn', same, drawn]

/-- Entering a node shows the whole chain that begins with it and stops at the last node. -/
structure Cascades (flow : Flow) (user : User) (id : NodeId) (front : List Node) (last : Node)
    (before : Turn σ) : Prop where
  /-- Nothing breaks off. -/
  failure : (before.enter flow user id).failure = none
  /-- There is one more reply for each node, its screen. All screens are drawn with the values of
  names that are read when the node is entered. -/
  screens : ∃ screens : List Screen,
    (before.enter flow user id).replies = before.replies ++ screens.map Reply.screen ∧
      screens.map some =
        (front ++ [last]).map fun n => Screen.ofNode? n (before.vars flow user) []
  /-- These values have the answer that was stored just before. -/
  answered : ∀ (store : σ) (key : String) (value : Value) (profile : Profile),
    before.profiles = (ProfileStore.write store user.id key value).2 →
    (ProfileStore.write store user.id key value).1 = .ok () →
    (ProfileStore.read before.profiles user.id).1 = .ok profile →
    (before.vars flow user).get? key = some value.display
  current : (before.enter flow user id).session.current = some last.id
  /-- The prompt of the last node waits, if it has one. -/
  pending : (before.enter flow user id).session.pending =
    last.input.map fun prompt => { node := last.id, prompt, next := last.next }
  /-- A selection begins with nothing selected. -/
  emptied : last.multiSelect.isSome →
    (before.enter flow user id).session.selections.get? last.id = some []
  /-- All other selections stay as they were. -/
  untouched : ∀ other, (other = last.id → last.multiSelect = none) →
    (before.enter flow user id).session.selections.get? other =
      before.session.selections.get? other

theorem selections_arrive_self {n : Node} (selects : n.multiSelect.isSome) (s : Session) :
    (arrive s n).selections.get? n.id = some [] := by
  unfold arrive
  dsimp only
  rw [if_pos selects, Table.get?_insert_self]

theorem selections_arrive_of_other {n : Node} {other : NodeId} (s : Session)
    (apart : other = n.id → n.multiSelect = none) :
    (arrive s n).selections.get? other = s.selections.get? other := by
  unfold arrive
  dsimp only
  split
  · next selects =>
      have differs : other ≠ n.id := by
        intro same
        rw [apart same] at selects
        cases selects
      rw [Table.get?_insert, if_neg differs]
  · rfl

theorem cascades_of_steady {P : σ → Prop} (steady : ProfileStore.Steady P) {id : NodeId}
    {front : List Node} {last : Node} (isChain : flow.Chain id (front ++ [last]))
    (short : (front ++ [last]).length ≤ maxAutoAdvance) (room : ∀ n ∈ front ++ [last], n.fits)
    (user : User) {before : Turn σ} (going : before.failure = none) (holds : P before.profiles) :
    Cascades flow user id front last before := by
  have entered : (before.enter flow user id).session = arrive before.session last ∧
      (before.enter flow user id).failure = before.failure ∧
      ∃ screens : List Screen,
        (before.enter flow user id).replies = before.replies ++ screens.map Reply.screen ∧
          screens.map some =
            (front ++ [last]).map fun n => Screen.ofNode? n (before.vars flow user) [] :=
    enterFrom_of_chain steady isChain maxAutoAdvance short room before holds
  obtain ⟨session, failure, screens⟩ := entered
  refine ⟨failure.trans going, screens, ?_, ?_, ?_, ?_, ?_⟩
  · intro store key value profile written taken reads
    rw [written] at holds
    have stored : profile.get? key = some value := steady.written holds taken (written ▸ reads)
    have read : before.profile user.id = profile := by
      rw [Turn.profile, reads]
    rw [vars, read]
    exact User.get?_vars_of_answer stored user flow.userName
  · rw [session]
    rfl
  · rw [session]
    rfl
  · intro selects
    rw [session]
    exact selections_arrive_self selects before.session
  · intro other apart
    rw [session]
    exact selections_arrive_of_other before.session apart

/-- **Cascades.** Let the chain of a node be no longer than the limit, and let there be room for all
its keyboards. Then entering the node shows exactly the nodes of the chain, in order and with the
same values of names, and leaves the session at the last of them. So it is over memory and over a
fallback store, whatever they hold, and likewise if the same kinds of calls are always refused.

The flow need not be accepted for this; that it is accepted gives every node a chain. -/
theorem cascades_of_chain {flow : Flow} {id : NodeId} {front : List Node} {last : Node}
    (isChain : flow.Chain id (front ++ [last])) (short : (front ++ [last]).length ≤ maxAutoAdvance)
    (room : ∀ n ∈ front ++ [last], n.fits) (user : User) (session : Session)
    (replies : List Reply) :
    (∀ profiles : MemoryStore,
        Cascades flow user id front last { session, profiles, replies }) ∧
      (∀ profiles : Unreliable MemoryStore, profiles.Fixed →
        Cascades flow user id front last { session, profiles, replies }) ∧
      (∀ profiles : FallbackStore MemoryStore,
        Cascades flow user id front last { session, profiles, replies }) ∧
      ∀ profiles : FallbackStore (Unreliable MemoryStore),
        (∀ d, profiles.durable = some d → d.Fixed) →
        Cascades flow user id front last { session, profiles, replies } := by
  have refusing := Unreliable.steady MemoryStore.steady
  refine ⟨?_, ?_, ?_, ?_⟩
  · intro profiles
    exact cascades_of_steady MemoryStore.steady isChain short room user rfl trivial
  · intro profiles fixed
    exact cascades_of_steady refusing isChain short room user rfl ⟨fixed, trivial⟩
  · intro profiles
    exact cascades_of_steady (FallbackStore.steady MemoryStore.steady) isChain short room user rfl
      fun _ _ => trivial
  · intro profiles fixed
    exact cascades_of_steady (FallbackStore.steady refusing) isChain short room user rfl
      fun d backed => ⟨fixed d backed, trivial⟩

/-- The options of the lounge. -/
def snacks : Node where
  id := "snacks"
  text := "What would you like, {name}?"
  multiSelect := some { variableName := "snacks", options := [{ text := "nuts" }] }

/-- Two nodes that wait for nothing, and the options after them. -/
def lounge : Flow where
  name := "lounge"
  start := "door"
  nodes := [
    { id := "door", text := "Good evening, {name}!", next := some "wall" },
    { id := "wall", text := "The paper is on the wall.", next := some "snacks",
      keyboard := some
        { buttons := [{ text := "news", url := some "https://example.com" }], columns := 2 } },
    snacks]

/-- A selection of the lounge is under way, and one of another node. -/
def seated : Session where
  current := some "snacks"
  selections := ((∅ : Table NodeId (List String)).insert "drinks" ["tea"]).insert "snacks" ["nuts"]

/-- A store that has a name and takes no other. -/
def stubborn : Unreliable MemoryStore :=
  Unreliable.refusing { inner := MemoryStore.setValue {} 7 "name" (.text "Bob") } [.write]

/-- A fallback store in front of it. -/
def outdated : FallbackStore (Unreliable MemoryStore) where
  durable := some stubborn

/-- The turn of a user who has just given a name. -/
def named : Turn (FallbackStore (Unreliable MemoryStore)) where
  session := seated
  profiles := (ProfileStore.write outdated 7 "name" (.text "Ann")).2

theorem lounge_cascades :
    lounge.Accepted ∧ lounge.Chain "door" (lounge.nodes.take 2 ++ [snacks]) ∧
      Cascades lounge { id := 7 } "door" (lounge.nodes.take 2) snacks named ∧
      (named.vars lounge { id := 7 }).get? "name" = some "Ann" ∧
      (named.enter lounge { id := 7 } "door").session.selections.get? "drinks" = some ["tea"] := by
  have accepted : lounge.Accepted := by decide +kernel
  have isChain : lounge.Chain "door" (lounge.nodes.take 2 ++ [snacks]) := by decide +kernel
  have fixed : ∀ d, named.profiles.durable = some d → d.Fixed := by
    intro d backed
    cases backed
    exact (Unreliable.fixed_refusing _ _ : stubborn.Fixed)
  have cascades : Cascades lounge { id := 7 } "door" (lounge.nodes.take 2) snacks named :=
    (cascades_of_chain isChain (by decide) (by decide +kernel) { id := 7 } seated []).2.2.2
      named.profiles fixed
  refine ⟨accepted, isChain, cascades, ?_, ?_⟩
  · exact cascades.answered outdated "name" (.text "Ann") _ rfl rfl rfl
  · have apart : "drinks" = snacks.id → snacks.multiSelect = none := by decide
    have before : named.session.selections.get? "drinks" = some ["tea"] := by decide +kernel
    exact (cascades.untouched "drinks" apart).trans before

end Turn

end Dialogue
