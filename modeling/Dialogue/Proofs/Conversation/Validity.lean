/-
# Sessions that fit the flow

A session holds copies of the flow: the id of a node, a prompt with the node that follows it, and
selected values. `Session.Valid` says that these copies are true to the flow. Every session that a
run leaves behind, or that an event finds, is valid, whatever the users do: a press may come from a
keyboard that is long out of date, an unknown node may be asked for, a passage may be cut off in
the middle and the session is saved all the same.

Nothing is assumed of the flow. That targets of nodes exist is not needed, since a session changes
its node only after the node has been found.
-/

import Dialogue.Profile.Memory
import Dialogue.Proofs.Conversation.Run

namespace Dialogue

/-- The values may be a selection: each is an option, and none stands twice. -/
structure MultiSelect.Admits (m : MultiSelect) (values : List String) : Prop where
  distinct : values.Nodup
  offered : ∀ value ∈ values, value ∈ m.options.map Choice.answer

namespace MultiSelect.Admits

variable {m : MultiSelect} {values : List String}

theorem nil : m.Admits [] where
  distinct := List.nodup_nil
  offered := by
    intro value listed
    cases listed

/-- A selection is no longer than the list of options. -/
theorem length_le (admitted : m.Admits values) : values.length ≤ m.options.length := by
  have bounded : values.length ≤ (m.options.map Choice.answer).length :=
    admitted.distinct.length_le_of_subset admitted.offered
  rw [List.length_map] at bounded
  exact bounded

/-- Taking an option in or out leaves a selection. -/
theorem toggled {c : Choice} (admitted : m.Admits values) (listed : c ∈ m.options) :
    m.Admits (Turn.toggled values c.answer) := by
  rw [Turn.toggled]
  by_cases chosen : c.answer ∈ values
  · rw [if_pos chosen]
    refine ⟨admitted.distinct.erase _, ?_⟩
    intro value kept
    exact admitted.offered value (List.mem_of_mem_erase kept)
  · rw [if_neg chosen]
    constructor
    · rw [List.nodup_append]
      refine ⟨admitted.distinct, List.pairwise_singleton _ _, ?_⟩
      intro value old other new same
      rw [List.mem_singleton] at new
      exact chosen (new ▸ same ▸ old)
    · intro value kept
      rcases List.mem_append.1 kept with old | new
      · exact admitted.offered value old
      · rw [List.mem_singleton.1 new]
        exact List.mem_map_of_mem listed

end MultiSelect.Admits

namespace Session

/-- What a session remembers is true to the flow. -/
structure Valid (flow : Flow) (s : Session) : Prop where
  /-- The current node exists. -/
  current : ∀ id, s.current = some id → (flow.node? id).isSome
  /-- The prompt that waits is that of the current node, and so is the node after it. -/
  pending : ∀ p, s.pending = some p →
    s.current = some p.node ∧
      ∃ n, flow.node? p.node = some n ∧ n.input = some p.prompt ∧ n.next = p.next
  /-- Selections belong to nodes that offer one, and consist of its options. -/
  selections : ∀ id values, s.selections.get? id = some values →
    ∃ n m, flow.node? id = some n ∧ n.multiSelect = some m ∧ m.Admits values

namespace Valid

variable {flow : Flow} {s : Session} {n : Node} {m : MultiSelect}

theorem fresh : Session.fresh.Valid flow where
  current := by
    intro id absurd
    cases absurd
  pending := by
    intro p absurd
    cases absurd
  selections := by
    intro id values absurd
    cases absurd

/-- The values selected at a node are a selection, also where none is under way. -/
theorem selected_admitted (valid : s.Valid flow) (found : flow.node? n.id = some n)
    (selects : n.multiSelect = some m) : m.Admits (s.selected n.id) := by
  rw [selected]
  cases underway : s.selections.get? n.id with
  | none => exact .nil
  | some values =>
      obtain ⟨n', m', found', selects', admitted⟩ := valid.selections n.id values underway
      obtain rfl : n = n' := Option.some.inj (found.symm.trans found')
      obtain rfl : m = m' := Option.some.inj (selects.symm.trans selects')
      exact admitted

theorem select {values : List String} (valid : s.Valid flow) (found : flow.node? n.id = some n)
    (selects : n.multiSelect = some m) (admitted : m.Admits values) :
    (s.select n.id values).Valid flow where
  current := valid.current
  pending := valid.pending
  selections := by
    intro id stored underway
    rcases Table.get?_insert_eq_some_iff.1 underway with ⟨rfl, rfl⟩ | ⟨_, kept⟩
    · exact ⟨n, m, found, selects, admitted⟩
    · exact valid.selections id stored kept

theorem forget (valid : s.Valid flow) (node : NodeId) : (s.forget node).Valid flow where
  current := valid.current
  pending := valid.pending
  selections := by
    intro id stored underway
    obtain ⟨_, kept⟩ := Table.get?_erase_eq_some_iff.1 underway
    exact valid.selections id stored kept

/-- Taking up a node of the flow copies the flow. -/
theorem arrive (valid : s.Valid flow) (found : flow.node? n.id = some n) :
    (Turn.arrive s n).Valid flow where
  current := by
    intro id here
    obtain rfl : n.id = id := Option.some.inj here
    rw [found]
    rfl
  pending := by
    intro p waiting
    obtain ⟨prompt, asks, rfl⟩ := Option.map_eq_some_iff.1 waiting
    exact ⟨rfl, n, found, asks, rfl⟩
  selections := by
    rw [Turn.arrive]
    cases selects : n.multiSelect with
    | none => exact valid.selections
    | some m => exact (valid.select found selects .nil).selections

/-- What a move does before a node is entered keeps a session valid. -/
theorem settle {move : Move} {trigger : Trigger} (valid : s.Valid flow)
    (justified : move.Justified flow s trigger) : (move.settle s).Valid flow := by
  cases move with
  | idle => exact valid
  | enter target => exact valid
  | press node button => exact valid
  | toggle node multi choice =>
      obtain ⟨found, selects, listed⟩ := justified
      exact valid.select found selects ((valid.selected_admitted found selects).toggled listed)
  | insist node multi =>
      obtain ⟨found, selects, _⟩ := justified
      exact valid.select found selects (valid.selected_admitted found selects)
  | finish node multi => exact valid.forget node.id
  | accept p answer =>
      refine ⟨valid.current, ?_, valid.selections⟩
      intro p waiting
      cases waiting
  | reject p rejection => exact valid
  | remark text => exact valid

end Valid

end Session

namespace Conversation

variable {σ : Type} [ProfileStore σ]

/-- A turn leaves a valid session valid, also when it breaks off. -/
theorem turn_valid (flow : Flow) (c : Conversation σ) (now : Time) (e : Event)
    (valid : (c.sessionFor now e).1.Valid flow) : (c.turn flow now e).session.Valid flow := by
  rw [turn]
  apply Turn.session_perform
  · intro s n found valid
    exact valid.arrive found
  · exact valid.settle (Session.move_justified flow _ e.trigger)

theorem run_valid (flow : Flow) (lifetime : Int) (profiles : σ) (happenings : List Happening) :
    ((begin lifetime profiles).run flow happenings).sessions.All (Session.Valid flow) :=
  run_all .fresh (turn_valid flow) lifetime profiles happenings

/-- A session belongs to a user: it is saved, or it is found when the user's next event comes. -/
def Holds (c : Conversation σ) (user : UserId) (session : Session) : Prop :=
  (∃ saved, c.sessions.entries.get? user = some (session, saved)) ∨
    ∃ now, (c.sessions.get user now).1 = session

/-- **Sessions stay true to the flow.** After any run, each session of a user names only nodes of
the flow, waits for the prompt of its current node and goes on where that node does, and its
selections are distinct options of nodes that offer them, hence no longer than the lists of
options. -/
theorem valid_of_run (flow : Flow) (lifetime : Int) (profiles : σ) (happenings : List Happening)
    (user : UserId) (session : Session)
    (held : ((begin lifetime profiles).run flow happenings).Holds user session) :
    session.Valid flow ∧
      ∀ id values, session.selections.get? id = some values →
        ∃ n m, flow.node? id = some n ∧ n.multiSelect = some m ∧
          values.length ≤ m.options.length := by
  have all := run_valid flow lifetime profiles happenings
  have valid : session.Valid flow := by
    rcases held with ⟨saved, stored⟩ | ⟨now, rfl⟩
    · exact all user session saved stored
    · exact (all.get .fresh user now).1
  refine ⟨valid, ?_⟩
  intro id values underway
  obtain ⟨n, m, found, selects, admitted⟩ := valid.selections id values underway
  exact ⟨n, m, found, selects, admitted.length_le⟩

/-- A flow with a selection, a prompt and an end. -/
def cafe : Flow where
  name := "cafe"
  start := "drinks"
  nodes := [
    { id := "drinks", text := "What do you like?", next := some "ask",
      multiSelect := some
        { variableName := "drinks", options := [{ text := "tea" }, { text := "coffee" }] } },
    { id := "ask", text := "Your name?", next := some "bye",
      input := some { variableName := "name" } },
    { id := "bye", text := "Thank you!" }]

/-- One option is toggled, the prompt is entered, and then a node that does not exist. -/
def visit : List Happening :=
  [.event 0 { user := { id := 7 }, trigger := .start },
   .event 1 { user := { id := 7 }, trigger := .act (.toggle "drinks" 1) },
   .event 2 { user := { id := 7 }, trigger := .enter "ask" },
   .event 3 { user := { id := 7 }, trigger := .enter "nowhere" }]

/-- The session after the visit: a selection is under way while a prompt waits. -/
def visited : Session where
  current := some "ask"
  pending := some { node := "ask", prompt := { variableName := "name" }, next := some "bye" }
  selections := (∅ : Table NodeId (List String)).insert "drinks" ["coffee"]

theorem visited_valid :
    ((begin 100 ({} : MemoryStore)).run cafe visit).Holds 7 visited ∧
      visited.Valid cafe ∧
      ∀ id values, visited.selections.get? id = some values →
        ∃ n m, cafe.node? id = some n ∧ n.multiSelect = some m ∧
          values.length ≤ m.options.length := by
  have stored : ((begin 100 ({} : MemoryStore)).run cafe visit).sessions.entries.get? 7 =
      some (visited, 3) := by decide +kernel
  have held : ((begin 100 ({} : MemoryStore)).run cafe visit).Holds 7 visited :=
    Or.inl ⟨3, stored⟩
  exact ⟨held, valid_of_run cafe 100 ({} : MemoryStore) visit 7 visited held⟩

end Conversation

end Dialogue
