/-
# The search for a circle as a loop

The check of a flow looks for a circle from every node in turn, and the search from one node has a
bound on its rounds. Here the search is stated as a loop without a bound, `Flow.round`, and it is
shown that the loop ends by itself: the names that it has passed differ and are names of nodes, so
there are at most as many rounds as nodes. The bound of the search is never met.

What the check reports is then described without the search. `Flow.IsCircle` says that a list goes
once round, `Flow.Approach` that a way comes to the circle at its first name, and `Flow.Circling`
that a way comes to any circle at all.
-/

import Mathlib.Data.Option.Basic
import Dialogue.Proofs.Flow.Circle

namespace Dialogue

namespace Flow

open Relation (ReflTransGen TransGen)

variable {f : Flow} {id : NodeId} {n : Node} {steps : Nat} {passed circle : List NodeId}

/-! ## The loop -/

/-- How far a search has come. -/
inductive Progress where
  /-- The search is at a node; `passed` holds the names so far, that of the node first. -/
  | searching (passed : List NodeId) (current : Node)
  /-- The search is over, with the circle that it has found. -/
  | answered (circle : Option (List NodeId))

/-- One round of the search. -/
def round (f : Flow) : Progress → Progress
  | .answered circle => .answered circle
  | .searching passed current =>
      match current.autoNext with
      | none => .answered none
      | some next =>
          if next ∈ passed then
            .answered (some (next :: (passed.takeWhile (· ≠ next)).reverse ++ [next]))
          else match f.node? next with
            | some n => .searching (next :: passed) n
            | none => .answered none

/-- A round ends the search with the answer of the bounded one, or both go on to a node of the flow
whose name is new. -/
theorem round_cases (f : Flow) (steps : Nat) (passed : List NodeId) (n : Node) :
    f.round (.searching passed n) = .answered (f.circleFrom? (steps + 1) passed n) ∨
      ∃ following, f.node? following.id = some following ∧ following.id ∉ passed ∧
        f.round (.searching passed n) = .searching (following.id :: passed) following ∧
        f.circleFrom? (steps + 1) passed n =
          f.circleFrom? steps (following.id :: passed) following := by
  rw [round, circleFrom?]
  cases n.autoNext with
  | none => exact .inl rfl
  | some next =>
      dsimp only
      by_cases again : next ∈ passed
      · rw [if_pos again, if_pos again]
        exact .inl rfl
      · rw [if_neg again, if_neg again]
        cases found : f.node? next with
        | none => exact .inl rfl
        | some following =>
            obtain rfl : following.id = next := id_of_node? found
            exact .inr ⟨following, found, again, rfl, rfl⟩

/-- The loop ends with the answer of the bounded search. Each round that goes on has passed one more
name, and there are no more names than nodes. -/
theorem exists_rounds (different : passed.Nodup) (named : passed ⊆ f.nodes.map (·.id))
    (enough : f.nodes.length < steps + passed.length) :
    ∃ rounds, rounds + passed.length ≤ f.nodes.length + 1 ∧
      f.round^[rounds] (.searching passed n) = .answered (f.circleFrom? steps passed n) := by
  induction steps generalizing n passed with
  | zero =>
      have bounded := length_le_of_names different named
      omega
  | succ steps ih =>
      rcases round_cases f steps passed n with ends | ⟨following, found, fresh, goesOn, same⟩
      · have bounded := length_le_of_names different named
        exact ⟨1, by omega, ends⟩
      · have different' : (following.id :: passed).Nodup := List.nodup_cons.2 ⟨fresh, different⟩
        have named' : following.id :: passed ⊆ f.nodes.map (·.id) :=
          List.cons_subset.2 ⟨List.mem_map_of_mem (mem_of_node? found), named⟩
        obtain ⟨rounds, few, ends⟩ := ih (n := following) different' named'
          (by rw [List.length_cons]; omega)
        refine ⟨rounds + 1, by rw [List.length_cons] at few; omega, ?_⟩
        rw [Function.iterate_succ_apply, goesOn, same]
        exact ends

theorem exists_rounds_circleOf? (member : n ∈ f.nodes) :
    ∃ rounds ≤ f.nodes.length,
      f.round^[rounds] (.searching [n.id] n) = .answered (f.circleOf? n) := by
  have named : [n.id] ⊆ f.nodes.map (·.id) :=
    List.cons_subset.2 ⟨List.mem_map_of_mem member, List.nil_subset _⟩
  have enough : f.nodes.length < f.nodes.length + 1 + [n.id].length := by
    rw [List.length_singleton]
    omega
  obtain ⟨rounds, few, ends⟩ := exists_rounds (n := n) (List.pairwise_singleton _ _) named enough
  exact ⟨rounds, Nat.le_of_succ_le_succ few, ends⟩

/-! ## Circles -/

/-- The list goes once round a circle: its ends are the same, the other names differ, and each name
passes on to the one after it. -/
structure IsCircle (f : Flow) (circle : List NodeId) : Prop where
  long : 2 ≤ circle.length
  closed : circle.head? = circle.getLast?
  different : circle.dropLast.Nodup
  named : ∀ id ∈ circle, f.Names id
  passes : List.IsChain f.Passes circle

/-- The way from a node goes through `lead` and then comes to the circle, at its first name. -/
structure Approach (f : Flow) (id : NodeId) (lead circle : List NodeId) : Prop where
  starts : (lead ++ circle).head? = some id
  passes : List.IsChain f.Passes (lead ++ circle)
  different : lead.Nodup
  outside : ∀ id ∈ lead, id ∉ circle

/-- The way from a node comes to one that is reached from itself. -/
def Circling (f : Flow) (id : NodeId) : Prop :=
  ∃ target, ReflTransGen f.Passes id target ∧ TransGen f.Passes target target

/-- A list of two names or more with the same ends. -/
theorem IsCircle.exists_eq (isCircle : f.IsCircle circle) :
    ∃ entry rest, circle = entry :: rest ++ [entry] := by
  obtain ⟨long, closed, -, -, -⟩ := isCircle
  cases circle with
  | nil => simp at long
  | cons entry others =>
      rcases List.eq_nil_or_concat' others with rfl | ⟨rest, last, rfl⟩
      · simp at long
      · rw [← List.cons_append, List.getLast?_concat] at closed
        obtain rfl : entry = last := Option.some.inj closed
        exact ⟨entry, rest, rfl⟩

/-- A way runs into a circle exactly if it approaches a list that goes once round. -/
theorem runsInto_iff :
    f.RunsInto id circle ↔ f.IsCircle circle ∧ ∃ lead, f.Approach id lead circle := by
  constructor
  · rintro ⟨lead, entry, rest, rfl, starts, different, chain⟩
    have around : List.IsChain f.Passes (entry :: rest ++ [entry]) := chain.right_of_append
    rw [List.nodup_append] at different
    obtain ⟨leadDifferent, circleDifferent, apart⟩ := different
    refine ⟨⟨by simp, ?_, ?_, ?_, around⟩, lead, ?_, chain, leadDifferent, ?_⟩
    · rw [List.getLast?_concat]
      rfl
    · rw [List.dropLast_concat]
      exact circleDifferent
    · intro id listed
      rcases List.mem_append.1 listed with within | last
      · exact names_of_isChain around within
      · rw [List.mem_singleton.1 last]
        exact names_of_isChain around List.mem_cons_self
    · rw [← List.append_assoc, List.head?_append_of_ne_nil _ (by simp)]
      exact starts
    · intro id early late
      rcases List.mem_append.1 late with within | last
      · exact apart id early id within rfl
      · exact apart id early entry List.mem_cons_self (List.mem_singleton.1 last)
  · rintro ⟨isCircle, lead, approach⟩
    obtain ⟨entry, rest, rfl⟩ := isCircle.exists_eq
    refine ⟨lead, entry, rest, rfl, ?_, ?_, approach.passes⟩
    · have starts := approach.starts
      rw [← List.append_assoc, List.head?_append_of_ne_nil _ (by simp)] at starts
      exact starts
    · have circleDifferent := isCircle.different
      rw [List.dropLast_concat] at circleDifferent
      rw [List.nodup_append]
      refine ⟨approach.different, circleDifferent, ?_⟩
      rintro x early _ late rfl
      exact approach.outside x early (List.mem_append_left _ late)

theorem RunsInto.circling (runs : f.RunsInto id circle) : f.Circling id := by
  obtain ⟨front, entry, rest, -, starts, -, chain⟩ := runs
  refine ⟨entry, ?_, transGen_of_isChain chain.right_of_append⟩
  cases front with
  | nil =>
      obtain rfl : entry = id := Option.some.inj starts
      exact .refl
  | cons first front =>
      obtain rfl : first = id := Option.some.inj starts
      have toEntry : List.IsChain f.Passes (first :: front ++ [entry]) := by
        apply chain.prefix
        rw [List.prefix_append_right_inj]
        exact ⟨rest ++ [entry], rfl⟩
      exact (transGen_of_isChain toEntry).to_reflTransGen

/-- Where every way from a node ends, none comes to a circle. -/
theorem not_circling_of_acc (ends : Acc (fun target source => f.Passes source target) id) :
    ¬ f.Circling id := by
  rintro ⟨target, reached, around⟩
  have targetEnds : Acc (fun target source => f.Passes source target) target := by
    clear around
    induction reached with
    | refl => exact ends
    | tail _ passes ih => exact ih.inv passes
  exact not_transGen_of_acc targetEnds around

/-- The search from a node has no answer exactly if no way from it comes to a circle. -/
theorem Distinct.circleOf?_eq_none_iff (distinct : f.Distinct) (member : n ∈ f.nodes) :
    f.circleOf? n = none ↔ ¬ f.Circling n.id := by
  constructor
  · intro none
    exact not_circling_of_acc (distinct.acc_of_circleOf?_eq_none member none)
  · intro straight
    cases reported : f.circleOf? n with
    | none => rfl
    | some circle =>
        exact absurd ((distinct.circleOf?_eq_some_iff member).1 reported).circling straight

/-! ## What the check reports -/

theorem targetFault?_ne_circle (source : String) (target : NodeId) :
    f.targetFault? source target ≠ some (.autoAdvanceCycle circle) := by
  rw [targetFault?]
  split
  · simp
  · simp

theorem nodeFault?_ne_circle : f.nodeFault? n ≠ some (.autoAdvanceCycle circle) := by
  intro reported
  rcases (Option.orElse_eq_some _ _ _).1 reported with rule | ⟨_, target⟩
  · obtain ⟨_, _, other⟩ := Option.map_eq_some_iff.1 rule
    cases other
  · obtain ⟨target, _, reported⟩ := List.exists_of_findSome?_eq_some target
    exact targetFault?_ne_circle _ _ reported

theorem bind_targetFault?_ne_circle (source : String) (target : Option NodeId) :
    target.bind (f.targetFault? source) ≠ some (.autoAdvanceCycle circle) := by
  intro reported
  obtain ⟨target, _, reported⟩ := Option.bind_eq_some_iff.1 reported
  exact targetFault?_ne_circle _ _ reported

/-- Of all rules, only the last is about circles. -/
theorem findSome?_of_fault? (reported : f.fault? = some (.autoAdvanceCycle circle)) :
    f.nodes.findSome? f.circleOf? = some circle := by
  rw [fault?] at reported
  simp only [Option.orElse_eq_some] at reported
  rcases reported with empty | ⟨_, repeated | ⟨_, start | ⟨_, node | ⟨_, command | ⟨_, synonym |
    ⟨_, settings | ⟨_, circles⟩⟩⟩⟩⟩⟩⟩
  · split at empty <;> cases empty
  · obtain ⟨_, _, other⟩ := Option.map_eq_some_iff.1 repeated
    cases other
  · split at start <;> cases start
  · obtain ⟨n, _, reported⟩ := List.exists_of_findSome?_eq_some node
    exact absurd reported nodeFault?_ne_circle
  · obtain ⟨c, _, reported⟩ := List.exists_of_findSome?_eq_some command
    exact absurd reported (bind_targetFault?_ne_circle _ _)
  · obtain ⟨s, _, reported⟩ := List.exists_of_findSome?_eq_some synonym
    exact absurd reported (targetFault?_ne_circle _ _)
  · exact absurd settings (bind_targetFault?_ne_circle _ _)
  · obtain ⟨found, reported, same⟩ := Option.map_eq_some_iff.1 circles
    cases same
    exact reported

/-- **The reported circle is genuine.** The loop ends from every node, after no more rounds than
there are nodes, with the answer of the search. The check reports a list exactly if the list goes
once round a circle, and the first node in the order of the flow whose way comes to a circle
approaches it at the list's first name. This is what a flow is refused with that keeps all other
rules. Names of nodes have to differ, but a passage may lead to a node that does not exist. -/
theorem reported_circle_genuine (f : Flow) (distinct : f.Distinct) :
    (∀ n ∈ f.nodes, ∃ rounds ≤ f.nodes.length,
        f.round^[rounds] (.searching [n.id] n) = .answered (f.circleOf? n)) ∧
      (f.nodes.findSome? f.circleOf? = none ↔ ∀ n ∈ f.nodes, ¬ f.Circling n.id) ∧
      (∀ circle, f.nodes.findSome? f.circleOf? = some circle ↔
        f.IsCircle circle ∧
          ∃ earlier n later lead,
            f.nodes = earlier ++ n :: later ∧ (∀ m ∈ earlier, ¬ f.Circling m.id) ∧
              f.Circling n.id ∧ f.Approach n.id lead circle) ∧
      ∀ circle, f.fault? = some (.autoAdvanceCycle circle) →
        f.nodes.findSome? f.circleOf? = some circle := by
  refine ⟨fun n member => exists_rounds_circleOf? member, ?_, ?_,
    fun circle => findSome?_of_fault?⟩
  · rw [List.findSome?_eq_none_iff]
    exact forall₂_congr fun n member => distinct.circleOf?_eq_none_iff member
  · intro circle
    rw [List.findSome?_eq_some_iff]
    constructor
    · rintro ⟨earlier, n, later, split, reported, clear⟩
      have listed : ∀ m ∈ earlier ++ n :: later, m ∈ f.nodes := fun m => split ▸ id
      have runs := (distinct.circleOf?_eq_some_iff (listed n (by simp))).1 reported
      obtain ⟨isCircle, lead, approach⟩ := runsInto_iff.1 runs
      refine ⟨isCircle, earlier, n, later, lead, split, ?_, runs.circling, approach⟩
      intro m early
      exact (distinct.circleOf?_eq_none_iff (listed m (List.mem_append_left _ early))).1
        (clear m early)
    · rintro ⟨isCircle, earlier, n, later, lead, split, clear, -, approach⟩
      have listed : ∀ m ∈ earlier ++ n :: later, m ∈ f.nodes := fun m => split ▸ id
      have runs : f.RunsInto n.id circle := runsInto_iff.2 ⟨isCircle, lead, approach⟩
      refine ⟨earlier, n, later, split,
        (distinct.circleOf?_eq_some_iff (listed n (by simp))).2 runs, ?_⟩
      intro m early
      exact (distinct.circleOf?_eq_none_iff (listed m (List.mem_append_left _ early))).2
        (clear m early)

/-- A flow with a way out of it, a way in, and a circle of three nodes that begins in the middle. -/
def rapids : Flow where
  name := "rapids"
  start := "bank"
  nodes := [
    { id := "bank", text := "Dry land", next := some "nowhere" },
    { id := "spring", text := "Step in", next := some "stream" },
    { id := "eddy", text := "Round", next := some "stream" },
    { id := "stream", text := "Along", next := some "pool" },
    { id := "pool", text := "Still", next := some "eddy" }]

theorem rapids_circle_genuine :
    rapids.Distinct ∧
      rapids.nodes.findSome? rapids.circleOf? = some ["stream", "pool", "eddy", "stream"] ∧
      rapids.IsCircle ["stream", "pool", "eddy", "stream"] ∧
      ∃ n ∈ rapids.nodes, ∃ lead, rapids.Circling n.id ∧
        rapids.Approach n.id lead ["stream", "pool", "eddy", "stream"] := by
  have distinct : rapids.Distinct := distinct_iff.2 rfl
  have reported : rapids.nodes.findSome? rapids.circleOf? =
      some ["stream", "pool", "eddy", "stream"] := by decide
  obtain ⟨-, -, genuine, -⟩ := reported_circle_genuine rapids distinct
  obtain ⟨isCircle, earlier, n, later, lead, split, -, circling, approach⟩ :=
    (genuine _).1 reported
  have member : n ∈ rapids.nodes := by
    rw [split]
    simp
  exact ⟨distinct, reported, isCircle, n, member, lead, circling, approach⟩

end Flow

end Dialogue
