/-
# Circles of automatic passages

The check of a flow follows the passages of every node and reports the circle that they run into.
This module compares that search with the graph of passages. `Flow.RunsInto` says what a reported
list is: a way that starts at a node, comes to a first node of the circle, goes once round and is
back. Names of nodes are assumed to differ, but not that every passage leads to a node.

`Flow.Distinct.circleOf?_eq_some_iff` states that the search reports exactly such lists, and
`Flow.Distinct.no_circle_iff` that it reports none for all nodes exactly if no node can be reached
from itself.
-/

import Mathlib.Data.List.Chain
import Mathlib.Data.List.Nodup
import Mathlib.Data.List.TakeWhile
import Mathlib.Logic.Relation
import Dialogue.Proofs.Flow.Passage

namespace Dialogue

namespace Flow

open Relation (TransGen)

variable {f : Flow} {id : NodeId} {n : Node} {steps : Nat} {passed circle : List NodeId}

/-- Without the user's doing, the way from a node comes to `entry`, goes on through `rest` and is
back at `entry`. Before that it meets no node twice, so `entry` is the first node of the circle on
the way. The circle is listed with `entry` at both ends. -/
def RunsInto (f : Flow) (id : NodeId) (circle : List NodeId) : Prop :=
  ∃ front entry rest,
    circle = entry :: rest ++ [entry] ∧
    (front ++ entry :: rest).head? = some id ∧
    (front ++ entry :: rest).Nodup ∧
    List.IsChain f.Passes (front ++ (entry :: rest ++ [entry]))

/-- The last node of a chain is reached from the first. -/
theorem transGen_of_isChain {source target : NodeId} {between : List NodeId}
    (chain : List.IsChain f.Passes (source :: between ++ [target])) :
    TransGen f.Passes source target := by
  induction between generalizing source with
  | nil => exact .single (List.isChain_pair.1 chain)
  | cons next between ih =>
      obtain ⟨passes, chain⟩ := List.isChain_cons_cons.1 chain
      exact .head passes (ih chain)

/-- Every name of a chain but the last is that of a node, since it passes on. -/
theorem names_of_isChain {names : List NodeId} {target : NodeId}
    (chain : List.IsChain f.Passes (names ++ [target])) (listed : id ∈ names) : f.Names id := by
  obtain ⟨left, right, split⟩ := List.append_of_mem listed
  have passes : ∃ following, f.Passes id following := by
    rw [split] at chain
    cases right with
    | nil =>
        rw [List.append_assoc, List.singleton_append] at chain
        exact ⟨target, (List.isChain_append_cons_cons.1 chain).2.1⟩
    | cons next right =>
        rw [List.append_assoc, List.cons_append, List.cons_append] at chain
        exact ⟨next, (List.isChain_append_cons_cons.1 chain).2.1⟩
  obtain ⟨_, n, member, named, -⟩ := passes
  exact ⟨n, member, named⟩

/-- Where a way runs into a circle, a node is reached from itself. -/
theorem RunsInto.exists_transGen (runs : f.RunsInto id circle) :
    ∃ entry, TransGen f.Passes entry entry := by
  obtain ⟨front, entry, rest, -, -, -, chain⟩ := runs
  exact ⟨entry, transGen_of_isChain chain.right_of_append⟩

/-- A node from which every way ends is not reached from itself. -/
theorem not_transGen_of_acc (ends : Acc (fun target source => f.Passes source target) id) :
    ¬ TransGen f.Passes id id := by
  induction ends with
  | intro id _ ih =>
      intro around
      obtain ⟨next, passes, back⟩ := TransGen.head'_iff.1 around
      exact ih next passes (.tail' back passes)

/-- What the search reports is a circle that the way runs into. `passed` is the way so far, the
current node first. -/
theorem Distinct.runsInto_of_circleFrom? (distinct : f.Distinct) (member : n ∈ f.nodes)
    (started : passed.getLast? = some id) (here : passed.head? = some n.id)
    (different : passed.Nodup) (chain : List.IsChain f.Passes passed.reverse)
    (reported : f.circleFrom? steps passed n = some circle) : f.RunsInto id circle := by
  induction steps generalizing n passed with
  | zero => cases reported
  | succ steps ih =>
      rw [circleFrom?] at reported
      cases onward : n.autoNext with
      | none =>
          rw [onward] at reported
          cases reported
      | some next =>
          rw [onward] at reported
          have passes : f.Passes n.id next := (distinct.passes_iff member).2 onward
          have longer : List.IsChain f.Passes (passed.reverse ++ [next]) := by
            rw [List.isChain_append]
            refine ⟨chain, List.isChain_singleton _, ?_⟩
            intro last isLast target isNext
            rw [List.getLast?_reverse, here] at isLast
            obtain rfl := Option.some.inj isLast
            obtain rfl := Option.some.inj isNext
            exact passes
          dsimp only at reported
          split at reported
          · next again =>
              -- The circle is the part of the way since the first time at `next`.
              obtain rfl := Option.some.inj reported
              have left : passed.dropWhile (fun x => decide (x ≠ next)) ≠ [] := by
                rw [Ne, List.dropWhile_eq_nil_iff]
                intro absent
                simpa using absent next again
              obtain ⟨first, outer, rest⟩ := List.exists_cons_of_ne_nil left
              obtain rfl : first = next := by
                have stops := List.head?_dropWhile_not (fun x => decide (x ≠ next)) passed
                rw [rest] at stops
                simpa using stops
              have way : passed.reverse = outer.reverse ++
                  first :: (passed.takeWhile fun x => decide (x ≠ first)).reverse := by
                conv_lhs => rw [← List.takeWhile_append_dropWhile
                  (p := fun x => decide (x ≠ first)) (l := passed), rest]
                simp
              refine ⟨outer.reverse, first,
                (passed.takeWhile fun x => decide (x ≠ first)).reverse, rfl, ?_, ?_, ?_⟩
              · rw [← way, List.head?_reverse]
                exact started
              · rw [← way]
                exact List.nodup_reverse.2 different
              · rw [way] at longer
                simpa using longer
          · next fresh =>
              split at reported
              · next following found =>
                  have named : following.id = next := id_of_node? found
                  apply ih (mem_of_node? found) ?_ ?_ ?_ ?_ reported
                  · cases passed with
                    | nil => cases here
                    | cons x xs =>
                        rw [List.getLast?_cons_cons]
                        exact started
                  · rw [named]
                    rfl
                  · exact List.nodup_cons.2 ⟨fresh, different⟩
                  · rw [List.reverse_cons]
                    exact longer
              · cases reported

/-- A circle that the way runs into is reported. The way is split at the current node: `front` has
been passed, and `back` is still to come. -/
theorem Distinct.circleFrom?_of_isChain (distinct : f.Distinct) (front : List NodeId)
    {back outer rest : List NodeId} {entry : NodeId} (member : n ∈ f.nodes)
    (way : front ++ n.id :: back = outer ++ entry :: rest)
    (different : (front ++ n.id :: back).Nodup)
    (chain : List.IsChain f.Passes (n.id :: back ++ [entry])) (enough : back.length < steps) :
    f.circleFrom? steps (n.id :: front.reverse) n = some (entry :: rest ++ [entry]) := by
  induction steps generalizing n front back with
  | zero => omega
  | succ steps ih =>
      cases back with
      | nil =>
          have onward : n.autoNext = some entry :=
            (distinct.passes_iff member).1 (List.isChain_pair.1 chain)
          have passed : n.id :: front.reverse = rest.reverse ++ entry :: outer.reverse := by
            have reversed := congrArg List.reverse way
            simpa using reversed
          have apart : ∀ x ∈ rest.reverse, decide (x ≠ entry) = true := by
            intro x listed
            rw [way, List.nodup_append, List.nodup_cons] at different
            refine decide_eq_true ?_
            rintro rfl
            exact different.2.1.1 (List.mem_reverse.1 listed)
          have reached : (n.id :: front.reverse).takeWhile (fun x => decide (x ≠ entry)) =
              rest.reverse := by
            rw [passed, List.takeWhile_append_of_pos apart,
              List.takeWhile_cons_of_neg (by simp), List.append_nil]
          have again : entry ∈ n.id :: front.reverse := by
            rw [passed]
            simp
          rw [circleFrom?, onward]
          dsimp only
          rw [if_pos again, reached, List.reverse_reverse]
      | cons next back =>
          obtain ⟨passes, chain⟩ := List.isChain_cons_cons.1 chain
          have onward : n.autoNext = some next := (distinct.passes_iff member).1 passes
          have fresh : next ∉ n.id :: front.reverse := by
            rw [List.nodup_append, List.nodup_cons] at different
            rw [List.mem_cons, List.mem_reverse]
            rintro (rfl | old)
            · exact different.2.1.1 List.mem_cons_self
            · exact different.2.2 next old next (by simp) rfl
          -- The next node passes on as well, so it is one of the flow.
          obtain ⟨following, listed, rfl⟩ : f.Names next :=
            names_of_isChain chain List.mem_cons_self
          rw [circleFrom?, onward]
          dsimp only
          rw [if_neg fresh, distinct.node?_of_mem listed]
          have moved : front ++ n.id :: following.id :: back =
              front ++ [n.id] ++ following.id :: back := by simp
          have onwards := ih (front ++ [n.id]) listed (moved ▸ way) (moved ▸ different) chain
            (by simp only [List.length_cons] at enough; omega)
          rw [List.reverse_append, List.reverse_singleton, List.singleton_append] at onwards
          exact onwards

/-- The search reports exactly the circle that the way from a node runs into. -/
theorem Distinct.circleOf?_eq_some_iff (distinct : f.Distinct) (member : n ∈ f.nodes) :
    f.circleOf? n = some circle ↔ f.RunsInto n.id circle := by
  constructor
  · intro reported
    exact distinct.runsInto_of_circleFrom? member rfl rfl (List.pairwise_singleton _ _)
      (List.isChain_singleton _) reported
  · rintro ⟨front, entry, rest, rfl, started, different, chain⟩
    obtain ⟨back, way⟩ : ∃ back, front ++ entry :: rest = n.id :: back := by
      cases whole : front ++ entry :: rest with
      | nil => simp at whole
      | cons first back =>
          rw [whole] at started
          obtain rfl := Option.some.inj started
          exact ⟨back, rfl⟩
    have chain' : List.IsChain f.Passes (n.id :: back ++ [entry]) := by
      rw [← way]
      simpa using chain
    have bounded : (n.id :: back).length ≤ f.nodes.length := by
      have named : n.id :: back ⊆ f.nodes.map (·.id) := by
        intro x listed
        obtain ⟨m, member, rfl⟩ := names_of_isChain chain' listed
        exact List.mem_map_of_mem member
      exact length_le_of_names (way ▸ different) named
    exact distinct.circleFrom?_of_isChain [] member way.symm (way ▸ different) chain'
      (by simp only [List.length_cons] at bounded; omega)

/-- The search reports no circle at all exactly if no node is reached from itself. -/
theorem Distinct.no_circle_iff (distinct : f.Distinct) :
    (∀ n ∈ f.nodes, f.circleOf? n = none) ↔ ∀ id, ¬ TransGen f.Passes id id := by
  constructor
  · intro noCircle id around
    obtain ⟨next, ⟨n, member, rfl, -⟩, -⟩ := TransGen.head'_iff.1 around
    exact not_transGen_of_acc
      (distinct.acc_of_circleOf?_eq_none member (noCircle n member)) around
  · intro acyclic n member
    cases reported : f.circleOf? n with
    | none => rfl
    | some circle =>
        obtain ⟨entry, around⟩ :=
          ((distinct.circleOf?_eq_some_iff member).1 reported).exists_transGen
        exact absurd around (acyclic entry)

end Flow

end Dialogue
