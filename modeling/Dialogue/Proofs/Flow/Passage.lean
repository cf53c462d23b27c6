/-
# References and passages of an accepted flow

A conversation follows names: that of the next node, of the target of a button, of the
node behind a command or a synonym. An accepted flow has checked all of them once, so that
none of them has to be checked again on the way.

A passage is the chain of nodes that are shown one after another without the user's doing.
`Flow.Chain` states it as a relation between the name of the first node and the list of all
of them. The relation is partial: a name that leads nowhere has no chain, and neither has a
circle. Acceptance excludes both, and then every node has exactly one chain.
-/

import Dialogue.Flow.Fault

namespace Dialogue

namespace Flow

variable {f : Flow} {id : NodeId} {n : Node}

theorem id_of_node? (found : f.node? id = some n) : n.id = id := by
  have named := List.find?_some found
  simpa using named

theorem mem_of_node? (found : f.node? id = some n) : n ∈ f.nodes :=
  List.mem_of_find?_eq_some found

/-- A node that was found is found again under its own name. -/
theorem node?_id_of_node? (found : f.node? id = some n) : f.node? n.id = some n := by
  rw [id_of_node? found]
  exact found

/-- A name is that of a node. -/
def Names (f : Flow) (id : NodeId) : Prop := ∃ n ∈ f.nodes, n.id = id

theorem isSome_node?_iff : (f.node? id).isSome ↔ f.Names id := by
  simp [node?, Names]

/-- The nodes have different names. -/
def Distinct (f : Flow) : Prop := (f.nodes.map (·.id)).Nodup

/-- A node is found under its name if no other has it. -/
theorem Distinct.node?_of_mem (distinct : f.Distinct) (member : n ∈ f.nodes) :
    f.node? n.id = some n := by
  obtain ⟨front, back, split⟩ := List.append_of_mem member
  rw [node?, List.find?_eq_some_iff_append]
  refine ⟨by simp, front, back, split, ?_⟩
  intro earlier listed
  rw [Distinct, split, List.map_append, List.map_cons] at distinct
  have apart := (List.nodup_append.1 distinct).2.2 earlier.id (List.mem_map_of_mem listed) n.id
    List.mem_cons_self
  simpa using apart

theorem firstRepeated?_eq_none_iff {seen ids : List NodeId} :
    firstRepeated? seen ids = none ↔ ids.Nodup ∧ ∀ id ∈ ids, id ∉ seen := by
  induction ids generalizing seen with
  | nil => simp [firstRepeated?]
  | cons first rest ih =>
      rw [firstRepeated?, List.nodup_cons]
      by_cases again : first ∈ seen
      · simp [again]
      · rw [if_neg again, ih]
        constructor
        · rintro ⟨distinct, fresh⟩
          refine ⟨⟨fun later => fresh first later List.mem_cons_self, distinct⟩, ?_⟩
          intro id listed
          rcases List.mem_cons.1 listed with rfl | later
          · exact again
          · exact fun old => fresh id later (List.mem_cons_of_mem _ old)
        · rintro ⟨⟨once, distinct⟩, fresh⟩
          refine ⟨distinct, ?_⟩
          intro id later old
          rcases List.mem_cons.1 old with rfl | old
          · exact once later
          · exact fresh id (List.mem_cons_of_mem _ later) old

/-- Acceptance compares the names of the nodes. -/
theorem distinct_iff : f.Distinct ↔ firstRepeated? [] (f.nodes.map (·.id)) = none := by
  simp [firstRepeated?_eq_none_iff, Distinct]

theorem targetFault?_eq_none_iff {source : String} :
    f.targetFault? source id = none ↔ (f.node? id).isSome := by
  simp [targetFault?, Option.isSome_iff_ne_none]

theorem nodeFault?_eq_none_iff :
    f.nodeFault? n = none ↔
      n.fault? = none ∧ ∀ target ∈ n.targets, (f.node? target).isSome := by
  simp [nodeFault?, targetFault?_eq_none_iff]

theorem commandFault?_eq_none_iff {c : Command} :
    f.commandFault? c = none ↔ ∀ target, c.node = some target → (f.node? target).isSome := by
  simp [commandFault?, Option.bind_eq_none_iff, targetFault?_eq_none_iff]

/-- The rules of an accepted flow, in the order in which they are checked. -/
theorem accepted_iff :
    f.Accepted ↔
      f.nodes ≠ [] ∧
      firstRepeated? [] (f.nodes.map (·.id)) = none ∧
      (f.node? f.start).isSome ∧
      (∀ n ∈ f.nodes, n.fault? = none ∧ ∀ target ∈ n.targets, (f.node? target).isSome) ∧
      (∀ c ∈ f.commands, ∀ target, c.node = some target → (f.node? target).isSome) ∧
      (∀ s ∈ f.synonyms, (f.node? s.node).isSome) ∧
      (∀ target, f.settingsNode = some target → (f.node? target).isSome) ∧
      ∀ n ∈ f.nodes, f.circleOf? n = none := by
  simp [Accepted, fault?, nodeFault?_eq_none_iff, commandFault?_eq_none_iff,
    targetFault?_eq_none_iff, Option.bind_eq_none_iff, Option.isSome_iff_ne_none]

namespace Accepted

variable (accepted : f.Accepted)
include accepted

theorem distinct : f.Distinct := distinct_iff.2 (accepted_iff.mp accepted).2.1

theorem start_resolves : (f.node? f.start).isSome := (accepted_iff.mp accepted).2.2.1

/-- Whatever a node mentions is there: the node after it and the targets of its buttons. -/
theorem target_resolves {target : NodeId} (found : f.node? id = some n)
    (mentioned : target ∈ n.targets) : (f.node? target).isSome :=
  ((accepted_iff.mp accepted).2.2.2.1 n (mem_of_node? found)).2 target mentioned

theorem next_resolves {target : NodeId} (found : f.node? id = some n)
    (next : n.next = some target) : (f.node? target).isSome :=
  accepted.target_resolves found (by simp [Node.targets, next])

theorem goto_resolves {target : NodeId} {b : Button} (found : f.node? id = some n)
    (button : b ∈ n.buttons) (goto : b.goto = some target) : (f.node? target).isSome := by
  apply accepted.target_resolves found
  have named : target ∈ n.buttons.filterMap (·.goto) :=
    List.mem_filterMap.mpr ⟨b, button, goto⟩
  simp [Node.targets, named]

theorem command_resolves {target : NodeId} {c : Command} (command : c ∈ f.commands)
    (node : c.node = some target) : (f.node? target).isSome :=
  (accepted_iff.mp accepted).2.2.2.2.1 c command target node

theorem synonym_resolves {s : Synonym} (synonym : s ∈ f.synonyms) : (f.node? s.node).isSome :=
  (accepted_iff.mp accepted).2.2.2.2.2.1 s synonym

theorem settings_resolves {target : NodeId} (settings : f.settingsNode = some target) :
    (f.node? target).isSome :=
  (accepted_iff.mp accepted).2.2.2.2.2.2.1 target settings

theorem no_circle (member : n ∈ f.nodes) : f.circleOf? n = none :=
  (accepted_iff.mp accepted).2.2.2.2.2.2.2 n member

end Accepted

/-- The nodes that are shown one after another when a node is entered, the last of them being
the first that waits or has nothing after it. -/
inductive Chain (f : Flow) : NodeId → List Node → Prop
  | /-- The passage ends here. -/
    stop {id : NodeId} {n : Node} (found : f.node? id = some n) (ends : n.autoNext = none) :
      Chain f id [n]
  | /-- The passage goes on. -/
    pass {id next : NodeId} {n : Node} {rest : List Node} (found : f.node? id = some n)
      (onward : n.autoNext = some next) (chain : Chain f next rest) : Chain f id (n :: rest)

theorem chain_cons_iff {rest : List Node} :
    f.Chain id (n :: rest) ↔
      f.node? id = some n ∧
        match n.autoNext with
        | none => rest = []
        | some next => f.Chain next rest := by
  constructor
  · intro chain
    cases chain with
    | stop found ends => rw [ends]; exact ⟨found, rfl⟩
    | pass found onward chain => rw [onward]; exact ⟨found, chain⟩
  · rintro ⟨found, goesOn⟩
    cases onward : n.autoNext with
    | none =>
        rw [onward] at goesOn
        obtain rfl : rest = [] := goesOn
        exact .stop found onward
    | some next =>
        rw [onward] at goesOn
        exact .pass found onward goesOn

/-- Whether a list is the chain of a node can be checked along the list. -/
instance decidableChain (f : Flow) :
    (id : NodeId) → (chain : List Node) → Decidable (f.Chain id chain)
  | _, [] => isFalse fun chain => nomatch chain
  | id, n :: rest =>
      if found : f.node? id = some n then
        match onward : n.autoNext with
        | none => decidable_of_iff (rest = []) (by rw [chain_cons_iff, onward]; simp [found])
        | some next =>
            have := decidableChain f next rest
            decidable_of_iff (f.Chain next rest) (by rw [chain_cons_iff, onward]; simp [found])
      else isFalse fun chain => found (chain_cons_iff.1 chain).1

/-- The nodes of a chain are found by their names. -/
theorem Chain.node?_of_mem {chain : List Node} (isChain : f.Chain id chain) (listed : n ∈ chain) :
    f.node? n.id = some n := by
  induction isChain with
  | stop found _ =>
      rw [List.mem_singleton.1 listed]
      exact node?_id_of_node? found
  | pass found _ _ ih =>
      rcases List.mem_cons.1 listed with rfl | later
      · exact node?_id_of_node? found
      · exact ih later

/-- A node has no second chain. -/
theorem Chain.unique {first second : List Node} (left : f.Chain id first)
    (right : f.Chain id second) : first = second := by
  induction left generalizing second with
  | stop found ends =>
      cases right with
      | stop found' _ => rw [Option.some.inj (found.symm.trans found')]
      | pass found' onward' _ =>
          obtain rfl := Option.some.inj (found.symm.trans found')
          rw [ends] at onward'
          cases onward'
  | pass found onward _ ih =>
      cases right with
      | stop found' ends' =>
          obtain rfl := Option.some.inj (found.symm.trans found')
          rw [ends'] at onward
          cases onward
      | pass found' onward' chain' =>
          obtain rfl := Option.some.inj (found.symm.trans found')
          obtain rfl := Option.some.inj (onward.symm.trans onward')
          rw [ih chain']

/-- Every node of a chain begins the rest of it. -/
theorem Chain.suffix {front back : List Node} (isChain : f.Chain id (front ++ n :: back)) :
    f.Chain n.id (n :: back) := by
  induction front generalizing id with
  | nil =>
      have found := (chain_cons_iff.1 isChain).1
      rw [id_of_node? found]
      exact isChain
  | cons first front ih =>
      obtain ⟨_, goesOn⟩ := chain_cons_iff.1 isChain
      split at goesOn
      · cases (List.append_eq_nil_iff.1 goesOn).2
      · exact ih goesOn

/-- The nodes of a chain have different names: where a name comes again, so does the whole way
from there, and the chain would be longer than itself. -/
theorem Chain.nodup {chain : List Node} (isChain : f.Chain id chain) :
    (chain.map (·.id)).Nodup := by
  induction isChain with
  | stop found ends => exact List.pairwise_singleton _ _
  | @pass id next n rest found onward chain ih =>
      rw [List.map_cons, List.nodup_cons]
      refine ⟨?_, ih⟩
      intro again
      obtain ⟨m, later, same⟩ := List.mem_map.1 again
      obtain ⟨front, back, rfl⟩ := List.append_of_mem later
      have whole : f.Chain n.id (n :: (front ++ m :: back)) := by
        rw [id_of_node? found]
        exact .pass found onward chain
      have shorter : f.Chain n.id (m :: back) := same ▸ chain.suffix
      have lengths := congrArg List.length (whole.unique shorter)
      simp only [List.length_cons, List.length_append] at lengths
      omega

theorem circleFrom?_eq_none_of_chain {steps : Nat} {passed : List NodeId} {rest : List Node}
    (isChain : f.Chain id (n :: rest)) (fresh : ∀ m ∈ rest, m.id ∉ passed) :
    f.circleFrom? steps passed n = none := by
  induction steps generalizing id n passed rest with
  | zero => rfl
  | succ steps ih =>
      have distinct := isChain.nodup
      rw [circleFrom?]
      cases isChain with
      | stop _ ends => rw [ends]
      | pass _ onward chain =>
          rw [onward]
          cases rest with
          | nil => cases chain
          | cons m rest =>
              obtain ⟨found, _⟩ := chain_cons_iff.1 chain
              have named : m.id = _ := id_of_node? found
              dsimp only
              rw [if_neg (named ▸ fresh m List.mem_cons_self), found]
              apply ih chain
              intro later listed
              rw [List.mem_cons]
              rintro (same | old)
              · rw [List.map_cons, List.map_cons] at distinct
                have once := (List.nodup_cons.1 (List.nodup_cons.1 distinct).2).1
                exact once (named ▸ same ▸ List.mem_map_of_mem listed)
              · exact fresh later (List.mem_cons_of_mem _ listed) old

/-- A node that begins a chain does not run into a circle. -/
theorem circleOf?_eq_none_of_chain {chain : List Node} (isChain : f.Chain n.id (n :: chain)) :
    f.circleOf? n = none := by
  have distinct := isChain.nodup
  rw [List.map_cons, List.nodup_cons] at distinct
  apply circleFrom?_eq_none_of_chain isChain
  intro m later again
  rw [List.mem_singleton] at again
  exact distinct.1 (again ▸ List.mem_map_of_mem later)

theorem next_of_autoNext {next : NodeId} (onward : n.autoNext = some next) :
    n.next = some next := by
  simp only [Node.autoNext] at onward
  split at onward
  · cases onward
  · exact onward

/-- One step without the user's doing, from the name of a node to the name of the node after it.
Whether there is a node of the second name is left open. -/
def Passes (f : Flow) (source target : NodeId) : Prop :=
  ∃ n ∈ f.nodes, n.id = source ∧ n.autoNext = some target

theorem Distinct.passes_iff {target : NodeId} (distinct : f.Distinct) (member : n ∈ f.nodes) :
    f.Passes n.id target ↔ n.autoNext = some target := by
  constructor
  · rintro ⟨m, listed, same, onward⟩
    have found : f.node? n.id = some m := same ▸ distinct.node?_of_mem listed
    obtain rfl : n = m := Option.some.inj ((distinct.node?_of_mem member).symm.trans found)
    exact onward
  · intro onward
    exact ⟨n, member, rfl, onward⟩

/-- There are no more names than nodes. -/
theorem length_le_of_names {names : List NodeId} (different : names.Nodup)
    (named : names ⊆ f.nodes.map (·.id)) : names.length ≤ f.nodes.length := by
  have bounded := different.length_le_of_subset named
  rwa [List.length_map] at bounded

/-- Where the search for a circle finds none, every way without the user's doing ends. The names
passed so far differ and are all names of nodes, so the search cannot run out of steps before it has
met them all. -/
theorem Distinct.acc_of_circleFrom?_eq_none (distinct : f.Distinct) {steps : Nat}
    {passed : List NodeId} (member : n ∈ f.nodes) (noCircle : f.circleFrom? steps passed n = none)
    (different : passed.Nodup) (named : passed ⊆ f.nodes.map (·.id))
    (enough : f.nodes.length < steps + passed.length) :
    Acc (fun target source => f.Passes source target) n.id := by
  induction steps generalizing n passed with
  | zero =>
      have bounded := length_le_of_names different named
      omega
  | succ steps ih =>
      constructor
      intro target passes
      have onward := (distinct.passes_iff member).1 passes
      simp only [circleFrom?, onward] at noCircle
      split at noCircle
      · cases noCircle
      · next fresh =>
          cases found : f.node? target with
          | none =>
              -- A way out of the flow has no second step.
              constructor
              rintro beyond ⟨m, listed, rfl, -⟩
              rw [distinct.node?_of_mem listed] at found
              cases found
          | some following =>
              have listed := mem_of_node? found
              obtain rfl : following.id = target := id_of_node? found
              simp only [found] at noCircle
              have named' : following.id :: passed ⊆ f.nodes.map (·.id) :=
                List.cons_subset.mpr ⟨List.mem_map_of_mem listed, named⟩
              apply ih listed noCircle (List.nodup_cons.mpr ⟨fresh, different⟩) named'
              simp only [List.length_cons]
              omega

theorem Distinct.acc_of_circleOf?_eq_none (distinct : f.Distinct) (member : n ∈ f.nodes)
    (noCircle : f.circleOf? n = none) : Acc (fun target source => f.Passes source target) n.id := by
  apply distinct.acc_of_circleFrom?_eq_none member noCircle (List.pairwise_singleton _ _)
  · exact List.cons_subset.mpr ⟨List.mem_map_of_mem member, List.nil_subset _⟩
  · simp only [List.length_singleton]
    omega

/-- In an accepted flow every node begins a passage that ends. -/
theorem Accepted.exists_chain (accepted : f.Accepted) (resolves : (f.node? id).isSome) :
    ∃ chain, f.Chain id chain := by
  obtain ⟨first, found⟩ := Option.isSome_iff_exists.mp resolves
  have ends := accepted.distinct.acc_of_circleOf?_eq_none (mem_of_node? found)
    (accepted.no_circle (mem_of_node? found))
  rw [id_of_node? found] at ends
  clear first found
  induction ends with
  | intro id _ ih =>
      obtain ⟨n, found⟩ := Option.isSome_iff_exists.mp resolves
      cases onward : n.autoNext with
      | none => exact ⟨[n], .stop found onward⟩
      | some next =>
          have passes : f.Passes id next := ⟨n, mem_of_node? found, id_of_node? found, onward⟩
          obtain ⟨chain, isChain⟩ :=
            ih next passes (accepted.next_resolves found (next_of_autoNext onward))
          exact ⟨n :: chain, .pass found onward isChain⟩

/-- The names of the nodes that a passage takes up, at most so many of them. -/
def passage (f : Flow) : Nat → NodeId → List NodeId
  | 0, _ => []
  | steps + 1, id =>
      match f.node? id with
      | none => []
      | some n =>
          match n.autoNext with
          | none => [n.id]
          | some next => n.id :: f.passage steps next

theorem passage_of_missing (missing : f.node? id = none) (steps : Nat) :
    f.passage (steps + 1) id = [] := by
  rw [passage, missing]

theorem passage_of_stop (found : f.node? id = some n) (ends : n.autoNext = none) (steps : Nat) :
    f.passage (steps + 1) id = [n.id] := by
  rw [passage, found]
  dsimp only
  rw [ends]

theorem passage_of_pass {next : NodeId} (found : f.node? id = some n)
    (onward : n.autoNext = some next) (steps : Nat) :
    f.passage (steps + 1) id = n.id :: f.passage steps next := by
  rw [passage, found]
  dsimp only
  rw [onward]

/-- A passage takes up the nodes of its chain. -/
theorem Chain.passage_eq {chain : List Node} (isChain : f.Chain id chain) (steps : Nat) :
    f.passage steps id = (chain.take steps).map (·.id) := by
  induction isChain generalizing steps with
  | stop found ends =>
      cases steps with
      | zero => rfl
      | succ steps =>
          rw [passage_of_stop found ends, List.take_succ_cons, List.take_nil, List.map_singleton]
  | pass found onward _ ih =>
      cases steps with
      | zero => rfl
      | succ steps =>
          rw [passage_of_pass found onward, List.take_succ_cons, List.map_cons, ih steps]

end Flow

end Dialogue
