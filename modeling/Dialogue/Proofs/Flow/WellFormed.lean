/-
# What is demanded of a flow

`Flow.WellFormed` says what a flow has to be like, without regard to how it is checked.
`Flow.demands` lists the same conditions one by one, in the order in which they are checked, each
with the error that reports it. The check accepts exactly the well-formed flows, and otherwise gives
the error of the first demand that is not met.

A check that searches is compared with a list of demands by `Demand.Verdict`. There is one rule for
each way of putting checks together (one after the other, over a list, for an optional part), so
that the verdict on a flow follows the shape of its check.
-/

import Dialogue.Proofs.Flow.Circle
import Dialogue.Proofs.Text.Trim

namespace Dialogue

/-! ## Demands and verdicts -/

/-- Something that is demanded, and the errors that report it as missing. -/
structure Demand (ε : Type) where
  holds : Prop
  reports : ε → Prop

namespace Demand

variable {ε δ α : Type}

/-- A demand with one error. -/
def plain (holds : Prop) (error : ε) : Demand ε := ⟨holds, fun e => e = error⟩

/-- A demand with its errors put into a larger type. -/
def map (g : ε → δ) (d : Demand ε) : Demand δ := ⟨d.holds, fun e => ∃ e', d.reports e' ∧ e = g e'⟩

/-- The error reports the first demand that is not met. -/
def FirstBroken (demands : List (Demand ε)) (error : ε) : Prop :=
  ∃ front d back, demands = front ++ d :: back ∧ (∀ met ∈ front, met.holds) ∧ ¬ d.holds ∧
    d.reports error

/-- The result of a check that makes some demands. -/
def Verdict (demands : List (Demand ε)) : Option ε → Prop
  | none => ∀ d ∈ demands, d.holds
  | some error => FirstBroken demands error

namespace Verdict

variable {demands others : List (Demand ε)} {result other : Option ε} {p c : Prop} {error : ε}

theorem eq_none_iff (verdict : Verdict demands result) :
    result = none ↔ ∀ d ∈ demands, d.holds := by
  cases result with
  | none => exact ⟨fun _ => verdict, fun _ => rfl⟩
  | some error =>
      obtain ⟨front, d, back, rfl, -, broken, -⟩ := verdict
      constructor
      · intro absurd
        cases absurd
      · intro all
        exact absurd (all d (by simp)) broken

theorem nil : Verdict ([] : List (Demand ε)) none := by
  intro d listed
  cases listed

/-- One check and then another. The second may rely on the demands of the first. -/
theorem append (first : Verdict demands result)
    (second : (∀ d ∈ demands, d.holds) → Verdict others other) :
    Verdict (demands ++ others) (result <|> other) := by
  cases result with
  | some error =>
      obtain ⟨front, d, back, rfl, met, broken, reports⟩ := first
      exact ⟨front, d, back ++ others, by simp, met, broken, reports⟩
  | none =>
      cases other with
      | none =>
          intro d listed
          rcases List.mem_append.1 listed with early | late
          · exact first d early
          · exact second first d late
      | some error =>
          obtain ⟨front, d, back, rfl, met, broken, reports⟩ := second first
          refine ⟨demands ++ front, d, back, by simp, ?_, broken, reports⟩
          intro d listed
          rcases List.mem_append.1 listed with early | late
          · exact first d early
          · exact met d late

/-- A test and then another check. -/
theorem ite [Decidable c] (test : c ↔ ¬ p) (rest : Verdict demands result) :
    Verdict (.plain p error :: demands) (if c then some error else result) := by
  split
  · next fails => exact ⟨[], .plain p error, demands, rfl, by simp, test.1 fails, rfl⟩
  · next passes =>
      have holds : p := not_not.1 fun broken => passes (test.2 broken)
      have single : Verdict [.plain p error] none := by
        intro d listed
        rw [List.mem_singleton.1 listed]
        exact holds
      exact single.append fun _ => rest

/-- A test for what is demanded. -/
theorem test [Decidable c] (decides : c ↔ p) :
    Verdict [.plain p error] (if c then none else some error) := by
  split
  · next passes =>
      intro d listed
      rw [List.mem_singleton.1 listed]
      exact decides.1 passes
  · next fails => exact ⟨[], .plain p error, [], rfl, by simp, fun p => fails (decides.2 p), rfl⟩

/-- The same check for every element of a list. -/
theorem flatMap {items : List α} {demands : α → List (Demand ε)} {check : α → Option ε}
    (each : ∀ item ∈ items, Verdict (demands item) (check item)) :
    Verdict (items.flatMap demands) (items.findSome? check) := by
  induction items with
  | nil => exact nil
  | cons item items ih =>
      have rest := ih fun later listed => each later (List.mem_cons_of_mem _ listed)
      have both := (each item List.mem_cons_self).append fun _ => rest
      rw [List.flatMap_cons, List.findSome?_cons]
      cases checked : check item with
      | none => simpa [checked] using both
      | some error => simpa [checked] using both

/-- The same single demand on every element of a list. -/
theorem list {items : List α} {demand : α → Demand ε} {check : α → Option ε}
    (each : ∀ item ∈ items, Verdict [demand item] (check item)) :
    Verdict (items.map demand) (items.findSome? check) := by
  rw [List.map_eq_flatMap]
  exact flatMap each

/-- A check of a part that may be missing. -/
theorem bind {part : Option α} {demands : α → List (Demand ε)} {check : α → Option ε}
    (each : ∀ item, part = some item → Verdict (demands item) (check item)) :
    Verdict (part.toList.flatMap demands) (part.bind check) := by
  cases part with
  | none => exact nil
  | some item => simpa using each item rfl

theorem map (g : ε → δ) (verdict : Verdict demands result) :
    Verdict (demands.map (Demand.map g)) (result.map g) := by
  cases result with
  | none =>
      intro d listed
      obtain ⟨original, found, rfl⟩ := List.mem_map.1 listed
      exact verdict original found
  | some error =>
      obtain ⟨front, d, back, rfl, met, broken, reports⟩ := verdict
      refine ⟨front.map (Demand.map g), d.map g, back.map (Demand.map g), by simp, ?_, broken,
        error, reports, rfl⟩
      intro d listed
      obtain ⟨original, found, rfl⟩ := List.mem_map.1 listed
      exact met original found

end Verdict

end Demand

/-! ## Rules of a node -/

/-- What is demanded of a prompt. -/
def Prompt.rules (p : Prompt) : List (Demand NodeFault) :=
  [.plain (Text.trim p.variableName ≠ "") .inputVariableEmpty,
   .plain (∀ least most, p.minLength = some least → p.maxLength = some most → least ≤ most)
    .lengthsCrossed]

/-- What is demanded of a selection. -/
def MultiSelect.rules (m : MultiSelect) : List (Demand NodeFault) :=
  [.plain (Text.trim m.variableName ≠ "") .selectVariableEmpty,
   .plain (m.options ≠ []) .noOptions,
   .plain (m.minSelected ≤ m.options.length) .tooManyRequired]

/-- What is demanded of a button on a keyboard of some kind. -/
def Button.rules (kind : KeyboardKind) (b : Button) : List (Demand NodeFault) :=
  [.plain (b.url.isSome → b.goto = none ∧ b.value = none) .urlWithTarget,
   .plain (b.url.isSome → kind ≠ .reply) .urlOnReplyKeyboard]

/-- What is demanded of a keyboard. -/
def Keyboard.rules (k : Keyboard) : List (Demand NodeFault) :=
  .plain (0 < k.columns) .noColumns :: k.buttons.flatMap (Button.rules k.kind)

/-- What is demanded of a node by itself. -/
def Node.rules (n : Node) : List (Demand NodeFault) :=
  n.input.toList.flatMap Prompt.rules ++ (n.multiSelect.toList.flatMap MultiSelect.rules ++
    (n.keyboard.toList.flatMap Keyboard.rules ++
      n.variableName.toList.flatMap fun v => [.plain (Text.trim v ≠ "") .variableEmpty]))

theorem Prompt.fault?_verdict (p : Prompt) : Demand.Verdict p.rules p.fault? := by
  apply Demand.Verdict.ite
  · rw [not_not, Text.isBlankText_iff]
  · split
    · next least most hasLeast hasMost =>
        apply Demand.Verdict.ite
        · simp [hasLeast, hasMost]
        · exact .nil
    · next free =>
        intro d listed
        rw [List.mem_singleton.1 listed]
        intro least most hasLeast hasMost
        exact (free least most hasLeast hasMost).elim

theorem MultiSelect.fault?_verdict (m : MultiSelect) : Demand.Verdict m.rules m.fault? := by
  apply Demand.Verdict.ite
  · rw [not_not, Text.isBlankText_iff]
  · apply Demand.Verdict.ite
    · simp
    · apply Demand.Verdict.ite
      · simp
      · exact .nil

theorem Button.fault?_verdict (kind : KeyboardKind) (b : Button) :
    Demand.Verdict (b.rules kind) (b.fault? kind) := by
  apply Demand.Verdict.ite
  · cases b.url <;> cases b.goto <;> cases b.value <;> simp
  · apply Demand.Verdict.ite
    · cases b.url <;> cases kind <;> simp
    · exact .nil

theorem Keyboard.fault?_verdict (k : Keyboard) : Demand.Verdict k.rules k.fault? := by
  apply Demand.Verdict.ite
  · omega
  · exact .flatMap fun b _ => b.fault?_verdict k.kind

theorem Node.fault?_verdict (n : Node) : Demand.Verdict n.rules n.fault? := by
  refine .append (.bind fun p _ => p.fault?_verdict) fun _ => ?_
  refine .append (.bind fun m _ => m.fault?_verdict) fun _ => ?_
  refine .append (.bind fun k _ => k.fault?_verdict) fun _ => ?_
  refine .bind fun v _ => ?_
  apply Demand.Verdict.ite
  · rw [not_not, Text.isBlankText_iff]
  · exact .nil

/-! ## Demands on a flow -/

namespace Flow

open Relation (TransGen)

variable (f : Flow)

/-- A name that is mentioned has to be that of a node. -/
def targetDemand (source : String) (target : NodeId) : Demand FlowError :=
  .plain (f.Names target) (.unknownNode source target)

/-- No node has the name of an earlier one. -/
def nameDemands : List (Demand FlowError) :=
  f.nodes.mapIdx fun index n =>
    .plain (n.id ∉ (f.nodes.take index).map (·.id)) (.duplicateNode n.id)

/-- What is demanded of a node: its own rules, the node after it and the targets of its buttons. -/
def nodeDemands (n : Node) : List (Demand FlowError) :=
  n.rules.map (Demand.map (.invalidNode n.id)) ++ (n.next.toList.map (f.targetDemand n.id) ++
    n.buttons.flatMap fun b => b.goto.toList.map (f.targetDemand n.id))

/-- No node leads back to itself without the user's doing. The error lists the circle that the first
of those nodes runs into that run into any. -/
def circleDemand : Demand FlowError where
  holds := ∀ id, ¬ TransGen f.Passes id id
  reports error := ∃ front n back circle,
    f.nodes = front ++ n :: back ∧ (∀ m ∈ front, ∀ c, ¬ f.RunsInto m.id c) ∧
      f.RunsInto n.id circle ∧ error = .autoAdvanceCycle circle

/-- All demands on a flow, in the order in which they are checked. -/
def demands : List (Demand FlowError) :=
  [.plain (f.nodes ≠ []) .empty] ++ (f.nameDemands ++
    ([.plain (f.Names f.start) (.missingStart f.start)] ++ (f.nodes.flatMap f.nodeDemands ++
      (f.commands.flatMap (fun c => c.node.toList.map (f.targetDemand ("/" ++ c.command))) ++
        (f.synonyms.map (fun s => f.targetDemand s.text s.node) ++
          (f.settingsNode.toList.map (f.targetDemand "settings_node") ++ [f.circleDemand]))))))

variable {f} {n : Node}

theorem targetFault?_verdict (source : String) (target : NodeId) :
    Demand.Verdict [f.targetDemand source target] (f.targetFault? source target) :=
  .test isSome_node?_iff

/-- A reference that may be missing. -/
theorem bind_targetFault?_verdict (source : String) (target : Option NodeId) :
    Demand.Verdict (target.toList.map (f.targetDemand source))
      (target.bind (f.targetFault? source)) := by
  rw [List.map_eq_flatMap]
  exact .bind fun id _ => targetFault?_verdict source id

/-- The search for a repeated name, after some names have been seen. -/
theorem firstRepeated?_verdict (nodes : List Node) (before seen : List NodeId)
    (same : ∀ id, id ∈ seen ↔ id ∈ before) :
    Demand.Verdict
      (nodes.mapIdx fun index n =>
        .plain (n.id ∉ before ++ (nodes.take index).map (·.id)) (FlowError.duplicateNode n.id))
      ((firstRepeated? seen (nodes.map (·.id))).map .duplicateNode) := by
  induction nodes generalizing before seen with
  | nil => exact .nil
  | cons n nodes ih =>
      have rest := ih (before ++ [n.id]) (n.id :: seen) (by simp [same, or_comm])
      rw [List.mapIdx_cons, List.map_cons, firstRepeated?, apply_ite (Option.map _)]
      apply Demand.Verdict.ite
      · simp [same]
      · simpa using rest

theorem nameDemands_verdict :
    Demand.Verdict f.nameDemands
      ((firstRepeated? [] (f.nodes.map (·.id))).map .duplicateNode) := by
  exact firstRepeated?_verdict f.nodes [] [] fun _ => Iff.rfl

theorem nameDemands_iff : (∀ d ∈ f.nameDemands, d.holds) ↔ f.Distinct := by
  rw [distinct_iff, ← nameDemands_verdict.eq_none_iff, Option.map_eq_none_iff]

theorem nodeFault?_verdict (n : Node) : Demand.Verdict (f.nodeDemands n) (f.nodeFault? n) := by
  have targets : n.next.toList.map (f.targetDemand n.id) ++
      (n.buttons.flatMap fun b => b.goto.toList.map (f.targetDemand n.id)) =
        n.targets.map (f.targetDemand n.id) := by
    rw [Node.targets, List.map_append, List.filterMap_eq_flatMap_toList, List.map_flatMap]
  rw [nodeDemands, targets]
  refine .append (n.fault?_verdict.map _) fun _ => ?_
  exact .list fun target _ => targetFault?_verdict n.id target

theorem circleDemand_verdict (distinct : f.Distinct) :
    Demand.Verdict [f.circleDemand]
      ((f.nodes.findSome? f.circleOf?).map .autoAdvanceCycle) := by
  cases search : f.nodes.findSome? f.circleOf? with
  | none =>
      intro d listed
      rw [List.mem_singleton.1 listed]
      exact distinct.no_circle_iff.1 (List.findSome?_eq_none_iff.1 search)
  | some circle =>
      obtain ⟨front, n, back, split, reported, clear⟩ := List.findSome?_eq_some_iff.1 search
      have member : n ∈ f.nodes := by
        rw [split]
        simp
      have runs : f.RunsInto n.id circle := (distinct.circleOf?_eq_some_iff member).1 reported
      obtain ⟨entry, around⟩ := runs.exists_transGen
      refine ⟨[], f.circleDemand, [], rfl, by simp, fun acyclic => acyclic entry around,
        front, n, back, circle, split, ?_, runs, rfl⟩
      intro m earlier c into
      have listed : m ∈ f.nodes := by
        rw [split]
        exact List.mem_append_left _ earlier
      have found := (distinct.circleOf?_eq_some_iff listed).2 into
      rw [clear m earlier] at found
      cases found

/-- The check of a flow makes exactly the demands of the list, in their order. -/
theorem fault?_verdict : Demand.Verdict f.demands f.fault? := by
  have nonempty : Demand.Verdict [.plain (f.nodes ≠ []) FlowError.empty]
      (if f.nodes.isEmpty then some .empty else none) := by
    apply Demand.Verdict.ite
    · simp
    · exact .nil
  refine nonempty.append fun _ => ?_
  refine nameDemands_verdict.append fun named => ?_
  refine .append (.test isSome_node?_iff) fun _ => ?_
  refine .append (.flatMap fun n _ => nodeFault?_verdict n) fun _ => ?_
  refine .append (.flatMap fun c _ => bind_targetFault?_verdict _ c.node) fun _ => ?_
  refine .append (.list fun s _ => targetFault?_verdict s.text s.node) fun _ => ?_
  refine .append (bind_targetFault?_verdict _ f.settingsNode) fun _ => ?_
  exact circleDemand_verdict (nameDemands_iff.1 named)

end Flow

/-! ## Well-formed flows -/

/-- A prompt names its variable, and its lengths leave room. -/
structure Prompt.Proper (p : Prompt) : Prop where
  named : Text.trim p.variableName ≠ ""
  lengths : ∀ least most, p.minLength = some least → p.maxLength = some most → least ≤ most

/-- A selection names its variable, offers something, and asks for no more than it offers. -/
structure MultiSelect.Proper (m : MultiSelect) : Prop where
  named : Text.trim m.variableName ≠ ""
  offers : m.options ≠ []
  enough : m.minSelected ≤ m.options.length

/-- A keyboard has columns, its links do nothing but open an address, and there are none among the
labels of a reply keyboard. -/
structure Keyboard.Proper (k : Keyboard) : Prop where
  columns : 0 < k.columns
  links : ∀ b ∈ k.buttons, b.url.isSome → b.goto = none ∧ b.value = none
  labels : ∀ b ∈ k.buttons, b.url.isSome → k.kind ≠ .reply

/-- All parts of a node are proper. -/
structure Node.Proper (n : Node) : Prop where
  input : ∀ p, n.input = some p → p.Proper
  multiSelect : ∀ m, n.multiSelect = some m → m.Proper
  keyboard : ∀ k, n.keyboard = some k → k.Proper
  named : ∀ v, n.variableName = some v → Text.trim v ≠ ""

/-- What a flow has to be like. -/
structure Flow.WellFormed (f : Flow) : Prop where
  nonempty : f.nodes ≠ []
  distinct : (f.nodes.map (·.id)).Nodup
  start : f.Names f.start
  nodes : ∀ n ∈ f.nodes, n.Proper
  next : ∀ n ∈ f.nodes, ∀ target, n.next = some target → f.Names target
  goto : ∀ n ∈ f.nodes, ∀ b ∈ n.buttons, ∀ target, b.goto = some target → f.Names target
  commands : ∀ c ∈ f.commands, ∀ target, c.node = some target → f.Names target
  synonyms : ∀ s ∈ f.synonyms, f.Names s.node
  settings : ∀ target, f.settingsNode = some target → f.Names target
  /-- No node leads back to itself without the user's doing. -/
  acyclic : ∀ id, ¬ Relation.TransGen f.Passes id id

/-! Each part of the definition collects some demands. -/

theorem Prompt.proper_iff {p : Prompt} : p.Proper ↔ ∀ d ∈ p.rules, d.holds := by
  rw [rules, List.forall_mem_cons, List.forall_mem_singleton]
  exact ⟨fun proper => ⟨proper.named, proper.lengths⟩, fun rules => ⟨rules.1, rules.2⟩⟩

theorem MultiSelect.proper_iff {m : MultiSelect} : m.Proper ↔ ∀ d ∈ m.rules, d.holds := by
  rw [rules, List.forall_mem_cons, List.forall_mem_cons, List.forall_mem_singleton]
  exact ⟨fun proper => ⟨proper.named, proper.offers, proper.enough⟩,
    fun rules => ⟨rules.1, rules.2.1, rules.2.2⟩⟩

theorem Button.rules_iff {kind : KeyboardKind} {b : Button} :
    (∀ d ∈ b.rules kind, d.holds) ↔
      (b.url.isSome → b.goto = none ∧ b.value = none) ∧ (b.url.isSome → kind ≠ .reply) := by
  rw [rules, List.forall_mem_cons, List.forall_mem_singleton]
  rfl

theorem Keyboard.proper_iff {k : Keyboard} : k.Proper ↔ ∀ d ∈ k.rules, d.holds := by
  simp only [rules, List.forall_mem_cons, List.forall_mem_flatMap, Button.rules_iff]
  constructor
  · intro proper
    exact ⟨proper.columns, fun b listed => ⟨proper.links b listed, proper.labels b listed⟩⟩
  · rintro ⟨columns, buttons⟩
    exact ⟨columns, fun b listed => (buttons b listed).1, fun b listed => (buttons b listed).2⟩

theorem Node.proper_iff {n : Node} : n.Proper ↔ ∀ d ∈ n.rules, d.holds := by
  simp only [rules, List.forall_mem_append, List.forall_mem_flatMap, Option.mem_toList,
    List.forall_mem_singleton, ← Prompt.proper_iff, ← MultiSelect.proper_iff,
    ← Keyboard.proper_iff]
  constructor
  · intro proper
    exact ⟨proper.input, proper.multiSelect, proper.keyboard, proper.named⟩
  · rintro ⟨input, multiSelect, keyboard, named⟩
    exact ⟨input, multiSelect, keyboard, named⟩

namespace Flow

variable {f : Flow}

theorem nodeDemands_iff {n : Node} :
    (∀ d ∈ f.nodeDemands n, d.holds) ↔
      n.Proper ∧ (∀ target, n.next = some target → f.Names target) ∧
        ∀ b ∈ n.buttons, ∀ target, b.goto = some target → f.Names target := by
  simp only [nodeDemands, List.forall_mem_append, List.forall_mem_map, List.forall_mem_flatMap,
    Option.mem_toList, Node.proper_iff]
  rfl

theorem demands_iff : (∀ d ∈ f.demands, d.holds) ↔ f.WellFormed := by
  simp only [demands, List.forall_mem_append, List.forall_mem_map, List.forall_mem_flatMap,
    List.forall_mem_singleton, Option.mem_toList, nameDemands_iff, nodeDemands_iff]
  constructor
  · rintro ⟨nonempty, distinct, start, nodes, commands, synonyms, settings, acyclic⟩
    exact ⟨nonempty, distinct, start, fun n listed => (nodes n listed).1,
      fun n listed => (nodes n listed).2.1, fun n listed => (nodes n listed).2.2, commands,
      synonyms, settings, acyclic⟩
  · intro wf
    exact ⟨wf.nonempty, wf.distinct, wf.start,
      fun n listed => ⟨wf.nodes n listed, wf.next n listed, wf.goto n listed⟩, wf.commands,
      wf.synonyms, wf.settings, wf.acyclic⟩

/-- **The check of a flow.** A flow is accepted exactly if it is well-formed. An error that is given
reports the first demand that is not met, in this order: there are nodes; their names differ; the
start exists; node by node its own rules, the node after it and the targets of its buttons; the
nodes of commands, of synonyms and of the settings; no circle of automatic passages. -/
theorem fault?_firstBroken (f : Flow) :
    (f.fault? = none ↔ f.WellFormed) ∧
      ∀ error, f.fault? = some error → Demand.FirstBroken f.demands error := by
  constructor
  · rw [← demands_iff]
    exact fault?_verdict.eq_none_iff
  · intro error found
    have verdict := fault?_verdict (f := f)
    rw [found] at verdict
    exact verdict

/-- A flow whose start runs into a circle of two other nodes. -/
def whirl : Flow where
  name := "whirl"
  start := "shore"
  nodes := [
    { id := "shore", text := "Step in", next := some "stream" },
    { id := "eddy", text := "Round", next := some "stream" },
    { id := "stream", text := "Along", next := some "eddy" }]

/-- The circle is reported from the node on that the start comes to first. -/
theorem whirl_firstBroken :
    whirl.fault? = some (.autoAdvanceCycle ["stream", "eddy", "stream"]) ∧
      Demand.FirstBroken whirl.demands (.autoAdvanceCycle ["stream", "eddy", "stream"]) := by
  have found : whirl.fault? = some (.autoAdvanceCycle ["stream", "eddy", "stream"]) := by decide
  exact ⟨found, (fault?_firstBroken whirl).2 _ found⟩

end Flow

end Dialogue
