/-
# What packing does

Packing walks along the buttons, counts those that are no links, and fills the store as it goes.
Its result can be said without the walk: the button with the payload number `p` carries that payload
or a reference to `p`, and the store keeps for the message exactly the payloads that do not fit.

So the packed buttons depend on nothing but the message and the payloads. Read through a store that
has the payloads that do not fit, they are the buttons that were packed. This does not need the
store that the packing filled: any store that backs the same payloads will do.
-/

import Dialogue.Proofs.Callback.Payload

namespace Dialogue

namespace InlineButton

/-- The text that a press gives back. -/
def data? : InlineButton → Option String
  | .callback _ data => some data
  | .link _ _ => none

/-- The button with another text to give back. -/
def mapData (f : String → String) : InlineButton → InlineButton
  | .callback label data => .callback label (f data)
  | .link label url => .link label url

end InlineButton

/-- The payloads of a keyboard in the order of its buttons. -/
def InlineMarkup.payloads (rows : InlineMarkup) : List String :=
  rows.flatten.filterMap InlineButton.data?

theorem InlineMarkup.payloads_cons (row : List InlineButton) (rows : InlineMarkup) :
    payloads (row :: rows) = row.filterMap InlineButton.data? ++ rows.payloads := by
  rw [payloads, payloads, List.flatten_cons, List.filterMap_append]

/-- What a button carries for a payload. -/
def CallbackKey.carrier (key : CallbackKey) (payload : String) : String :=
  if fitsCallback payload then payload else key.text

/-- What a button carries can travel on it. -/
theorem CallbackKey.fitsCallback_carrier {key : CallbackKey} (statable : key.Statable)
    (payload : String) : fitsCallback (key.carrier payload) = true := by
  rw [carrier]
  split
  · next fits => exact fits
  · exact fitsCallback_text statable

namespace CallbackStore

variable (chat : ChatId) (message : MessageId)

/-! ## Packing without the walk -/

/-- The buttons with what they carry. The first payload has the number `position`. -/
def carryButtons : Nat → List InlineButton → List InlineButton
  | _, [] => []
  | position, .link label url :: rest => .link label url :: carryButtons position rest
  | position, .callback label data :: rest =>
      .callback label (CallbackKey.carrier ⟨chat, message, position⟩ data) ::
        carryButtons (position + 1) rest

/-- The rows with what their buttons carry. -/
def carryRows : Nat → InlineMarkup → InlineMarkup
  | _, [] => []
  | position, row :: rows =>
      carryButtons chat message position row ::
        carryRows (position + (row.filterMap InlineButton.data?).length) rows

/-- The store with those payloads that do not fit. The first payload has the number `position`. -/
def keep : Nat → List String → CallbackStore → CallbackStore
  | _, [], s => s
  | position, payload :: rest, s =>
      keep (position + 1) rest
        (if fitsCallback payload then s else s.insert ⟨chat, message, position⟩ payload)

variable {chat message}

theorem keep_append (position : Nat) (front back : List String) (s : CallbackStore) :
    keep chat message position (front ++ back) s =
      keep chat message (position + front.length) back (keep chat message position front s) := by
  induction front generalizing position s with
  | nil => rfl
  | cons payload front ih =>
      rw [List.cons_append, keep, ih, keep, List.length_cons]
      congr 1
      omega

theorem packButtons_eq (buttons : List InlineButton) (position : Nat) (s : CallbackStore) :
    packButtons chat message buttons position s =
      (carryButtons chat message position buttons,
        position + (buttons.filterMap InlineButton.data?).length,
        keep chat message position (buttons.filterMap InlineButton.data?) s) := by
  induction buttons generalizing position s with
  | nil => rfl
  | cons button rest ih =>
      cases button with
      | link label url =>
          rw [packButtons, ih]
          rfl
      | callback label data =>
          have counted : (List.filterMap InlineButton.data? (.callback label data :: rest)) =
              data :: rest.filterMap InlineButton.data? := rfl
          have length : position + ((rest.filterMap InlineButton.data?).length + 1) =
              position + 1 + (rest.filterMap InlineButton.data?).length := by omega
          rw [counted, carryButtons, CallbackKey.carrier, keep, List.length_cons, length,
            packButtons]
          by_cases fits : fitsCallback data = true
          · rw [if_pos fits, if_pos fits, if_pos fits, ih]
          · rw [if_neg fits, if_neg fits, if_neg fits]
            dsimp only
            rw [ih]

theorem packRows_eq (rows : InlineMarkup) (position : Nat) (s : CallbackStore) :
    packRows chat message rows position s =
      (carryRows chat message position rows, keep chat message position rows.payloads s) := by
  induction rows generalizing position s with
  | nil => rfl
  | cons row rows ih =>
      rw [packRows, packButtons_eq]
      dsimp only
      rw [ih, InlineMarkup.payloads_cons, keep_append, carryRows]

theorem pack_eq (s : CallbackStore) (rows : InlineMarkup) :
    s.pack chat message rows =
      (carryRows chat message 0 rows, keep chat message 0 rows.payloads (s.clear chat message)) :=
  packRows_eq rows 0 (s.clear chat message)

/-! ## What the buttons carry -/

theorem filterMap_carryButtons (position : Nat) (buttons : List InlineButton) :
    (carryButtons chat message position buttons).filterMap InlineButton.data? =
      (buttons.filterMap InlineButton.data?).mapIdx fun number payload =>
        CallbackKey.carrier ⟨chat, message, position + number⟩ payload := by
  induction buttons generalizing position with
  | nil => rfl
  | cons button rest ih =>
      cases button with
      | link label url => exact ih position
      | callback label data =>
          simp [carryButtons, InlineButton.data?, ih, List.mapIdx_cons, Nat.add_assoc,
            Nat.add_comm 1]

/-- The payload number `p` is carried as itself or as a reference to `p`. -/
theorem payloads_carryRows (position : Nat) (rows : InlineMarkup) :
    InlineMarkup.payloads (carryRows chat message position rows) =
      rows.payloads.mapIdx fun number payload =>
        CallbackKey.carrier ⟨chat, message, position + number⟩ payload := by
  induction rows generalizing position with
  | nil => rfl
  | cons row rows ih =>
      have count (number : Nat) :
          position + (row.filterMap InlineButton.data?).length + number =
            position + (number + (row.filterMap InlineButton.data?).length) := by omega
      simp only [carryRows, InlineMarkup.payloads_cons, filterMap_carryButtons, ih,
        List.mapIdx_append, count]

/-! ## What the store has afterwards -/

theorem get?_keep_of_other {key : CallbackKey} (position : Nat) (payloads : List String)
    (s : CallbackStore) (other : ¬ (key.chat = chat ∧ key.message = message)) :
    (keep chat message position payloads s).get? key = s.get? key := by
  induction payloads generalizing position s with
  | nil => rfl
  | cons payload rest ih =>
      rw [keep, ih]
      split
      · rfl
      · rw [get?_insert, if_neg]
        rintro rfl
        exact other ⟨rfl, rfl⟩

/-- Payloads with later numbers do not touch the earlier ones. -/
theorem get?_keep_of_lt {position number : Nat} (payloads : List String) (s : CallbackStore)
    (earlier : number < position) :
    (keep chat message position payloads s).get? ⟨chat, message, number⟩ =
      s.get? ⟨chat, message, number⟩ := by
  induction payloads generalizing position s with
  | nil => rfl
  | cons payload rest ih =>
      rw [keep, ih _ (by omega)]
      split
      · rfl
      · rw [get?_insert, if_neg]
        intro same
        have : number = position := congrArg CallbackKey.position same
        omega

theorem get?_keep (position number : Nat) (payloads : List String) (s : CallbackStore)
    (vacant : ∀ n, position ≤ n → s.get? ⟨chat, message, n⟩ = none) :
    (keep chat message position payloads s).get? ⟨chat, message, position + number⟩ =
      payloads[number]?.filter (!fitsCallback ·) := by
  induction payloads generalizing position number s with
  | nil => exact vacant _ (by omega)
  | cons payload rest ih =>
      rw [keep]
      cases number with
      | zero =>
          rw [get?_keep_of_lt _ _ (by omega)]
          by_cases fits : fitsCallback payload = true
          · simp [fits, vacant position (by omega), Option.filter_some]
          · simp [fits, get?_insert, Option.filter_some]
      | succ number =>
          have here : position + (number + 1) = position + 1 + number := by omega
          rw [here, ih]
          · rw [List.getElem?_cons_succ]
          · intro n later
            split
            · exact vacant n (by omega)
            · rw [get?_insert, if_neg]
              · exact vacant n (by omega)
              · intro same
                have : n = position := congrArg CallbackKey.position same
                omega

/-- After packing, the store has for the message exactly the payloads that do not fit, each under
its number, and for all other messages what it had before. -/
theorem get?_pack (s : CallbackStore) (rows : InlineMarkup) (key : CallbackKey) :
    (s.pack chat message rows).2.get? key =
      if key.chat = chat ∧ key.message = message then
        rows.payloads[key.position]?.filter (!fitsCallback ·)
      else s.get? key := by
  rw [pack_eq]
  by_cases here : key.chat = chat ∧ key.message = message
  · obtain ⟨rfl, rfl⟩ := here
    rw [if_pos ⟨rfl, rfl⟩]
    have vacant (n : Nat) (_ : 0 ≤ n) :
        (s.clear key.chat key.message).get? ⟨key.chat, key.message, n⟩ = none := by
      rw [get?_clear, if_pos ⟨rfl, rfl⟩]
    have kept := get?_keep 0 key.position rows.payloads _ vacant
    rw [Nat.zero_add] at kept
    exact kept
  · rw [if_neg here, get?_keep_of_other _ _ _ here, get?_clear, if_neg here]

/-! ## Reading what was packed -/

/-- The store has those of some payloads of a message that do not fit. -/
def Backs (s : CallbackStore) (chat : ChatId) (message : MessageId) (payloads : List String) :
    Prop :=
  ∀ number payload, payloads[number]? = some payload → fitsCallback payload = false →
    s.get? ⟨chat, message, number⟩ = some payload

theorem backs_nil (s : CallbackStore) (chat : ChatId) (message : MessageId) :
    s.Backs chat message [] := by
  intro number payload listed
  cases listed

theorem backs_pack (s : CallbackStore) (rows : InlineMarkup) :
    (s.pack chat message rows).2.Backs chat message rows.payloads := by
  intro number payload listed large
  rw [get?_pack, if_pos ⟨rfl, rfl⟩, listed, Option.filter_some, large]
  rfl

/-- Packing the keyboard of one message does not matter to another. -/
theorem Backs.pack_of_other {s : CallbackStore} {chat' : ChatId} {message' : MessageId}
    {payloads : List String} (backs : s.Backs chat' message' payloads) (rows : InlineMarkup)
    (other : ¬ (chat' = chat ∧ message' = message)) :
    (s.pack chat message rows).2.Backs chat' message' payloads := by
  intro number payload listed large
  rw [get?_pack, if_neg other]
  exact backs number payload listed large

theorem Backs.clear_of_other {s : CallbackStore} {chat' : ChatId} {message' : MessageId}
    {payloads : List String} (backs : s.Backs chat' message' payloads)
    (other : ¬ (chat' = chat ∧ message' = message)) :
    (s.clear chat message).Backs chat' message' payloads := by
  intro number payload listed large
  rw [get?_clear, if_neg other]
  exact backs number payload listed large

theorem unpack_of_plain {s : CallbackStore} {data : String}
    (plain : data.toList.take 2 ≠ CallbackKey.mark) : s.unpack data = data := by
  rw [unpack, if_neg plain]

theorem unpack_text {s : CallbackStore} {key : CallbackKey} {payload : String}
    (statable : key.Statable) (kept : s.get? key = some payload) : s.unpack key.text = payload := by
  rw [unpack, if_pos key.take_text, resolve?, CallbackKey.parse?_text statable]
  show (s.get? key).getD key.text = payload
  rw [kept]
  rfl

/-- What a button carries for a payload that is no reference is read as the payload. -/
theorem Backs.unpack_carrier {s : CallbackStore} {payloads : List String} {number : Nat}
    {payload : String} (backs : s.Backs chat message payloads)
    (listed : payloads[number]? = some payload) (plain : payload.toList.take 2 ≠ CallbackKey.mark)
    (statable : CallbackKey.Statable ⟨chat, message, number⟩) :
    s.unpack (CallbackKey.carrier ⟨chat, message, number⟩ payload) = payload := by
  rw [CallbackKey.carrier]
  split
  · exact unpack_of_plain plain
  · next large =>
      rw [Bool.not_eq_true] at large
      exact unpack_text statable (backs number payload listed large)

theorem map_carryButtons {f : String → String} (position : Nat) (buttons : List InlineButton)
    (reads : ∀ number payload, (buttons.filterMap InlineButton.data?)[number]? = some payload →
      f (CallbackKey.carrier ⟨chat, message, position + number⟩ payload) = payload) :
    (carryButtons chat message position buttons).map (InlineButton.mapData f) = buttons := by
  induction buttons generalizing position with
  | nil => rfl
  | cons button rest ih =>
      cases button with
      | link label url =>
          rw [carryButtons, List.map_cons, ih position reads]
          rfl
      | callback label data =>
          have first : f (CallbackKey.carrier ⟨chat, message, position⟩ data) = data :=
            reads 0 data rfl
          rw [carryButtons, List.map_cons, InlineButton.mapData, first, ih]
          intro number payload listed
          have later := reads (number + 1) payload listed
          rw [← Nat.add_assoc, Nat.add_right_comm] at later
          exact later

theorem map_carryRows {f : String → String} (position : Nat) (rows : InlineMarkup)
    (reads : ∀ number payload, rows.payloads[number]? = some payload →
      f (CallbackKey.carrier ⟨chat, message, position + number⟩ payload) = payload) :
    (carryRows chat message position rows).map (List.map (InlineButton.mapData f)) = rows := by
  induction rows generalizing position with
  | nil => rfl
  | cons row rows ih =>
      rw [InlineMarkup.payloads_cons] at reads
      rw [carryRows, List.map_cons, map_carryButtons, ih]
      · intro number payload listed
        have later := reads ((row.filterMap InlineButton.data?).length + number) payload (by
          rw [List.getElem?_append_right (by omega), Nat.add_sub_cancel_left]
          exact listed)
        rw [← Nat.add_assoc] at later
        exact later
      · intro number payload listed
        obtain ⟨bound, _⟩ := List.getElem?_eq_some_iff.1 listed
        apply reads
        rw [List.getElem?_append_left bound]
        exact listed

/-- Read through a store that backs its payloads, a packed keyboard is the keyboard that was
packed. -/
theorem Backs.map_unpack {s : CallbackStore} {rows : InlineMarkup}
    (backs : s.Backs chat message rows.payloads)
    (plain : ∀ payload ∈ rows.payloads, payload.toList.take 2 ≠ CallbackKey.mark)
    (statable : ∀ number, number < rows.payloads.length →
      CallbackKey.Statable ⟨chat, message, number⟩) :
    (carryRows chat message 0 rows).map (List.map (InlineButton.mapData s.unpack)) = rows := by
  apply map_carryRows
  intro number payload listed
  obtain ⟨bound, _⟩ := List.getElem?_eq_some_iff.1 listed
  rw [Nat.zero_add]
  exact backs.unpack_carrier listed (plain payload (List.mem_of_getElem? listed))
    (statable number bound)

end CallbackStore

end Dialogue
