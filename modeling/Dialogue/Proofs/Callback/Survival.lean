/-
# How long packed payloads can be read

One store serves all messages. It is changed by packing the keyboard of a message and by clearing a
message, in any order. This module follows the keyboard of one message through such changes. What
its buttons carry can be read as it was packed until the message itself is packed again or cleared;
changes of other messages cannot be noticed.

A payload that travels on its button is never taken for a reference. That is so because payloads
are texts of actions, which begin otherwise; for other texts it would be wrong.
-/

import Dialogue.Proofs.Callback.Packing

namespace Dialogue

/-- What can be seen of a button: its label, and the URL that it opens. -/
def InlineButton.face : InlineButton → String × Option Url
  | .callback label _ => (label, none)
  | .link label url => (label, some url)

/-- The rows of a keyboard as they can be seen. -/
def InlineMarkup.faces (rows : InlineMarkup) : List (List (String × Option Url)) :=
  rows.map (List.map InlineButton.face)

@[simp]
theorem InlineButton.face_mapData (f : String → String) (button : InlineButton) :
    (button.mapData f).face = button.face := by
  cases button with
  | callback label data => rfl
  | link label url => rfl

theorem InlineMarkup.faces_mapData (f : String → String) (rows : InlineMarkup) :
    faces (rows.map (List.map (InlineButton.mapData f))) = rows.faces := by
  simp [faces, Function.comp_def]

namespace CallbackStore

/-- A change of the store. -/
inductive Change where
  | pack (chat : ChatId) (message : MessageId) (rows : InlineMarkup)
  | clear (chat : ChatId) (message : MessageId)

/-- A change is about a message. -/
def Change.Concerns (chat : ChatId) (message : MessageId) : Change → Prop
  | .pack chat' message' _ => chat = chat' ∧ message = message'
  | .clear chat' message' => chat = chat' ∧ message = message'

instance (chat : ChatId) (message : MessageId) (change : Change) :
    Decidable (change.Concerns chat message) := by
  unfold Change.Concerns
  split <;> infer_instance

/-- The store after a change. -/
def change (s : CallbackStore) : Change → CallbackStore
  | .pack chat message rows => (s.pack chat message rows).2
  | .clear chat message => s.clear chat message

/-- The store after one change and another. -/
def changeAll (s : CallbackStore) (changes : List Change) : CallbackStore := changes.foldl change s

variable {s : CallbackStore} {chat : ChatId} {message : MessageId}

theorem get?_change_of_other {c : Change} {key : CallbackKey}
    (other : ¬ c.Concerns key.chat key.message) : (s.change c).get? key = s.get? key := by
  cases c with
  | pack chat message rows =>
      rw [change, get?_pack]
      exact if_neg other
  | clear chat message =>
      rw [change, get?_clear]
      exact if_neg other

/-- The payloads of a message stay as they are while only other messages are changed. -/
theorem get?_changeAll_of_others {changes : List Change} {key : CallbackKey}
    (others : ∀ c ∈ changes, ¬ c.Concerns key.chat key.message) :
    (s.changeAll changes).get? key = s.get? key := by
  induction changes generalizing s with
  | nil => rfl
  | cons c changes ih =>
      have here : (s.change c).get? key = s.get? key :=
        get?_change_of_other (others c List.mem_cons_self)
      rw [← here]
      exact ih fun c listed => others c (List.mem_cons_of_mem _ listed)

theorem Backs.changeAll {payloads : List String} {changes : List Change}
    (backs : s.Backs chat message payloads) (others : ∀ c ∈ changes, ¬ c.Concerns chat message) :
    (s.changeAll changes).Backs chat message payloads := by
  intro number payload listed large
  rw [get?_changeAll_of_others others]
  exact backs number payload listed large

/-- **Packed keyboards can be read until they are replaced.** Let a keyboard whose payloads are
texts of actions be packed for a message, whatever the store had before. The packed keyboard looks
the same, and all its data are ASCII of at most 64 bytes. The store then has for the message exactly
the payloads that cannot travel, and for all others what it had. After any further changes of other
messages, reading the data of every button gives back the keyboard that was packed. -/
theorem map_unpack_of_others (before after : CallbackStore) (chat : ChatId) (message : MessageId)
    (rows packed : InlineMarkup) (later : List Change)
    (chatFits : Number.Fits Number.signed64 chat)
    (messageFits : Number.Fits Number.signed32 message)
    (numbered : rows.payloads.length ≤ Number.unsigned64)
    (actions : ∀ payload ∈ rows.payloads, ∃ action : Action, action.text = payload)
    (packs : before.pack chat message rows = (packed, after))
    (others : ∀ c ∈ later, ¬ c.Concerns chat message) :
    packed.faces = rows.faces ∧
      (∀ data ∈ packed.payloads, data.utf8ByteSize ≤ 64 ∧ ∀ c ∈ data.toList, c.toNat < 0x80) ∧
      packed.map (List.map (InlineButton.mapData (after.changeAll later).unpack)) = rows ∧
      (∀ number, after.get? ⟨chat, message, number⟩ =
        rows.payloads[number]?.filter (!fitsCallback ·)) ∧
      ∀ key : CallbackKey, ¬ (key.chat = chat ∧ key.message = message) →
        after.get? key = before.get? key := by
  have statable {number : Nat} (listed : number < rows.payloads.length) :
      CallbackKey.Statable ⟨chat, message, number⟩ :=
    ⟨chatFits, messageFits, Nat.lt_of_lt_of_le listed numbered⟩
  have plain : ∀ payload ∈ rows.payloads, payload.toList.take 2 ≠ CallbackKey.mark := by
    intro payload listed
    obtain ⟨action, rfl⟩ := actions payload listed
    exact action.take_text
  have carried : packed = carryRows chat message 0 rows := by
    rw [pack_eq] at packs
    exact (congrArg Prod.fst packs).symm
  have kept : after = (before.pack chat message rows).2 := by rw [packs]
  have backs : after.Backs chat message rows.payloads := kept ▸ backs_pack before rows
  have read :
      packed.map (List.map (InlineButton.mapData (after.changeAll later).unpack)) = rows := by
    rw [carried]
    exact (backs.changeAll others).map_unpack plain fun _ listed => statable listed
  refine ⟨?_, ?_, read, ?_, ?_⟩
  · calc
      packed.faces =
          InlineMarkup.faces
            (packed.map (List.map (InlineButton.mapData (after.changeAll later).unpack))) :=
        (packed.faces_mapData _).symm
      _ = rows.faces := by rw [read]
  · intro data listed
    rw [carried, payloads_carryRows, List.mem_mapIdx] at listed
    obtain ⟨number, bound, rfl⟩ := listed
    rw [Nat.zero_add]
    exact fitsCallback_iff.1 (CallbackKey.fitsCallback_carrier (statable bound) _)
  · intro number
    rw [kept, get?_pack, if_pos ⟨rfl, rfl⟩]
  · intro key other
    rw [kept, get?_pack, if_neg other]

/-- The store after the keyboards of two messages have been packed. -/
def stocked : CallbackStore :=
  CallbackStore.changeAll {}
    [.pack 7 5 [[.callback "Old" (Action.done (String.ofList (List.replicate 70 'o'))).text]],
     .pack 7 6 [[.callback "Other" (Action.button "город" 3).text]]]

/-- The address of a site. -/
def site : Url where
  scheme := "https"
  authority := some { host := .domain "example.com".toList }
  path := .rooted [[]]

/-- A link among four buttons. Two payloads cannot travel: one is too long, the other is not
ASCII. -/
def mixed : InlineMarkup :=
  [[.callback "Short" (Action.button "start" 0).text, .link "Site" site],
   [.callback "Long" (Action.done (String.ofList (List.replicate 70 'n'))).text,
    .callback "Город" (Action.button "город" 1).text]]

/-- Another message of the chat is packed again and then cleared, and so is one of another chat. -/
def bustle : List Change :=
  [.pack 7 6 [[.callback "New" (Action.toggle "город" 0).text]], .clear 7 6, .clear (-7) 5]

/-- The third payload of the message is read back, although the store has seen other keyboards. -/
theorem mixed_unpack :
    ((stocked.pack 7 5 mixed).1.payloads =
        ["b:start:0", "cb:7:5:1", "cb:7:5:2"]) ∧
      ((stocked.pack 7 5 mixed).2.changeAll bustle).unpack "cb:7:5:2" = "b:город:1" := by
  have carried : (stocked.pack 7 5 mixed).1 =
      [[.callback "Short" "b:start:0", .link "Site" site],
       [.callback "Long" "cb:7:5:1", .callback "Город" "cb:7:5:2"]] := by decide +kernel
  have texts : mixed.payloads =
      [Action.button "start" 0, .done (String.ofList (List.replicate 70 'n')),
        .button "город" 1].map Action.text := rfl
  have actions : ∀ payload ∈ mixed.payloads, ∃ action : Action, action.text = payload := by
    intro payload listed
    rw [texts] at listed
    obtain ⟨action, _, spelled⟩ := List.mem_map.1 listed
    exact ⟨action, spelled⟩
  obtain ⟨_, _, read, _⟩ := map_unpack_of_others stocked (stocked.pack 7 5 mixed).2 7 5 mixed
    (stocked.pack 7 5 mixed).1 bustle (by decide) (by decide) (by decide) actions rfl (by decide)
  refine ⟨by rw [carried]; rfl, ?_⟩
  rw [carried] at read
  have third := congrArg (fun rows => (InlineMarkup.payloads rows)[2]?) read
  exact Option.some.inj third

end CallbackStore

end Dialogue
