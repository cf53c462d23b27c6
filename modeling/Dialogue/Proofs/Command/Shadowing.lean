/-
# Commands that built-in ones hide

A flow may have a command with the name of a built-in one. The menu and the help leave it out, since
the built-in command wins. Whether a command is left out is decided by its name in any case. A
built-in command is recognised more strictly: at the very beginning of the text, in small letters,
and only if a space or the bot follows. The commands of the flow are found with less: after blanks,
in any case, and with any blank behind.

This module says how the three agree. A command that is left out makes no difference to a text that
spells a built-in command as it should be, nor to one that asks for another name. But a text between
the two readings slips past the built-in command and reaches the hidden one.
-/

import Dialogue.Command.Menu
import Dialogue.Proofs.Command.Destination

namespace Dialogue

/-! ## Names of built-in commands -/

namespace BuiltinCommand

theorem mem_all (b : BuiltinCommand) : b ∈ all := by
  cases b <;> decide

theorem isName_iff {s : String} :
    isName s ↔ ∃ b : BuiltinCommand, Text.eqIgnoringAsciiCase b.name s := by
  rw [isName, List.any_eq_true]
  constructor
  · rintro ⟨b, _, same⟩
    exact ⟨b, same⟩
  · rintro ⟨b, same⟩
    exact ⟨b, b.mem_all, same⟩

/-- The letters of the names are small, and no letter of another script goes to one of them. -/
theorem letters_name (b : BuiltinCommand) (letter : Char) (listed : letter ∈ b.name.toList) :
    97 ≤ letter.toNat ∧ letter.toNat ≤ 122 ∧ letter.toNat ≠ 0x6B := by
  have checked : b.name.toList.all (fun letter => 97 ≤ letter.toNat && letter.toNat ≤ 122 &&
      letter.toNat != 0x6B) = true := by cases b <;> decide
  have holds := List.all_eq_true.1 checked letter listed
  simpa [and_assoc] using holds

/-- A name is recognised in lower case just where it is recognised as it stands. -/
theorem isName_lower (s : String) : isName (Text.lower s) = isName s := by
  rw [Bool.eq_iff_iff, isName_iff, isName_iff]
  apply exists_congr
  intro b
  rw [Text.eqIgnoringAsciiCase_lower_of_word]
  intro c folded foreign
  obtain ⟨letter, listed, rfl⟩ := List.mem_map.1 folded
  have range := b.letters_name letter listed
  unfold Text.IsForeign at foreign
  rw [Text.toNat_toLower, if_neg (by omega)] at foreign
  omega

theorem isName_congr {s t : String} (same : Text.eqIgnoringAsciiCase s t) :
    isName s = isName t := by
  rw [Bool.eq_iff_iff, isName_iff, isName_iff]
  apply exists_congr
  intro b
  rw [Text.eqIgnoringAsciiCase_iff, Text.eqIgnoringAsciiCase_iff,
    Text.eqIgnoringAsciiCase_iff.1 same]

end BuiltinCommand

/-! ## Texts that are built-in commands -/

namespace CommandText

/-- Neither a space nor the sign `@` stands in it. -/
def IsPart (cs : List Char) : Prop := ∀ c ∈ cs, c ≠ ' ' ∧ c ≠ '@'

/-- A text spells a built-in command for a bot: a slash at the very beginning, the name in small
letters, and then the end, a space, or the sign `@` and the bot in any case. After the bot comes the
end, a space or another sign `@`. -/
def Invokes (botName : String) (b : BuiltinCommand) (text : String) : Prop :=
  (∃ rest, text.toList = '/' :: b.name.toList ++ rest ∧ ∀ c ∈ rest.head?, c = ' ') ∨
    ∃ bot rest, text.toList = '/' :: b.name.toList ++ '@' :: (bot ++ rest) ∧ IsPart bot ∧
      Text.eqIgnoringAsciiCase (String.ofList bot) botName ∧ ∀ c ∈ rest.head?, c = ' ' ∨ c = '@'

/-- What is taken from a text ends where the text ends or goes on otherwise. -/
theorem takeWhile_append_of_stop {p : Char → Bool} {word rest : List Char}
    (inside : ∀ c ∈ word, p c = true) (stops : ∀ c ∈ rest.head?, p c = false) :
    (word ++ rest).takeWhile p = word := by
  rw [List.takeWhile_append_of_pos inside]
  cases rest with
  | nil => simp
  | cons c rest => simp [stops c rfl]

/-- A text begins with a part, which ends at a space, at the sign `@` or with the text. -/
theorem exists_part (cs : List Char) :
    ∃ part rest, cs = part ++ rest ∧ IsPart part ∧ ∀ c ∈ rest.head?, c = ' ' ∨ c = '@' := by
  refine ⟨cs.takeWhile fun c => c ≠ ' ' ∧ c ≠ '@', cs.dropWhile fun c => c ≠ ' ' ∧ c ≠ '@',
    List.takeWhile_append_dropWhile.symm, ?_, ?_⟩
  · intro c listed
    simpa using List.all_eq_true.1 List.all_takeWhile c listed
  · intro c first
    have stops := List.head?_dropWhile_not (fun c => decide (c ≠ ' ' ∧ c ≠ '@')) cs
    rw [Option.mem_def.1 first] at stops
    simp only [decide_eq_false_iff_not, not_and, Decidable.not_not] at stops
    exact Decidable.or_iff_not_imp_left.2 stops

variable {botName text : String} {b : BuiltinCommand} {part bot rest : List Char}

/-- A built-in command is found by its name. -/
theorem find?_builtin_eq_some_iff :
    BuiltinCommand.all.find? (fun c => '/' :: c.name.toList = part) = some b ↔
      '/' :: b.name.toList = part := by
  constructor
  · intro found
    simpa using List.find?_some found
  · rintro rfl
    cases b <;> decide

theorem isPart_builtin (b : BuiltinCommand) : IsPart ('/' :: b.name.toList) := by
  have checked : ('/' :: b.name.toList).all (fun c => c ≠ ' ' && c ≠ '@') = true := by
    cases b <;> decide
  intro c listed
  simpa using List.all_eq_true.1 checked c listed

/-- How a text is read that names no bot. -/
theorem builtin?_of_bare (spelled : text.toList = part ++ rest) (isPart : IsPart part)
    (stops : ∀ c ∈ rest.head?, c = ' ') :
    builtin? text botName = BuiltinCommand.all.find? fun c => '/' :: c.name.toList = part := by
  have word : text.toList.takeWhile (fun c => decide (c ≠ ' ')) = part := by
    rw [spelled]
    apply takeWhile_append_of_stop
    · intro c listed
      simpa using (isPart c listed).1
    · simpa using stops
  have whole : Text.splitAll (fun c => decide (c = '@')) part = [part] := by
    apply Text.splitAll_of_whole
    intro c listed
    simpa using (isPart c listed).2
  rw [builtin?, word, whole]
  rfl

/-- How a text is read that names a bot. -/
theorem builtin?_of_addressed (spelled : text.toList = part ++ '@' :: (bot ++ rest))
    (isPart : IsPart part) (isBot : IsPart bot) (stops : ∀ c ∈ rest.head?, c = ' ' ∨ c = '@') :
    builtin? text botName =
      if Text.eqIgnoringAsciiCase (String.ofList bot) botName then
        BuiltinCommand.all.find? fun c => '/' :: c.name.toList = part
      else none := by
  have word : text.toList.takeWhile (fun c => decide (c ≠ ' ')) =
      part ++ '@' :: (bot ++ rest.takeWhile fun c => decide (c ≠ ' ')) := by
    rw [spelled, List.takeWhile_append_of_pos, List.takeWhile_cons_of_pos (by decide),
      List.takeWhile_append_of_pos]
    · intro c listed
      simpa using (isBot c listed).1
    · intro c listed
      simpa using (isPart c listed).1
  have first : Text.splitAll (fun c => decide (c = '@'))
      (part ++ '@' :: (bot ++ rest.takeWhile fun c => decide (c ≠ ' '))) =
        part :: Text.splitAll (fun c => decide (c = '@'))
          (bot ++ rest.takeWhile fun c => decide (c ≠ ' ')) := by
    apply Text.splitAll_append_cons
    · intro c listed
      simpa using (isPart c listed).2
    · rfl
  have second : (Text.splitAll (fun c => decide (c = '@'))
      (bot ++ rest.takeWhile fun c => decide (c ≠ ' '))).head? = some bot := by
    rw [Text.head?_splitAll, takeWhile_append_of_stop]
    · intro c listed
      simpa using (isBot c listed).2
    · -- The rest is cut off at a space, so what is left of it can only begin with the sign.
      cases rest with
      | nil => simp
      | cons c rest =>
          by_cases space : c = ' '
          · simp [space]
          · have sign : c = '@' := (stops c rfl).resolve_left space
            simp [sign]
  rw [builtin?, word, first]
  dsimp only
  rw [second]
  rfl

/-- The reader of built-in commands takes just the texts that spell one. -/
theorem builtin?_eq_some_iff : builtin? text botName = some b ↔ Invokes botName b text := by
  constructor
  · intro read
    obtain ⟨part, rest, spelled, isPart, stops⟩ := exists_part text.toList
    by_cases sign : rest.head? = some '@'
    · obtain ⟨rest, rfl⟩ := List.head?_eq_some_iff.1 sign
      obtain ⟨bot, rest, rfl, isBot, stops⟩ := exists_part rest
      rw [builtin?_of_addressed spelled isPart isBot stops, Option.ite_none_right_eq_some] at read
      obtain ⟨ours, found⟩ := read
      rw [← find?_builtin_eq_some_iff.1 found] at spelled
      exact .inr ⟨bot, rest, spelled, isBot, ours, stops⟩
    · have spaced : ∀ c ∈ rest.head?, c = ' ' := by
        intro c first
        refine (stops c first).resolve_right ?_
        rintro rfl
        exact sign first
      rw [builtin?_of_bare spelled isPart spaced] at read
      rw [← find?_builtin_eq_some_iff.1 read] at spelled
      exact .inl ⟨rest, spelled, spaced⟩
  · rintro (⟨rest, spelled, stops⟩ | ⟨bot, rest, spelled, isBot, ours, stops⟩)
    · rw [builtin?_of_bare spelled (isPart_builtin b) stops]
      exact find?_builtin_eq_some_iff.2 rfl
    · rw [builtin?_of_addressed spelled (isPart_builtin b) isBot stops, if_pos ours]
      exact find?_builtin_eq_some_iff.2 rfl

/-- The text is a command for another bot. -/
def IsForAnother (botName text : String) : Prop :=
  ∃ bot, mention? text = some bot ∧ Text.eqIgnoringAsciiCase bot botName = false

theorem isForAnother_iff :
    IsForAnother botName text ↔
      (mention? text).any (fun bot => !Text.eqIgnoringAsciiCase bot botName) = true := by
  simp [IsForAnother, Option.any_eq_true]

end CommandText

/-! ## What is left out -/

/-- A command of the flow that a built-in one is meant to hide: they have the same name, slashes and
case apart. -/
def Command.Shadowed (c : Command) : Prop := BuiltinCommand.isName (dropSlashes c.command)

instance (c : Command) : Decidable c.Shadowed :=
  inferInstanceAs (Decidable (BuiltinCommand.isName (dropSlashes c.command) = true))

theorem Command.Answers.shadowed_iff {c : Command} {name : String} (named : c.Answers name) :
    c.Shadowed ↔ BuiltinCommand.isName name := by
  rw [Shadowed, BuiltinCommand.isName_congr named]

namespace Flow

open CommandText

/-- The menu leaves out the commands that are hidden, although it compares their lower case. -/
theorem menuEntry?_eq_none_iff {c : Command} : menuEntry? c = none ↔ c.Shadowed := by
  unfold menuEntry?
  dsimp only
  rw [Command.Shadowed, BuiltinCommand.isName_lower]
  split
  · next hidden => exact iff_of_true rfl hidden
  · next shown => exact iff_of_false (by simp) shown

theorem helpLine_eq_empty_iff {c : Command} : helpLine c = "" ↔ c.Shadowed := by
  rw [helpLine, Command.Shadowed]
  split
  · next hidden => exact iff_of_true rfl hidden
  · next shown => exact iff_of_false (by simp [toString]) shown

/-- The flow without the commands that are left out. -/
def withoutShadowed (f : Flow) : Flow :=
  { f with commands := f.commands.filter fun c => ¬ c.Shadowed }

variable {f : Flow} {botName text name : String}

/-- The command that is found by a name has the name. -/
theorem answers_of_commandNamed? {c : Command} (found : f.commandNamed? name = some c) :
    c ∈ f.commands ∧ c.Answers name := by
  rw [commandNamed?] at found
  exact ⟨List.mem_of_find?_eq_some found, by simpa [Command.Answers] using List.find?_some found⟩

theorem commandNamed?_eq_none_iff :
    f.commandNamed? name = none ↔ ∀ c ∈ f.commands, ¬ c.Answers name := by
  rw [commandNamed?, List.find?_eq_none]
  rfl

/-- A look-up that passes over every hidden command does not miss them. -/
theorem find?_withoutShadowed {p : Command → Bool} (passes : ∀ c, p c = true → ¬ c.Shadowed) :
    f.withoutShadowed.commands.find? p = f.commands.find? p := by
  rw [withoutShadowed, List.find?_filter]
  refine congrArg (List.find? · f.commands) (funext fun c => ?_)
  cases found : p c with
  | false => simp
  | true => simp [passes c found]

theorem commandNamed?_withoutShadowed (other : BuiltinCommand.isName name = false) :
    f.withoutShadowed.commandNamed? name = f.commandNamed? name := by
  apply find?_withoutShadowed
  intro c named
  rw [Command.Answers.shadowed_iff named, other]
  exact Bool.false_ne_true

/-- Asking for the name of a built-in command, only a hidden command is found. -/
theorem commandNamed?_withoutShadowed_of_builtin (builtin : BuiltinCommand.isName name = true) :
    f.withoutShadowed.commandNamed? name = none := by
  rw [commandNamed?_eq_none_iff]
  intro c listed named
  have kept : ¬ c.Shadowed := by simpa using (List.mem_filter.1 listed).2
  exact kept (named.shadowed_iff.2 builtin)

/-- The second look-up of a command does not find a hidden one either. -/
theorem commandRequest_withoutShadowed {c : Command} (other : BuiltinCommand.isName name = false)
    (named : c.Answers name) : f.withoutShadowed.commandRequest c = f.commandRequest c := by
  rw [commandRequest_of_answers named, commandRequest_of_answers named, find?_withoutShadowed]
  intro d spelled
  rw [(answers_of_spelled named spelled).shadowed_iff, other]
  exact Bool.false_ne_true

/-- Texts that ask for no built-in name are routed alike. -/
theorem routed_withoutShadowed (other : BuiltinCommand.isName name = false) :
    (f.withoutShadowed.commandNamed? name).map f.withoutShadowed.commandRequest =
      (f.commandNamed? name).map f.commandRequest := by
  rw [commandNamed?_withoutShadowed other]
  cases found : f.commandNamed? name with
  | none => rfl
  | some c =>
      have named := (answers_of_commandNamed? found).2
      rw [Option.map_some, Option.map_some, commandRequest_withoutShadowed other named]

/-- A text slips past the built-in commands: it is not for another bot and spells no built-in
command, but it asks for the name of one, and the flow has a command of that name. -/
structure SlipsPast (f : Flow) (botName text : String) : Prop where
  ours : ¬ IsForAnother botName text
  missed : ∀ b, ¬ Invokes botName b text
  asks : ∃ name, name? text = some name ∧ ∃ c ∈ f.commands, c.Shadowed ∧ c.Answers name

/-- What hiding a command comes to for a text. -/
structure Hides (f : Flow) (botName text : String) : Prop where
  /-- A text that spells a built-in command is one, whatever commands the flow has. -/
  wins : ∀ b, Invokes botName b text → ¬ IsForAnother botName text →
    f.route? botName text = some (b.request f)
  /-- The hidden commands might as well not be there, unless the text slips past. -/
  same_iff : f.withoutShadowed.route? botName text = f.route? botName text ↔
    ¬ f.SlipsPast botName text
  /-- A text that slips past reaches a command of the flow, and would be no command without it. -/
  reached : f.SlipsPast botName text → f.withoutShadowed.route? botName text = none ∧
    ∃ c ∈ f.commands, c.Shadowed ∧ f.route? botName text = some (f.commandRequest c)

theorem route?_of_isForAnother (another : IsForAnother botName text) :
    f.route? botName text = some .ignore := by
  rw [route?, if_pos (isForAnother_iff.1 another)]

theorem route?_of_invokes {b : BuiltinCommand} (ours : ¬ IsForAnother botName text)
    (invokes : Invokes botName b text) : f.route? botName text = some (b.request f) := by
  rw [route?, if_neg (mt isForAnother_iff.2 ours), builtin?_eq_some_iff.2 invokes]

theorem route?_of_missed (ours : ¬ IsForAnother botName text)
    (missed : ∀ b, ¬ Invokes botName b text) :
    f.route? botName text = ((name? text).bind f.commandNamed?).map f.commandRequest := by
  have unread : builtin? text botName = none := by
    rw [Option.eq_none_iff_forall_ne_some]
    intro b read
    exact missed b (builtin?_eq_some_iff.1 read)
  rw [route?, if_neg (mt isForAnother_iff.2 ours), unread]

theorem SlipsPast.reached (slips : f.SlipsPast botName text) :
    f.withoutShadowed.route? botName text = none ∧
      ∃ c ∈ f.commands, c.Shadowed ∧ f.route? botName text = some (f.commandRequest c) := by
  obtain ⟨name, read, c, listed, hidden, named⟩ := slips.asks
  have builtin := named.shadowed_iff.1 hidden
  rw [route?_of_missed slips.ours slips.missed, route?_of_missed slips.ours slips.missed, read,
    Option.bind_some, Option.bind_some, commandNamed?_withoutShadowed_of_builtin builtin]
  refine ⟨rfl, ?_⟩
  cases found : f.commandNamed? name with
  | none => exact absurd named (commandNamed?_eq_none_iff.1 found c listed)
  | some first =>
      obtain ⟨listed', named'⟩ := answers_of_commandNamed? found
      exact ⟨first, listed', named'.shadowed_iff.2 builtin, rfl⟩

/-- A text that does not slip past does not come across a hidden command. -/
theorem route?_withoutShadowed (kept : ¬ f.SlipsPast botName text) :
    f.withoutShadowed.route? botName text = f.route? botName text := by
  by_cases another : IsForAnother botName text
  · rw [route?_of_isForAnother another, route?_of_isForAnother another]
  · by_cases invoked : ∃ b, Invokes botName b text
    · obtain ⟨b, invokes⟩ := invoked
      rw [route?_of_invokes another invokes, route?_of_invokes another invokes]
      cases b <;> rfl
    · have missed : ∀ b, ¬ Invokes botName b text := not_exists.1 invoked
      rw [route?_of_missed another missed, route?_of_missed another missed]
      cases read : name? text with
      | none => rfl
      | some name =>
          rw [Option.bind_some, Option.bind_some]
          cases builtin : BuiltinCommand.isName name with
          | false => exact routed_withoutShadowed builtin
          | true =>
              have unnamed : f.commandNamed? name = none := by
                rw [commandNamed?_eq_none_iff]
                intro c listed named
                have hidden := named.shadowed_iff.2 builtin
                exact kept ⟨another, missed, name, read, c, listed, hidden, named⟩
              rw [commandNamed?_withoutShadowed_of_builtin builtin, unnamed]
              rfl

theorem hides (f : Flow) (botName text : String) : f.Hides botName text where
  wins _ invokes ours := route?_of_invokes ours invokes
  same_iff := by
    refine ⟨?_, route?_withoutShadowed⟩
    intro same slips
    obtain ⟨none, c, _, _, found⟩ := slips.reached
    rw [none, found] at same
    cases same
  reached := SlipsPast.reached

/-- **Hidden commands.** The menu and the help leave out just the commands that have the name of a
built-in one. For every bot and text, a text that spells a built-in command is that command. Taking
the hidden commands out of the flow changes the answer to a text exactly if the text slips past the
built-in commands: it is written in another case, or with a blank in front or after the slash, or
with another blank than a space behind. Such a text reaches the hidden command; without it the text
would be no command at all.

The flow need not be accepted for this. -/
theorem hides_shadowed (f : Flow) :
    (∀ c, menuEntry? c = none ↔ c.Shadowed) ∧ (∀ c, helpLine c = "" ↔ c.Shadowed) ∧
      ∀ botName text, f.Hides botName text := by
  refine ⟨fun _ => menuEntry?_eq_none_iff, fun _ => helpLine_eq_empty_iff, ?_⟩
  intro botName text
  exact hides f botName text

/-- A flow with a help of its own. -/
def hotel : Flow where
  name := "hotel"
  start := "lobby"
  nodes := [{ id := "lobby", text := "Welcome" }, { id := "desk", text := "How can we help?" }]
  commands := [{ command := "help", description := "ask at the desk", node := some "desk" }]

/-- The command of the flow is left out of the menu, and still a capital letter leads to it. -/
theorem hotel_help_slipsPast :
    hotel.Accepted ∧ hotel.commands.all (fun c => c.Shadowed) = true ∧
      hotel.route? "hotel_bot" "/help" = some .help ∧
      hotel.route? "hotel_bot" "/Help" = some (.handle (.enter "desk")) ∧
      hotel.withoutShadowed.route? "hotel_bot" "/Help" = none := by
  decide +kernel

end Flow

end Dialogue
