/-
# Where a command leads

A text asks for a command by a slash and a name. After the name there may stand the bot it is meant
for, and after a blank anything at all. All these spellings are read alike, so what such a text asks
for depends on its name alone: `Flow.route?_of_asks` reduces routing to the commands of the flow.

A command of the flow may be written with slashes in front or without. It is found by its name
either way, but then its node is looked up a second time, and this look-up compares the spelling
as it stands. Hence a command written without a slash leads to its own node. One written with a
slash leads where the first command leads that has the same name and no slash; mostly there is
none, and then the conversation begins anew.
-/

import Dialogue.Command.Routing
import Dialogue.Proofs.Text.Case

namespace Dialogue

namespace CommandText

/-- A name that a text can ask for. -/
structure IsName (name : String) : Prop where
  nonempty : name ≠ ""
  blankFree : ∀ c ∈ name.toList, Text.isBlank c = false
  unmentioned : '@' ∉ name.toList

/-- A text asks a bot for the command of a name: a slash and the name, perhaps the bot's own name in
any case, and perhaps a blank and anything else. -/
def Asks (botName name text : String) : Prop :=
  ∃ mention rest : List Char,
    text.toList = '/' :: (name.toList ++ (mention ++ rest)) ∧
    (mention = [] ∨ ∃ bot, Text.eqIgnoringAsciiCase bot botName ∧ mention = '@' :: bot.toList) ∧
    (rest = [] ∨ ∃ blank more, Text.isBlank blank ∧ rest = blank :: more)

variable {botName name text : String}

/-- The first word of a text is the name together with what follows it up to a blank. -/
theorem word?_of_spelled (isName : IsName name) {mention rest : List Char}
    (spelled : text.toList = '/' :: (name.toList ++ (mention ++ rest)))
    (mentionBlankFree : ∀ c ∈ mention, Text.isBlank c = false)
    (ends : rest = [] ∨ ∃ blank more, Text.isBlank blank ∧ rest = blank :: more) :
    word? text = some (name.toList ++ mention) := by
  have wordBlankFree : ∀ c ∈ name.toList ++ mention, (!Text.isBlank c) = true := by
    intro c listed
    rcases List.mem_append.1 listed with inName | inMention
    · simp [isName.blankFree c inName]
    · simp [mentionBlankFree c inMention]
  have restEnds : rest.takeWhile (!Text.isBlank ·) = [] := by
    rcases ends with rfl | ⟨blank, more, isBlank, rfl⟩
    · rfl
    · simp [isBlank]
  have taken : (name.toList ++ (mention ++ rest)).takeWhile (!Text.isBlank ·) =
      name.toList ++ mention := by
    rw [← List.append_assoc, List.takeWhile_append_of_pos wordBlankFree, restEnds,
      List.append_nil]
  have slashed : Text.trimStartChars text.toList = '/' :: (name.toList ++ (mention ++ rest)) := by
    rw [spelled]
    rfl
  have letters : name.toList ≠ [] := by
    intro empty
    exact isName.nonempty (String.toList_eq_nil_iff.1 empty)
  obtain ⟨first, others, letters⟩ := List.exists_cons_of_ne_nil letters
  have started : Text.trimStartChars (name.toList ++ (mention ++ rest)) =
      name.toList ++ (mention ++ rest) := by
    have firstBlankFree : Text.isBlank first = false := by
      apply isName.blankFree
      rw [letters]
      exact List.mem_cons_self
    rw [letters]
    simp [Text.trimStartChars, firstBlankFree]
  simp [word?, slashed, started, taken, isName.nonempty]

/-- The word of such a text is the name together with the bot. -/
theorem exists_word?_of_asks (isName : IsName name)
    (botBlankFree : ∀ c ∈ botName.toList, Text.isBlank c = false)
    (asks : Asks botName name text) :
    ∃ mention, word? text = some (name.toList ++ mention) ∧
      (mention = [] ∨
        ∃ bot, Text.eqIgnoringAsciiCase bot botName ∧ mention = '@' :: bot.toList) := by
  obtain ⟨mention, rest, spelled, mentions, ends⟩ := asks
  refine ⟨mention, ?_, mentions⟩
  have mentionBlankFree : ∀ c ∈ mention, Text.isBlank c = false := by
    rcases mentions with rfl | ⟨bot, same, rfl⟩
    · simp
    · intro c listed
      rcases List.mem_cons.1 listed with rfl | listed
      · rfl
      · exact Text.isBlank_eq_false_of_eqIgnoringAsciiCase same botBlankFree c listed
  exact word?_of_spelled isName spelled mentionBlankFree ends

/-- The name that the text asks for is read back from it. -/
theorem name?_of_asks (isName : IsName name)
    (botBlankFree : ∀ c ∈ botName.toList, Text.isBlank c = false)
    (asks : Asks botName name text) : name? text = some name := by
  obtain ⟨mention, word, mentions⟩ := exists_word?_of_asks isName botBlankFree asks
  have unmentioned : ∀ c ∈ name.toList, decide (c ≠ '@') = true := by
    intro c listed
    refine decide_eq_true ?_
    rintro rfl
    exact isName.unmentioned listed
  have mentionEnds : mention.takeWhile (fun c => decide (c ≠ '@')) = [] := by
    rcases mentions with rfl | ⟨bot, _, rfl⟩
    · rfl
    · simp
  have read : (name.toList ++ mention).takeWhile (fun c => decide (c ≠ '@')) = name.toList := by
    rw [List.takeWhile_append_of_pos unmentioned, mentionEnds, List.append_nil]
  have letters : name.toList.isEmpty = false := by
    simp [isName.nonempty]
  rw [name?, word]
  simp only [Option.bind_eq_bind, Option.bind_some, read, letters]
  simp

/-- A bot that the text names is the one that reads it. -/
theorem mention?_of_asks (isName : IsName name)
    (botBlankFree : ∀ c ∈ botName.toList, Text.isBlank c = false)
    (asks : Asks botName name text) :
    (mention? text).any (fun bot => !Text.eqIgnoringAsciiCase bot botName) = false := by
  obtain ⟨mention, word, mentions⟩ := exists_word?_of_asks isName botBlankFree asks
  rw [mention?, word]
  rcases mentions with rfl | ⟨bot, same, rfl⟩
  · have unsplit := Text.splitFirst?_eq_none_iff.2 isName.unmentioned
    simp [unsplit]
  · have split : Text.splitFirst? '@' (name.toList ++ '@' :: bot.toList) =
        some (name.toList, bot.toList) :=
      Text.splitFirst?_eq_some_iff.2 ⟨rfl, isName.unmentioned⟩
    simp [split, same]

/-- No built-in command has a blank in its name. -/
theorem blankFree_builtin (c : BuiltinCommand) : ∀ letter ∈ c.name.toList, !Text.isBlank letter :=
  List.all_eq_true.1 (by cases c <;> decide)

/-- A text that asks for a name of no built-in command is none, whatever follows the name. -/
theorem builtin?_of_asks (isName : IsName name) (notBuiltin : BuiltinCommand.isName name = false)
    (asks : Asks botName name text) : builtin? text botName = none := by
  obtain ⟨mention, rest, spelled, mentions, ends⟩ := asks
  -- Up to the first space and the first `@`, the text is the slash, the name and perhaps blanks.
  have apart (c : BuiltinCommand) :
      '/' :: c.name.toList ≠
        (text.toList.takeWhile fun c => decide (c ≠ ' ')).takeWhile
          (fun c => !decide (c = '@')) := by
    intro same
    have named : ∀ d ∈ name.toList, decide (d ≠ ' ') = true ∧ (!decide (d = '@')) = true := by
      intro d listed
      have blankFree := isName.blankFree d listed
      constructor
      · refine decide_eq_true ?_
        rintro rfl
        cases blankFree
      · have other : d ≠ '@' := by
          rintro rfl
          exact isName.unmentioned listed
        simp [other]
    rw [spelled, List.takeWhile_cons_of_pos (by decide), List.takeWhile_cons_of_pos (by decide),
      List.takeWhile_append_of_pos (fun d listed => (named d listed).1),
      List.takeWhile_append_of_pos (fun d listed => (named d listed).2)] at same
    have tail := List.cons.inj same |>.2
    have whole : name.toList = c.name.toList := by
      rcases mentions with rfl | ⟨bot, _, rfl⟩
      · rcases ends with rfl | ⟨blank, more, isBlank, rfl⟩
        · simpa using tail.symm
        · by_cases space : blank = ' '
          · subst space
            simpa using tail.symm
          · have notMention : blank ≠ '@' := by
              rintro rfl
              cases isBlank
            rw [List.nil_append, List.takeWhile_cons_of_pos (by simpa using space),
              List.takeWhile_cons_of_pos (by simpa using notMention)] at tail
            have listed : blank ∈ c.name.toList := by
              rw [tail]
              simp
            have blankFree := blankFree_builtin c blank listed
            simp [isBlank] at blankFree
      · simpa using tail.symm
    have builtin : BuiltinCommand.isName name = true := by
      rw [BuiltinCommand.isName, List.any_eq_true]
      refine ⟨c, by cases c <;> decide, ?_⟩
      rw [Text.eqIgnoringAsciiCase_iff, whole]
    rw [notBuiltin] at builtin
    cases builtin
  have first := Text.head?_splitAll (fun c => decide (c = '@'))
    (text.toList.takeWhile fun c => decide (c ≠ ' '))
  rw [builtin?]
  cases split : Text.splitAll (fun c => decide (c = '@'))
      (text.toList.takeWhile fun c => decide (c ≠ ' ')) with
  | nil => rfl
  | cons command mentions =>
      rw [split] at first
      have command_eq := Option.some.inj first
      dsimp only
      split
      · rw [List.find?_eq_none]
        intro c _ same
        apply apart c
        rw [← command_eq]
        exact of_decide_eq_true same
      · rfl

end CommandText

namespace Flow

variable {f : Flow} {botName name text : String}

/-- What such a text asks for depends only on the name and on the commands of the flow. -/
theorem route?_of_asks (isName : CommandText.IsName name)
    (notBuiltin : BuiltinCommand.isName name = false)
    (botBlankFree : ∀ c ∈ botName.toList, Text.isBlank c = false)
    (asks : CommandText.Asks botName name text) :
    f.route? botName text = (f.commandNamed? name).map f.commandRequest := by
  rw [route?, CommandText.mention?_of_asks isName botBlankFree asks,
    CommandText.builtin?_of_asks isName notBuiltin asks,
    CommandText.name?_of_asks isName botBlankFree asks]
  rfl

end Flow

namespace Command

/-- Whether a command has a name, the slashes in front of it and its case apart. -/
def Answers (c : Command) (name : String) : Prop :=
  Text.eqIgnoringAsciiCase (dropSlashes c.command) name

instance (c : Command) (name : String) : Decidable (c.Answers name) :=
  inferInstanceAs (Decidable (Text.eqIgnoringAsciiCase (dropSlashes c.command) name = true))

/-- Whether a command is written with a slash in front. -/
def Slashed (c : Command) : Prop := c.command.toList.head? = some '/'

instance (c : Command) : Decidable c.Slashed :=
  inferInstanceAs (Decidable (c.command.toList.head? = some '/'))

/-- What a command does in the conversation: it enters its node, or begins anew without one. -/
def trigger (c : Command) : Trigger :=
  match c.node with
  | some node => .enter node
  | none => .start

end Command

/-- What is left without slashes does not begin with one. -/
theorem head?_dropSlashes (s : String) : (dropSlashes s).toList.head? ≠ some '/' := by
  rw [dropSlashes, String.toList_ofList]
  intro slash
  have kept := List.head?_dropWhile_not (fun c => decide (c = '/')) s.toList
  rw [slash] at kept
  simp at kept

theorem dropSlashes_of_head? {s : String} (plain : s.toList.head? ≠ some '/') :
    dropSlashes s = s := by
  rw [dropSlashes]
  cases letters : s.toList with
  | nil => exact (String.toList_eq_nil_iff.1 letters).symm
  | cons first rest =>
      have other : first ≠ '/' := by
        rintro rfl
        exact plain (by rw [letters]; rfl)
      rw [List.dropWhile_cons_of_neg (by simpa using other), ← letters, String.ofList_toList]

namespace Flow

variable {f : Flow} {name : String} {front back : List Command} {c : Command}

/-- A name that a command has does not begin with a slash. -/
theorem head?_of_answers (named : c.Answers name) : name.toList.head? ≠ some '/' := by
  intro slash
  exact head?_dropSlashes c.command (Text.head?_eq_slash_of_eqIgnoringAsciiCase named slash)

/-- Comparing with a name and comparing with the spelling of a command of that name are the
same. -/
theorem eqIgnoringAsciiCase_dropSlashes (named : c.Answers name) (s : String) :
    Text.eqIgnoringAsciiCase s (dropSlashes c.command) = Text.eqIgnoringAsciiCase s name := by
  rw [Text.eqIgnoringAsciiCase, Text.eqIgnoringAsciiCase, Text.eqIgnoringAsciiCase_iff.1 named]

/-- The second look-up of a command finds the first one that is spelled like the name. -/
theorem commandNode?_of_answers (named : c.Answers name) :
    f.commandNode? c.command =
      (f.commands.find? fun d => Text.eqIgnoringAsciiCase d.command name).bind (·.node) := by
  have same : (fun d : Command => Text.eqIgnoringAsciiCase d.command (dropSlashes c.command)) =
      fun d => Text.eqIgnoringAsciiCase d.command name := by
    funext d
    exact eqIgnoringAsciiCase_dropSlashes named d.command
  rw [commandNode?, same]

/-- Looking for a node and turning it into a trigger can be done in either order. -/
theorem commandRequest_of_answers (named : c.Answers name) :
    f.commandRequest c = .handle
      (((f.commands.find? fun d => Text.eqIgnoringAsciiCase d.command name).map
        Command.trigger).getD .start) := by
  rw [commandRequest, commandNode?_of_answers named]
  cases f.commands.find? fun d => Text.eqIgnoringAsciiCase d.command name with
  | none => rfl
  | some d =>
      rw [Option.bind_some, Option.map_some, Option.getD_some, Command.trigger]
      cases d.node with
      | none => rfl
      | some node => rfl

/-- A command that is spelled like a name has the name, if some command has. -/
theorem answers_of_spelled {d : Command} (named : c.Answers name)
    (spelled : Text.eqIgnoringAsciiCase d.command name) : d.Answers name := by
  -- The name has no slash in front, so neither has a command spelled like it.
  have unslashed : d.command.toList.head? ≠ some '/' := by
    intro slash
    have reversed : Text.eqIgnoringAsciiCase name d.command :=
      Text.eqIgnoringAsciiCase_iff.2 (Text.eqIgnoringAsciiCase_iff.1 spelled).symm
    exact head?_of_answers named (Text.head?_eq_slash_of_eqIgnoringAsciiCase reversed slash)
  rw [Command.Answers, dropSlashes_of_head? unslashed]
  exact spelled

/-- The first command with a name is also the first one spelled like the name, unless it is written
with a slash. -/
theorem find?_spelled_of_first (split : f.commands = front ++ c :: back)
    (first : ∀ d ∈ front, ¬ d.Answers name) (named : c.Answers name) (plain : ¬ c.Slashed) :
    f.commands.find? (fun d => Text.eqIgnoringAsciiCase d.command name) = some c := by
  rw [List.find?_eq_some_iff_append]
  constructor
  · rw [Command.Answers, dropSlashes_of_head? plain] at named
    exact named
  · refine ⟨front, back, split, ?_⟩
    intro d earlier
    rw [Bool.not_eq_true', Bool.eq_false_iff]
    intro spelled
    exact first d earlier (answers_of_spelled named spelled)

theorem commandNamed?_of_first (split : f.commands = front ++ c :: back)
    (first : ∀ d ∈ front, ¬ d.Answers name) (named : c.Answers name) :
    f.commandNamed? name = some c := by
  rw [commandNamed?, List.find?_eq_some_iff_append]
  refine ⟨named, front, back, split, ?_⟩
  intro d earlier
  rw [Bool.not_eq_true', Bool.eq_false_iff]
  exact first d earlier

/-- **Where commands lead.** For every text that asks a bot for a name of no built-in command:

* if no command of the flow has the name, the text is no command;
* if the first command with the name is written without a slash, the text leads to the node of that
  command, or to the start if it has none;
* if it is written with a slash, its own node does not count. The text leads where the first
  command leads that is spelled like the name, without a slash, and to the start if there is
  none. -/
theorem route?_eq_trigger (f : Flow) (botName name text : String)
    (isName : CommandText.IsName name) (notBuiltin : BuiltinCommand.isName name = false)
    (botBlankFree : ∀ c ∈ botName.toList, Text.isBlank c = false)
    (asks : CommandText.Asks botName name text) :
    ((∀ c ∈ f.commands, ¬ c.Answers name) → f.route? botName text = none) ∧
    ∀ front c back, f.commands = front ++ c :: back → (∀ d ∈ front, ¬ d.Answers name) →
      c.Answers name →
      (¬ c.Slashed → f.route? botName text = some (.handle c.trigger)) ∧
      (c.Slashed → f.route? botName text = some (.handle
        (((f.commands.find? fun d => Text.eqIgnoringAsciiCase d.command name).map
          Command.trigger).getD .start))) := by
  have routed := route?_of_asks (f := f) isName notBuiltin botBlankFree asks
  constructor
  · intro unnamed
    have missing : f.commandNamed? name = none := by
      rw [commandNamed?, List.find?_eq_none]
      exact unnamed
    rw [routed, missing]
    rfl
  · intro front c back split first named
    have request : f.route? botName text = some (.handle
        (((f.commands.find? fun d => Text.eqIgnoringAsciiCase d.command name).map
          Command.trigger).getD .start)) := by
      rw [routed, commandNamed?_of_first split first named, Option.map_some,
        commandRequest_of_answers named]
    refine ⟨?_, fun _ => request⟩
    intro plain
    rw [request, find?_spelled_of_first split first named plain]
    rfl

/-- The command of the menu, without a slash. -/
def menuCommand : Command where
  command := "Menu"
  description := "what there is"
  node := some "menu"

/-- A command with a slash and a node. -/
def againCommand : Command where
  command := "/again"
  description := "what there is, once more"
  node := some "menu"

/-- A flow with both of them. -/
def kiosk : Flow where
  name := "kiosk"
  start := "door"
  nodes := [{ id := "door", text := "Welcome" }, { id := "menu", text := "Tea or coffee?" }]
  commands := [menuCommand, againCommand]

theorem menu_isName : CommandText.IsName "mENU" where
  nonempty := by decide
  blankFree := Text.isBlank_of_all (by decide)
  unmentioned := by decide

/-- A command without a slash leads to its node, for a text in another case that names the bot and
goes on after a blank. -/
theorem kiosk_menu_enters :
    CommandText.Asks "kiosk_bot" "mENU" "/mENU@Kiosk_Bot\tplease" ∧
      kiosk.route? "kiosk_bot" "/mENU@Kiosk_Bot\tplease" = some (.handle (.enter "menu")) := by
  have asks : CommandText.Asks "kiosk_bot" "mENU" "/mENU@Kiosk_Bot\tplease" :=
    ⟨"@Kiosk_Bot".toList, "\tplease".toList, by decide,
      .inr ⟨"Kiosk_Bot", by decide, by decide⟩, .inr ⟨'\t', "please".toList, by decide, by decide⟩⟩
  have leads := (route?_eq_trigger kiosk "kiosk_bot" "mENU" "/mENU@Kiosk_Bot\tplease" menu_isName
    (by decide) (Text.isBlank_of_all (by decide)) asks).2 [] menuCommand [againCommand] rfl
    (by simp) (by decide)
  exact ⟨asks, leads.1 (by decide)⟩

/-- A command with a slash does not lead to its node. -/
theorem kiosk_again_starts :
    kiosk.Accepted ∧ CommandText.IsName "again" ∧ BuiltinCommand.isName "again" = false ∧
      CommandText.Asks "kiosk_bot" "again" "/again" ∧
      kiosk.commands = [menuCommand] ++ againCommand :: [] ∧ ¬ menuCommand.Answers "again" ∧
      againCommand.Answers "again" ∧ againCommand.trigger = .enter "menu" ∧
      kiosk.route? "kiosk_bot" "/again" = some (.handle .start) := by
  have isName : CommandText.IsName "again" :=
    ⟨by decide, Text.isBlank_of_all (by decide), by decide⟩
  have asks : CommandText.Asks "kiosk_bot" "again" "/again" :=
    ⟨[], [], by decide, .inl rfl, .inl rfl⟩
  exact ⟨by decide, isName, by decide, asks, rfl, by decide, by decide, rfl, by decide⟩

end Flow

end Dialogue
