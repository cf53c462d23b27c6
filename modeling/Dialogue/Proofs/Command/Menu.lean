/-
# What the menu offers

The menu gives the names of commands in lower case, and a name that is chosen comes back as a text
with a slash in front. This module says which names are recognised then. The built-in ones always
are. The name of a command of the flow has gone through the lower case of all scripts, while
commands are found with their ASCII letters folded. So a command is found by its own entry exactly
if its name has no capital letter outside ASCII; otherwise the entry is dead, unless another command
happens to be spelled like it.
-/

import Dialogue.Proofs.Command.Shadowing

namespace Dialogue

/-- The text that comes back when an entry is chosen. -/
def MenuEntry.text (entry : MenuEntry) : String := "/" ++ entry.name

namespace CommandText

variable {botName name : String}

theorem asks_slash (botName name : String) : Asks botName name ("/" ++ name) :=
  ⟨[], [], by simp, .inl rfl, .inl rfl⟩

theorem word?_slash (isName : IsName name) : word? ("/" ++ name) = some name.toList := by
  have spelled : ("/" ++ name).toList = '/' :: (name.toList ++ ([] ++ [])) := by simp
  rw [word?_of_spelled isName spelled (by simp) (.inl rfl), List.append_nil]

/-- A text without a bot is for every bot. -/
theorem not_isForAnother_slash (isName : IsName name) : ¬ IsForAnother botName ("/" ++ name) := by
  rintro ⟨bot, mentions, _⟩
  rw [mention?, word?_slash isName] at mentions
  simp [Text.splitFirst?_eq_none_iff.2 isName.unmentioned] at mentions

theorem name?_slash (isName : IsName name) : name? ("/" ++ name) = some name :=
  name?_of_asks isName (by simp) (asks_slash "" name)

theorem invokes_slash (botName : String) (b : BuiltinCommand) :
    Invokes botName b ("/" ++ b.name) :=
  .inl ⟨[], by simp, by simp⟩

end CommandText

namespace Flow

open CommandText

variable {f : Flow} {botName name : String} {entry : MenuEntry}

/-- A bot takes a text up as a command of its own. -/
def Recognises (f : Flow) (botName text : String) : Prop :=
  ∃ request, f.route? botName text = some request ∧ request ≠ .ignore

theorem route?_slash_builtin (isName : IsName name) {b : BuiltinCommand} (named : name = b.name) :
    f.route? botName ("/" ++ name) = some (b.request f) := by
  subst named
  exact route?_of_invokes (not_isForAnother_slash isName) (invokes_slash botName b)

/-- Any other name is looked up among the commands of the flow. -/
theorem route?_slash (isName : IsName name) (other : BuiltinCommand.isName name = false) :
    f.route? botName ("/" ++ name) = (f.commandNamed? name).map f.commandRequest := by
  have missed : ∀ b, ¬ Invokes botName b ("/" ++ name) := by
    intro b invokes
    have unread := builtin?_of_asks isName other (asks_slash botName name)
    rw [builtin?_eq_some_iff.2 invokes] at unread
    cases unread
  rw [route?_of_missed (not_isForAnother_slash isName) missed, name?_slash isName]
  rfl

theorem request_ne_ignore (f : Flow) (b : BuiltinCommand) : b.request f ≠ .ignore := by
  cases b with
  | settings =>
      rw [BuiltinCommand.request]
      cases f.settingsNode <;> simp
  | _ => simp [BuiltinCommand.request]

theorem commandRequest_ne_ignore (f : Flow) (c : Command) : f.commandRequest c ≠ .ignore := by
  rw [commandRequest]
  cases f.commandNode? c.command <;> simp

/-- Any other name is recognised if a command of the flow has it. -/
theorem recognises_slash_iff (isName : IsName name) (other : BuiltinCommand.isName name = false) :
    f.Recognises botName ("/" ++ name) ↔ ∃ c ∈ f.commands, c.Answers name := by
  rw [Recognises, route?_slash isName other]
  constructor
  · rintro ⟨request, routed, _⟩
    obtain ⟨c, found, _⟩ := Option.map_eq_some_iff.1 routed
    exact ⟨c, answers_of_commandNamed? found⟩
  · rintro ⟨c, listed, named⟩
    cases found : f.commandNamed? name with
    | none => exact absurd named (commandNamed?_eq_none_iff.1 found c listed)
    | some first => exact ⟨f.commandRequest first, rfl, commandRequest_ne_ignore f first⟩

/-- The entry of a command has its name in lower case, and that is no name of a built-in one. -/
theorem menuEntry?_eq_some {c : Command} (entered : menuEntry? c = some entry) :
    entry.name = Text.lower (dropSlashes c.command) ∧
      BuiltinCommand.isName entry.name = false := by
  unfold menuEntry? at entered
  dsimp only at entered
  split at entered
  · cases entered
  · next shown =>
      obtain rfl := Option.some.inj entered
      exact ⟨rfl, Bool.eq_false_iff.2 shown⟩

/-- A command has the name of its own entry unless it has a capital letter outside ASCII. -/
theorem answers_entry_iff {c : Command} (entered : menuEntry? c = some entry) :
    c.Answers entry.name ↔
      ∀ letter ∈ (dropSlashes c.command).toList, Text.isForeignCapital letter = false := by
  rw [Command.Answers, (menuEntry?_eq_some entered).1]
  exact Text.eqIgnoringAsciiCase_lower_iff

/-- What becomes of an entry of the menu when it is chosen. -/
structure Serves (f : Flow) (botName : String) (entry : MenuEntry) : Prop where
  /-- The name of a built-in command is that command. -/
  builtin : ∀ b : BuiltinCommand, entry.name = b.name →
    f.route? botName entry.text = some (b.request f)
  /-- The entry of a command is recognised if the command has no capital letter outside ASCII. -/
  own : ∀ c ∈ f.commands, menuEntry? c = some entry →
    (∀ letter ∈ (dropSlashes c.command).toList, Text.isForeignCapital letter = false) →
      f.Recognises botName entry.text
  /-- With such a letter the command does not have the name of its entry any more. -/
  answers_iff : ∀ c, menuEntry? c = some entry → (c.Answers entry.name ↔
    ∀ letter ∈ (dropSlashes c.command).toList, Text.isForeignCapital letter = false)
  /-- All in all, the name has to be that of a built-in command or of some command of the flow. -/
  recognised_iff : f.Recognises botName entry.text ↔
    (∃ b : BuiltinCommand, entry.name = b.name) ∨ ∃ c ∈ f.commands, c.Answers entry.name

/-- **The menu.** Whatever bot reads it, an entry that is chosen is recognised if it is a built-in
command, or if the command that it stands for has no capital letters but ASCII ones. An entry whose
command has another capital letter is recognised only if some command of the flow is spelled like
the lower case of that name, and otherwise it is no command.

The flow need not be accepted for this. -/
theorem menu_serves (f : Flow) (botName : String) (entry : MenuEntry) (offered : entry ∈ f.menu)
    (isName : IsName entry.name) : f.Serves botName entry := by
  have builtins (b : BuiltinCommand) (named : entry.name = b.name) :
      f.route? botName entry.text = some (b.request f) := route?_slash_builtin isName named
  have recognised : f.Recognises botName entry.text ↔
      (∃ b : BuiltinCommand, entry.name = b.name) ∨ ∃ c ∈ f.commands, c.Answers entry.name := by
    rw [menu, List.mem_append] at offered
    rcases offered with builtin | own
    · obtain ⟨b, _, rfl⟩ := List.mem_map.1 builtin
      exact iff_of_true ⟨b.request f, builtins b rfl, request_ne_ignore f b⟩ (.inl ⟨b, rfl⟩)
    · obtain ⟨c, _, entered⟩ := List.mem_filterMap.1 own
      have other := (menuEntry?_eq_some entered).2
      rw [MenuEntry.text, recognises_slash_iff isName other]
      refine ⟨.inr, ?_⟩
      rintro (⟨b, named⟩ | found)
      · have builtin : BuiltinCommand.isName entry.name = true := by
          rw [named]
          cases b <;> decide
        rw [other] at builtin
        cases builtin
      · exact found
  refine ⟨builtins, ?_, fun c entered => answers_entry_iff entered, recognised⟩
  intro c listed entered plain
  exact recognised.2 (.inr ⟨c, listed, (answers_entry_iff entered).2 plain⟩)

/-- A flow with a command in Cyrillic letters and one in Latin letters. -/
def bistro : Flow where
  name := "bistro"
  start := "door"
  nodes := [{ id := "door", text := "Welcome" }, { id := "menu", text := "Tea or coffee?" }]
  commands := [
    { command := "Меню", description := "what there is", node := some "menu" },
    { command := "/TEA", description := "straight to the tea", node := some "menu" }]

/-- The entry of the command in Latin letters. -/
def teaEntry : MenuEntry := ⟨"tea", "straight to the tea"⟩

theorem bistro_tea_served :
    bistro.Accepted ∧ teaEntry ∈ bistro.menu ∧ bistro.Serves "bistro_bot" teaEntry ∧
      bistro.Recognises "bistro_bot" "/tea" := by
  have offered : teaEntry ∈ bistro.menu := by decide +kernel
  have isName : IsName teaEntry.name := ⟨by decide, Text.isBlank_of_all (by decide), by decide⟩
  have serves := menu_serves bistro "bistro_bot" teaEntry offered isName
  have checked : (dropSlashes "/TEA").toList.all (Text.isForeignCapital · == false) := by
    decide +kernel
  have plain : ∀ letter ∈ (dropSlashes "/TEA").toList, Text.isForeignCapital letter = false := by
    simpa only [List.all_eq_true, beq_iff_eq] using checked
  refine ⟨by decide +kernel, offered, serves, ?_⟩
  exact serves.own { command := "/TEA", description := "straight to the tea", node := some "menu" }
    (by decide +kernel) (by decide +kernel) plain

/-- The menu offers the other command in small letters, and then does not know it. -/
theorem bistro_menu_dead :
    bistro.Accepted ∧ (⟨"меню", "what there is"⟩ : MenuEntry) ∈ bistro.menu ∧ IsName "меню" ∧
      bistro.route? "bistro_bot" "/меню" = none ∧
      bistro.route? "bistro_bot" "/Меню" = some (.handle (.enter "menu")) := by
  have isName : IsName "меню" := ⟨by decide, Text.isBlank_of_all (by decide), by decide⟩
  exact ⟨by decide +kernel, by decide +kernel, isName, by decide +kernel, by decide +kernel⟩

end Flow

end Dialogue
