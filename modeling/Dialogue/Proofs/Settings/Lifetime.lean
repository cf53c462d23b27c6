/-
# The lifetime of sessions as it is set

The lifetime is set in minutes, and any number of 64 bits is taken. Numbers below one stand for one
minute. Above, there is an end that the setting does not know of: a lifetime is counted in
milliseconds, and from some number of minutes on it cannot be stated any more.

Wherever there is a lifetime, sessions keep to it. A session that a user has saved is found again
until its lifetime is over, whatever happens to the sessions of others in between and however often
sessions are looked up or idle ones are dropped.
-/

import Dialogue.Proofs.Callback.Payload
import Dialogue.Proofs.Session.History
import Dialogue.Settings.CommandLine

namespace Dialogue

/-! ## One flag on the command line -/

namespace Flag

/-- The word of a command line that gives a value to a flag. -/
def word (flag : Flag) (value : String) : String := "--" ++ flag.name ++ "=" ++ value

theorem toList_word (flag : Flag) (value : String) :
    (flag.word value).toList = '-' :: '-' :: (flag.name.toList ++ '=' :: value.toList) := by
  simp [word]

theorem not_mem_name (flag : Flag) : '=' ∉ flag.name.toList := by
  cases flag <;> decide

theorem ofName?_name (flag : Flag) : ofName? flag.name.toList = some flag := by
  cases flag <;> decide

end Flag

namespace CommandLine

theorem readLong_word (l : CommandLine) (flag : Flag) (value : List Char) :
    l.readLong (flag.name.toList ++ '=' :: value) =
      l.settle.bind fun settled => settled.take flag (some (String.ofList value)) := by
  have name : (flag.name.toList ++ '=' :: value).takeWhile (· ≠ '=') = flag.name.toList := by
    rw [List.takeWhile_append_of_pos]
    · simp
    · intro c listed
      apply decide_eq_true
      rintro rfl
      exact flag.not_mem_name listed
  have split : Text.splitFirst? '=' (flag.name.toList ++ '=' :: value) =
      some (flag.name.toList, value) :=
    Text.splitFirst?_eq_some_iff.2 ⟨rfl, flag.not_mem_name⟩
  rw [readLong, name, split, flag.ofName?_name]
  rfl

theorem readWord_word (l : CommandLine) (flag : Flag) (value : String) (going : l.ended = false) :
    l.readWord (flag.word value) =
      l.settle.bind fun settled => settled.take flag (some value) := by
  have long := readLong_word l flag value.toList
  rw [String.ofList_toList] at long
  rw [← long, readWord, if_neg (by simp [going]), Flag.toList_word]
  -- Two hyphens alone would be another word, but a name follows.
  obtain ⟨first, rest, split⟩ := List.exists_cons_of_ne_nil
    (List.append_ne_nil_of_right_ne_nil flag.name.toList (List.cons_ne_nil '=' value.toList))
  rw [split]
  rfl

theorem foldlM_fillIn_nil (l : CommandLine) (flags : List Flag) :
    flags.foldlM (fillIn []) l = .ok l := by
  induction flags with
  | nil => rfl
  | cons flag flags ih =>
      have skip : fillIn [] l flag = .ok l := by
        rw [fillIn]
        cases flag.environmentName <;> rfl
      rw [List.foldlM_cons, skip]
      exact ih

end CommandLine

namespace Settings

/-- A flag that stands alone sets what it stands for and nothing else. -/
theorem ofCommandLine_word (flag : Flag) (value : String) :
    ofCommandLine [flag.word value] [] = ({} : Settings).set flag value := by
  have read : CommandLine.readWord {} (flag.word value) =
      (({} : Settings).set flag value).map fun s => { settings := s, given := [flag] } := by
    rw [CommandLine.readWord_word _ _ _ rfl]
    rfl
  rw [ofCommandLine, List.foldlM_cons, read]
  cases ({} : Settings).set flag value with
  | error e => rfl
  | ok s =>
      show (Flag.all.foldlM (CommandLine.fillIn []) _).bind _ = _
      rw [CommandLine.foldlM_fillIn_nil]
      rfl

/-- Every number of 64 bits can be set as the minutes of a session. -/
theorem ofCommandLine_minutes {m : Int} (fits : Number.Fits Number.signed64 m) :
    ofCommandLine [Flag.sessionMinutes.word (toString m)] [] = .ok { sessionMinutes := m } := by
  rw [ofCommandLine_word, set, Number.readSigned?_toString fits]

/-! ## The lifetime -/

/-- The most minutes that a lifetime can have. -/
def longestMinutes : Int := 153722867280912

/-- There is a lifetime exactly up to the longest one. -/
theorem sessionLifetime?_eq (s : Settings) :
    s.sessionLifetime? =
      if s.sessionMinutes ≤ longestMinutes then
        some (SessionStore.minutes (max s.sessionMinutes 1))
      else none := by
  have longest : SessionStore.longestLifetime = 9223372036854775807 := by decide
  rw [sessionLifetime?, SessionStore.lifetimeOfMinutes?]
  congr 1
  rw [longest, SessionStore.minutes, longestMinutes, eq_iff_iff]
  constructor
  · intro stated
    omega
  · intro short
    omega

end Settings

/-! ## Sessions within their lifetime -/

namespace SessionCall

/-- The call has nothing to do with the session of a user: it is a look-up, it is about another
user, or it drops sessions that are over at a moment that has come. -/
def Spares (user : UserId) : SessionCall → Prop
  | .get _ _ => True
  | .save other _ _ => other ≠ user
  | .reset other _ => other ≠ user
  | .purge moment now => moment ≤ now

variable {user : UserId} {call : SessionCall}

theorem Spares.noted?_eq (spares : call.Spares user) : call.noted? user = none := by
  cases call with
  | save other session now => exact if_neg spares
  | _ => rfl

/-- A call that spares a session does not end it before its time. -/
theorem Spares.ends_eq {lifetime : Int} {saved now : Time} (spares : call.Spares user)
    (past : call.time ≤ now) (live : now - saved < lifetime) :
    call.ends lifetime user saved = false := by
  cases call with
  | reset other clock => exact decide_eq_false spares
  | purge moment clock =>
      have come : moment ≤ now := Int.le_trans spares past
      apply decide_eq_false
      apply Int.not_le.2
      exact Int.lt_of_le_of_lt (Int.sub_le_sub_right come saved) live
  | _ => rfl

end SessionCall

namespace SessionStore

open SessionCall

variable {lifetime : Int} {earlier since : List SessionCall} {user : UserId} {session : Session}
  {saved now : Time}

/-- A saved session is found again exactly until its lifetime is over. -/
theorem get_after_save
    (forward : Forward (earlier ++ .save user session saved :: since ++ [.get user now]))
    (spared : ∀ call ∈ since, call.Spares user) :
    ((after lifetime (earlier ++ .save user session saved :: since)).get user now).1 =
      if now - saved < lifetime then session else .fresh := by
  have past : ∀ call ∈ earlier ++ .save user session saved :: since, call.time ≤ now :=
    fun call listed => forward.time_le listed
  have last : lastSave? user (earlier ++ .save user session saved :: since) =
      some ⟨session, saved, since⟩ :=
    lastSave?_eq_some_iff.2 ⟨⟨earlier, rfl⟩, fun call listed => (spared call listed).noted?_eq⟩
  rw [get_after past, sessionAfter, last]
  dsimp only
  congr 1
  rw [Save.Stands, eq_iff_iff, and_iff_right_iff_imp]
  intro live call listed
  exact (spared call listed).ends_eq (past call (by simp [listed])) live

end SessionStore

namespace Settings

open SessionCall SessionStore

/-- **Lifetimes up to the longest are usable.** Every number of 64 bits can be set. Up to the
longest, the lifetime is that number of minutes and at least one. A store with this lifetime finds a
saved session again at every time until the lifetime is over, hence for a minute in any case, and
not from then on. Above the longest there is no lifetime at all. -/
theorem configured_lifetime_usable (m : Int) (fits : Number.Fits Number.signed64 m) :
    ofCommandLine [Flag.sessionMinutes.word (toString m)] [] = .ok { sessionMinutes := m } ∧
      ∀ s : Settings, s.sessionMinutes = m →
        (longestMinutes < m → s.sessionLifetime? = none) ∧
        (m ≤ longestMinutes → ∃ lifetime,
          s.sessionLifetime? = some lifetime ∧ lifetime = minutes (max m 1) ∧
          minutes 1 ≤ lifetime ∧
          ∀ earlier since user session saved now,
            Forward (earlier ++ .save user session saved :: since ++ [.get user now]) →
            (∀ call ∈ since, call.Spares user) →
            ((after lifetime (earlier ++ .save user session saved :: since)).get user now).1 =
              if now - saved < lifetime then session else .fresh) := by
  refine ⟨ofCommandLine_minutes fits, ?_⟩
  intro s same
  rw [sessionLifetime?_eq, same]
  constructor
  · intro long
    exact if_neg (Int.not_le.2 long)
  · intro short
    refine ⟨minutes (max m 1), if_pos short, rfl, ?_, ?_⟩
    · rw [minutes, minutes]
      omega
    · intro earlier since user session saved now forward spared
      exact get_after_save forward spared

/-- Another user comes, idle sessions are dropped, and the session is looked up. -/
def minute : List SessionCall :=
  [.save 8 { current := some "bye" } 10, .get 7 20, .purge 59000 59000]

/-- A negative number of minutes stands for one minute. -/
theorem negative_minutes_usable :
    Number.Fits Number.signed64 (-5) ∧
      ofCommandLine [Flag.sessionMinutes.word (toString (-5 : Int))] [] =
        .ok { sessionMinutes := -5 } ∧
      ∃ lifetime,
        ({ sessionMinutes := -5 } : Settings).sessionLifetime? = some lifetime ∧
        ((after lifetime (.save 7 { current := some "ask" } 0 :: minute)).get 7 59999).1 =
          { current := some "ask" } := by
  have fits : Number.Fits Number.signed64 (-5) := by decide
  obtain ⟨read, usable⟩ := configured_lifetime_usable (-5) fits
  obtain ⟨lifetime, stated, same, -, kept⟩ := (usable { sessionMinutes := -5 } rfl).2 (by decide)
  have forward : Forward ([] ++ .save 7 { current := some "ask" } 0 :: minute ++
      [.get 7 59999]) := by decide
  have spared : ∀ call ∈ minute, call.Spares 7 := by
    simp [minute, Spares]
  have live : (59999 : Time) - 0 < lifetime := by
    rw [same]
    decide
  refine ⟨fits, read, lifetime, stated, ?_⟩
  exact (kept [] minute 7 _ 0 59999 forward spared).trans (if_pos live)

/-- One minute more than the longest lifetime is taken from the command line, and there is no
lifetime for it. -/
theorem longest_exceeded :
    Number.Fits Number.signed64 153722867280913 ∧
      ofCommandLine ["--session-ttl-minutes", "153722867280913"] [] =
        .ok { sessionMinutes := 153722867280913 } ∧
      ({ sessionMinutes := 153722867280913 } : Settings).sessionLifetime? = none := by
  refine ⟨by decide, by rfl, by decide⟩

end Settings

end Dialogue
