/-
# Two ways to fold case

Commands are compared with their ASCII letters folded, and shown in the lower case of all scripts.
On ASCII texts the two agree. Elsewhere a text has another lower case exactly if it has a capital
letter outside ASCII, and then the two texts differ for the comparison as well.

What lower case makes of one character is said once, in `Text.Lowers`. The one character outside
ASCII that goes to an ASCII letter alone is the sign of the kelvin, which goes to `k`.
-/

import Dialogue.Text.Blank
import Dialogue.Text.Case

namespace Dialogue.Text

/-! ## Folding ASCII letters -/

theorem toNat_toLower (c : Char) :
    c.toLower.toNat = if 65 ≤ c.toNat ∧ c.toNat ≤ 90 then c.toNat + 32 else c.toNat := by
  have upper : (c.val ≥ 'A'.val ∧ c.val ≤ 'Z'.val) ↔ (65 ≤ c.toNat ∧ c.toNat ≤ 90) := by
    rw [ge_iff_le, UInt32.le_iff_toNat_le, UInt32.le_iff_toNat_le]
    rfl
  delta Char.toLower
  split
  · next capital =>
      rw [if_pos (upper.1 capital)]
      have small := (upper.1 capital).2
      show (c.val + ('a'.val - 'A'.val)).toNat = c.val.toNat + 32
      have bounded : c.val.toNat ≤ 90 := small
      have offset : ('a'.val - 'A'.val).toNat = 32 := rfl
      rw [UInt32.toNat_add, offset]
      omega
  · next other => rw [if_neg fun capital => other (upper.2 capital)]

theorem toLower_eq_self_iff {c : Char} : c.toLower = c ↔ ¬ (65 ≤ c.toNat ∧ c.toNat ≤ 90) := by
  rw [← Char.toNat_inj, toNat_toLower]
  split
  · next capital =>
      constructor
      · intro same
        omega
      · intro small
        exact absurd capital small
  · next small => exact iff_of_true rfl small

@[simp]
theorem toLower_toLower (c : Char) : c.toLower.toLower = c.toLower := by
  rw [toLower_eq_self_iff, toNat_toLower]
  split
  · omega
  · assumption

/-- Folding the case of a character neither makes a blank nor loses one. -/
theorem isBlank_toLower (c : Char) : isBlank c.toLower = isBlank c := by
  by_cases capital : 65 ≤ c.toNat ∧ c.toNat ≤ 90
  · have blankFree (d : Char) (letter : 65 ≤ d.toNat ∧ d.toNat ≤ 122) : isBlank d = false := by
      simp only [isBlank, Bool.or_eq_false_iff, Bool.and_eq_false_iff, decide_eq_false_iff_not,
        beq_eq_false_iff_ne]
      omega
    rw [blankFree c (by omega), blankFree c.toLower (by rw [toNat_toLower, if_pos capital]; omega)]
  · rw [isBlank, toNat_toLower, if_neg capital, isBlank]

/-- No other character is folded to a slash. -/
theorem eq_slash_of_toLower {c : Char} (folded : c.toLower = '/') : c = '/' := by
  have code : c.toLower.toNat = 47 := by
    rw [folded]
    rfl
  rw [toNat_toLower] at code
  apply Char.toNat_inj.1
  show c.toNat = 47
  split at code
  · omega
  · exact code

theorem eqIgnoringAsciiCase_iff {s t : String} :
    eqIgnoringAsciiCase s t ↔ s.toList.map Char.toLower = t.toList.map Char.toLower := by
  rw [eqIgnoringAsciiCase, beq_iff_eq]

/-- A text that differs from a text without blanks in case only has no blanks either. -/
theorem isBlank_eq_false_of_eqIgnoringAsciiCase {s t : String} (same : eqIgnoringAsciiCase s t)
    (blankFree : ∀ c ∈ t.toList, isBlank c = false) : ∀ c ∈ s.toList, isBlank c = false := by
  intro c listed
  have folded : c.toLower ∈ t.toList.map Char.toLower := by
    rw [← eqIgnoringAsciiCase_iff.1 same]
    exact List.mem_map_of_mem listed
  obtain ⟨d, listed', sameChar⟩ := List.mem_map.1 folded
  rw [← isBlank_toLower, ← sameChar, isBlank_toLower]
  exact blankFree d listed'

/-- Texts that differ in case only begin with a slash together. -/
theorem head?_eq_slash_of_eqIgnoringAsciiCase {s t : String} (same : eqIgnoringAsciiCase s t)
    (slash : t.toList.head? = some '/') : s.toList.head? = some '/' := by
  have heads := congrArg List.head? (eqIgnoringAsciiCase_iff.1 same)
  rw [List.head?_map, List.head?_map, slash] at heads
  obtain ⟨first, isFirst, folded⟩ := Option.map_eq_some_iff.1 heads
  rw [isFirst, eq_slash_of_toLower folded]

/-- That a text has no blanks can be computed. -/
theorem isBlank_of_all {cs : List Char} (checked : cs.all (!isBlank ·) = true) :
    ∀ c ∈ cs, isBlank c = false := by
  intro c listed
  rw [List.all_eq_true] at checked
  simpa using checked c listed

/-! ## Lower case, character by character -/

/-- A capital letter outside ASCII. -/
def isForeignCapital (c : Char) : Bool := 0x80 ≤ c.toNat && lowerChar c != [c]

/-- What the lower case of a character outside ASCII shows of it: a character outside ASCII, the
letter `k`, or the character that stands for none. -/
def IsForeign (c : Char) : Prop := 0x80 ≤ c.toNat ∨ c.toNat = 0x6B ∨ c.toNat = 0

theorem IsForeign.toLower_eq {c : Char} (foreign : IsForeign c) : c.toLower = c := by
  rw [toLower_eq_self_iff]
  unfold IsForeign at foreign
  omega

theorem toNat_ofNat (n : Nat) : (Char.ofNat n).toNat = n ∨ (Char.ofNat n).toNat = 0 := by
  by_cases valid : n.isValidChar
  · left
    rw [Char.ofNat, dif_pos valid]
    rfl
  · right
    rw [Char.ofNat, dif_neg valid]
    rfl

/-- Only the ASCII letters and the sign of the kelvin have their small letters in ASCII. -/
theorem lowerRuns_leave {run : CaseRun} (listed : run ∈ lowerRuns) :
    run.last < 0x80 ∨ (0x212A ≤ run.first ∧ run.last ≤ 0x212A ∧ run.offset = -8383) ∨
      0x80 ≤ run.first + run.offset := by
  have checked : lowerRuns.all (fun run => run.last < 0x80 ||
      (0x212A ≤ run.first && run.last ≤ 0x212A && run.offset == -8383) ||
        0x80 ≤ run.first + run.offset) = true := by decide
  have leaves := List.all_eq_true.1 checked run listed
  simpa [or_assoc, and_assoc] using leaves

theorem findSome?_lowerRuns {code small : Nat} (large : 0x80 ≤ code)
    (found : lowerRuns.findSome? (fun run => run.lower? code) = some small) :
    0x80 ≤ small ∨ small = 0x6B := by
  obtain ⟨run, listed, lowered⟩ := List.exists_of_findSome?_eq_some found
  rw [CaseRun.lower?, Option.ite_none_right_eq_some] at lowered
  obtain ⟨within, same⟩ := lowered
  simp only [Bool.and_eq_true, decide_eq_true_eq] at within
  have moved : (code + run.offset).toNat = small := Option.some.inj same
  have leaves := lowerRuns_leave listed
  omega

/-- What lower case makes of one character, wherever it stands. -/
structure Lowers (c : Char) (lowered : List Char) : Prop where
  ascii : c.toNat < 0x80 → lowered = [c.toLower]
  /-- Nothing outside ASCII becomes a word of ASCII letters, but for the `k`. -/
  trace : 0x80 ≤ c.toNat → ∃ d ∈ lowered, IsForeign d
  folded : 0x80 ≤ c.toNat → ∀ d ∈ lowered, d.toLower = d
  /-- Only capital letters change. -/
  kept_iff : 0x80 ≤ c.toNat → (lowered = [c] ↔ isForeignCapital c = false)

theorem Lowers.ne_nil {c : Char} {lowered : List Char} (lowers : Lowers c lowered) :
    lowered ≠ [] := by
  by_cases small : c.toNat < 0x80
  · simp [lowers.ascii small]
  · obtain ⟨d, shown, _⟩ := lowers.trace (by omega)
    exact List.ne_nil_of_mem shown

theorem lowers_singleton {c d : Char} (large : 0x80 ≤ c.toNat) (foreign : IsForeign d)
    (kept : d = c ↔ isForeignCapital c = false) : Lowers c [d] where
  ascii small := by omega
  trace _ := ⟨d, by simp, foreign⟩
  folded _ := by simpa using foreign.toLower_eq
  kept_iff _ := by simpa using kept

theorem isForeignCapital_eq_false_iff {c : Char} (large : 0x80 ≤ c.toNat) :
    isForeignCapital c = false ↔ lowerChar c = [c] := by
  simp [isForeignCapital, large]

theorem lowers_lowerChar (c : Char) : Lowers c (lowerChar c) := by
  by_cases small : c.toNat < 0x80
  · have lowered : lowerChar c = [c.toLower] := by rw [lowerChar, if_pos small]
    exact ⟨fun _ => lowered, fun _ => by omega, fun _ => by omega, fun _ => by omega⟩
  · have large : 0x80 ≤ c.toNat := by omega
    by_cases dotted : c.toNat = 0x130
    · have lowered : lowerChar c = ['i', Char.ofNat 0x307] := by
        rw [lowerChar, if_neg small, if_pos (by simp [dotted])]
      refine ⟨fun _ => by omega, fun _ => ?_, fun _ => ?_, fun _ => ?_⟩
      · rw [lowered]
        exact ⟨Char.ofNat 0x307, by simp, .inl (by decide)⟩
      · rw [lowered, List.forall_mem_cons, List.forall_mem_singleton]
        decide
      · exact (isForeignCapital_eq_false_iff large).symm
    · cases found : lowerRuns.findSome? fun run => run.lower? c.toNat with
      | none =>
          have lowered : lowerChar c = [c] := by
            rw [lowerChar, if_neg small, if_neg (by simpa using dotted), found]
          rw [lowered]
          refine lowers_singleton large (.inl large) ?_
          simp [isForeignCapital_eq_false_iff large, lowered]
      | some code =>
          have lowered : lowerChar c = [Char.ofNat code] := by
            rw [lowerChar, if_neg small, if_neg (by simpa using dotted), found]
          have foreign : IsForeign (Char.ofNat code) := by
            have range := findSome?_lowerRuns large found
            unfold IsForeign
            rcases toNat_ofNat code with same | zero
            · omega
            · omega
          rw [lowered]
          refine lowers_singleton large foreign ?_
          simp [isForeignCapital_eq_false_iff large, lowered]

/-- The lower case of a text is that of its first character and then that of the rest. A sigma has
two small letters, and what stands around it decides between them. -/
theorem exists_lowerFrom_cons (before : List Char) (c : Char) (rest : List Char) :
    ∃ lowered, lowerFrom before (c :: rest) = lowered ++ lowerFrom (c :: before) rest ∧
      Lowers c lowered := by
  rw [lowerFrom]
  refine ⟨_, rfl, ?_⟩
  split
  · next sigma =>
      have isSigma : c = Char.ofNat 0x3A3 := by
        rw [← Char.toNat_inj]
        simpa using sigma
      subst isSigma
      split
      · exact lowers_singleton (by decide) (.inl (by decide)) (by decide +kernel)
      · exact lowers_singleton (by decide) (.inl (by decide)) (by decide +kernel)
  · exact lowers_lowerChar c

/-! ## Lower case of texts -/

/-- Without capital letters outside ASCII, the two ways to fold case are the same. -/
theorem lowerFrom_of_plain (before cs : List Char) (plain : ∀ c ∈ cs, isForeignCapital c = false) :
    lowerFrom before cs = cs.map Char.toLower := by
  induction cs generalizing before with
  | nil => rfl
  | cons c rest ih =>
      obtain ⟨lowered, whole, lowers⟩ := exists_lowerFrom_cons before c rest
      have first : lowered = [c.toLower] := by
        by_cases small : c.toNat < 0x80
        · exact lowers.ascii small
        · have large : 0x80 ≤ c.toNat := by omega
          have folded : c.toLower = c := IsForeign.toLower_eq (.inl large)
          rw [folded]
          exact (lowers.kept_iff large).2 (plain c List.mem_cons_self)
      rw [whole, first, ih _ fun d listed => plain d (List.mem_cons_of_mem c listed)]
      rfl

theorem length_le_lowerFrom (before cs : List Char) :
    cs.length ≤ (lowerFrom before cs).length := by
  induction cs generalizing before with
  | nil => simp
  | cons c rest ih =>
      obtain ⟨lowered, whole, lowers⟩ := exists_lowerFrom_cons before c rest
      have nonempty := List.length_pos_iff.2 lowers.ne_nil
      have shorter := ih (c :: before)
      rw [whole, List.length_append, List.length_cons]
      omega

/-- A text that agrees with its lower case up to ASCII letters has no other capitals. -/
theorem plain_of_map_toLower_lowerFrom {before cs : List Char}
    (same : cs.map Char.toLower = (lowerFrom before cs).map Char.toLower) :
    ∀ c ∈ cs, isForeignCapital c = false := by
  induction cs generalizing before with
  | nil => simp
  | cons c rest ih =>
      obtain ⟨lowered, whole, lowers⟩ := exists_lowerFrom_cons before c rest
      obtain ⟨d, others, rfl⟩ := List.exists_cons_of_ne_nil lowers.ne_nil
      rw [whole, List.cons_append, List.map_cons, List.map_cons, List.map_append,
        List.cons.injEq] at same
      obtain ⟨first, tail⟩ := same
      -- The lower case is no shorter than the text, so the first character has only one.
      have alone : others = [] := by
        have lengths := congrArg List.length tail
        have shorter := length_le_lowerFrom (c :: before) rest
        rw [List.length_append, List.length_map, List.length_map, List.length_map] at lengths
        apply List.length_eq_zero_iff.1
        omega
      subst alone
      intro e listed
      rcases List.mem_cons.1 listed with rfl | later
      · by_cases small : e.toNat < 0x80
        · simp [isForeignCapital, Nat.not_le.2 small]
        · have large : 0x80 ≤ e.toNat := by omega
          have folded : e.toLower = e := IsForeign.toLower_eq (.inl large)
          have kept : d = e := by
            rw [← lowers.folded large d List.mem_cons_self, ← first, folded]
          exact (lowers.kept_iff large).1 (by rw [kept])
      · exact ih tail e later

/-- A text and its lower case agree up to ASCII letters exactly if the text has no capital letter
outside ASCII. -/
theorem eqIgnoringAsciiCase_lower_iff {s : String} :
    eqIgnoringAsciiCase s (lower s) ↔ ∀ c ∈ s.toList, isForeignCapital c = false := by
  rw [eqIgnoringAsciiCase_iff, lower, String.toList_ofList]
  constructor
  · exact plain_of_map_toLower_lowerFrom
  · intro plain
    rw [lowerFrom_of_plain [] s.toList plain, List.map_map]
    congr 1
    funext c
    exact (toLower_toLower c).symm

/-- A character outside ASCII leaves a trace in the lower case. -/
theorem exists_foreign_of_mem (before : List Char) {cs : List Char} {c : Char} (listed : c ∈ cs)
    (large : 0x80 ≤ c.toNat) : ∃ d ∈ lowerFrom before cs, IsForeign d := by
  induction cs generalizing before with
  | nil => cases listed
  | cons first rest ih =>
      obtain ⟨lowered, whole, lowers⟩ := exists_lowerFrom_cons before first rest
      rw [whole]
      rcases List.mem_cons.1 listed with rfl | later
      · obtain ⟨d, shown, foreign⟩ := lowers.trace large
        exact ⟨d, List.mem_append_left _ shown, foreign⟩
      · obtain ⟨d, shown, foreign⟩ := ih (first :: before) later
        exact ⟨d, List.mem_append_right _ shown, foreign⟩

/-- A word of small ASCII letters other than `k` is recognised in lower case just where it was
before. -/
theorem eqIgnoringAsciiCase_lower_of_word {word s : String}
    (letters : ∀ c ∈ word.toList.map Char.toLower, ¬ IsForeign c) :
    eqIgnoringAsciiCase word (lower s) = eqIgnoringAsciiCase word s := by
  rw [Bool.eq_iff_iff, eqIgnoringAsciiCase_iff, eqIgnoringAsciiCase_iff, lower,
    String.toList_ofList]
  by_cases ascii : ∀ c ∈ s.toList, c.toNat < 0x80
  · have plain : ∀ c ∈ s.toList, isForeignCapital c = false := by
      intro c listed
      simp [isForeignCapital, Nat.not_le.2 (ascii c listed)]
    rw [lowerFrom_of_plain [] s.toList plain, List.map_map]
    simp [Function.comp_def]
  · -- Both sides show a character that the word has not.
    obtain ⟨c, listed, large⟩ : ∃ c ∈ s.toList, 0x80 ≤ c.toNat := by simpa using ascii
    have apart {cs : List Char} {d : Char} (shown : d ∈ cs) (foreign : IsForeign d) :
        word.toList.map Char.toLower ≠ cs.map Char.toLower := by
      intro same
      apply letters d
      · rw [same, ← foreign.toLower_eq]
        exact List.mem_map_of_mem shown
      · exact foreign
    obtain ⟨d, shown, foreign⟩ := exists_foreign_of_mem [] listed large
    exact iff_of_false (apart shown foreign) (apart listed (.inl large))

end Dialogue.Text
