/-
# Sentential.Proofs.CommandLine.Given -- which formula the program is given

A file holds a formula if it can be read, its octets are UTF-8, and not everything in it is blank;
the formula is then its text without the blanks around it. The line ends of the file do not matter
for this, as they are blanks before and after they are made plain. If a file is named, the formula
is the one in it, and whatever else the command line has is not looked at.
-/
import Mathlib.Data.List.TakeWhile
import Sentential.CommandLine.Run

namespace Sentential

/-- Nothing is left of a text exactly if all of it is blank. -/
theorem Text.trim_eq_empty_iff {s : String} : trim s = "" ↔ ∀ c ∈ s.toList, isBlank c := by
  rw [trim, String.ofList_eq_empty_iff, List.reverse_eq_nil_iff, List.dropWhile_eq_nil_iff]
  simp only [List.mem_reverse]
  constructor
  · intro h
    -- otherwise the first character that is not blank would be left
    by_contra hnot
    have hsome : s.toList.dropWhile isBlank ≠ [] := by rwa [ne_eq, List.dropWhile_eq_nil_iff]
    have hfirst := List.head_dropWhile_not isBlank hsome
    rw [h _ (List.head_mem hsome)] at hfirst
    exact absurd hfirst (by simp)
  · intro h c hc
    exact h c ((List.dropWhile_suffix _).subset hc)

namespace CommandLine

/-! ## Files -/

/-- A text is blank exactly if it is with its line ends made plain. -/
theorem forall_isBlank_plainLineEnds {cs : List Char} :
    (∀ c ∈ plainLineEnds cs, Text.isBlank c) ↔ ∀ c ∈ cs, Text.isBlank c := by
  have hreturn : Text.isBlank '\r' = true := rfl
  have hfeed : Text.isBlank '\n' = true := rfl
  fun_induction plainLineEnds cs with
  | case1 => rfl
  | case2 rest ih => simp only [List.forall_mem_cons, hreturn, hfeed, ih, true_and]
  | case3 c rest h ih =>
      have hc : Text.isBlank (if c = '\r' then '\n' else c) = Text.isBlank c := by
        split
        · next heq => rw [heq, hreturn, hfeed]
        · rfl
      simp only [List.forall_mem_cons, hc, ih]

/-- The file can be read, its octets are UTF-8 and not all blank, and `text` is what they are
without the blanks around it. -/
def FileState.Holds (state : FileState) (text : String) : Prop :=
  ∃ octets chars, state = .octets octets ∧ Text.decodeUtf8 octets = .ok chars ∧
    (∃ c ∈ chars, ¬ Text.isBlank c) ∧ text = Text.trim (.ofList (plainLineEnds chars))

theorem FileState.holds_octets_iff {octets : List UInt8} {chars : List Char} {text : String}
    (h : Text.decodeUtf8 octets = .ok chars) :
    (FileState.octets octets).Holds text ↔
      (∃ c ∈ chars, ¬ Text.isBlank c) ∧ text = Text.trim (.ofList (plainLineEnds chars)) := by
  constructor
  · rintro ⟨octets', chars', hoctets, hchars, hholds⟩
    obtain rfl := FileState.octets.inj hoctets
    obtain rfl := Except.ok.inj (h.symm.trans hchars)
    exact hholds
  · intro hholds
    exact ⟨octets, chars, rfl, h, hholds⟩

/-- A file has a formula for the program exactly if it holds one. -/
theorem formulaIn_eq_ok_iff {path : Path} {state : FileState} {text : String} :
    formulaIn path state = .ok text ↔ state.Holds text := by
  cases state with
  | missing => simp [formulaIn, FileState.Holds]
  | refused refusal => simp [formulaIn, FileState.Holds]
  | unnamable => simp [formulaIn, FileState.Holds]
  | octets octets =>
      cases hdecode : Text.decodeUtf8 octets with
      | error fault => simp [formulaIn, FileState.Holds, hdecode]
      | ok chars =>
          have hblank : (∃ c ∈ chars, ¬ Text.isBlank c) ↔
              Text.trim (.ofList (plainLineEnds chars)) ≠ "" := by
            rw [ne_eq, Text.trim_eq_empty_iff, String.toList_ofList, forall_isBlank_plainLineEnds]
            simp
          rw [FileState.holds_octets_iff hdecode, hblank, formulaIn, hdecode]
          dsimp only
          split
          · next hempty => simp [hempty]
          · next hsome => simp [hsome, eq_comm]

/-! ## Command lines -/

/-- The formula that the options give is `text`: the one in the file if they name a file, and the
one among the options otherwise. -/
def Options.Gives (options : Options) (found : Path → FileState) (text : String) : Prop :=
  (∃ file, options.file = some (.named file) ∧ (found (.ofText file)).Holds text) ∨
    (options.file = none ∧ options.formula = some text)

theorem Options.text_eq_ok_iff {options : Options} {found : Path → FileState} {text : String} :
    options.text found = .ok text ↔ options.Gives found text := by
  unfold Options.text Gives
  cases options.file with
  | none => cases options.formula <;> simp
  | some name =>
      cases name with
      | blank => simp
      | named file =>
          have hfile : formulaIn (.ofText file) (found (.ofText file)) = .ok text ↔ _ :=
            formulaIn_eq_ok_iff
          cases hformula : formulaIn (.ofText file) (found (.ofText file)) <;>
            simp [hformula, ← hfile]

end CommandLine

end Sentential
