/-
# Sentential.Proofs.CommandLine.Limits -- limits that a command line sets

A limit is read from a numeral, and a numeral that is read has no more digits than a number that is
written. So every limit that comes from a command line can be written again, in the refusal of a
formula that is nested too deep or has too many variables; of what such a refusal tells, only the
number of rows can be too long.
-/
import Mathlib.Algebra.Order.Ring.Nat
import Sentential.CommandLine.Run

namespace Sentential

/-! ## Numerals -/

theorem Numeral.isWritten_some_iff {digits : Nat} {n : Int} :
    isWritten (some digits) n ↔ n.natAbs < 10 ^ digits := by
  simp [isWritten]

namespace Text

theorem lt_ten_of_digitValue? {c : Char} {digit : Nat} (h : digitValue? c = some digit) :
    digit < 10 := by
  obtain ⟨first, hfind, rfl⟩ := Option.map_eq_some_iff.mp h
  have hrange := List.find?_some hfind
  simp only [Bool.and_eq_true, decide_eq_true_eq] at hrange
  omega

theorem lt_ten_of_digits? {cs : List Char} {digits : List Nat} (h : digits? cs = some digits) :
    ∀ digit ∈ digits, digit < 10 := by
  fun_induction digits? cs generalizing digits with
  | case1 => exact absurd h (by simp)
  | case2 c =>
      obtain ⟨digit, hdigit, rfl⟩ := Option.map_eq_some_iff.mp h
      exact List.forall_mem_singleton.mpr (lt_ten_of_digitValue? hdigit)
  | case3 c rest ih =>
      obtain ⟨digit, hdigit, hrest⟩ := Option.bind_eq_some_iff.mp h
      obtain ⟨others, hothers, rfl⟩ := Option.map_eq_some_iff.mp hrest
      exact List.forall_mem_cons.mpr ⟨lt_ten_of_digitValue? hdigit, ih hothers⟩
  | case4 c rest _ _ ih =>
      obtain ⟨digit, hdigit, hrest⟩ := Option.bind_eq_some_iff.mp h
      obtain ⟨others, hothers, rfl⟩ := Option.map_eq_some_iff.mp hrest
      exact List.forall_mem_cons.mpr ⟨lt_ten_of_digitValue? hdigit, ih hothers⟩

/-- Digits behind a number add as many places to it. -/
theorem foldl_lt {digits : List Nat} (h : ∀ digit ∈ digits, digit < 10) (n : Nat) :
    digits.foldl (fun n d => 10 * n + d) n < (n + 1) * 10 ^ digits.length := by
  induction digits generalizing n with
  | nil => simp
  | cons digit rest ih =>
      obtain ⟨hdigit, hrest⟩ := List.forall_mem_cons.mp h
      calc (digit :: rest).foldl (fun n d => 10 * n + d) n
          < (10 * n + digit + 1) * 10 ^ rest.length := ih hrest _
        _ ≤ (10 * (n + 1)) * 10 ^ rest.length := Nat.mul_le_mul_right _ (by omega)
        _ = (n + 1) * 10 ^ (digit :: rest).length := by
            rw [List.length_cons, Nat.pow_succ, Nat.mul_comm 10, Nat.mul_assoc, Nat.mul_comm 10]

theorem magnitude?_lt {cs : List Char} {n : Nat} (h : magnitude? cs = some n) :
    n < 10 ^ maxDigits := by
  unfold magnitude? at h
  split at h
  · next digits hdigits =>
      split at h
      · next hlength =>
          obtain rfl := Option.some.inj h
          have hlt := foldl_lt (lt_ten_of_digits? hdigits) 0
          rw [Nat.zero_add, Nat.one_mul] at hlt
          exact Nat.lt_of_lt_of_le hlt (Nat.pow_le_pow_right (by decide) hlength)
      · exact absurd h (by simp)
  · exact absurd h (by simp)

/-- A number that is read can be written. -/
theorem isWritten_of_readInteger? {text : String} {n : Int} (h : readInteger? text = some n) :
    Numeral.isWritten (some maxDigits) n := by
  have hmagnitude : ∃ cs, magnitude? cs = some n.natAbs := by
    unfold readInteger? at h
    split at h
    · obtain ⟨_, hcast, rfl⟩ := Option.map_eq_some_iff.mp h
      obtain ⟨magnitude, hmagnitude, hpure⟩ := Option.bind_eq_some_iff.mp hcast
      obtain rfl := Option.some.inj hpure
      exact ⟨_, by simpa using hmagnitude⟩
    · obtain ⟨magnitude, hmagnitude, rfl⟩ := Option.map_eq_some_iff.mp h
      exact ⟨_, hmagnitude⟩
    · obtain ⟨magnitude, hmagnitude, rfl⟩ := Option.map_eq_some_iff.mp h
      exact ⟨_, hmagnitude⟩
  obtain ⟨cs, hmagnitude⟩ := hmagnitude
  exact Numeral.isWritten_some_iff.mpr (magnitude?_lt hmagnitude)

end Text

/-! ## Options -/

/-- The limit has no number, or one that can be written. -/
def Limit.IsWritten (longest : Option Nat) : Limit → Prop
  | .whole n => Numeral.isWritten longest n
  | .blank => True

namespace CommandLine

theorem isWritten_of_limitOf {flag : Flag} {value : String} {limit : Limit}
    (h : limitOf flag value = .ok limit) : limit.IsWritten longestNumber := by
  unfold limitOf at h
  split at h
  · obtain rfl := Except.ok.inj h
    trivial
  · split at h
    · next n hn =>
        obtain rfl := Except.ok.inj h
        exact Text.isWritten_of_readInteger? hn
    · exact absurd h (by simp)

/-- Both limits of the options can be written. -/
structure Options.LimitsWritten (options : Options) : Prop where
  maxVariables : options.maxVariables.IsWritten longestNumber
  maxDepth : options.maxDepth.IsWritten longestNumber

namespace Options.LimitsWritten

variable {options next : Options}

theorem default : Options.default.LimitsWritten := by
  constructor
  · exact (by decide +kernel : Numeral.isWritten longestNumber 16)
  · exact (by decide +kernel : Numeral.isWritten longestNumber 200)

theorem set (hlimits : options.LimitsWritten) {flag : Flag} {value : String}
    (h : options.set flag value = .ok next) : next.LimitsWritten := by
  cases flag with
  | help => exact absurd h (by simp [Options.set])
  | maxVariables =>
      cases hlimit : limitOf .maxVariables value with
      | error interruption => exact absurd h (by simp [Options.set, hlimit, Except.map])
      | ok limit =>
          rw [Options.set, hlimit] at h
          obtain rfl := Except.ok.inj h
          exact ⟨isWritten_of_limitOf hlimit, hlimits.maxDepth⟩
  | maxDepth =>
      cases hlimit : limitOf .maxDepth value with
      | error interruption => exact absurd h (by simp [Options.set, hlimit, Except.map])
      | ok limit =>
          rw [Options.set, hlimit] at h
          obtain rfl := Except.ok.inj h
          exact ⟨hlimits.maxVariables, isWritten_of_limitOf hlimit⟩
  | file | ascii | validateOnly | verbose | debug =>
      obtain rfl := Except.ok.inj h
      exact ⟨hlimits.maxVariables, hlimits.maxDepth⟩

theorem setAll {settings : List (Flag × String)} (hlimits : options.LimitsWritten)
    (h : options.setAll settings = .ok next) : next.LimitsWritten := by
  induction settings generalizing options with
  | nil =>
      obtain rfl := Except.ok.inj h
      exact hlimits
  | cons setting rest ih =>
      rw [Options.setAll] at h
      split at h
      · next middle hset => exact ih (hlimits.set hset) h
      · exact absurd h (by simp)

/-- Both limits can be written after any words if they could be before. -/
theorem take {words : List Word} {progress after : Progress}
    (hlimits : progress.options.LimitsWritten) (h : progress.take words = .ok after) :
    after.options.LimitsWritten := by
  fun_induction Progress.take progress words with
  | case1 progress =>
      obtain rfl := Except.ok.inj h
      exact hlimits
  -- a plain word can become the formula, and nothing else of the options changes over words
  | case2 | case4 => next ih => exact ih ⟨hlimits.maxVariables, hlimits.maxDepth⟩ h
  | case3 | case5 | case6 | case7 | case8 => next ih => exact ih hlimits h
  -- an option takes effect, with a value or without one
  | case10 => next hset ih => exact ih (hlimits.setAll hset) h
  | case12 => next hset ih => exact ih (hlimits.setAll hset) h
  | case9 | case11 | case13 | case14 => exact absurd h (by simp)

end Options.LimitsWritten

/-- Every limit that a command line sets can be written. -/
theorem isWritten_limit_of_ofWords {words : List String} {options : Options} {limit : Int}
    (h : Options.ofWords words = .ok options)
    (hlimit : options.maxDepth = .whole limit ∨ options.maxVariables = .whole limit) :
    Numeral.isWritten longestNumber limit := by
  have hlimits : options.LimitsWritten := by
    unfold Options.ofWords at h
    split at h
    · exact absurd h (by simp)
    · split at h
      · exact absurd h (by simp)
      · next progress htake =>
          split at h
          · obtain rfl := Except.ok.inj h
            exact Options.LimitsWritten.default.take htake
          · exact absurd h (by simp)
  rcases hlimit with hlimit | hlimit
  · have hdepth := hlimits.maxDepth
    rwa [hlimit] at hdepth
  · have hvariables := hlimits.maxVariables
    rwa [hlimit] at hvariables

end CommandLine

end Sentential
