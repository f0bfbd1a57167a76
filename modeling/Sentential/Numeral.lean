/-
# Sentential.Numeral -- numbers that may be too long to be written

Numbers are written in full, unless there is a bound on the digits of a numeral. Where there is one,
an operation that would have to write a longer number fails, and has written nothing of it. Most
numbers count characters, tokens or rows that are all at hand, and these reach no such bound; but
how many rows there would be is told before there are any, and a few thousand variables are enough
for a number of several thousand digits.
-/
import Sentential.Fault

namespace Sentential.Numeral

/-- The number has at most `longest` digits, or there is no bound on them. -/
def isWritten (longest : Option Nat) (n : Int) : Bool :=
  longest.all fun digits => n.natAbs < Nat.pow 10 digits

/-- The first power of two with more than 4300 digits. -/
example : isWritten (some 4300) (Nat.pow 2 14284 : Nat) ∧
    ¬ isWritten (some 4300) (Nat.pow 2 14285 : Nat) := by
  decide +kernel

/-- Lets an operation go on if all numbers that it has to write can be. -/
def check : (longest : Option Nat) → (numbers : List Int) → Except Fault Unit
  | none, _ => .ok ()
  | some digits, numbers =>
    if numbers.all (isWritten (some digits)) then .ok () else .error (.numberTooLong digits)

variable {longest : Option Nat} {numbers : List Int}

@[simp]
theorem check_none (numbers : List Int) : check none numbers = .ok () := rfl

theorem check_eq_ok_iff :
    check longest numbers = .ok () ↔ ∀ n ∈ numbers, isWritten longest n := by
  cases longest with
  | none => simp [isWritten]
  | some digits => simp [check]

/-- A check fails over a number with more digits than there may be. -/
theorem check_eq_error_iff {fault : Fault} :
    check longest numbers = .error fault ↔
      ∃ digits, longest = some digits ∧ fault = .numberTooLong digits ∧
        ∃ n ∈ numbers, ¬ isWritten longest n := by
  cases longest with
  | none => simp
  | some digits =>
      by_cases hwritten : ∀ n ∈ numbers, isWritten (some digits) n
      · rw [check_eq_ok_iff.mpr hwritten]
        constructor
        · intro h
          exact absurd h (by simp)
        · rintro ⟨-, -, -, n, hn, hlong⟩
          exact absurd (hwritten n hn) hlong
      · have hcheck : check (some digits) numbers = .error (.numberTooLong digits) := by
          rw [check, if_neg (by simpa using hwritten)]
        rw [hcheck]
        constructor
        · intro h
          exact ⟨digits, rfl, (Except.error.inj h).symm, by simpa using hwritten⟩
        · rintro ⟨digits', hdigits, rfl, -⟩
          rw [Option.some.inj hdigits]

end Sentential.Numeral
