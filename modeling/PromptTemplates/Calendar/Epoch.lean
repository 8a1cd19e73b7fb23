import PromptTemplates.Calendar.Moment
import PromptTemplates.Number.Binary64
import PromptTemplates.Fault

/-!
# Seconds since 1970

A number stands for the moment of universal time that lies so many seconds after the start of 1970. A
fraction is taken to the nearest microsecond. Years outside 1 to 9999 are refused; numbers far beyond
them are refused with faults of their own, as their years or seconds leave the range of the counters
involved.
-/

namespace PromptTemplates.Calendar

open Number

/-- The first and the last second whose year has a 32-bit number. -/
def yearCounterRange : Int × Int := (-67768040609740800, 67768036191676799)

/-- The first count of seconds that a counter of 64 bits cannot hold. -/
def secondCounterLimit : Int := twoTo 63

/-- The moment at a count of seconds and microseconds. -/
def Moment.ofEpoch (seconds : Int) (micros : Nat) : Except Fault Moment :=
  if seconds < -secondCounterLimit ∨ secondCounterLimit ≤ seconds then .error (.plain .overflow)
  else if seconds < yearCounterRange.1 ∨ yearCounterRange.2 < seconds then .error (.plain .system)
  else
    match Moment.ofMicros? ((seconds + epochSeconds) * microsPerSecond + micros) (.offset 0) with
    | some m => .ok m
    | none => .error (.plain .badValue)

/-- The whole seconds of a fraction and its microseconds, the latter to the nearest number: the
fraction of a second is scaled in floating point, a tie goes to the even number, and a negative rest
borrows a second. -/
def splitSeconds (negative : Bool) (num den : Nat) : Int × Nat :=
  let whole := num / den
  let scaled :=
    match (Binary64.ofRatio false (num % den * 1000000) den).toRatio? with
    | some (n, d) => roundDivEven n.toNat d
    | none => 0
  let total : Int := whole * 1000000 + scaled
  let total := if negative then -total else total
  (total.fdiv 1000000, (total.fmod 1000000).toNat)

/-- The moment that a floating-point count of seconds stands for. -/
def Moment.ofFloat : Binary64 → Except Fault Moment
  | .nan => .error (.plain .badValue)
  | .infinite _ => .error (.plain .overflow)
  | .finite negative m e =>
    let (num, den) := Binary64.magnitude m e
    let (seconds, micros) := splitSeconds negative num den
    Moment.ofEpoch seconds micros

end PromptTemplates.Calendar
