/-!
# Durations and instants

Times are counted in nanoseconds.

* `Duration.text` is how messages show a duration: in the greatest unit that is not above it,
  with as many decimals as it has.
* `nextTick` is the time of the tick after one that was due. A tick that is noticed late puts the
  later ones off.
-/

namespace SymbolSearch

/-- A length of time in nanoseconds. -/
abbrev Duration := Nat

/-- A point in time, in nanoseconds since the clock started. -/
abbrev Instant := Nat

namespace Duration

/-- The duration of a number of milliseconds. -/
def ofMillis (n : Nat) : Duration := n * 1000000

/-- The duration of a number of seconds. -/
def ofSecs (n : Nat) : Duration := n * 1000000000

/-- The whole milliseconds in a duration. -/
def toMillis (d : Duration) : Nat := d / 1000000

/-- The whole seconds in a duration. -/
def toSecs (d : Duration) : Nat := d / 1000000000

/-- The decimals of `rest / unit`, where `unit` is a power of ten: a point and digits without
    zeros at the end, or nothing for a whole number. -/
def decimals (rest unit : Nat) : List Char :=
  let width := (Nat.toDigits 10 unit).length - 1
  let digits := Nat.toDigits 10 rest
  let padded := List.replicate (width - digits.length) '0' ++ digits
  let kept := (padded.reverse.dropWhile (· == '0')).reverse
  if rest = 0 then [] else '.' :: kept

/-- The duration as messages show it. -/
def text (d : Duration) : String :=
  let shown (unit : Nat) (name : String) : String :=
    String.ofList (Nat.toDigits 10 (d / unit) ++ decimals (d % unit) unit) ++ name
  if 1000000000 ≤ d then shown 1000000000 "s"
  else if 1000000 ≤ d then shown 1000000 "ms"
  else if 1000 ≤ d then shown 1000 "µs"
  else shown 1 "ns"

end Duration

/-- How late a tick may be noticed without putting the later ones off. -/
def tickSlack : Duration := .ofMillis 5

/-- The time of the tick after one that was due and is noticed now. -/
def nextTick (interval : Duration) (due now : Instant) : Instant :=
  if due + tickSlack < now then now + interval else due + interval

end SymbolSearch
