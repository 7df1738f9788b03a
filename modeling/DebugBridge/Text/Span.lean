/-!
# Spans of time

Spans are counted in milliseconds. Their text uses the largest unit that is not a fraction of the
span, so at most three decimals stand behind the seconds.
-/

namespace DebugBridge.Text

/-- A fraction of thousandths without its trailing zeros, behind a point. -/
def thousandths (n : Nat) : String :=
  if n = 0 then ""
  else
    let digits := (Nat.toDigits 10 (1000 + n)).drop 1
    "." ++ String.ofList (digits.reverse.dropWhile (· = '0')).reverse

/-- The text of a span of so many milliseconds. -/
def span (milliseconds : Nat) : String :=
  if milliseconds = 0 then "0ns"
  else if milliseconds < 1000 then s!"{milliseconds}ms"
  else s!"{milliseconds / 1000}{thousandths (milliseconds % 1000)}s"

end DebugBridge.Text
