import SqlRecords.Text.Numeral

/-!
# Durations

The form in which a description shows a time limit: whole seconds with as few places as it takes,
or whole milliseconds below one second.
-/

namespace SqlRecords.Duration

/-- The places after the point of `milliseconds % 1000`, without zeros at the end. -/
def places (milliseconds : Nat) : List Char :=
  (((Numeral.padded 3 (milliseconds % 1000)).reverse).dropWhile (· = '0')).reverse

/-- A duration in the largest unit that it fills. -/
def describe (milliseconds : Nat) : String :=
  if milliseconds = 0 then "0ns"
  else if milliseconds < 1000 then Numeral.natText milliseconds ++ "ms"
  else
    Numeral.natText (milliseconds / 1000) ++
      (if milliseconds % 1000 = 0 then "" else "." ++ String.ofList (places milliseconds)) ++ "s"

example : describe 1050 = "1.05s" := by decide +kernel

end SqlRecords.Duration
