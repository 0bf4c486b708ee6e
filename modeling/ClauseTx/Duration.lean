/-!
# Time spans

A time span counts whole milliseconds.  Its text has seconds with as many
decimal places as are needed, or milliseconds when it is below one second.
-/

namespace ClauseTx

/-- A time span in milliseconds. -/
structure Duration where
  millis : Nat
deriving DecidableEq, Inhabited

namespace Duration

/-- A number of whole seconds. -/
def seconds (n : Nat) : Duration := ⟨n * 1000⟩

/-- The three decimal places of a number below one thousand, without
trailing zeros. -/
def places (n : Nat) : List Char :=
  let all := [Nat.digitChar (n / 100), Nat.digitChar (n / 10 % 10), Nat.digitChar (n % 10)]
  (all.reverse.dropWhile (· = '0')).reverse

/-- The text of a time span. -/
def text (d : Duration) : String :=
  if d.millis = 0 then "0ns"
  else if d.millis < 1000 then Nat.repr d.millis ++ "ms"
  else
    let whole := Nat.repr (d.millis / 1000)
    match places (d.millis % 1000) with
    | [] => whole ++ "s"
    | ps => whole ++ "." ++ String.ofList ps ++ "s"

end Duration

end ClauseTx
