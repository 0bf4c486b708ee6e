import ClauseTx.Text.Property

/-!
# Quoted text for diagnostics

A diagnostic shows a character or a text between quotes, with everything
escaped that would not show as itself: the quote in use, the backslash,
controls, and characters that have no glyph of their own.
-/

namespace ClauseTx.Text.Quoted

/-- One character between quotes of a kind. -/
def escape (quote c : Char) : String :=
  match c with
  | '\x00' => "\\0"
  | '\t' => "\\t"
  | '\r' => "\\r"
  | '\n' => "\\n"
  | '\\' => "\\\\"
  | _ =>
    if c = quote then String.ofList ['\\', c]
    else if isPrintable c && !isExtender c then String.singleton c
    else "\\u\x7b" ++ hexadecimal c.toNat ++ "\x7d"

/-- A character between single quotes. -/
def char (c : Char) : String :=
  "'" ++ escape '\'' c ++ "'"

/-- A text between double quotes. -/
def text (s : String) : String :=
  "\"" ++ String.join (s.toList.map (escape '"')) ++ "\""

end ClauseTx.Text.Quoted
