import ClusterRest.Text.PrintableTable

/-! Quoted text for messages: invisible characters are shown by escapes. -/

namespace ClusterRest.Text

/-- The hexadecimal digits of a number, without leading zeros. -/
def hexOfNat (number : Nat) : String := String.ofList (Nat.toDigits 16 number)

private def escapeByCode (character : Char) : String := "\\u\x7b" ++ hexOfNat character.toNat ++ "\x7d"

/-- One character inside quotes. A grapheme extension is shown by number only where it would attach
to the opening quote. -/
def quoteChar (isFirst : Bool) (character : Char) : String :=
  match character with
  | '\x00' => "\\0"
  | '\t' => "\\t"
  | '\r' => "\\r"
  | '\n' => "\\n"
  | '\\' => "\\\\"
  | '"' => "\\\""
  | _ =>
    if ' ' ≤ character && character ≤ '~' then String.singleton character
    else if (isFirst && graphemeExtend.has character) || unprintable.has character then
      escapeByCode character
    else String.singleton character

def quoteChars : Bool → List Char → String
  | _, [] => ""
  | isFirst, character :: rest => quoteChar isFirst character ++ quoteChars false rest

/-- A text in double quotes, with escapes. -/
def quote (text : String) : String := "\"" ++ quoteChars true text.toList ++ "\""

end ClusterRest.Text
