/-
  ConnPool.Text.Quoted

  Texts in double quotes, in ink that can be read: quotes, backslashes and the
  usual control characters have short escapes, and every other character that
  cannot be shown as it is stands as its code.
-/

import ConnPool.Text.Printable

namespace ConnPool
namespace Text

/-- A number in hexadecimal, in lower case. -/
def hex (n : Nat) : List Char :=
  Nat.toDigits 16 n

/-- A character between double quotes. -/
def quotedChar (c : Char) : List Char :=
  match c with
  | '\x00' => ['\\', '0']
  | '\t' => ['\\', 't']
  | '\n' => ['\\', 'n']
  | '\r' => ['\\', 'r']
  | '"' => ['\\', '"']
  | '\\' => ['\\', '\\']
  | c =>
    if isPrintable c then [c]
    else ['\\', 'u', '\x7b'] ++ hex c.toNat ++ ['\x7d']

/-- A text in double quotes. -/
def quoted (text : String) : String :=
  String.ofList ('"' :: text.toList.flatMap quotedChar ++ ['"'])

/-- Escapes, a character shown as it is, and one written as its code. -/
example : quoted "a\"\n\u00e9\u00a0" = "\"a\\\"\\né\\u\x7ba0\x7d\"" := by decide +kernel

end Text
end ConnPool
