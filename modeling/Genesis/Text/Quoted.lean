import Genesis.Text.Printable

/-!
# Quoted text

A quoted text stands between double quotes on one line. Quotes, backslashes and a few controls have
short escapes; every other character that does not show as it is stands by its code point.
-/

namespace Genesis
namespace Text

/-- A backslash, the letter `u` and the code point in lower-case hexadecimal within braces. -/
def codeEscape (c : Char) : List Char :=
  '\\' :: 'u' :: '\x7b' :: (Nat.toDigits 16 c.toNat ++ ['\x7d'])

def quotedChar (c : Char) : List Char :=
  match c with
  | '"' => ['\\', '"']
  | '\\' => ['\\', '\\']
  | '\t' => ['\\', 't']
  | '\r' => ['\\', 'r']
  | '\n' => ['\\', 'n']
  | '\x00' => ['\\', '0']
  | c => if isPrintable c then [c] else codeEscape c

def quote (s : List Char) : List Char := '"' :: (s.flatMap quotedChar ++ ['"'])

end Text
end Genesis
