/-!
# Upper-case hexadecimal

Addresses, words and bytes are written with at least a given number of upper-case digits.
-/

namespace Genesis
namespace Text

def hex (width n : Nat) : String :=
  let digits := (Nat.toDigits 16 n).map Char.toUpper
  String.ofList (List.replicate (width - digits.length) '0' ++ digits)

end Text
end Genesis
