import PipeQuery.Unicode.Category
import PipeQuery.Unicode.Mark

/-!
# Escaped texts

Texts between double quotes for display, in which every character shows: what does not print, and what
would merge with the character before it, is written as an escape.
-/

set_option autoImplicit false

namespace PipeQuery.Unicode

def codeEscape (c : Char) : List Char :=
  "\\u\x7b".toList ++ Nat.toDigits 16 c.toNat ++ ['\x7d']

def escapedChar (c : Char) : List Char :=
  match c with
  | '"' => ['\\', '"']
  | '\\' => ['\\', '\\']
  | '\t' => ['\\', 't']
  | '\r' => ['\\', 'r']
  | '\n' => ['\\', 'n']
  | '\x00' => ['\\', '0']
  | _ => if !graphemeExtend.contains c && printable.contains c then [c] else codeEscape c

def escapedText (text : String) : String :=
  String.ofList ('"' :: (text.toList.flatMap escapedChar ++ ['"']))

end PipeQuery.Unicode
