/-
  Quoted text.

  A quoted text stands between double quotes. A quote and a
  backslash are escaped by a backslash, the usual controls
  by a letter, and every other control character by its
  number.

  Key definitions include:
    * `Quoted.escape`
    * `Quoted.quote`
-/

------------------------------------------------------------
-- Quoting
------------------------------------------------------------

namespace Scriptlet

namespace Quoted

/- A control character, that is one that is not shown. -/
def isControl
    (char : Char) :
    Bool :=
  char.toNat < 0x20 ||
    (0x7f ≤ char.toNat && char.toNat < 0xa0)

/- One character between quotes. -/
def escape
    (char : Char) :
    List Char :=
  if char = '"' then ['\\', '"']
  else if char = '\\' then ['\\', '\\']
  else if char = '\n' then ['\\', 'n']
  else if char = '\t' then ['\\', 't']
  else if char = '\r' then ['\\', 'r']
  else if char.toNat = 0 then ['\\', '0']
  else if isControl char then
    ['\\', 'u', '\x7b']
      ++ Nat.toDigits 16 char.toNat ++ ['\x7d']
  else [char]

/- A text between quotes. -/
def quote
    (text : String) :
    String :=
  String.ofList
    (['"'] ++ text.toList.flatMap escape ++ ['"'])

end Quoted

end Scriptlet
