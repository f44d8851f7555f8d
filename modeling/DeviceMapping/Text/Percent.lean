/-
**Percent escapes.**

A percent sign and two hexadecimal digits stand for a byte, any other character for the bytes of
itself; a text is what all the bytes encode, if they encode one. Parameters are written as names and
values with `=` between the two and `&` between the pairs.
-/

import DeviceMapping.Text.Digit

namespace DeviceMapping.Percent

/-- The bytes that characters stand for. -/
def bytes : List Char → List UInt8
  | '%' :: high :: low :: rest =>
    match readBase? 16 [high, low] with
    | some byte => UInt8.ofNat byte :: bytes rest
    | none => 37 :: bytes (high :: low :: rest)
  | c :: rest => (String.singleton c).toUTF8.toList ++ bytes rest
  | [] => []

/-- The text that characters stand for. -/
def decode? (characters : List Char) : Option String :=
  String.fromUTF8? ⟨(bytes characters).toArray⟩

/-- What stands before the first separator, and what stands behind it. -/
def cut (separator : Char) (characters : List Char) : List Char × List Char :=
  (characters.takeWhile (· != separator), (characters.dropWhile (· != separator)).drop 1)

/-- The parameters of a text, each with its name and its value; empty ones do not count. -/
def parameters? (characters : List Char) : Option (List (String × String)) :=
  (((String.ofList characters).splitOn "&").filter (· != "")).mapM fun part => do
    let (name, value) := cut '=' part.toList
    some (← decode? name, ← decode? value)

end DeviceMapping.Percent
