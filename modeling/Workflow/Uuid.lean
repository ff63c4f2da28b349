/-!
# Identifiers

An identifier is 32 hexadecimal digits. It is written in lower case with hyphens after the
eighth, twelfth, sixteenth and twentieth digit, and read in that form, without hyphens, between
braces, or behind `urn:uuid:`.
-/

namespace Workflow

/-- An identifier of 128 bits. -/
structure Uuid where
  digits : List (Fin 16)
  size_eq : digits.length = 32
deriving DecidableEq, Repr

namespace Uuid

/-- The lowest `count` hexadecimal digits of a number, leading digit first. -/
def digitsOf (n : Nat) : (count : Nat) → List (Fin 16)
  | 0 => []
  | count + 1 => digitsOf (n / 16) count ++ [⟨n % 16, Nat.mod_lt n (by decide)⟩]

theorem length_digitsOf (n count : Nat) : (digitsOf n count).length = count := by
  induction count generalizing n with
  | zero => rfl
  | succ count ih => simp [digitsOf, ih]

/-- The identifier with the lowest 128 bits of a number. -/
def ofNat (n : Nat) : Uuid := ⟨digitsOf n 32, length_digitsOf n 32⟩

instance : Inhabited Uuid := ⟨ofNat 0⟩

/-! ## Text -/

/-- The sixteen digits in order. -/
def alphabet : List Char :=
  ['0', '1', '2', '3', '4', '5', '6', '7', '8', '9', 'a', 'b', 'c', 'd', 'e', 'f']

/-- The character of a digit. -/
def digitChar (d : Fin 16) : Char := alphabet.get d

/-- The digit that a character of either case stands for. -/
def digit? (c : Char) : Option (Fin 16) :=
  (alphabet.finIdxOf? c.toLower).map fun i => i

/-- The written form. -/
def chars (id : Uuid) : List Char :=
  let all := id.digits.map digitChar
  all.take 8 ++ '-' :: ((all.drop 8).take 4 ++ '-' :: ((all.drop 12).take 4 ++
    '-' :: ((all.drop 16).take 4 ++ '-' :: all.drop 20)))

/-- The written form. -/
def text (id : Uuid) : String := String.ofList id.chars

/-- The identifier that exactly 32 digits write. -/
def ofDigits? (chars : List Char) : Option Uuid :=
  (chars.mapM digit?).bind fun digits =>
    if h : digits.length = 32 then some ⟨digits, h⟩ else none

/-- Takes out the hyphens of the written form, if they stand where they should. -/
def unhyphen? (chars : List Char) : Option (List Char) :=
  if chars.length = 36 ∧ chars[8]? = some '-' ∧ chars[13]? = some '-' ∧ chars[18]? = some '-' ∧
      chars[23]? = some '-' then
    some (chars.take 8 ++ (chars.drop 9).take 4 ++ (chars.drop 14).take 4 ++
      (chars.drop 19).take 4 ++ chars.drop 24)
  else none

/-- The prefix of the form as a name, in any case. -/
def urn : List Char := ['u', 'r', 'n', ':', 'u', 'u', 'i', 'd', ':']

/-- The written form inside its wrapping, if it has one. -/
def unwrap (chars : List Char) : List Char :=
  if (chars.take 9).map Char.toLower = urn then chars.drop 9
  else if chars.head? = some '\x7b' ∧ chars.getLast? = some '\x7d' then chars.tail.dropLast
  else chars

/-- Reads an identifier. Without hyphens it stands alone. -/
def ofChars? (chars : List Char) : Option Uuid :=
  if chars.length = 32 then ofDigits? chars
  else (unhyphen? (unwrap chars)).bind ofDigits?

/-- Reads an identifier. -/
def ofText? (text : String) : Option Uuid := ofChars? text.toList

end Uuid

end Workflow
