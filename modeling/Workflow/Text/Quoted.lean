import Workflow.Unicode.Class

/-!
# Quoted text

A text between double quotes, with everything that would not show escaped: the quote and the
backslash by a backslash, the common control characters by a letter, and any other character
that is not printable, or that would attach itself to the one before it, by its code point.
-/

namespace Workflow.Text

/-- The letter that stands for a control character after a backslash. -/
def escapeLetter? (c : Char) : Option Char :=
  if c = '\x00' then some '0'
  else if c = '\t' then some 't'
  else if c = '\r' then some 'r'
  else if c = '\n' then some 'n'
  else if c = '"' then some '"'
  else if c = '\\' then some '\\'
  else none

/-- The voicing marks of halfwidth kana. They extend the letter before them and still take a place
of their own. -/
def voicingMarks : CharSet := CharSet.range 0xFF9E 0xFF9F

/-- Whether a character is written as it is: it is printable, has a shape, and stands on its
own. -/
def shows (c : Char) : Bool :=
  Unicode.printable.has c && !Unicode.ignorable.has c &&
    (!Unicode.extending.has c || voicingMarks.has c)

/-- A character in its quoted form. -/
def quoteChar (c : Char) : List Char :=
  match escapeLetter? c with
  | some letter => ['\\', letter]
  | none =>
    if shows c then [c]
    else ['\\', 'u', '\x7b'] ++ Nat.toDigits 16 c.toNat ++ ['\x7d']

/-- A text in its quoted form. -/
def quote (text : String) : String :=
  String.ofList ('"' :: text.toList.flatMap quoteChar ++ ['"'])

end Workflow.Text
