import Workflow.Unicode.Category
import Workflow.Unicode.Script
import Workflow.Unicode.ScriptExtension
import Workflow.Unicode.Property
import Workflow.Unicode.Age
import Workflow.Unicode.Segmentation

/-!
# Named classes of characters

A class is asked for by one name (a property, a general category or a script, in this order) or
by a property and a value. Names are compared loosely: case, blanks, hyphens and underscores do
not count, nor does a leading `is`.

The classes that patterns can name follow version 16 of the standard. What counts as a letter or a
number in a name, and what shows in quoted text, follows version 17, which takes nothing away from
these classes; the tables of what it adds stand beside them.
-/

namespace Workflow.Unicode

/-! ## Loose names -/

/-- What is left of a name when case, blanks, hyphens, underscores and everything outside
ASCII is passed over. -/
def looseChars : List Char → List Char
  | [] => []
  | c :: rest =>
    if c = ' ' ∨ c = '_' ∨ c = '-' ∨ 0x7F < c.toNat then looseChars rest
    else c.toLower :: looseChars rest

/-- The form in which names are compared. A leading `is` is dropped, except from `isc`, which is
a name of its own. -/
def looseName (name : String) : String :=
  match name.toList with
  | a :: b :: rest =>
    if a.toLower = 'i' ∧ b.toLower = 's' then
      let tail := looseChars rest
      if tail = ['c'] then "isc" else String.ofList tail
    else String.ofList (looseChars (a :: b :: rest))
  | short => String.ofList (looseChars short)

/-! ## Tables -/

/-- Categories with their unions, later entries first. -/
def allCategories : List Entry := (categories ++ categoryGroups).reverse

/-- Properties, the categories they build on, and nothing else, later entries first. -/
def allProperties : List Entry := properties.reverse ++ allCategories

/-- The set of a general category, or of one of the three names that are treated as one. -/
def category? (name : String) : Option CharSet :=
  if name = "any" then some CharSet.all
  else if name = "ascii" then some CharSet.ascii
  else if name = "assigned" then (lookup allCategories "cn").map CharSet.complement
  else lookup allCategories name

/-- The set of a yes-or-no property. -/
def property? (name : String) : Option CharSet :=
  if properties.any fun entry => entry.names.contains name then lookup allProperties name
  else none

/-- The set of a script. -/
def script? (name : String) : Option CharSet := lookup scripts name

/-- The characters used to write a script. -/
def scriptExtension? (name : String) : Option CharSet :=
  lookup (scriptExtensions.reverse ++ scripts) name |>.bind fun own =>
    if scriptExtensions.any fun entry => entry.names.contains name then some own else none

/-- The characters assigned by the end of a version. -/
def assignedBy (name : String) : List Entry → Option CharSet
  | [] => none
  | entry :: later =>
    if entry.names.contains name then some (entry.set [])
    else (assignedBy name later).map (entry.set []).union

/-- The set of a property's value, where the property has values. -/
def value? (property value : String) : Option CharSet :=
  if property = "generalcategory" ∨ property = "gc" then category? value
  else if property = "script" ∨ property = "sc" then script? value
  else if property = "scriptextensions" ∨ property = "scx" then scriptExtension? value
  else if property = "age" then assignedBy value ages
  else if property = "graphemeclusterbreak" ∨ property = "gcb" then lookup graphemeBreaks value
  else if property = "wordbreak" ∨ property = "wb" then lookup wordBreaks value
  else if property = "sentencebreak" ∨ property = "sb" then lookup sentenceBreaks value
  else none

/-- The class with a name. -/
def named? (name : String) : Option CharSet :=
  let loose := looseName name
  (property? loose).or ((category? loose).or (script? loose))

/-- The class of a property's value. -/
def valued? (property value : String) : Option CharSet :=
  value? (looseName property) (looseName value)

/-! ## Classes in constant use -/

/-- The union of the classes with the given names. -/
def unionOf (names : List String) : CharSet :=
  (names.filterMap named?).foldl CharSet.union CharSet.empty

/-- Decimal digits of every script. -/
def digits : CharSet := unionOf ["nd"]

/-- Blanks of every kind, line ends among them. -/
def blanks : CharSet := unionOf ["whitespace"]

/-- What words are made of: letters, marks, digits, connectors and joiners. -/
def wordChars : CharSet := unionOf ["alphabetic", "mark", "nd", "pc", "joincontrol"]

/-! ## Classes of plain text -/

/-- The letters that version 17 adds, with everything that behaves like one. -/
def addedLetters : List String := [
  "88F C5C CDC A7CE-A7CF A7D2 A7D4 A7F1 10940-10959 10EC5-10EC7 10EFA-10EFB 11B60-11B67",
  "11DB0-11DDB 16EA0-16EB8 16EBB-16ED3 16FF2-16FF6 187F8-187FF 18D09-18D1E 18D80-18DF2",
  "1E6C0-1E6DE 1E6E0-1E6F5 1E6FE-1E6FF 2B73A-2B73F 2CEA2-2CEAD 323B0-33479"]

/-- The numbers that version 17 adds. -/
def addedNumbers : List String := ["11DE0-11DE9 16FF4-16FF6"]

/-- The characters extending the one before them that version 17 adds. -/
def addedExtending : List String := [
  "1ACF-1ADD 1AE0-1AEB 10EFA-10EFB 11B60 11B62-11B64 11B66 1E6E3 1E6E6 1E6EE-1E6EF 1E6F5"]

/-- The printable characters that version 17 adds. -/
def addedPrintable : List String := [
  "88F C5C CDC 1ACF-1ADD 1AE0-1AEB 20C1 2B96 A7CE-A7CF A7D2 A7D4 A7F1 FBC3-FBD2 FD90-FD91",
  "FDC8-FDCE 10940-10959 10EC5-10EC7 10ED0-10ED8 10EFA-10EFB 11B60-11B67 11DB0-11DDB",
  "11DE0-11DE9 16EA0-16EB8 16EBB-16ED3 16FF2-16FF6 187F8-187FF 18D09-18D1E 18D80-18DF2",
  "1CCFA-1CCFC 1CEBA-1CED0 1CEE0-1CEF0 1E6C0-1E6DE 1E6E0-1E6F5 1E6FE-1E6FF 1F6D8",
  "1F777-1F77A 1F8D0-1F8D8 1FA54-1FA57 1FA8A 1FA8E 1FAC8 1FACD 1FAEA 1FAEF 1FBFA",
  "2B73A-2B73F 2CEA2-2CEAD 323B0-33479"]

/-- A class with the characters that a later version adds to it. -/
def extendedBy (lines : List String) (set : CharSet) : CharSet :=
  set.union (CharSet.ofRanges (lineRanges lines))

/-- Letters, with everything that behaves like one. -/
def alphabetic : CharSet := extendedBy addedLetters (unionOf ["alphabetic"])

/-- Numbers of every kind. -/
def numeric : CharSet := extendedBy addedNumbers (unionOf ["number"])

/-- Characters that show on a page, and the plain blank. -/
def printable : CharSet :=
  (extendedBy addedPrintable
    (unionOf ["letter", "mark", "number", "punctuation", "symbol"])).union (CharSet.single 0x20)

/-- Characters that extend the one before them. -/
def extending : CharSet := extendedBy addedExtending (unionOf ["graphemeextend"])

/-- Characters without a shape of their own, which may be left out where they are not known. -/
def ignorable : CharSet := unionOf ["defaultignorablecodepoint"]

/-- Whether a character is blank. -/
def isBlank (c : Char) : Bool := blanks.has c

end Workflow.Unicode
