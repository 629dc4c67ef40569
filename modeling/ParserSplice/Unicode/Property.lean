import ParserSplice.Unicode.Age
import ParserSplice.Unicode.DerivedProperty
import ParserSplice.Unicode.GraphemeBreak
import ParserSplice.Unicode.ScriptExtension
import ParserSplice.Unicode.SentenceBreak
import ParserSplice.Unicode.WordBreak

set_option autoImplicit false

-- Unicode properties by name, as of version 16.0. Names are compared without regard to case,
-- blanks, underscores, hyphens and a leading `is`. A name alone denotes a property that a code
-- point has or has not, a general category or a script; a name with a value denotes the code points
-- for which a property has that value.

namespace ParserSplice.Unicode

/-- A name in the form in which names are compared. -/
def normalizedName (name : List Char) : String :=
  let (start, marked) := match name with
    | a :: b :: rest => if a.toLower = 'i' ∧ b.toLower = 's' then (rest, true) else (name, false)
    | _ => (name, false)
  let kept := (start.filter (fun c =>
    c != ' ' && c != '_' && c != '-' && decide (c.toNat < 128))).map Char.toLower
  if marked && kept == ['c'] then "isc" else String.ofList kept

def categories? (name : String) : Option (List GeneralCategory) :=
  let letters : List GeneralCategory :=
    [.uppercaseLetter, .lowercaseLetter, .titlecaseLetter, .modifierLetter, .otherLetter]
  let marks : List GeneralCategory := [.nonspacingMark, .spacingMark, .enclosingMark]
  let numbers : List GeneralCategory := [.decimalNumber, .letterNumber, .otherNumber]
  let punctuation : List GeneralCategory :=
    [.connectorPunctuation, .dashPunctuation, .openPunctuation, .closePunctuation,
      .initialPunctuation, .finalPunctuation, .otherPunctuation]
  let symbols : List GeneralCategory :=
    [.mathSymbol, .currencySymbol, .modifierSymbol, .otherSymbol]
  let separators : List GeneralCategory := [.spaceSeparator, .lineSeparator, .paragraphSeparator]
  let groups : List (String × List GeneralCategory) :=
    [("l", letters), ("letter", letters), ("lc", letters.take 3), ("casedletter", letters.take 3),
      ("m", marks), ("mark", marks), ("combiningmark", marks), ("n", numbers), ("number", numbers),
      ("p", punctuation), ("punctuation", punctuation), ("punct", punctuation), ("s", symbols),
      ("symbol", symbols), ("z", separators), ("separator", separators),
      ("digit", [.decimalNumber]), ("cntrl", [.control])]
  match groups.lookup name with
  | some found => some found
  | none =>
    (GeneralCategory.all.find? (fun c => c.abbreviation == name || c.name == name)).map
      (fun c => [c])

/-- The code points of a general category or of a group of categories. -/
def category? (name : String) : Option RangeSet :=
  if name = "any" then some scalars.set
  else if name = "assigned" then some (inCategories GeneralCategory.all)
  else if name = "ascii" then some (RangeSet.interval 0 127)
  else if name = "cn" ∨ name = "unassigned" then some unassigned.set
  else if name = "c" ∨ name = "other" then
    some (unassigned + .categories [.control, .format, .privateUse]).set
  else (categories? name).map inCategories

/-- The code points with a property that a code point has or has not. -/
def property? (name : String) : Option RangeSet :=
  ((TabledProperty.all.find? (fun p => p.names.contains name)).map TabledProperty.set).orElse
    (fun _ =>
      (DerivedProperty.all.find? (fun p => p.names.contains name)).map (fun p => p.expr.set))

/-- The code points that a name alone denotes. -/
def named? (name : List Char) : Option RangeSet :=
  let name := normalizedName name
  (property? name).orElse (fun _ => (category? name).orElse (fun _ => script? name))

/-- The code points that a name with a value denotes. -/
def valued? (name value : List Char) : Option RangeSet :=
  let value := normalizedName value
  match normalizedName name with
  | "generalcategory" | "gc" => category? value
  | "script" | "sc" => script? value
  | "scriptextensions" | "scx" => scriptExtension? value
  | "age" => age? value
  | "graphemeclusterbreak" | "gcb" =>
    (GraphemeBreak.all.find? (fun v => v.names.contains value)).map (fun v => v.expr.set)
  | "wordbreak" | "wb" =>
    (WordBreak.all.find? (fun v => v.names.contains value)).map (fun v => v.expr.set)
  | "sentencebreak" | "sb" =>
    (SentenceBreak.all.find? (fun v => v.names.contains value)).map (fun v => v.expr.set)
  | _ => none

def digits : RangeSet := GeneralCategory.decimalNumber.set

/-- Code points that words are made of. -/
def wordChars : RangeSet :=
  (alphabetic + .tabled .joinControl +
    .categories [.nonspacingMark, .spacingMark, .enclosingMark, .decimalNumber,
      .connectorPunctuation]).set

end ParserSplice.Unicode
