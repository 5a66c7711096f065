import Parsing.Unicode.Script
import Parsing.Unicode.Segmentation

namespace Parsing.PropertyName

open Unicode

def normalize (name : List Char) : List Char :=
  let plain (cs : List Char) : List Char :=
    (cs.filter fun c => c.toNat < 128 && c ∉ [' ', '-', '_']).map Char.toLower
  match name with
  | i :: s :: rest =>
    if i ∈ ['i', 'I'] ∧ s ∈ ['s', 'S'] then
      if plain rest = ['c'] then ['i', 's', 'c'] else plain rest
    else plain name
  | _ => plain name

def categories? : String → Option (List Category)
  | "l" | "letter" => some Category.letter
  | "lc" | "casedletter" => some Category.casedLetter
  | "lu" | "uppercaseletter" => some [.uppercaseLetter]
  | "ll" | "lowercaseletter" => some [.lowercaseLetter]
  | "lt" | "titlecaseletter" => some [.titlecaseLetter]
  | "lm" | "modifierletter" => some [.modifierLetter]
  | "lo" | "otherletter" => some [.otherLetter]
  | "m" | "mark" | "combiningmark" => some Category.mark
  | "mn" | "nonspacingmark" => some [.nonspacingMark]
  | "mc" | "spacingmark" => some [.spacingMark]
  | "me" | "enclosingmark" => some [.enclosingMark]
  | "n" | "number" => some Category.number
  | "nd" | "decimalnumber" | "digit" => some [.decimalNumber]
  | "nl" | "letternumber" => some [.letterNumber]
  | "no" | "othernumber" => some [.otherNumber]
  | "p" | "punctuation" | "punct" => some Category.punctuation
  | "pc" | "connectorpunctuation" => some [.connectorPunctuation]
  | "pd" | "dashpunctuation" => some [.dashPunctuation]
  | "ps" | "openpunctuation" => some [.openPunctuation]
  | "pe" | "closepunctuation" => some [.closePunctuation]
  | "pi" | "initialpunctuation" => some [.initialPunctuation]
  | "pf" | "finalpunctuation" => some [.finalPunctuation]
  | "po" | "otherpunctuation" => some [.otherPunctuation]
  | "s" | "symbol" => some Category.symbol
  | "sm" | "mathsymbol" => some [.mathSymbol]
  | "sc" | "currencysymbol" => some [.currencySymbol]
  | "sk" | "modifiersymbol" => some [.modifierSymbol]
  | "so" | "othersymbol" => some [.otherSymbol]
  | "z" | "separator" => some Category.separator
  | "zs" | "spaceseparator" => some [.spaceSeparator]
  | "zl" | "lineseparator" => some [.lineSeparator]
  | "zp" | "paragraphseparator" => some [.paragraphSeparator]
  | "c" | "other" => some Category.other
  | "cc" | "control" | "cntrl" => some [.control]
  | "cf" | "format" => some [.format]
  | "co" | "privateuse" => some [.privateUse]
  | "cn" | "unassigned" => some [.unassigned]
  | _ => none

def generalCategory? : String → Option CharSet
  | "any" => some .any
  | "assigned" => some .assigned
  | "ascii" => some .ascii
  | name => (categories? name).map .categories

def lone? (name : List Char) : Option CharSet :=
  let name := String.ofList (normalize name)
  ((CharSet.binary? name).or (generalCategory? name)).or ((Script.find? name).map Script.own)

def valued? (name value : List Char) : Option CharSet :=
  let value := String.ofList (normalize value)
  match String.ofList (normalize name) with
  | "gc" | "generalcategory" => generalCategory? value
  | "sc" | "script" => (Script.find? value).map Script.own
  | "scx" | "scriptextensions" => (Script.find? value).map Script.extended
  | "age" => assignedBy? value
  | "gcb" | "graphemeclusterbreak" => CharSet.graphemeBreak? value
  | "wb" | "wordbreak" => CharSet.wordBreak? value
  | "sb" | "sentencebreak" => CharSet.sentenceBreak? value
  | _ => none

/-- The set of a name alone, or of a name and a value with `!=`, `:` or `=` between, and whether
what is not in it is meant. -/
def set? (text : List Char) : Option (Bool × CharSet) :=
  let upTo (c : Char) := text.takeWhile (· ≠ c)
  let past (c : Char) := (text.dropWhile (· ≠ c)).tail
  if (past '!').head? = some '=' then (valued? (upTo '!') (past '!').tail).map (true, ·)
  else if ':' ∈ text then (valued? (upTo ':') (past ':')).map (false, ·)
  else if '=' ∈ text then (valued? (upTo '=') (past '=')).map (false, ·)
  else (lone? text).map (false, ·)

end Parsing.PropertyName
