
namespace Parsing

inductive RegexProblem
  | groupUnclosed
  | groupUnopened
  | groupName
  | flag
  | lookAround
  | backreference
  | repetitionMissing
  | repetitionCount
  | escape
  | codePoint
  | wordBoundary
  | property
  | classUnclosed
  | classItem
  | classRange
  | notUnicode
  | tooDeep
  | tooLarge
  deriving DecidableEq, Repr

def RegexProblem.message : RegexProblem → String
  | .groupUnclosed => "unclosed group"
  | .groupUnopened => "unopened group"
  | .groupName => "invalid group name"
  | .flag => "invalid flags"
  | .lookAround => "look-around is not supported"
  | .backreference => "backreferences are not supported"
  | .repetitionMissing => "repetition of nothing"
  | .repetitionCount => "invalid repetition count"
  | .escape => "unknown escape"
  | .codePoint => "no such code point"
  | .wordBoundary => "invalid word boundary"
  | .property => "no such character property"
  | .classUnclosed => "unclosed character class"
  | .classItem => "not a class item"
  | .classRange => "invalid class range"
  | .notUnicode => "matches outside of Unicode text"
  | .tooDeep => "nested too deeply"
  | .tooLarge => "pattern is too large"

end Parsing
