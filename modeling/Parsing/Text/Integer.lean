
namespace Parsing.Text

inductive IntegerProblem
  | empty
  | invalidDigit
  | tooLarge
  | tooSmall
  deriving DecidableEq, Repr

def IntegerProblem.message : IntegerProblem → String
  | .empty => "cannot parse integer from empty string"
  | .invalidDigit => "invalid digit found in string"
  | .tooLarge => "number too large to fit in target type"
  | .tooSmall => "number too small to fit in target type"

def largestInteger : Int := 9223372036854775807

def smallestInteger : Int := -9223372036854775808

/-- Appends digits to `n`. The first digit that leaves the range stops the reading, so a later
character that is no digit goes unnoticed. -/
def readDigits (sign : Int) : Int → List Char → Except IntegerProblem Int
  | n, [] => .ok n
  | n, c :: cs =>
    if c.isDigit then
      let m := n * 10 + sign * (c.toNat - '0'.toNat : Nat)
      if largestInteger < m then .error .tooLarge
      else if m < smallestInteger then .error .tooSmall
      else readDigits sign m cs
    else .error .invalidDigit

def readIntegerChars : List Char → Except IntegerProblem Int
  | [] => .error .empty
  | ['+'] | ['-'] => .error .invalidDigit
  | '+' :: cs => readDigits 1 0 cs
  | '-' :: cs => readDigits (-1) 0 cs
  | cs => readDigits 1 0 cs

def readInteger (s : String) : Except IntegerProblem Int := readIntegerChars s.toList

end Parsing.Text
