-- Operators of coverage and scalar expressions, with the element names that stand for them and
-- their spelling in a query.
namespace Datacube.Expr

-- Functions of one argument, applied cell by cell.
inductive UnaryOp where
  | plus | minus | sqrt | abs | exp | log | ln | sin | cos | tan | sinh | cosh | tanh
  | arcsin | arccos | arctan | not | re | im
deriving DecidableEq, Repr

namespace UnaryOp

def symbol : UnaryOp → String
  | plus => "+"
  | minus => "-"
  | sqrt => "sqrt"
  | abs => "abs"
  | exp => "exp"
  | log => "log"
  | ln => "ln"
  | sin => "sin"
  | cos => "cos"
  | tan => "tan"
  | sinh => "sinh"
  | cosh => "cosh"
  | tanh => "tanh"
  | arcsin => "arcsin"
  | arccos => "arccos"
  | arctan => "arctan"
  | not => "not"
  | re => "re"
  | im => "im"

def ofTag? : String → Option UnaryOp
  | "unaryPlus" => some plus
  | "unaryMinus" => some minus
  | "sqrt" => some sqrt
  | "abs" => some abs
  | "exp" => some exp
  | "log" => some log
  | "ln" => some ln
  | "sin" => some sin
  | "cos" => some cos
  | "tan" => some tan
  | "sinh" => some sinh
  | "cosh" => some cosh
  | "tanh" => some tanh
  | "arcsin" => some arcsin
  | "arccos" => some arccos
  | "arctan" => some arctan
  | "not" => some not
  | "re" => some re
  | "im" => some im
  | _ => none

end UnaryOp

-- Operators of two operands, applied cell by cell.
inductive BinaryOp where
  | plus | minus | mult | div | and | or | xor | equals | notEqual | lessThan | greaterThan
  | lessOrEqual | greaterOrEqual | overlay
deriving DecidableEq, Repr

namespace BinaryOp

def symbol : BinaryOp → String
  | plus => "+"
  | minus => "-"
  | mult => "*"
  | div => "/"
  | and => "and"
  | or => "or"
  | xor => "xor"
  | equals => "="
  | notEqual => "!="
  | lessThan => "<"
  | greaterThan => ">"
  | lessOrEqual => "<="
  | greaterOrEqual => ">="
  | overlay => "overlay"

def ofTag? : String → Option BinaryOp
  | "plus" => some plus
  | "minus" => some minus
  | "mult" => some mult
  | "div" => some div
  | "and" => some and
  | "or" => some or
  | "xor" => some xor
  | "equals" => some equals
  | "notEqual" => some notEqual
  | "lessThan" => some lessThan
  | "greaterThan" => some greaterThan
  | "lessOrEqual" => some lessOrEqual
  | "greaterOrEqual" => some greaterOrEqual
  | "overlay" => some overlay
  | _ => none

-- Comparisons and logical operators give truth values.
def isBoolean : BinaryOp → Bool
  | plus | minus | mult | div | overlay => false
  | _ => true

end BinaryOp

inductive ScalarUnaryOp where
  | minus | sqrt | abs | not
deriving DecidableEq, Repr

namespace ScalarUnaryOp

def symbol : ScalarUnaryOp → String
  | minus => "-"
  | sqrt => "sqrt"
  | abs => "abs"
  | not => "not"

def ofTag? : String → Option ScalarUnaryOp
  | "numericUnaryMinus" => some minus
  | "numericSqrt" => some sqrt
  | "numericAbs" => some abs
  | "booleanNot" => some not
  | _ => none

end ScalarUnaryOp

inductive ScalarBinaryOp where
  | add | sub | mul | div | and | or | xor | eq | ne | lt | le | gt | ge
deriving DecidableEq, Repr

namespace ScalarBinaryOp

def symbol : ScalarBinaryOp → String
  | add => "+"
  | sub => "-"
  | mul => "*"
  | div => "/"
  | and => "and"
  | or => "or"
  | xor => "xor"
  | eq => "="
  | ne => "!="
  | lt => "<"
  | le => "<="
  | gt => ">"
  | ge => ">="

def ofTag? : String → Option ScalarBinaryOp
  | "numericAdd" => some add
  | "numericMinus" => some sub
  | "numericMult" => some mul
  | "numericDiv" => some div
  | "booleanAnd" => some and
  | "booleanOr" => some or
  | "booleanXor" => some xor
  | "booleanEqualNumeric" => some eq
  | "booleanNotEqualNumeric" => some ne
  | "booleanLessThan" => some lt
  | "booleanLessOrEqual" => some le
  | "booleanGreaterThan" => some gt
  | "booleanGreaterOrEqual" => some ge
  | _ => none

end ScalarBinaryOp

-- Condensers make one value of all cells.
inductive CondenseOp where
  | count | add | avg | min | max | some | all
deriving DecidableEq, Repr

namespace CondenseOp

def function : CondenseOp → String
  | count => "count_cells"
  | add => "add_cells"
  | avg => "avg_cells"
  | min => "min_cells"
  | max => "max_cells"
  | some => "some_cells"
  | all => "all_cells"

def ofTag? : String → Option CondenseOp
  | "count" => Option.some count
  | "add" => Option.some add
  | "avg" => Option.some avg
  | "min" => Option.some min
  | "max" => Option.some max
  | "some" => Option.some some
  | "all" => Option.some all
  | _ => none

end CondenseOp

-- What a subset operation does to an axis.
inductive SubsetOp where
  | trim | extend | slice
deriving DecidableEq, Repr

def SubsetOp.ofTag? : String → Option SubsetOp
  | "trim" => some trim
  | "extend" => some extend
  | "slice" => some slice
  | _ => none

end Datacube.Expr
