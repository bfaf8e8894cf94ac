import Datacube.Expr.Operator
import Mathlib.Tactic.Common

-- The element name that stands for each operator. Reading a name as an operator is the inverse.
namespace Datacube.Expr

def UnaryOp.tag : UnaryOp → String
  | plus => "unaryPlus"
  | minus => "unaryMinus"
  | sqrt => "sqrt"
  | abs => "abs"
  | exp => "exp"
  | log => "log"
  | ln => "ln"
  | sin => "sin"
  | cos => "cos"
  | tan => "tan"
  | sinh => "sinh"
  | cosh => "cosh"
  | tanh => "tanh"
  | arcsin => "arcsin"
  | arccos => "arccos"
  | arctan => "arctan"
  | not => "not"
  | re => "re"
  | im => "im"

theorem UnaryOp.ofTag?_eq_some_iff {tag : String} {op : UnaryOp} :
    ofTag? tag = some op ↔ tag = op.tag := by
  constructor
  · intro h
    unfold ofTag? at h
    split at h <;> cases h <;> rfl
  · rintro rfl
    cases op <;> rfl

def BinaryOp.tag : BinaryOp → String
  | plus => "plus"
  | minus => "minus"
  | mult => "mult"
  | div => "div"
  | and => "and"
  | or => "or"
  | xor => "xor"
  | equals => "equals"
  | notEqual => "notEqual"
  | lessThan => "lessThan"
  | greaterThan => "greaterThan"
  | lessOrEqual => "lessOrEqual"
  | greaterOrEqual => "greaterOrEqual"
  | overlay => "overlay"

theorem BinaryOp.ofTag?_eq_some_iff {tag : String} {op : BinaryOp} :
    ofTag? tag = some op ↔ tag = op.tag := by
  constructor
  · intro h
    unfold ofTag? at h
    split at h <;> cases h <;> rfl
  · rintro rfl
    cases op <;> rfl

def ScalarUnaryOp.tag : ScalarUnaryOp → String
  | minus => "numericUnaryMinus"
  | sqrt => "numericSqrt"
  | abs => "numericAbs"
  | not => "booleanNot"

theorem ScalarUnaryOp.ofTag?_eq_some_iff {tag : String} {op : ScalarUnaryOp} :
    ofTag? tag = some op ↔ tag = op.tag := by
  constructor
  · intro h
    unfold ofTag? at h
    split at h <;> cases h <;> rfl
  · rintro rfl
    cases op <;> rfl

def ScalarBinaryOp.tag : ScalarBinaryOp → String
  | add => "numericAdd"
  | sub => "numericMinus"
  | mul => "numericMult"
  | div => "numericDiv"
  | and => "booleanAnd"
  | or => "booleanOr"
  | xor => "booleanXor"
  | eq => "booleanEqualNumeric"
  | ne => "booleanNotEqualNumeric"
  | lt => "booleanLessThan"
  | le => "booleanLessOrEqual"
  | gt => "booleanGreaterThan"
  | ge => "booleanGreaterOrEqual"

theorem ScalarBinaryOp.ofTag?_eq_some_iff {tag : String} {op : ScalarBinaryOp} :
    ofTag? tag = some op ↔ tag = op.tag := by
  constructor
  · intro h
    unfold ofTag? at h
    split at h <;> cases h <;> rfl
  · rintro rfl
    cases op <;> rfl

def CondenseOp.tag : CondenseOp → String
  | count => "count"
  | add => "add"
  | avg => "avg"
  | min => "min"
  | max => "max"
  | some => "some"
  | all => "all"

theorem CondenseOp.ofTag?_eq_some_iff {tag : String} {op : CondenseOp} :
    ofTag? tag = Option.some op ↔ tag = op.tag := by
  constructor
  · intro h
    unfold ofTag? at h
    split at h <;> cases h <;> rfl
  · rintro rfl
    cases op <;> rfl

def SubsetOp.tag : SubsetOp → String
  | trim => "trim"
  | extend => "extend"
  | slice => "slice"

theorem SubsetOp.ofTag?_eq_some_iff {tag : String} {op : SubsetOp} :
    ofTag? tag = some op ↔ tag = op.tag := by
  constructor
  · intro h
    unfold ofTag? at h
    split at h <;> cases h <;> rfl
  · rintro rfl
    cases op <;> rfl

end Datacube.Expr
