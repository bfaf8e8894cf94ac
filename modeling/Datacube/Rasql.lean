import Datacube.Number.Integer

-- Terms of the array query language that expressions are compiled to, and their text.
namespace Datacube.Rasql

structure Interval where
  lo : Int
  hi : Int
deriving DecidableEq, Repr

-- What a subscript does to one axis: keep it, narrow it, or take it away at one position.
inductive Index where
  | all
  | range (interval : Interval)
  | point (position : Int)
deriving DecidableEq, Repr

mutual

-- A term is an array or a single value.
inductive Term where
  | iterator (name : String)
  | constant (text : String)
  | quoted (text : String)
  | axisVariable (name : String)
  | array (domain : List Interval) (values : List String)
  | generate (ranges : List (String × Interval)) (body : Term)
  | apply (function : String) (argument : Term)
  | condense (function : String) (argument : Term)
  | bit (argument : Term) (index : Int)
  | cast (target : String) (argument : Term)
  | select (argument : Term) (field : String)
  | record (components : Components)
  | operation (operator : String) (left right : Term)
  | switch (branches : Branches)
  | scale (argument : Term) (domain : List Interval)
  | extend (argument : Term) (domain : List Interval)
  | subscript (argument : Term) (indices : List Index)

inductive Components where
  | one (component : Term)
  | more (component : Term) (rest : Components)

inductive Branches where
  | otherwise (result : Term)
  | when (condition result : Term) (rest : Branches)

end

def Interval.text (i : Interval) : String :=
  Number.intText i.lo ++ ":" ++ Number.intText i.hi

def Index.text : Index → String
  | all => "*:*"
  | range interval => interval.text
  | point position => Number.intText position

def domainText (domain : List Interval) : String :=
  "[" ++ ",".intercalate (domain.map Interval.text) ++ "]"

def rangeText (var : String) (interval : Interval) : String :=
  var ++ " in [" ++ interval.text ++ "]"

mutual

def Term.text : Term → String
  | .iterator name => name
  | .constant text => text
  | .quoted text => "\"" ++ text ++ "\""
  | .axisVariable name => name
  | .array domain values => "<" ++ domainText domain ++ " " ++ ", ".intercalate values ++ ">"
  | .generate ranges body =>
    "marray " ++ ", ".intercalate (ranges.map fun (v, i) => rangeText v i) ++ " values " ++
      body.text
  | .apply function argument => function ++ "(" ++ argument.text ++ ")"
  | .condense function argument => function ++ "(" ++ argument.text ++ ")"
  | .bit argument index => "bit(" ++ argument.text ++ ", " ++ Number.intText index ++ ")"
  | .cast target argument => "(" ++ target ++ ")(" ++ argument.text ++ ")"
  | .select argument field => "(" ++ argument.text ++ ")." ++ field
  | .record components => "\x7b " ++ components.text ++ " \x7d"
  | .operation operator left right =>
    "(" ++ left.text ++ " " ++ operator ++ " " ++ right.text ++ ")"
  | .switch branches => "case " ++ branches.text ++ " end"
  | .scale argument domain => "scale(" ++ argument.text ++ ", " ++ domainText domain ++ ")"
  | .extend argument domain => "extend(" ++ argument.text ++ ", " ++ domainText domain ++ ")"
  | .subscript argument indices =>
    "(" ++ argument.text ++ ")[" ++ ",".intercalate (indices.map Index.text) ++ "]"

def Components.text : Components → String
  | .one component => component.text
  | .more component rest => component.text ++ ", " ++ rest.text

def Branches.text : Branches → String
  | .otherwise result => "else " ++ result.text
  | .when condition result rest =>
    "when " ++ condition.text ++ " then " ++ result.text ++ " " ++ rest.text

end

end Datacube.Rasql
