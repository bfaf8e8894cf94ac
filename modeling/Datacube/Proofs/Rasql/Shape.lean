import Datacube.Rasql

-- What a query term evaluates to, read off the term alone: a single value, or an array over the
-- domain that its text denotes.
namespace Datacube.Rasql

inductive Shape where
  | value
  | array (domain : List Interval)
deriving DecidableEq, Repr

-- Operands of one operation: values go with everything, arrays with arrays over the same domain.
def Shape.join : Shape → Shape → Option Shape
  | .value, b => some b
  | .array domain, .value => some (.array domain)
  | .array domain, .array other => if domain = other then some (.array domain) else none

def Shape.domain? : Shape → Option (List Interval)
  | .value => none
  | .array domain => some domain

-- A subscript has an index for every axis. A position takes its axis away.
def subscriptDomain : List Interval → List Index → Option (List Interval)
  | [], [] => some []
  | interval :: domain, .all :: indices => (subscriptDomain domain indices).map (interval :: ·)
  | _ :: domain, .range interval :: indices => (subscriptDomain domain indices).map (interval :: ·)
  | _ :: domain, .point _ :: indices => subscriptDomain domain indices
  | _, _ => none

mutual

-- The shape of a term, if it has one, over the domains of its iterators.
def Term.shape (domains : String → Option (List Interval)) : Term → Option Shape
  | .iterator name => (domains name).map .array
  | .constant _ => some .value
  | .quoted _ => some .value
  | .axisVariable _ => some .value
  | .array domain _ => some (.array domain)
  | .generate ranges body => do
    let _ ← body.shape domains
    return .array (ranges.map (·.2))
  | .apply _ argument => argument.shape domains
  | .condense _ argument => do
    let _ ← (← argument.shape domains).domain?
    return .value
  | .bit argument _ => argument.shape domains
  | .cast _ argument => argument.shape domains
  | .select argument _ => argument.shape domains
  | .record components => components.shape domains
  | .operation _ left right => do (← left.shape domains).join (← right.shape domains)
  | .switch branches => branches.shape domains
  | .scale argument domain => do
    let _ ← (← argument.shape domains).domain?
    return .array domain
  | .extend argument domain => do
    let _ ← (← argument.shape domains).domain?
    return .array domain
  | .subscript argument indices => do
    let domain ← (← argument.shape domains).domain?
    return .array (← subscriptDomain domain indices)

def Components.shape (domains : String → Option (List Interval)) : Components → Option Shape
  | .one component => component.shape domains
  | .more component rest => do (← component.shape domains).join (← rest.shape domains)

def Branches.shape (domains : String → Option (List Interval)) : Branches → Option Shape
  | .otherwise result => result.shape domains
  | .when condition result rest => do
    (← (← condition.shape domains).join (← result.shape domains)).join (← rest.shape domains)

end

@[simp] theorem Shape.join_self (s : Shape) : s.join s = some s := by
  cases s <;> simp [join]

@[simp] theorem Shape.join_value (s : Shape) : s.join .value = some s := by
  cases s <;> rfl

@[simp] theorem Shape.value_join (s : Shape) : Shape.value.join s = some s := by
  cases s <;> rfl

end Datacube.Rasql
