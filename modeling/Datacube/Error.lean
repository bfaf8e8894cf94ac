namespace Datacube

-- Why a request, a definition or a query is refused.
inductive Error where
  | invalidMetadata (locator message : String)
  | unsupportedCoverage (reason : String)
  | unknownCoverage (id : String)
  | unrecognizedConstruct (node : String)
  | unimplemented (feature : String)
  | unexpectedNode (node : String)
  | missingSwitchDefault
  | incompatibleCoverages (reason : String)
  | invalidAxis (axis message : String)
  | undefinedIterator (name : String)
  | invalidXml (reason : String)
  | invalidParameter (name message : String)
  | template (reason : String)
  | queryExecution (reason : String)
  | internal (reason : String)
deriving DecidableEq, Repr

abbrev Result := Except Error

namespace Error

def message : Error → String
  | invalidMetadata locator message => "Invalid metadata for '" ++ locator ++ "': " ++ message
  | unsupportedCoverage reason => "Unsupported coverage configuration: " ++ reason
  | unknownCoverage id => "Metadata for coverage '" ++ id ++ "' is not valid"
  | unrecognizedConstruct node => "Invalid coverage expression, next node: " ++ node
  | unimplemented feature => "Method not implemented: " ++ feature
  | unexpectedNode node => "Unexpected node: " ++ node
  | missingSwitchDefault => "Switch expression is missing its default case"
  | incompatibleCoverages reason => "Incompatible coverages: " ++ reason
  | invalidAxis axis message => "Unknown axis '" ++ axis ++ "': " ++ message
  | undefinedIterator name => "Iterator '" ++ name ++ "' not defined"
  | invalidXml reason => "Invalid XML: " ++ reason
  | invalidParameter name message => "Invalid parameter value for '" ++ name ++ "': " ++ message
  | template reason => "Template error: " ++ reason
  | queryExecution reason => "Query execution failed: " ++ reason
  | internal reason => "Internal error: " ++ reason

-- The exception code that a report carries.
def code : Error → String
  | invalidMetadata .. => "InvalidMetadata"
  | unsupportedCoverage _ => "UnsupportedCoverageConfiguration"
  | unknownCoverage _ => "NoApplicableCode"
  | unrecognizedConstruct _ | unexpectedNode _ | missingSwitchDefault | invalidXml _ =>
    "XmlNotValid"
  | unimplemented _ => "OperationNotSupported"
  | invalidAxis .. => "InvalidAxisLabel"
  | invalidParameter .. | undefinedIterator _ => "InvalidParameterValue"
  | incompatibleCoverages _ => "InvalidRequest"
  | template _ | queryExecution _ | internal _ => "NoApplicableCode"

-- The axis, coverage, parameter or node the error is about, if it is about one.
def locator? : Error → Option String
  | invalidMetadata locator _ => some locator
  | unknownCoverage id => some id
  | unrecognizedConstruct node | unexpectedNode node => some node
  | unimplemented feature => some feature
  | invalidAxis axis _ => some axis
  | undefinedIterator name => some name
  | invalidParameter name _ => some name
  | _ => none

-- The status of a response that reports the error: the client's fault, an unknown coverage, a
-- missing feature, or a fault of the service.
def status : Error → Nat
  | unrecognizedConstruct _ | unexpectedNode _ | missingSwitchDefault | incompatibleCoverages _
  | invalidAxis .. | undefinedIterator _ | invalidXml _ | invalidParameter .. => 400
  | unknownCoverage _ => 404
  | unimplemented _ => 501
  | _ => 500

def isUnimplemented : Error → Bool
  | unimplemented _ => true
  | _ => false

end Error

end Datacube
