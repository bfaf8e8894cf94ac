import Datacube.Response.Handler

namespace Datacube.Response

open Markup (escape escapeText)

def locatorText (e : Error) : String :=
  match e.locator? with
  | some locator => " locator=\"" ++ escape locator ++ "\""
  | none => ""

def reportValues (e : Error) : List (String × String) :=
  [("exceptionCode", e.code),
   ("locator", locatorText e),
   ("exceptionText", escapeText e.message)]

-- The report of an error. A template that is of no use gives way to the built-in one.
def exceptionReport (t : Templates) (e : Error) : String :=
  match t.render .exceptionReport (reportValues e) with
  | .ok xml => xml
  | .error _ => substitute (templateText (builtin .exceptionReport)) (reportValues e)

def exceptionResponse (t : Templates) (e : Error) : Reply :=
  { mime := xmlType, xml := exceptionReport t e, status := e.status }

end Datacube.Response
