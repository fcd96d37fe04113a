import RestBindings.Discovery.Reading
import RestBindings.Error

/-!
# Accepting a decoded value as a discovery document
-/

namespace RestBindings.Discovery

/-- A problem in one line: where it is and what it is. -/
def problemLine (p : Problem) : String :=
  p.placeText ++ ": " ++ p.fault.message

/-- The document that a decoded value describes.  The source names the value in the failure that
lists its problems. -/
def accept (source : String) : Value → Except Error Document
  | .mapping entries =>
    match readDocument (.mapping entries) with
    | .valid document => .ok document
    | .invalid problems => .error (.failure (.malformed source (problems.map problemLine)))
  | _ => .error (.failure (.malformed source ["document root must be an object"]))

end RestBindings.Discovery
