/-!
# Answers of an HTTP server

An answer by what a client sees of it: status, type, allowed methods and body.
-/

namespace Supervision.Http

/-- An answer to a request. -/
structure Response where
  status : Nat
  contentType : Option String := none
  /-- The methods that the path takes, where another one was asked for. -/
  allow : Option String := none
  body : String := ""
deriving DecidableEq, Repr

namespace Response

/-- A text. -/
def plain (body : String) : Response :=
  { status := 200, contentType := some "text/plain; charset=utf-8", body := body }

/-- A JSON text. -/
def json (status : Nat) (body : String) : Response :=
  { status := status, contentType := some "application/json", body := body }

/-- There is nothing at the path. -/
def notFound : Response := { status := 404 }

/-- The path does not take the method. -/
def methodNotAllowed : Response := { status := 405, allow := some "GET,HEAD" }

/-- The request took too long. -/
def timedOut : Response := { status := 408 }

/-- A part of the path is of the wrong form. -/
def badRequest (body : String) : Response :=
  { status := 400, contentType := some "text/plain; charset=utf-8", body := body }

/-- The answer to a request for the head alone. -/
def withoutBody (r : Response) : Response :=
  { r with body := "" }

end Response

end Supervision.Http
