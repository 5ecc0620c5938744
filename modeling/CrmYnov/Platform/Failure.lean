import CrmYnov.Base.Checked
import CrmYnov.Js.Text

/-!
# How a request fails

A service refuses a request by throwing: an HTTP exception that carries a stable
code, a plain error that carries a message, or whatever the database threw. The
requests of this development are computations in `Except Failure`, and every
refusal of the source appears with its own code.
-/

namespace CrmYnov

/-- The HTTP exceptions the services throw. -/
inductive HttpStatus
  | badRequest | unauthorized | forbidden | notFound | conflict | unprocessableEntity
  | tooManyRequests | serviceUnavailable
deriving DecidableEq

inductive Failure
  /-- An HTTP exception, the code it carries and the fields it names. -/
  | http (status : HttpStatus) (code : String) (fields : List String := []) : Failure
  /-- `new Error(message)` -/
  | error (message : String) : Failure
  /-- An error of the database: a violated constraint, a lost connection, a
  transaction that could not be serialized. -/
  | database : Failure
deriving DecidableEq

namespace Failure

variable (code : String)

/-- `new BadRequestException(code)` -/
def badRequest : Failure := http .badRequest code

/-- `new ForbiddenException(code)` -/
def forbidden : Failure := http .forbidden code

/-- `new NotFoundException(code)` -/
def notFound : Failure := http .notFound code

/-- `new ConflictException(code)` -/
def conflict : Failure := http .conflict code

/-- `new UnprocessableEntityException(code)` about a field -/
def unprocessable (code field : String) : Failure := http .unprocessableEntity code [field]

end Failure

abbrev Outcome (α : Type*) := Except Failure α

end CrmYnov
