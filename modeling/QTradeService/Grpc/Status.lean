import Mathlib.Data.Int.Notation

set_option relaxedAutoImplicit false
set_option autoImplicit false

/-!
# gRPC statuses

The part of `grpc::Status` that the services use: a code and a message.

## Main definitions

* `Grpc.StatusCode`, `Grpc.Status` — the status of a finished call.
-/

namespace Grpc

/-- The `grpc::StatusCode` values that the services answer with. -/
inductive StatusCode
  | ok
  | cancelled
  | invalidArgument
  | notFound
  | failedPrecondition
  | internal
  deriving DecidableEq, Repr

/-- A `grpc::Status`. -/
structure Status where
  code : StatusCode
  message : String
  deriving DecidableEq, Repr

/-- `grpc::Status::OK`. -/
def Status.OK : Status := ⟨.ok, ""⟩

end Grpc
