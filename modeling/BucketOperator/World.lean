import BucketOperator.Aws.Call
import BucketOperator.Http.Message
import BucketOperator.Kubernetes.Request
import BucketOperator.Metrics.Event
import BucketOperator.Program

/-!
# The world of the operator

Everything the operator asks of the outside: the Kubernetes API, HTTP services, AWS, time, files,
and the metrics it keeps.
-/

namespace BucketOperator

namespace World

/-- A call to the outside. Times are in nanoseconds. -/
inductive Call where
  | kubernetes (request : Kubernetes.Request)
  | http (request : Http.Request)
  | s3 (session : Aws.Session) (call : Aws.S3Call)
  | iam (session : Aws.Session) (call : Aws.IamCall)
  | sleep (duration : Nat)
  | clock
  | readFile (path : String)
  | record (event : Metrics.Event)

/-- What a call answers. A file that cannot be read answers why. -/
def Call.Answer : Call → Type
  | .kubernetes _ => Kubernetes.Reply
  | .http _ => Http.Reply
  | .s3 _ call => Except Aws.Failure call.operation.Output
  | .iam _ call => Except Aws.Failure call.Output
  | .sleep _ => Unit
  | .clock => Nat
  | .readFile _ => Except String String
  | .record _ => Unit

end World

/-- The outside. -/
abbrev World : Interface := ⟨World.Call, World.Call.Answer⟩

namespace World

def kubernetes (request : Kubernetes.Request) : Program World Kubernetes.Reply :=
  .ask (.kubernetes request) .done

def http (request : Http.Request) : Program World Http.Reply := .ask (.http request) .done

def s3 (session : Aws.Session) (call : Aws.S3Call) :
    Program World (Except Aws.Failure call.operation.Output) :=
  .ask (.s3 session call) .done

def iam (session : Aws.Session) (call : Aws.IamCall) :
    Program World (Except Aws.Failure call.Output) :=
  .ask (.iam session call) .done

def sleep (duration : Nat) : Program World Unit := .ask (.sleep duration) .done

def clock : Program World Nat := .ask .clock .done

def readFile (path : String) : Program World (Except String String) := .ask (.readFile path) .done

def record (event : Metrics.Event) : Program World Unit := .ask (.record event) .done

end World

end BucketOperator
