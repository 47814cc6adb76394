import BuildingModel.Session.Record

/-!
# Runs of a session

A caller asks a session for one thing after another. What fails does not keep the caller from asking
for more.
-/
namespace BuildingModel

/-- What can be asked of a session. -/
inductive Request
  | create (className iri : String) (label : Option String)
  | build (shapeName : String) (sets : List FieldSetting)
  | relate (subject : EntityId) (property : String) (target : Target)
  | invoke (subject : EntityId) (capability : String) (target : Target)
  deriving DecidableEq, Repr

inductive Reply
  | entity (id : EntityId)
  | record (id : RecordId)
  | done
  deriving DecidableEq, Repr

def Request.operation {schema : Schema} : Request → Operation schema Reply
  | .create className iri label => Reply.entity <$> Operation.create className iri label
  | .build shapeName sets => Reply.record <$> Operation.build shapeName (settingsOf sets)
  | .relate subject property t => (fun _ => .done) <$> Operation.relate subject property t
  | .invoke subject capability t => (fun _ => .done) <$> Operation.invoke subject capability t

namespace Session

variable {schema : Schema}

def answer (s : Session schema) (r : Request) : Except ModelError Reply :=
  (r.operation s).1

/-- The session after a request. -/
def step (s : Session schema) (r : Request) : Session schema :=
  (r.operation s).2

/-- To attempt what a request asks for is to take the answer and the session after it. -/
theorem attempt_operation (s : Session schema) (r : Request) :
    s.attempt r.operation = (s.answer r).map fun reply => (s.step r, reply) := by
  unfold attempt answer step
  cases r.operation s with
  | mk result s' => cases result <;> rfl

/-- The session after some requests. -/
def run (s : Session schema) (rs : List Request) : Session schema :=
  rs.foldl step s

/-- The requests that do not fail, each asked of the session that those before it lead to. -/
def fulfilled (s : Session schema) : List Request → List Request
  | [] => []
  | r :: rs =>
    match s.answer r with
    | .ok _ => r :: fulfilled (s.step r) rs
    | .error _ => fulfilled (s.step r) rs

end Session

end BuildingModel
