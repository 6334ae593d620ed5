import SqlBuilder.Sql

set_option autoImplicit false

namespace SqlBuilder

/-- What happens while a builder works and may be logged. -/
inductive Notice
  | dialect (kind : DriverKind)
  | rendered (sql : String)
  | bound (values : List Value)

/-- What an operation leaves. A failure does not undo what was done before it. -/
structure Outcome (σ : Type) where
  state : σ
  notices : List Notice
  failure : Option Error

namespace Outcome

variable {σ τ : Type}

def done (s : σ) : Outcome σ := ⟨s, [], none⟩

def fail (e : Error) (s : σ) : Outcome σ := ⟨s, [], some e⟩

/-- A step that changes the state only when it succeeds. -/
def ofExcept (s : σ) : Except Error σ → Outcome σ
  | .ok t => done t
  | .error e => fail e s

def succeeded (o : Outcome σ) : Bool := o.failure.isNone

/-- What there is to go on with, if there was no failure. -/
def result (o : Outcome σ) : Except Error σ :=
  match o.failure with
  | some e => .error e
  | none => .ok o.state

/-- The second step runs where the first one left off, unless that failed. -/
def andThen (o : Outcome σ) (next : σ → Outcome σ) : Outcome σ :=
  match o.failure with
  | some _ => o
  | none =>
    let p := next o.state
    { p with notices := o.notices ++ p.notices }

/-- The failure is caught; what was done before it stays. -/
def caught (o : Outcome σ) : Outcome σ := { o with failure := none }

def map (f : σ → τ) (o : Outcome σ) : Outcome τ := ⟨f o.state, o.notices, o.failure⟩

/-- The state becomes `f` of the result on success and stays `s` on failure. -/
def commit (s : τ) (f : σ → τ) (o : Outcome σ) : Outcome τ :=
  ⟨if o.succeeded then f o.state else s, o.notices, o.failure⟩

@[simp] theorem andThen_done (s : σ) (next : σ → Outcome σ) : (done s).andThen next = next s := rfl

@[simp] theorem andThen_fail (e : Error) (s : σ) (next : σ → Outcome σ) :
    (fail e s).andThen next = fail e s := rfl

theorem andThen_of_failure (o : Outcome σ) (next : σ → Outcome σ) (e : Error)
    (failed : o.failure = some e) : o.andThen next = o := by
  simp only [andThen, failed]

theorem andThen_of_success (o : Outcome σ) (next : σ → Outcome σ)
    (unfailed : o.failure = none) :
    (o.andThen next).state = (next o.state).state ∧
      (o.andThen next).failure = (next o.state).failure := by
  simp only [andThen, unfailed, and_self]

end Outcome

end SqlBuilder
