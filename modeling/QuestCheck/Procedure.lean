import QuestCheck.Event

/-!
# Procedures

Loading and running checks are procedures: they ask whether conditions and variables are known, ask
for outcomes and values, report lines and leave events, one request after another, and end in a
value or a fault. A procedure says nothing about who answers; a handler does, and may keep a state.
Two equal procedures behave alike under every handler.

* `Request`, `Request.Answer`, `Procedure` and its monad;
* `Procedure.run`: the result, the exchanges in order and the last state under a `Handler`;
* `Procedure.attempt`: a procedure that ends in a fault as one that returns it;
* `Procedure.Asks`: every request is of an allowed kind;
* **`run_bind`**: a sequence runs as its first part and then, unless that failed, its second.
-/

namespace QuestCheck

/-- What a procedure asks of its surroundings. -/
inductive Request where
  /-- Is the condition known? -/
  | knowsCondition (condition : QualifiedName)
  /-- Is the variable known? -/
  | knowsVariable (name : String)
  /-- Does the condition hold for the actor? -/
  | evaluate (actor : Option Actor) (condition : QualifiedName)
  /-- What is the value of the variable for the actor? -/
  | resolve (actor : Option Actor) (name : String)
  /-- A line for the report. -/
  | report (line : Line)
  /-- An event for whoever watches. -/
  | note (event : Event)
  deriving DecidableEq, Repr

/-- The answers to a request. -/
@[reducible] def Request.Answer : Request → Type
  | knowsCondition _ | knowsVariable _ => Bool
  | evaluate .. => Except Fault Bool
  | resolve .. => Except Fault String
  | report _ | note _ => Unit

/-- A request and the answer to it. -/
structure Exchange where
  request : Request
  answer : request.Answer

/-- A course of requests, each chosen in view of the answers before it, that ends in a value or in a
fault. -/
inductive Procedure (α : Type) where
  | done (value : α)
  | fail (fault : Fault)
  | ask (request : Request) (next : request.Answer → Procedure α)

namespace Procedure

variable {α β γ σ : Type}

/-- One procedure after another. -/
def bind (f : α → Procedure β) : Procedure α → Procedure β
  | done a => f a
  | fail fault => fail fault
  | ask r next => ask r fun answer => bind f (next answer)

instance : Monad Procedure where
  pure := done
  bind p f := bind f p

@[simp] theorem pure_eq (a : α) : (pure a : Procedure α) = done a := rfl

@[simp] theorem done_bind (a : α) (f : α → Procedure β) : done a >>= f = f a := rfl

@[simp] theorem fail_bind (fault : Fault) (f : α → Procedure β) :
    fail fault >>= f = fail fault := rfl

@[simp] theorem ask_bind (r : Request) (next : r.Answer → Procedure α) (f : α → Procedure β) :
    ask r next >>= f = ask r fun answer => next answer >>= f := rfl

theorem bind_done (p : Procedure α) : p >>= done = p := by
  induction p with
  | done a => rfl
  | fail fault => rfl
  | ask r next ih => rw [ask_bind]; congr 1; funext answer; exact ih answer

theorem bind_bind (p : Procedure α) (f : α → Procedure β) (g : β → Procedure γ) :
    p >>= f >>= g = p >>= fun a => f a >>= g := by
  induction p with
  | done a => rfl
  | fail fault => rfl
  | ask r next ih => simp only [ask_bind]; congr 1; funext answer; exact ih answer

instance : LawfulMonad Procedure :=
  LawfulMonad.mk' Procedure bind_done (fun _ _ => rfl) bind_bind

/-! ## Single requests -/

/-- The value, or the fault. -/
def ofExcept : Except Fault α → Procedure α
  | .ok a => done a
  | .error fault => fail fault

/-- Is the condition known? -/
def knowsCondition (condition : QualifiedName) : Procedure Bool :=
  ask (.knowsCondition condition) done

/-- Is the variable known? -/
def knowsVariable (name : String) : Procedure Bool := ask (.knowsVariable name) done

/-- The outcome of a condition for an actor. -/
def evaluate (actor : Option Actor) (condition : QualifiedName) : Procedure Bool :=
  ask (.evaluate actor condition) ofExcept

/-- The value of a variable for an actor. -/
def resolve (actor : Option Actor) (name : String) : Procedure String :=
  ask (.resolve actor name) ofExcept

/-- A line for the report. -/
def report (severity : Severity) (text : String) : Procedure Unit :=
  ask (.report ⟨severity, text⟩) done

/-- An event for whoever watches. -/
def note (event : Event) : Procedure Unit := ask (.note event) done

/-- The same requests, a fault being returned as a value. -/
def attempt : Procedure α → Procedure (Except Fault α)
  | done a => done (.ok a)
  | fail fault => done (.error fault)
  | ask r next => ask r fun answer => attempt (next answer)

/-- Every request that may be asked is of an allowed kind. -/
def Asks (allowed : Request → Prop) : Procedure α → Prop
  | done _ | fail _ => True
  | ask r next => allowed r ∧ ∀ answer, Asks allowed (next answer)

theorem Asks.bind {allowed : Request → Prop} {p : Procedure α} {f : α → Procedure β}
    (hp : p.Asks allowed) (hf : ∀ a, (f a).Asks allowed) : (p >>= f).Asks allowed := by
  induction p with
  | done a => exact hf a
  | fail fault => trivial
  | ask r next ih => exact ⟨hp.1, fun answer => ih answer (hp.2 answer)⟩

theorem Asks.attempt {allowed : Request → Prop} {p : Procedure α} (hp : p.Asks allowed) :
    p.attempt.Asks allowed := by
  induction p with
  | done a => trivial
  | fail fault => trivial
  | ask r next ih => exact ⟨hp.1, fun answer => ih answer (hp.2 answer)⟩

end Procedure

/-! ## Runs -/

/-- Someone who answers requests and may keep a state. -/
abbrev Handler (σ : Type) : Type := (r : Request) → σ → r.Answer × σ

/-- What a run yields: the result, the exchanges in order, and the last state. -/
structure Outcome (σ α : Type) where
  result : Except Fault α
  exchanges : List Exchange
  state : σ

namespace Outcome

variable {α σ : Type}

/-- Some exchanges before those of the outcome. -/
def after (earlier : List Exchange) (o : Outcome σ α) : Outcome σ α :=
  { o with exchanges := earlier ++ o.exchanges }

@[simp] theorem after_nil (o : Outcome σ α) : o.after [] = o := rfl

/-- The lines that were reported. -/
def lines (o : Outcome σ α) : List Line :=
  o.exchanges.filterMap fun e =>
    match e.request with
    | .report line => some line
    | _ => none

/-- The events that were left, report lines not among them. -/
def events (o : Outcome σ α) : List Event :=
  o.exchanges.filterMap fun e =>
    match e.request with
    | .note event => some event
    | _ => none

/-- The events that were left and the lines that were reported, in order. -/
def trace (o : Outcome σ α) : List Event :=
  o.exchanges.filterMap fun e =>
    match e.request with
    | .note event => some event
    | .report line => some (.reported line)
    | _ => none

end Outcome

namespace Procedure

variable {α β σ : Type}

/-- The run of a procedure under a handler, from a state. -/
def run (h : Handler σ) : Procedure α → σ → Outcome σ α
  | done a, s => ⟨.ok a, [], s⟩
  | fail fault, s => ⟨.error fault, [], s⟩
  | ask r next, s => (run h (next (h r s).1) (h r s).2).after [⟨r, (h r s).1⟩]

theorem run_ask (h : Handler σ) (r : Request) (next : r.Answer → Procedure α) (s : σ) :
    (ask r next).run h s = ((next (h r s).1).run h (h r s).2).after [⟨r, (h r s).1⟩] := rfl

/-- **A sequence runs as its first part and then, unless that failed, its second.** -/
theorem run_bind (h : Handler σ) (p : Procedure α) (f : α → Procedure β) (s : σ) :
    (p >>= f).run h s =
      match (p.run h s).result with
      | .ok a => ((f a).run h (p.run h s).state).after (p.run h s).exchanges
      | .error fault => ⟨.error fault, (p.run h s).exchanges, (p.run h s).state⟩ := by
  induction p generalizing s with
  | done a => rfl
  | fail fault => rfl
  | ask r next ih =>
    rw [ask_bind, run_ask, run_ask, ih]
    generalize (next (h r s).1).run h (h r s).2 = o
    obtain ⟨result, exchanges, state⟩ := o
    cases result <;> rfl

theorem run_attempt (h : Handler σ) (p : Procedure α) (s : σ) :
    p.attempt.run h s = ⟨.ok (p.run h s).result, (p.run h s).exchanges, (p.run h s).state⟩ := by
  induction p generalizing s with
  | done a => rfl
  | fail fault => rfl
  | ask r next ih =>
    rw [attempt, run_ask, run_ask, ih]
    rfl

end Procedure

end QuestCheck
