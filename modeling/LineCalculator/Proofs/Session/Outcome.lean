import LineCalculator.Proofs.Session.Effects

/-!
# What a line comes to

The value of a line and the variables after it depend on the variables before it and on nothing
else of the session.
-/
namespace LineCalculator

/-- The value of a line or the reason why it has none, and the variables after it. -/
def lineOutcome (env : Environment) (line : String) : Except LineError Float × Environment :=
  match parse (scan line).items with
  | .error e => (.error (.parse e), env)
  | .ok p => ((p.expr.evaluate env).result.mapError .evaluation, (p.expr.evaluate env).env)

structure LineResult where
  line : String
  result : Except LineError Float

/-- The results of lines, each with the variables that the lines before it leave. -/
def lineResults (env : Environment) : List String → List LineResult
  | [] => []
  | line :: rest =>
    ⟨line, (lineOutcome env line).1⟩ :: lineResults (lineOutcome env line).2 rest

def envAfter (env : Environment) (lines : List String) : Environment :=
  lines.foldl (fun env line => (lineOutcome env line).2) env

lemma envAfter_cons (env : Environment) (line : String) (rest : List String) :
    envAfter env (line :: rest) = envAfter (lineOutcome env line).2 rest := rfl

lemma envAfter_append (env : Environment) (lines more : List String) :
    envAfter env (lines ++ more) = envAfter (envAfter env lines) more := List.foldl_append

namespace Session

theorem tryLine_outcome (line : String) (s : Session) :
    ((tryLine line s).value, (tryLine line s).session.env) = lineOutcome s.env line := by
  have henv := (reportAll_does (s := s) ((scan line).unknown.map .unknownCharacter)).env_eq
  cases hp : parse (scan line).items with
  | error e =>
    simp only [tryLine, lineOutcome, hp, Action.bind_run, Action.pure_run, log, emit, henv]
  | ok p =>
    cases hr : (p.expr.evaluate s.env).result <;>
      simp only [tryLine, lineOutcome, hp, Action.bind_run, Action.pure_run, log, emit, evaluate,
        henv, hr, Except.mapError]

lemma tryLine_value (line : String) (s : Session) :
    (tryLine line s).value = (lineOutcome s.env line).1 :=
  congrArg Prod.fst (tryLine_outcome line s)

lemma tryLine_env (line : String) (s : Session) :
    (tryLine line s).session.env = (lineOutcome s.env line).2 :=
  congrArg Prod.snd (tryLine_outcome line s)

end Session

end LineCalculator
