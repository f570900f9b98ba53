import ComponentCompiler.Component.Wire

/-!
# Compiled until it succeeds

A component remembers what its scripts compile to. Calls come one after the other, each with a
compilation of its own, which may fail, find no script or make one, and may do anything else on the
way. Their compilations run up to the first that succeeds, each once, and none runs after it
(`calls_until_success`): a failure is not remembered, and that there is no script is. What is
remembered is no part of the component as it is written.
-/

namespace ComponentCompiler.Component

variable {m : Type → Type} [Monad m] {ε : Type}

/-- A way to compile the scripts of a component. -/
abbrev Compilation (m : Type → Type) (ε : Type) : Type :=
  Descriptor → m (Except ε (Option CompiledScript))

/-- What one call comes to: how often it ran its compilation, what it answered, and the blocks of
the component after it, as they are and as they are written. -/
structure Call (ε : Type) where
  runs : Nat
  answer : Except ε (Option CompiledScript)
  blocks : Descriptor
  written : Json

/-- A compilation that counts how often it runs. -/
def counted (compile : Compilation m ε) : Compilation (StateT Nat m) ε := fun d => do
  modify (· + 1)
  compile d

/-- Calls one after the other, and the component after them. -/
def calls (component : Component) : List (Compilation m ε) → m (List (Call ε) × Component)
  | [] => return ([], component)
  | compile :: rest => do
    let ((answer, after), runs) ← (component.compiledScript (counted compile)).run 0
    let (later, last) ← after.calls rest
    return (⟨runs, answer, after.descriptor, after.descriptor.toJson⟩ :: later, last)

/-- Compilations one after the other up to the first that succeeds: the failures before it, and what
it succeeds with. -/
def untilSuccess (d : Descriptor) :
    List (Compilation m ε) → m (List ε × Option (Option CompiledScript))
  | [] => return ([], none)
  | compile :: rest => do
    match ← compile d with
    | .ok script => return ([], some script)
    | .error e =>
      let (failures, success) ← untilSuccess d rest
      return (e :: failures, success)

namespace Call

/-- A call that runs its compilation once and answers its outcome. -/
def compiling (d : Descriptor) (outcome : Except ε (Option CompiledScript)) : Call ε :=
  ⟨1, outcome, d, d.toJson⟩

/-- A call that runs nothing and answers what is remembered. -/
def remembering (d : Descriptor) (script : Option CompiledScript) : Call ε :=
  ⟨0, .ok script, d, d.toJson⟩

/-- A number of calls: the first ones fail, one succeeds, and those after it remember its
success. -/
def sequence (d : Descriptor) (count : Nat) (failures : List ε) :
    Option (Option CompiledScript) → List (Call ε)
  | none => failures.map fun e => compiling d (.error e)
  | some script =>
    failures.map (fun e => compiling d (.error e)) ++ compiling d (.ok script) ::
      List.replicate (count - failures.length - 1) (remembering d script)

end Call

/-- Where something is remembered, a call answers it and runs nothing. -/
theorem run_compiledScript_remembered (d : Descriptor) (script : Option CompiledScript)
    (compile : Compilation m ε) :
    (compiledScript { descriptor := d, compiled := some script } (counted compile)).run 0 =
      pure ((.ok script, { descriptor := d, compiled := some script }), 0) := rfl

variable [LawfulMonad m]

/-- Where nothing is remembered, a call runs its compilation once and remembers a success. -/
theorem run_compiledScript_fresh (d : Descriptor) (compile : Compilation m ε) :
    (compiledScript { descriptor := d } (counted compile)).run 0 = (do
      let outcome ← compile d
      return ((outcome, { descriptor := d, compiled := outcome.toOption }), 1) :
        m ((Except ε (Option CompiledScript) × Component) × Nat)) := by
  simp only [compiledScript, counted, bind_assoc, StateT.run_bind, StateT.run_modify,
    Nat.zero_add, StateT.run_monadLift, monadLift_self, pure_bind]
  refine bind_congr fun outcome => ?_
  cases outcome <;> rfl

theorem calls_of_remembered (d : Descriptor) (script : Option CompiledScript)
    (compiles : List (Compilation m ε)) :
    calls { descriptor := d, compiled := some script } compiles = pure
      (List.replicate compiles.length (.remembering d script),
        { descriptor := d, compiled := some script }) := by
  induction compiles with
  | nil => rfl
  | cons compile rest ih =>
      simp only [calls, run_compiledScript_remembered, pure_bind, ih]
      rfl

/-- Calls on a component do what its compilations do up to the first success, and no more. Every
call up to that one runs its compilation once and answers its outcome, every later call runs nothing
and answers the success, and the blocks stay as they are and as they are written. -/
theorem calls_until_success (d : Descriptor) (compiles : List (Compilation m ε)) :
    calls { descriptor := d } compiles = do
      let (failures, success) ← untilSuccess d compiles
      return (Call.sequence d compiles.length failures success,
        { descriptor := d, compiled := success }) := by
  induction compiles with
  | nil =>
      rw [untilSuccess, pure_bind]
      rfl
  | cons compile rest ih =>
      simp only [calls, untilSuccess, run_compiledScript_fresh, bind_assoc, pure_bind]
      refine bind_congr fun outcome => ?_
      cases outcome with
      | ok script => simp [Except.toOption, calls_of_remembered, Call.sequence, Call.compiling]
      | error e =>
          -- The component is as it was, so the calls after a failure are those of fewer calls.
          simp only [Except.toOption, ih, bind_assoc, pure_bind]
          refine bind_congr fun found => ?_
          obtain ⟨failures, _ | script⟩ := found <;> simp [Call.sequence, Call.compiling]

/-- A compilation that is too early twice and then finds that there is no script. A later attempt
would make one. -/
def thirdAttempt : Compilation (StateM Nat) String := fun _ => do
  let attempts ← modifyGet fun n => (n, n + 1)
  return if attempts < 2 then .error "too early" else .ok (if attempts = 2 then none else some {})

/-- The third call is the last that compiles: the fourth and the fifth remember that there is no
script. -/
theorem calls_until_success_of_two_failures :
    let d : Descriptor := { script := some { kind := .script, content := "export default {}" } }
    (calls { descriptor := d } (List.replicate 5 thirdAttempt)).run 0 =
      (([.compiling d (.error "too early"), .compiling d (.error "too early"),
        .compiling d (.ok none), .remembering d none, .remembering d none],
        { descriptor := d, compiled := some none }), 3) := by
  intro d
  rw [calls_until_success]
  rfl

end ComponentCompiler.Component
