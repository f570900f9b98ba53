import ComponentCompiler.Machine.Basic
import ComponentCompiler.Proofs.Machine.Disk

/-!
# Programs on a machine

A program runs on a machine and leaves another one (`Machine.run`). What it does to the files is
one of three things here: nothing (`Quiet`), one file holds a new text (`Wrote`), or some files
are gone (`Fewer`). Each operation on files has one lemma that says which.
-/

namespace ComponentCompiler

namespace Machine

variable {α β : Type} {before middle after : Machine} {place : Place} {text : String}

/-- Runs a program on a machine. -/
def run (machine : Machine) (program : StateM Machine α) : α × Machine := program machine

theorem run_pure (machine : Machine) (a : α) : machine.run (pure a) = (a, machine) := rfl

theorem run_bind (machine : Machine) (x : StateM Machine α) (f : α → StateM Machine β) :
    machine.run (x >>= f) = (machine.run x).2.run (f (machine.run x).1) := rfl

/-- The files hold what they held. -/
structure Quiet (before after : Machine) : Prop where
  here : after.here = before.here
  contents : ∀ p, after.disk.contentAt p = before.disk.contentAt p

/-- The files hold what they held, as far as they are still there. -/
structure Fewer (before after : Machine) : Prop where
  here : after.here = before.here
  contents : ∀ p content, after.disk.contentAt p = some content →
    before.disk.contentAt p = some content

/-- One file holds a text, the others hold what they held. -/
structure Wrote (before after : Machine) (place : Place) (text : String) : Prop where
  here : after.here = before.here
  contents : ∀ p, after.disk.contentAt p =
    if p = place then some (.text text) else before.disk.contentAt p

/-- A text was to be written to a file: either it was, or the files hold what they held. -/
structure Attempts {ε : Type} (before : Machine) (place : Place) (text : String)
    (outcome : Except ε α × Machine) : Prop where
  failed : ∀ e, outcome.1 = .error e → Quiet before outcome.2
  done : ∀ a, outcome.1 = .ok a → Wrote before outcome.2 place text

theorem Quiet.refl (machine : Machine) : Quiet machine machine := ⟨rfl, fun _ => rfl⟩

theorem Quiet.trans (h : Quiet before middle) (h' : Quiet middle after) : Quiet before after :=
  ⟨h'.here.trans h.here, fun p => (h'.contents p).trans (h.contents p)⟩

theorem Quiet.fewer (h : Quiet before after) : Fewer before after :=
  ⟨h.here, fun p content hp => by rw [← h.contents p, hp]⟩

theorem Fewer.trans (h : Fewer before middle) (h' : Fewer middle after) : Fewer before after :=
  ⟨h'.here.trans h.here, fun p content hp => h.contents p content (h'.contents p content hp)⟩

theorem Quiet.wrote (h : Quiet before middle) (h' : Wrote middle after place text) :
    Wrote before after place text :=
  ⟨h'.here.trans h.here, fun p => by rw [h'.contents p, h.contents p]⟩

theorem Wrote.quiet (h : Wrote before middle place text) (h' : Quiet middle after) :
    Wrote before after place text :=
  ⟨h'.here.trans h.here, fun p => by rw [h'.contents p, h.contents p]⟩

theorem Quiet.attempts {ε : Type} {outcome : Except ε α × Machine} (h : Quiet before middle)
    (h' : Attempts middle place text outcome) : Attempts before place text outcome :=
  ⟨fun e he => h.trans (h'.failed e he), fun a ha => h.wrote (h'.done a ha)⟩

theorem Quiet.attempts_error {ε : Type} {e : ε} (h : Quiet before after) :
    Attempts before place text ((.error e, after) : Except ε α × Machine) :=
  ⟨fun _ _ => h, nofun⟩

theorem Wrote.attempts_ok {ε : Type} {a : α} (h : Wrote before after place text) :
    Attempts before place text ((.ok a, after) : Except ε α × Machine) :=
  ⟨nofun, fun _ _ => h⟩

/-- Whether a text was written does not depend on what else is told about it. -/
theorem Attempts.of_isOk {ε ε' β : Type} {outcome : Except ε α × Machine} {result : Except ε' β}
    (h : Attempts before place text outcome) (hresult : result.isOk = outcome.1.isOk) :
    Attempts before place text (result, outcome.2) := by
  obtain ⟨told, after⟩ := outcome
  cases told with
  | error e =>
      cases result with
      | error e' => exact (h.failed e rfl).attempts_error
      | ok b => cases hresult
  | ok a =>
      cases result with
      | error e' => cases hresult
      | ok b => exact (h.done a rfl).attempts_ok

theorem Attempts.cases {ε : Type} {outcome : Except ε α × Machine}
    (h : Attempts before place text outcome) :
    (∃ e, outcome.1 = .error e ∧ Quiet before outcome.2) ∨
      ∃ a, outcome.1 = .ok a ∧ Wrote before outcome.2 place text := by
  cases hresult : outcome.1 with
  | error e => exact .inl ⟨e, rfl, h.failed e hresult⟩
  | ok a => exact .inr ⟨a, rfl, h.done a hresult⟩

section Operations

variable (machine : Machine) (path : Path)

theorem quiet_record (event : Event) :
    Quiet machine (machine.run (Journal.record event)).2 := by
  change Quiet machine (if event.level.shownAt machine.shown then _ else machine)
  split
  · exact ⟨rfl, fun _ => rfl⟩
  · exact .refl machine

theorem quiet_info (message : String) (fields : List (String × String)) :
    Quiet machine (machine.run (Journal.info message fields)).2 :=
  quiet_record machine ⟨.info, message, fields⟩

theorem quiet_makeDirectories :
    Quiet machine (machine.run (Files.makeDirectories path)).2 :=
  ⟨rfl, fun p => Disk.contentAt_makeDirectories machine.disk machine.here path machine.now p⟩

theorem attempts_writeText (text : String) :
    Attempts machine (Disk.spot machine.here path) text
      (machine.run (Files.writeText path text)) := by
  change Attempts machine _ text
    (machine.change (machine.disk.writeFile machine.here path (.text text) machine.now))
  cases hwrite : machine.disk.writeFile machine.here path (.text text) machine.now with
  | error e => exact (Quiet.refl machine).attempts_error
  | ok disk => exact Wrote.attempts_ok ⟨rfl, Disk.contentAt_writeFile hwrite⟩

theorem fewer_remove : Fewer machine (machine.run (Files.remove path)).2 := by
  change Fewer machine (machine.change (machine.disk.remove machine.here path machine.now)).2
  cases hremove : machine.disk.remove machine.here path machine.now with
  | error e => exact (Quiet.refl machine).fewer
  | ok disk => exact ⟨rfl, fun p content hp => Disk.contentAt_of_remove hremove hp⟩

end Operations

end Machine
end ComponentCompiler
