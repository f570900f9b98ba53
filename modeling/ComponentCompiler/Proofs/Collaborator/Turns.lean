import ComponentCompiler.Proofs.Collaborator.Channel
import Mathlib.Logic.Function.Basic
import Mathlib.Logic.Relation

/-!
# Clients take turns

Any number of clients share a channel. One that wants to ask waits until the channel is free, has it
for one call, and reads the answer off the line of the reply when others may have the channel
already (`Moment.Step`). At every moment that is reached so, the reply to a request is read by the
client that sent it, and nothing is left on the channel when it is free (`Moment.Orderly`, which
every step preserves).
-/

namespace ComponentCompiler.Collaborator

open Text (newline)

/-- How far a client is with a call. -/
inductive Phase where
  | idle
  | waiting (call : Call)
  /-- The client has the channel, as the given number of clients had before it. -/
  | talking (turn : Nat) (call : Call) (unsent got : List UInt8)
  /-- The client has read a line and gave up the channel. -/
  | finished (turn : Nat) (call : Call) (line : List UInt8)

namespace Phase

/-- The number of clients that had the channel before the call. -/
def turn? : Phase → Option Nat
  | idle | waiting _ => none
  | talking turn .. | finished turn .. => some turn

/-- The client has the channel. -/
def Talks : Phase → Prop
  | talking .. => True
  | _ => False

variable {Client : Type} {ch after : Channel Client} {c : Client} {phase : Phase}

/-- What is true of the channel when a client is so far. -/
def Sound (ch : Channel Client) (c : Client) : Phase → Prop
  | idle | waiting _ => True
  | talking turn call unsent got => ch.Holds c turn call unsent got
  | finished turn call line =>
    ∃ said, ch.Exchanged turn c call said ∧ line = said ++ [newline]

/-- What others do on the channel makes no difference to a client that does not have it. -/
theorem Sound.mono (h : phase.Sound ch c) (hother : ch.holder ≠ some c)
    (hgranted : ch.granted <+: after.granted) (hexchanges : ch.exchanges <+: after.exchanges) :
    phase.Sound after c := by
  cases phase with
  | idle => trivial
  | waiting call => trivial
  | talking turn call unsent got => exact absurd (Channel.Holds.holder h) hother
  | finished turn call line =>
    obtain ⟨said, hexchanged, hline⟩ := h
    exact ⟨said, hexchanged.mono hgranted hexchanges, hline⟩

end Phase

/-- What a client was told. -/
structure Told (Client : Type) where
  turn : Nat
  client : Client
  call : Call
  answer : Answer call.Result

/-- The clients and their channel at some moment. -/
structure Moment (Client : Type) where
  phase : Client → Phase := fun _ => .idle
  channel : Channel Client := {}
  told : List (Told Client) := []

namespace Moment

variable {Client : Type} [DecidableEq Client] {m m' : Moment Client} {c : Client} {turn : Nat}
  {call : Call} {chunk rest unsent got said : List UInt8} {phase : Phase} {after : Channel Client}

/-- The moment at which one client is in another phase. -/
def enter (m : Moment Client) (c : Client) (phase : Phase) : Moment Client :=
  { m with phase := Function.update m.phase c phase }

/-- One thing that happens: a client or the program does something on its own. -/
inductive Step : Moment Client → Moment Client → Prop
  | ask (m : Moment Client) (c : Client) (call : Call) (hphase : m.phase c = .idle) :
    Step m (m.enter c (.waiting call))
  | lock (m : Moment Client) (c : Client) (call : Call) (hphase : m.phase c = .waiting call)
      (hfree : m.channel.holder = none) :
    Step m
      { m.enter c (.talking m.channel.granted.length call (call.line ++ [newline]) []) with
        channel := m.channel.lock c call }
  | write (m : Moment Client) (c : Client) (turn : Nat) (call : Call)
      (chunk rest got : List UInt8) (hphase : m.phase c = .talking turn call (chunk ++ rest) got) :
    Step m { m.enter c (.talking turn call rest got) with channel := m.channel.write chunk }
  | receive (m : Moment Client) (chunk rest : List UInt8)
      (hinbound : m.channel.inbound = chunk ++ rest) (hchunk : newline ∉ chunk) :
    Step m { m with channel := m.channel.receive chunk rest }
  | reply (m : Moment Client) (rest said : List UInt8)
      (hinbound : m.channel.inbound = newline :: rest) (hsaid : newline ∉ said) :
    Step m { m with channel := m.channel.reply rest said }
  | read (m : Moment Client) (c : Client) (turn : Nat) (call : Call)
      (chunk rest got : List UInt8) (hphase : m.phase c = .talking turn call [] got)
      (houtbound : m.channel.outbound = chunk ++ rest) (hchunk : newline ∉ chunk) :
    Step m { m.enter c (.talking turn call [] (got ++ chunk)) with channel := m.channel.read rest }
  | release (m : Moment Client) (c : Client) (turn : Nat) (call : Call) (rest got : List UInt8)
      (hphase : m.phase c = .talking turn call [] got)
      (houtbound : m.channel.outbound = newline :: rest) :
    Step m
      { m.enter c (.finished turn call (got ++ [newline])) with
        channel := (m.channel.read rest).release }
  | tell (m : Moment Client) (c : Client) (turn : Nat) (call : Call) (line : List UInt8)
      (hphase : m.phase c = .finished turn call line) :
    Step m
      { m.enter c .idle with
        told := m.told ++ [⟨turn, c, call, answerFrom call.method (heard line)⟩] }

/-- What holds at every moment. -/
structure Orderly (m : Moment Client) : Prop where
  phase : ∀ c, (m.phase c).Sound m.channel c
  held : ∀ c, m.channel.holder = some c → (m.phase c).Talks
  free : m.channel.holder = none → m.channel.Quiet
  exchanged : ∀ turn < m.channel.exchanges.length, ∃ c call said,
    m.channel.Exchanged turn c call said
  told : ∀ t ∈ m.told, ∃ said, m.channel.Exchanged t.turn t.client t.call said ∧
    t.answer = t.call.answerTo said
  /-- No call that got the channel is lost. -/
  granted : ∀ turn c call, m.channel.granted[turn]? = some (c, call) →
    (∃ t ∈ m.told, t.turn = turn ∧ t.client = c) ∨ (m.phase c).turn? = some turn

omit [DecidableEq Client] in
theorem orderly_start : Orderly ({} : Moment Client) where
  phase _ := trivial
  held := nofun
  free _ := ⟨rfl, rfl, rfl, rfl, rfl, rfl⟩
  exchanged := nofun
  told := nofun
  granted := nofun

section Steps

theorem enter_phase (m : Moment Client) (c d : Client) (phase : Phase) :
    (m.enter c phase).phase d = if d = c then phase else m.phase d :=
  Function.update_apply ..

theorem enter_phase_self (m : Moment Client) (c : Client) (phase : Phase) :
    (m.enter c phase).phase c = phase :=
  Function.update_self ..

omit [DecidableEq Client] in
theorem Orderly.holds (h : m.Orderly) (hphase : m.phase c = .talking turn call unsent got) :
    m.channel.Holds c turn call unsent got := by
  have hsound := h.phase c
  rwa [hphase] at hsound

/-- A client enters a phase in which it does not have the channel. -/
theorem Orderly.sound_enter (h : m.Orderly) (hphase : phase.Sound m.channel c) (d : Client) :
    ((m.enter c phase).phase d).Sound m.channel d := by
  rw [enter_phase]
  split
  · rename_i heq
    rw [heq]
    exact hphase
  · exact h.phase d

/-- Whoever has the channel talks on, if that is another client. -/
theorem Orderly.talks_enter (h : m.Orderly) (hquiet : ¬(m.phase c).Talks) (d : Client)
    (hd : m.channel.holder = some d) : ((m.enter c phase).phase d).Talks := by
  have htalks := h.held d hd
  rw [enter_phase, if_neg]
  · exact htalks
  · rintro rfl
    exact hquiet htalks

/-- A client asks, which nobody else notices. -/
theorem Orderly.ask (h : m.Orderly) (hphase : m.phase c = .idle) (call : Call) :
    (m.enter c (.waiting call)).Orderly where
  phase := h.sound_enter trivial
  held := by
    apply h.talks_enter
    rw [hphase]
    exact not_false
  free := h.free
  exchanged := h.exchanged
  told := h.told
  granted turn d call hgranted := by
    have hknown := h.granted turn d call hgranted
    rw [enter_phase]
    split
    · rename_i heq
      subst heq
      rw [hphase] at hknown
      exact hknown
    · exact hknown

/-- A client is told what was read for it. -/
theorem Orderly.tell {line : List UInt8} (h : m.Orderly)
    (hphase : m.phase c = .finished turn call line) :
    Orderly { m.enter c .idle with
      told := m.told ++ [⟨turn, c, call, answerFrom call.method (heard line)⟩] } where
  phase := h.sound_enter trivial
  held := by
    apply h.talks_enter
    rw [hphase]
    exact not_false
  free := h.free
  exchanged := h.exchanged
  told := by
    refine List.forall_mem_append.mpr ⟨h.told, List.forall_mem_singleton.mpr ?_⟩
    have hsound := h.phase c
    rw [hphase] at hsound
    obtain ⟨said, hexchanged, rfl⟩ := hsound
    exact ⟨said, hexchanged, answerFrom_heard_newline call.method said⟩
  granted turn d call hgranted := by
    rcases h.granted turn d call hgranted with ⟨t, ht, htold⟩ | hturn
    · exact .inl ⟨t, List.mem_append_left _ ht, htold⟩
    · rw [enter_phase]
      split
      · rename_i heq
        subst heq
        rw [hphase] at hturn
        cases hturn
        exact .inl ⟨_, List.mem_concat_self, rfl, rfl⟩
      · exact .inr hturn

/-- What a client does on the channel while nobody else has it. -/
theorem Orderly.alone (h : m.Orderly) (halone : ∀ d ≠ c, m.channel.holder ≠ some d)
    (hphase : phase.Sound after c) (hholder : ∀ d, after.holder = some d → d = c ∧ phase.Talks)
    (hfree : after.holder = none → after.Quiet)
    (hgranted : m.channel.granted <+: after.granted)
    (hexchanges : m.channel.exchanges <+: after.exchanges)
    (hexchanged : ∀ turn, m.channel.exchanges.length ≤ turn → turn < after.exchanges.length →
      ∃ c call said, after.Exchanged turn c call said)
    (hturn : (m.phase c).turn? = none ∨ phase.turn? = (m.phase c).turn?)
    (hgrant : ∀ turn d call, after.granted[turn]? = some (d, call) →
      m.channel.granted[turn]? = some (d, call) ∨ d = c ∧ phase.turn? = some turn) :
    Orderly { m.enter c phase with channel := after } where
  phase d := by
    change ((m.enter c phase).phase d).Sound after d
    rw [enter_phase]
    split
    · rename_i heq
      rw [heq]
      exact hphase
    · rename_i hne
      exact (h.phase d).mono (halone d hne) hgranted hexchanges
  held d hd := by
    obtain ⟨rfl, htalks⟩ := hholder d hd
    change ((m.enter d phase).phase d).Talks
    rwa [enter_phase, if_pos rfl]
  free := hfree
  exchanged turn hlt := by
    rcases Nat.lt_or_ge turn m.channel.exchanges.length with hold | hnew
    · obtain ⟨d, call, said, hexchanged⟩ := h.exchanged turn hold
      exact ⟨d, call, said, hexchanged.mono hgranted hexchanges⟩
    · exact hexchanged turn hnew hlt
  told t ht := by
    obtain ⟨said, hexchanged, hanswer⟩ := h.told t ht
    exact ⟨said, hexchanged.mono hgranted hexchanges, hanswer⟩
  granted turn d call hd := by
    change _ ∨ ((m.enter c phase).phase d).turn? = some turn
    rw [enter_phase]
    rcases hgrant turn d call hd with hold | ⟨rfl, hnew⟩
    · rcases h.granted turn d call hold with htold | hknown
      · exact .inl htold
      · right
        split
        · rename_i heq
          subst heq
          rcases hturn with hnone | hsame
          · rw [hnone] at hknown
            cases hknown
          · rw [hsame, hknown]
        · exact hknown
    · rw [if_pos rfl]
      exact .inr hnew

/-- A client that has the channel keeps it. -/
theorem Orderly.talk {unsent' got' : List UInt8} (h : m.Orderly)
    (hphase : m.phase c = .talking turn call unsent got)
    (hholds : after.Holds c turn call unsent' got')
    (hgranted : after.granted = m.channel.granted)
    (hexchanges : m.channel.exchanges <+: after.exchanges) :
    Orderly { m.enter c (.talking turn call unsent' got') with channel := after } := by
  have hbefore := h.holds hphase
  apply h.alone
  · intro d hne hd
    rw [hbefore.holder] at hd
    exact hne (Option.some.inj hd).symm
  · exact hholds
  · intro d hd
    rw [hholds.holder] at hd
    exact ⟨(Option.some.inj hd).symm, trivial⟩
  · intro hnone
    rw [hholds.holder] at hnone
    cases hnone
  · exact hgranted.symm ▸ List.prefix_rfl
  · exact hexchanges
  · intro turn' hnew hlt
    have hbound := hbefore.underway.le_length
    cases hholds.underway with
    | asking ahead length => omega
    | replied ahead length exchanged oneLine =>
      obtain rfl : turn' = turn := by omega
      exact ⟨c, call, got' ++ ahead, hholds.granted, exchanged, oneLine⟩
  · right
    rw [hphase]
    rfl
  · intro turn' d call' hd
    rw [hgranted] at hd
    exact .inl hd

theorem Orderly.lock (h : m.Orderly) (hphase : m.phase c = .waiting call)
    (hfree : m.channel.holder = none) :
    Orderly { m.enter c (.talking m.channel.granted.length call (call.line ++ [newline]) []) with
      channel := m.channel.lock c call } := by
  have hquiet := h.free hfree
  apply h.alone
  · intro d _ hd
    rw [hfree] at hd
    cases hd
  · exact hquiet.lock c call
  · intro d hd
    exact ⟨(Option.some.inj hd).symm, trivial⟩
  · exact nofun
  · exact List.prefix_append ..
  · exact List.prefix_rfl
  · intro turn hnew hlt
    exact absurd hlt (Nat.not_lt.mpr hnew)
  · left
    rw [hphase]
    rfl
  · intro turn d call' hd
    change (m.channel.granted ++ [(c, call)])[turn]? = some (d, call') at hd
    rw [List.getElem?_append] at hd
    split at hd
    · exact .inl hd
    · rename_i hnew
      obtain ⟨hindex, heq⟩ := List.getElem?_eq_some_iff.mp hd
      rw [List.length_singleton] at hindex
      rw [List.getElem_singleton] at heq
      cases heq
      have hturn : m.channel.granted.length = turn := by omega
      exact .inr ⟨rfl, congrArg some hturn⟩

theorem Orderly.release (h : m.Orderly) (hphase : m.phase c = .talking turn call [] got)
    (houtbound : m.channel.outbound = newline :: rest) :
    Orderly { m.enter c (.finished turn call (got ++ [newline])) with
      channel := (m.channel.read rest).release } := by
  have hholds := h.holds hphase
  obtain ⟨hquiet, hexchanged⟩ := hholds.release houtbound
  apply h.alone
  · intro d hne hd
    rw [hholds.holder] at hd
    exact hne (Option.some.inj hd).symm
  · exact ⟨got, hexchanged.mono List.prefix_rfl List.prefix_rfl, rfl⟩
  · exact nofun
  · exact fun _ => hquiet
  · exact List.prefix_rfl
  · exact List.prefix_rfl
  · intro turn' hnew hlt
    exact absurd hlt (Nat.not_lt.mpr hnew)
  · right
    rw [hphase]
    rfl
  · exact fun _ _ _ hd => .inl hd

/-- What the program does on the channel concerns the client that has it. -/
theorem Orderly.program (h : m.Orderly)
    (hholds : ∀ c turn call unsent got, m.channel.Holds c turn call unsent got →
      after.Holds c turn call unsent got)
    (hgranted : after.granted = m.channel.granted)
    (hexchanges : m.channel.exchanges <+: after.exchanges)
    (hquiet : m.channel.Quiet → after = m.channel) : Orderly { m with channel := after } := by
  cases hholder : m.channel.holder with
  | none =>
    rw [hquiet (h.free hholder)]
    exact h
  | some c =>
    have htalks := h.held c hholder
    cases hphase : m.phase c with
    | talking turn call unsent got =>
      have hsame : m.enter c (.talking turn call unsent got) = m := by
        rw [enter, ← hphase, Function.update_eq_self]
      have htalk :=
        h.talk hphase (hholds c turn call unsent got (h.holds hphase)) hgranted hexchanges
      rwa [hsame] at htalk
    | _ =>
      rw [hphase] at htalks
      exact absurd htalks id

theorem Orderly.receive (h : m.Orderly) (hinbound : m.channel.inbound = chunk ++ rest)
    (hchunk : newline ∉ chunk) : Orderly { m with channel := m.channel.receive chunk rest } := by
  apply h.program
  · exact fun _ _ _ _ _ hholds => hholds.receive hinbound hchunk
  · rfl
  · exact List.prefix_rfl
  · intro hquiet
    rw [hquiet.inbound] at hinbound
    obtain ⟨rfl, rfl⟩ := List.append_eq_nil_iff.mp hinbound.symm
    rw [Channel.receive, List.append_nil, ← hquiet.inbound]

theorem Orderly.reply (h : m.Orderly) (hinbound : m.channel.inbound = newline :: rest)
    (hsaid : newline ∉ said) : Orderly { m with channel := m.channel.reply rest said } := by
  apply h.program
  · exact fun _ _ _ _ _ hholds => hholds.reply hinbound hsaid
  · rfl
  · exact List.prefix_append ..
  · intro hquiet
    rw [hquiet.inbound] at hinbound
    cases hinbound

/-- Every step preserves order. -/
theorem Orderly.step (h : m.Orderly) (hstep : Step m m') : m'.Orderly := by
  cases hstep with
  | ask c call hphase => exact h.ask hphase call
  | lock c call hphase hfree => exact h.lock hphase hfree
  | write c turn call chunk rest got hphase =>
    exact h.talk hphase (h.holds hphase).write rfl List.prefix_rfl
  | receive chunk rest hinbound hchunk => exact h.receive hinbound hchunk
  | reply rest said hinbound hsaid => exact h.reply hinbound hsaid
  | read c turn call chunk rest got hphase houtbound hchunk =>
    exact h.talk hphase ((h.holds hphase).read houtbound hchunk) rfl List.prefix_rfl
  | release c turn call rest got hphase houtbound => exact h.release hphase houtbound
  | tell c turn call line hphase => exact h.tell hphase

/-- Whatever has happened since nobody had asked yet. -/
def Reached (m : Moment Client) : Prop := Relation.ReflTransGen Step {} m

theorem Reached.orderly (h : m.Reached) : m.Orderly := by
  induction h with
  | refl => exact orderly_start
  | tail _ hstep ih => exact ih.step hstep

end Steps

end Moment

end ComponentCompiler.Collaborator
