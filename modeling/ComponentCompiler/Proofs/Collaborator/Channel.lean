import ComponentCompiler.Proofs.Collaborator.Calls

/-!
# A channel that is held for one call

Whoever has the channel to a program writes the line of a request and reads the line of a reply.
Bytes may be on their way in both directions, and the program replies to each line that it has read
with one line, whatever that says. What the holder and the program do is known from how far the
call is (`Channel.Holds`): a quiet channel is quiet again when the holder has read its reply
(`Channel.Holds.release`).
-/

namespace ComponentCompiler.Collaborator

open Text (newline)

/-- A channel to a program, and what went over it so far. -/
structure Channel (Client : Type) where
  /-- The client that has the channel. -/
  holder : Option Client := none
  /-- The bytes that the program has not read yet. -/
  inbound : List UInt8 := []
  /-- The part of a line that the program has read. -/
  begun : List UInt8 := []
  /-- The bytes from the program that no client has read yet. -/
  outbound : List UInt8 := []
  /-- The calls in the order in which they got the channel. -/
  granted : List (Client × Call) := []
  /-- All bytes that were written. -/
  written : List UInt8 := []
  /-- The lines that the program has read, each with the line of its reply. -/
  exchanges : List (List UInt8 × List UInt8) := []

namespace Channel

variable {Client : Type} {ch after : Channel Client} {c : Client} {turn : Nat} {call : Call}
  {unsent got chunk rest said : List UInt8}

section Operations

variable (ch : Channel Client)

def lock (c : Client) (call : Call) : Channel Client :=
  { ch with holder := some c, granted := ch.granted ++ [(c, call)] }

def write (chunk : List UInt8) : Channel Client :=
  { ch with inbound := ch.inbound ++ chunk, written := ch.written ++ chunk }

/-- The program reads a part of a line, and the rest stays. -/
def receive (chunk rest : List UInt8) : Channel Client :=
  { ch with inbound := rest, begun := ch.begun ++ chunk }

/-- The program reads the end of a line and replies. -/
def reply (rest reply : List UInt8) : Channel Client :=
  { ch with
    inbound := rest
    begun := []
    outbound := ch.outbound ++ (reply ++ [newline])
    exchanges := ch.exchanges ++ [(ch.begun, reply)] }

/-- A client reads, and the rest stays. -/
def read (rest : List UInt8) : Channel Client := { ch with outbound := rest }

def release : Channel Client := { ch with holder := none }

/-- All the lines of the requests that got the channel. -/
def requests : List UInt8 := ch.granted.flatMap fun entry => entry.2.line ++ [newline]

end Operations

/-- A call got the channel as the given number of calls did before it, and the program read its line
and replied. -/
structure Exchanged (ch : Channel Client) (turn : Nat) (c : Client) (call : Call)
    (said : List UInt8) : Prop where
  granted : ch.granted[turn]? = some (c, call)
  exchanged : ch.exchanges[turn]? = some (call.line, said)
  oneLine : newline ∉ said

/-- How far the call is that has the channel. -/
inductive Underway (ch : Channel Client) (turn : Nat) (call : Call) (unsent got : List UInt8) :
    Prop
  /-- The program has read a part of the request, and the rest of it is ahead. -/
  | asking (ahead : List UInt8) (length : ch.exchanges.length = turn)
      (outbound : ch.outbound = []) (got : got = []) (line : call.line = ch.begun ++ ahead)
      (inbound : ch.inbound ++ unsent = ahead ++ [newline])
  /-- The client has read a part of the reply, and the rest of it is ahead. -/
  | replied (ahead : List UInt8) (length : ch.exchanges.length = turn + 1)
      (exchanged : ch.exchanges[turn]? = some (call.line, got ++ ahead))
      (oneLine : newline ∉ got ++ ahead) (begun : ch.begun = []) (inbound : ch.inbound = [])
      (unsent : unsent = []) (outbound : ch.outbound = ahead ++ [newline])

theorem Underway.le_length (h : ch.Underway turn call unsent got) :
    turn ≤ ch.exchanges.length := by
  cases h with
  | asking _ length => omega
  | replied _ length => omega

/-- A client has the channel for its call, which is the last that got it. -/
structure Holds (ch : Channel Client) (c : Client) (turn : Nat) (call : Call)
    (unsent got : List UInt8) : Prop where
  holder : ch.holder = some c
  length : ch.granted.length = turn + 1
  granted : ch.granted[turn]? = some (c, call)
  written : ch.written ++ unsent = ch.requests
  underway : ch.Underway turn call unsent got

/-- Nothing is on its way. -/
structure Quiet (ch : Channel Client) : Prop where
  holder : ch.holder = none
  begun : ch.begun = []
  inbound : ch.inbound = []
  outbound : ch.outbound = []
  length : ch.exchanges.length = ch.granted.length
  written : ch.written = ch.requests

theorem getElem?_of_prefix {α : Type*} {front list : List α} (h : front <+: list) {index : Nat}
    {x : α} (hx : front[index]? = some x) : list[index]? = some x := by
  obtain ⟨hindex, rfl⟩ := List.getElem?_eq_some_iff.mp hx
  exact List.prefix_iff_getElem?.mp h index hindex

theorem Exchanged.mono (h : ch.Exchanged turn c call said) (hgranted : ch.granted <+: after.granted)
    (hexchanges : ch.exchanges <+: after.exchanges) : after.Exchanged turn c call said where
  granted := getElem?_of_prefix hgranted h.granted
  exchanged := getElem?_of_prefix hexchanges h.exchanged
  oneLine := h.oneLine

section Progress

/-- A client that gets a quiet channel has all of its request ahead. -/
theorem Quiet.lock (h : ch.Quiet) (c : Client) (call : Call) :
    (ch.lock c call).Holds c ch.granted.length call (call.line ++ [newline]) [] where
  holder := rfl
  length := List.length_append ..
  granted := List.getElem?_concat_length ..
  written := by
    rw [requests, Channel.lock, List.flatMap_append, List.flatMap_singleton]
    exact congrArg (· ++ _) h.written
  underway := by
    refine .asking call.line h.length h.outbound rfl ?_ ?_
    · exact (congrArg (· ++ call.line) h.begun).symm
    · exact congrArg (· ++ _) h.inbound

theorem Holds.write (h : ch.Holds c turn call (chunk ++ rest) got) :
    (ch.write chunk).Holds c turn call rest got where
  holder := h.holder
  length := h.length
  granted := h.granted
  written := by
    rw [Channel.write, List.append_assoc]
    exact h.written
  underway := by
    cases h.underway with
    | asking ahead length outbound hgot line inbound =>
      refine .asking ahead length outbound hgot line ?_
      rw [Channel.write, List.append_assoc]
      exact inbound
    | replied ahead length exchanged oneLine begun inbound unsent outbound =>
      obtain ⟨rfl, rfl⟩ := List.append_eq_nil_iff.mp unsent
      refine .replied ahead length exchanged oneLine begun ?_ rfl outbound
      rw [Channel.write, inbound]
      rfl

/-- What the program reads before the newline is part of the request. -/
theorem Holds.receive (h : ch.Holds c turn call unsent got) (hinbound : ch.inbound = chunk ++ rest)
    (hchunk : newline ∉ chunk) : (ch.receive chunk rest).Holds c turn call unsent got where
  holder := h.holder
  length := h.length
  granted := h.granted
  written := h.written
  underway := by
    cases h.underway with
    | asking ahead length outbound hgot line inbound =>
      rw [hinbound, List.append_assoc] at inbound
      obtain ⟨ahead, rfl, hrest⟩ := Text.exists_rest_of_append inbound hchunk
      refine .asking ahead length outbound hgot ?_ hrest
      rw [line, Channel.receive, List.append_assoc]
    | replied ahead length exchanged oneLine begun inbound unsent outbound =>
      rw [inbound] at hinbound
      obtain ⟨rfl, rfl⟩ := List.append_eq_nil_iff.mp hinbound.symm
      refine .replied ahead length exchanged oneLine ?_ rfl unsent outbound
      rw [Channel.receive, begun]
      rfl

/-- The first newline that the program reads is at the end of the request, so the program has read
the request when it replies. -/
theorem Holds.reply (h : ch.Holds c turn call unsent got) (hinbound : ch.inbound = newline :: rest)
    (hsaid : newline ∉ said) : (ch.reply rest said).Holds c turn call unsent got where
  holder := h.holder
  length := h.length
  granted := h.granted
  written := h.written
  underway := by
    cases h.underway with
    | asking ahead length outbound hgot line inbound =>
      rw [hinbound, List.cons_append] at inbound
      have hahead : newline ∉ ahead := fun hmem =>
        call.newline_not_mem_line (line ▸ List.mem_append_right _ hmem)
      obtain ⟨rfl, hrest⟩ := Text.eq_nil_of_newline inbound hahead
      obtain ⟨rfl, rfl⟩ := List.append_eq_nil_iff.mp hrest
      subst hgot
      refine .replied said ?_ ?_ hsaid rfl rfl rfl ?_
      · rw [Channel.reply, List.length_append, length]
        rfl
      · rw [line, List.append_nil, ← length]
        exact List.getElem?_concat_length ..
      · rw [Channel.reply, outbound]
        rfl
    | replied ahead length exchanged oneLine begun inbound unsent outbound =>
      rw [inbound] at hinbound
      cases hinbound

/-- What the client reads before the newline is part of the reply. -/
theorem Holds.read (h : ch.Holds c turn call unsent got) (houtbound : ch.outbound = chunk ++ rest)
    (hchunk : newline ∉ chunk) : (ch.read rest).Holds c turn call unsent (got ++ chunk) where
  holder := h.holder
  length := h.length
  granted := h.granted
  written := h.written
  underway := by
    cases h.underway with
    | asking ahead length outbound hgot line inbound =>
      rw [outbound] at houtbound
      obtain ⟨rfl, rfl⟩ := List.append_eq_nil_iff.mp houtbound.symm
      exact .asking ahead length rfl (by rw [hgot, List.append_nil]) line inbound
    | replied ahead length exchanged oneLine begun inbound unsent outbound =>
      rw [houtbound] at outbound
      obtain ⟨ahead, rfl, hrest⟩ := Text.exists_rest_of_append outbound hchunk
      rw [← List.append_assoc] at exchanged oneLine
      exact .replied ahead length exchanged oneLine begun inbound unsent hrest

/-- The first newline that the client reads is at the end of the reply, and nothing is left after
it. -/
theorem Holds.release (h : ch.Holds c turn call unsent got)
    (houtbound : ch.outbound = newline :: rest) :
    ((ch.read rest).release).Quiet ∧ ch.Exchanged turn c call got := by
  cases h.underway with
  | asking ahead length outbound hgot line inbound =>
    rw [outbound] at houtbound
    cases houtbound
  | replied ahead length exchanged oneLine begun inbound unsent outbound =>
    rw [houtbound] at outbound
    have hahead : newline ∉ ahead := fun hmem => oneLine (List.mem_append_right _ hmem)
    obtain ⟨rfl, rfl⟩ := Text.eq_nil_of_newline outbound hahead
    rw [List.append_nil] at exchanged oneLine
    subst unsent
    have hwritten : ch.written = ch.requests := by
      rw [← h.written, List.append_nil]
    exact ⟨⟨rfl, begun, inbound, rfl, length.trans h.length.symm, hwritten⟩,
      ⟨h.granted, exchanged, oneLine⟩⟩

end Progress

end Channel

end ComponentCompiler.Collaborator
