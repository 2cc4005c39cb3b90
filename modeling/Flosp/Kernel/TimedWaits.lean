import Flosp.Kernel.TimedDevice

/-! The waits for a byte and for an acknowledge, with a device that answers in time. -/

namespace Flosp.Kernel

open Interaction

/-- The writes that send a command and send it again for each RESEND. -/
def commandsTo (port cmd : BitVec 8) (resends : Nat) : List (Port × BitVec 8) :=
  (List.replicate (resends + 1) (commandTo port cmd)).flatten

section Waits

variable {w v u : TimedWorld}

/-! Waiting for a byte. -/

/-- A wait that started at `start`: the next byte comes before it gives up. -/
structure Waiting (start : Nat) (w v : TimedWorld) : Prop where
  elapsed : Elapsed w v []
  awaiting : v.awaiting = some start
  inTime : v.device.output = none → v.device.deadline ≤ start + ps2TimeoutDuration.toNat
  room : start + ps2TimeoutDuration.toNat < 2 ^ 64

/-- It ended: with a byte in the output buffer, or in silence. -/
structure Awaited (timedOut : Bool) (w v : TimedWorld) : Prop where
  elapsed : Elapsed w v []
  awaiting : v.awaiting = none
  silent : timedOut = true → v.device.incoming = []
  shown : timedOut = false → v.device.output ≠ none

theorem startWait_inevitable {reader : TickReader} (reads : IsByteReader reader)
    (onTime : w.OnTime) (idle : w.awaiting = none) :
    Task.Inevitable timelyStep (getUptimeTicks reader) w fun now v =>
      ∃ start, now = BitVec.ofNat 64 start ∧ Waiting start w v := by
  apply Task.Inevitable.perform
  intro now _ outcome
  rcases outcome with ⟨⟨v, passes, rfl, rfl⟩, timely⟩
  have later := passes_later passes
  rw [note_start reads (later.awaiting idle)] at timely ⊢
  refine ⟨v.clock, rfl, ?_, rfl, fun _ => later.onTime onTime, timely.room _ rfl⟩
  exact ⟨later.clock, later.device, later.answers, later.writes, later.waitStart⟩

theorem timeout_iff {start now : Nat} (room : start + ps2TimeoutDuration.toNat < 2 ^ 64)
    (room' : now + ps2TimeoutDuration.toNat < 2 ^ 64) :
    BitVec.ofNat 64 now ≥ BitVec.ofNat 64 start + ps2TimeoutDuration ↔
      start + ps2TimeoutDuration.toNat ≤ now := by
  have duration : ps2TimeoutDuration.toNat = 100 := rfl
  rw [duration] at room room' ⊢
  rw [ge_iff_le, BitVec.le_def, BitVec.toNat_add, BitVec.toNat_ofNat, BitVec.toNat_ofNat, duration]
  omega

def Advances (w v : TimedWorld) : Prop :=
  w.clock < v.clock ∨ v.clock = w.clock ∧ v.patience < w.patience

theorem statusRead_waiting {start : Nat} (waiting : Waiting start w v) :
    Task.Inevitable timelyStep outputBufferEmpty v fun empty u =>
      if empty then Waiting start w u ∧ u.device.output = none ∧ v.device.output = none ∧
        Advances v u
      else Awaited false w u := by
  apply Task.Inevitable.op
  intro status _ outcome
  rcases outcome with ⟨⟨u, passes, does⟩, -⟩
  change BitVec 8 at status
  apply Task.Inevitable.ret
  have other : ps2StatusPort ≠ ps2DataPort := by decide
  simp only [TimedWorld.Does, if_neg other, if_pos] at does
  rcases does with ⟨⟨shows_, -⟩, rfl⟩
  have later := (passes_later passes).toElapsed
  have elapsed := waiting.elapsed.trans later
  by_cases unshown : u.device.output = none
  · have empty : decide (status &&& 0b1 = 0) = true := decide_eq_true (shows_.mpr unshown)
    rw [empty, if_pos rfl]
    have same := later.unshown unshown
    have advances : Advances v u := passes_progress passes unshown
    refine ⟨⟨?_, ?_, ?_, waiting.room⟩, unshown, same ▸ unshown, advances⟩
    · exact ⟨elapsed.clock, elapsed.device, elapsed.answers, elapsed.writes, elapsed.waitStart⟩
    · simp [unshown, passes_awaiting passes, waiting.awaiting]
    · intro _
      exact same ▸ waiting.inTime (same ▸ unshown)
  · have full : decide (status &&& 0b1 = 0) = false :=
      decide_eq_false fun empty => unshown (shows_.mp empty)
    rw [full, if_neg Bool.false_ne_true]
    have ended : Awaited false w { u with
        busy := u.busy - 1
        awaiting := if u.device.output = none then u.awaiting else none } := by
      constructor
      · exact ⟨elapsed.clock, elapsed.device, elapsed.answers, elapsed.writes, elapsed.waitStart⟩
      · exact if_neg unshown
      · intro late
        cases late
      · intro _
        exact unshown
    exact ended

/-- Where the next byte is in time, a wait gives up in silence only. -/
theorem clockRead_waiting {reader : TickReader} {start : Nat} (reads : IsByteReader reader)
    (waiting : Waiting start w v) (unshown : v.device.output = none) :
    Task.Inevitable timelyStep (getUptimeTicks reader) v fun now u =>
      if now ≥ BitVec.ofNat 64 start + ps2TimeoutDuration then Awaited true w u
      else Waiting start w u ∧ v.clock ≤ u.clock ∧ u.clock < start + ps2TimeoutDuration.toNat ∧
        (u.device.output = none → Advances v u) := by
  apply Task.Inevitable.perform
  intro now _ outcome
  rcases outcome with ⟨⟨u, passes, rfl, rfl⟩, timely⟩
  have later := (passes_later passes).toElapsed
  have elapsed := waiting.elapsed.trans later
  have goes : u.awaiting = some start := (passes_awaiting passes).trans waiting.awaiting
  have room := timely.room _ rfl
  have byte := timely.byte reader reads rfl start waiting.awaiting
  rw [note_check reads goes] at room byte ⊢
  by_cases late : start + ps2TimeoutDuration.toNat ≤ u.clock
  · rw [if_pos late] at room byte ⊢
    rw [if_pos ((timeout_iff waiting.room room).mpr late)]
    have silent : u.device.output = none := by
      by_contra shown
      have early := byte shown
      dsimp only at early
      omega
    have same := later.unshown silent
    have quiet : ¬ u.device.Owes := by
      intro owes
      have due := passes_due passes owes
      have inTime := waiting.inTime unshown
      rw [same] at due
      omega
    refine ⟨?_, rfl, fun _ => ?_, nofun⟩
    · exact ⟨elapsed.clock, elapsed.device, elapsed.answers, elapsed.writes, elapsed.waitStart⟩
    · unfold Device.Owes at quiet
      push Not at quiet
      simp [Device.incoming, silent, quiet.1, quiet.2]
  · rw [if_neg late] at room ⊢
    rw [if_neg (mt (timeout_iff waiting.room room).mp late)]
    refine ⟨⟨elapsed, goes, ?_, waiting.room⟩, later.clock, Nat.lt_of_not_le late,
      passes_progress passes⟩
    intro unshown'
    rw [later.unshown unshown']
    exact waiting.inTime unshown

/-- What is left of a wait: ticks and patience, as long as no byte has come. -/
def waitMeasure (start : Nat) (w : TimedWorld) : Nat × Nat :=
  (if w.device.output = none then start + ps2TimeoutDuration.toNat + 1 - w.clock else 0, w.patience)

theorem waitMeasure_lower {start : Nat} {x : TimedWorld} (unshown : v.device.output = none)
    (first : Advances v u) (after : u.clock ≤ x.clock)
    (early : x.clock < start + ps2TimeoutDuration.toNat)
    (second : x.device.output = none → Advances u x) :
    WellFoundedRelation.rel (waitMeasure start x) (waitMeasure start v) := by
  have moves : v.clock ≤ u.clock := by
    rcases first with moved | ⟨same, -⟩
    · exact moved.le
    · exact same.ge
  unfold waitMeasure
  rw [if_pos unshown]
  by_cases shown : x.device.output = none
  · rw [if_pos shown]
    by_cases moved : v.clock < x.clock
    · have lower : start + ps2TimeoutDuration.toNat + 1 - x.clock <
          start + ps2TimeoutDuration.toNat + 1 - v.clock := by omega
      exact Prod.Lex.left _ _ lower
    · have same : x.clock = v.clock := by omega
      rw [same]
      rcases first with moved' | ⟨-, patience⟩
      · omega
      · rcases second shown with moved' | ⟨-, patience'⟩
        · omega
        · exact Prod.Lex.right _ (patience'.trans patience)
  · have lower : 0 < start + ps2TimeoutDuration.toNat + 1 - v.clock := by omega
    rw [if_neg shown]
    exact Prod.Lex.left _ _ lower

/-- A wait ends, with a byte if there is one to come. -/
theorem awaitOutputBuffer_inevitable {reader : TickReader} {start : Nat}
    (reads : IsByteReader reader) (waiting : Waiting start w v) :
    Task.Inevitable timelyStep (awaitOutputBuffer reader (BitVec.ofNat 64 start)) v
      fun timedOut u => Awaited timedOut w u := by
  apply Task.Inevitable.iterate
    (I := fun (m : Nat × Nat) (_ : Unit) v => Waiting start w v ∧ m = waitMeasure start v) _
    ⟨waiting, rfl⟩
  intro _ _ v outcome
  rcases outcome with ⟨waiting, rfl⟩
  apply (statusRead_waiting waiting).bind
  intro empty u read
  cases empty with
  | false => exact .ret read
  | true =>
      rcases read with ⟨waiting₁, unshown₁, unshown, advances⟩
      apply (clockRead_waiting reads waiting₁ unshown₁).bind
      intro now x looked
      apply Task.Inevitable.ret
      split
      · rename_i late
        rwa [if_pos late] at looked
      · rename_i early
        rw [if_neg early] at looked
        rcases looked with ⟨waiting₂, after, early, advances'⟩
        exact ⟨_, waitMeasure_lower unshown advances after early advances', waiting₂, rfl⟩

def Took (w : TimedWorld) (b : BitVec 8) (u : TimedWorld) : Prop :=
  ∃ v, Elapsed w v [] ∧ v.awaiting = none ∧ v.device.output = some b ∧
    u = { v with device := { v.device with output := none } }

theorem polRecieveByte_inevitable {b : BitVec 8} {rest : List (BitVec 8)} (onTime : w.OnTime)
    (idle : w.awaiting = none) (incoming : w.device.incoming = b :: rest) (g : Ps2) :
    Task.Inevitable timelyStep (ps2PolRecieveByte g) w fun r u => r = (b, g) ∧ Took w b u := by
  have reads : IsByteReader .polRecieveByte := List.mem_cons_self
  apply (startWait_inevitable reads onTime idle).bind
  intro _ v outcome
  rcases outcome with ⟨start, rfl, waiting⟩
  apply (awaitOutputBuffer_inevitable reads waiting).bind
  intro timedOut u awaited
  cases timedOut with
  | true =>
      have silent := awaited.silent rfl
      rw [awaited.elapsed.incoming, incoming] at silent
      cases silent
  | false =>
      rw [if_neg Bool.false_ne_true]
      apply Task.Inevitable.op
      intro taken _ outcome
      rcases outcome with ⟨⟨x, passes, does⟩, -⟩
      change BitVec 8 at taken
      have later := passes_later passes
      have elapsed := awaited.elapsed.trans later.toElapsed
      have shown : x.device.output = some b := by
        have kept := later.shown (awaited.shown rfl)
        have first := elapsed.incoming.trans incoming
        rcases Option.ne_none_iff_exists'.mp (awaited.shown rfl) with ⟨sent, here⟩
        rw [Device.incoming, kept, here] at first
        cases first
        rw [kept, here]
      simp only [TimedWorld.Does, if_pos] at does
      rw [does.1 b shown, does.2]
      exact .ret ⟨rfl, x, elapsed, later.awaiting awaited.awaiting, shown, rfl⟩

section Took

variable {b : BitVec 8} {rest : List (BitVec 8)}

theorem Took.incoming (took : Took w b u) (incoming : w.device.incoming = b :: rest) :
    u.device.incoming = rest := by
  rcases took with ⟨v, elapsed, -, shown, rfl⟩
  have first := elapsed.incoming.trans incoming
  rw [Device.incoming, shown] at first
  exact List.tail_eq_of_cons_eq first

theorem Took.onTime (took : Took w b u) (onTime : w.OnTime) : u.OnTime := by
  rcases took with ⟨v, elapsed, -, -, rfl⟩
  exact elapsed.onTime onTime

theorem Took.awaiting (took : Took w b u) : u.awaiting = none := by
  rcases took with ⟨v, -, idle, -, rfl⟩
  exact idle

theorem Took.same (took : Took w b u) :
    u.answers = w.answers ∧ u.writes = w.writes ∧ u.waitStart = w.waitStart := by
  rcases took with ⟨v, elapsed, -, -, rfl⟩
  exact ⟨elapsed.answers, elapsed.writes.trans (List.append_nil _), elapsed.waitStart⟩

theorem Took.ackDue {start : Nat} {identity : List (BitVec 8)} (took : Took w b u)
    (other : b ≠ ps2Ack) (due : AckDue start identity w.device) :
    AckDue start identity u.device := by
  rcases took with ⟨v, elapsed, -, shown, rfl⟩
  rcases elapsed.ackDue due with owed | acked
  · exact .inl owed
  · rw [shown] at acked
    exact absurd (Option.some.inj acked) other

end Took

/-! Waiting for an acknowledge. -/

theorem seconds_early {start now : Nat} (room : start + ps2TimeoutDuration.toNat < 2 ^ 64)
    (room' : now + ps2TimeoutDuration.toNat < 2 ^ 64)
    (early : now < 100 * (start + ps2TimeoutDuration.toNat)) :
    ¬ BitVec.ofNat 64 now / 100 ≥ BitVec.ofNat 64 start + ps2TimeoutDuration := by
  have duration : ps2TimeoutDuration.toNat = 100 := rfl
  have inSeconds : (BitVec.ofNat 64 now / 100).toNat = now % 2 ^ 64 / 100 := by
    rw [BitVec.toNat_udiv, BitVec.toNat_ofNat]
    rfl
  rw [duration] at room room' early
  rw [ge_iff_le, BitVec.le_def, BitVec.toNat_add, BitVec.toNat_ofNat, inSeconds, duration]
  omega

/-- As long as the acknowledge is due, the seconds that a wait compares with its start are not
too late. -/
theorem checkTimeout_inevitable {identity : List (BitVec 8)} {g : Ps2}
    (due : AckDue w.waitStart identity w.device)
    (room : w.waitStart + ps2TimeoutDuration.toNat < 2 ^ 64) :
    Task.Inevitable timelyStep (checkTimeout (BitVec.ofNat 64 w.waitStart) g) w fun x u =>
      x = .inl g ∧ Onward w u [] := by
  apply Task.Inevitable.op
  intro now v outcome
  rcases outcome with ⟨⟨_, passes, rfl, rfl⟩, timely⟩
  have later : Onward w v [] := passes_later passes
  have early : v.clock < 100 * (w.waitStart + ps2TimeoutDuration.toNat) := by
    rcases later.ackDue due with ⟨owed, inTime⟩ | acked
    · have owes : v.device.Owes := .inr (by simp [owed])
      have before := passes_due passes owes
      omega
    · exact timely.ack rfl (by simp [acked])
  have goesOn := seconds_early room (timely.room _ rfl) early
  apply Task.Inevitable.bind (Q := fun seconds u => seconds = BitVec.ofNat 64 v.clock / 100 ∧ u = v)
  · exact .ret ⟨rfl, rfl⟩
  · intro _ _ outcome
    rcases outcome with ⟨rfl, rfl⟩
    rw [if_neg goesOn]
    exact .ret ⟨rfl, later⟩

/-- A wait for an acknowledge, with `left` RESENDs still to come. -/
structure AwaitsAck (port cmd : BitVec 8) (identity : List (BitVec 8)) (answers : List Answer)
    (writes : List (Port × BitVec 8)) (left : Nat) (w : TimedWorld) : Prop where
  incoming : w.device.incoming = List.replicate left ps2Resend ++ ps2Ack :: identity
  due : AckDue w.waitStart identity w.device
  onTime : w.OnTime
  awaiting : w.awaiting = none
  answers : w.answers = answers
  writes : w.writes ++ (List.replicate left (commandTo port cmd)).flatten = writes
  room : w.waitStart + ps2TimeoutDuration.toNat < 2 ^ 64

structure AckTaken (identity : List (BitVec 8)) (answers : List Answer)
    (writes : List (Port × BitVec 8)) (w : TimedWorld) : Prop where
  incoming : w.device.incoming = identity
  onTime : w.OnTime
  awaiting : w.awaiting = none
  answers : w.answers = answers
  writes : w.writes = writes

section Wait

variable {port cmd : BitVec 8} {identity : List (BitVec 8)} {answers : List Answer}
  {writes : List (Port × BitVec 8)} {g : Ps2}

theorem handleResend_inevitable (valid : ¬ g.InvalidPort port) (clear : g.ps2Error = false)
    (heard : ∀ answer ∈ w.answers.head?, answer.command ≠ cmd)
    (due : AckDue w.waitStart identity w.device)
    (room : w.waitStart + ps2TimeoutDuration.toNat < 2 ^ 64) :
    Task.Inevitable timelyStep
      (handleResponse port cmd (BitVec.ofNat 64 w.waitStart) ps2Resend g) w fun x u =>
        x = .inl g ∧ Onward w u (commandTo port cmd) ∧ AckDue u.waitStart identity u.device := by
  have other : ps2Resend ≠ ps2Ack := by decide
  rw [handleResponse, if_neg other, clear, if_neg Bool.false_ne_true, resendIfAsked, if_pos rfl,
    ps2PortWriteData_eq, if_neg valid]
  have resent : Task.Inevitable timelyStep (sendToPort port cmd >>= fun _ => .ret ()) w
      fun _ v => Onward w v (commandTo port cmd) :=
    (resend_inevitable heard).bind fun _ _ later => .ret later
  apply resent.bind
  intro _ v later
  have start : v.waitStart = w.waitStart := later.waitStart
  rw [← start] at due room ⊢
  have due' : AckDue v.waitStart identity v.device := later.ackDue due
  apply (checkTimeout_inevitable due' room).mono
  intro _ u outcome
  rcases outcome with ⟨rfl, later'⟩
  refine ⟨rfl, ?_, ?_⟩
  · rw [← List.append_nil (commandTo port cmd)]
    exact later.trans later'
  · rw [later'.waitStart]
    exact later'.ackDue due'

theorem awaitAck_inevitable (valid : ¬ g.InvalidPort port) (clear : g.ps2Error = false)
    (heard : ∀ answer ∈ answers.head?, answer.command ≠ cmd) {left : Nat}
    (awaits : AwaitsAck port cmd identity answers writes left w) :
    Task.Inevitable timelyStep (awaitAck port cmd (BitVec.ofNat 64 w.waitStart) g) w fun x u =>
      x.elim (fun g' => g' = g ∧ u.waitStart = w.waitStart ∧
        ∃ less < left, AwaitsAck port cmd identity answers writes less u)
        fun r => r = (0, g) ∧ AckTaken identity answers writes u := by
  rw [awaitAck_eq]
  cases left with
  | zero =>
      apply (polRecieveByte_inevitable awaits.onTime awaits.awaiting awaits.incoming g).bind
      intro _ u outcome
      rcases outcome with ⟨rfl, took⟩
      rcases took.same with ⟨answers', writes', -⟩
      rw [handleResponse, if_pos rfl]
      refine .ret ⟨rfl, took.incoming awaits.incoming, took.onTime awaits.onTime, took.awaiting,
        answers'.trans awaits.answers, ?_⟩
      rw [writes', ← awaits.writes]
      simp
  | succ left =>
      have first : w.device.incoming =
          ps2Resend :: (List.replicate left ps2Resend ++ ps2Ack :: identity) := awaits.incoming
      have other : ps2Resend ≠ ps2Ack := by decide
      apply (polRecieveByte_inevitable awaits.onTime awaits.awaiting first g).bind
      intro _ v outcome
      rcases outcome with ⟨rfl, took⟩
      rcases took.same with ⟨answers', writes', start⟩
      have heard' : ∀ answer ∈ v.answers.head?, answer.command ≠ cmd := by
        rw [answers', awaits.answers]
        exact heard
      have due : AckDue v.waitStart identity v.device := start ▸ took.ackDue other awaits.due
      have room : v.waitStart + ps2TimeoutDuration.toNat < 2 ^ 64 := start ▸ awaits.room
      rw [← start]
      apply (handleResend_inevitable valid clear heard' due room).mono
      intro _ u outcome
      rcases outcome with ⟨rfl, later, due'⟩
      refine ⟨rfl, later.waitStart, left, Nat.lt_succ_self left, ?_⟩
      constructor
      · exact later.incoming.trans (took.incoming first)
      · exact due'
      · exact later.onTime (took.onTime awaits.onTime)
      · exact later.awaiting took.awaiting
      · exact later.answers.trans (answers'.trans awaits.answers)
      · rw [later.writes, writes', ← awaits.writes]
        simp [List.replicate_succ]
      · rw [later.waitStart]
        exact room

/-- A command has been written, and the device will acknowledge it after some RESENDs. -/
structure Commanded (identity : List (BitVec 8)) (answers : List Answer) (resends : Nat)
    (w : TimedWorld) : Prop where
  incoming : w.device.incoming = List.replicate resends ps2Resend ++ ps2Ack :: identity
  due : AckDue w.clock identity w.device
  onTime : w.OnTime
  awaiting : w.awaiting = none
  answers : w.answers = answers

theorem AckTaken.elapsed (acked : AckTaken identity answers writes w) (elapsed : Elapsed w v [])
    (awaiting : v.awaiting = none) : AckTaken identity answers writes v where
  incoming := elapsed.incoming.trans acked.incoming
  onTime := elapsed.onTime acked.onTime
  awaiting := awaiting
  answers := elapsed.answers.trans acked.answers
  writes := by rw [elapsed.writes, acked.writes, List.append_nil]

theorem AckDue.later {start start' : Nat} {d : Device} (due : AckDue start identity d)
    (later : start ≤ start') : AckDue start' identity d := by
  rcases due with ⟨owed, early⟩ | acked
  · exact .inl ⟨owed, by omega⟩
  · exact .inr acked

/-- The wait sends the command again for each RESEND, and returns with the acknowledge. -/
theorem waitForAck_inevitable (valid : ¬ g.InvalidPort port) (clear : g.ps2Error = false)
    (heard : ∀ answer ∈ answers.head?, answer.command ≠ cmd) {resends : Nat}
    (commanded : Commanded identity answers resends w) :
    Task.Inevitable timelyStep (ps2WaitForAck g port cmd) w fun r u => r = (0, g) ∧
      AckTaken identity answers
        (w.writes ++ (List.replicate resends (commandTo port cmd)).flatten) u := by
  apply Task.Inevitable.op
  intro start u outcome
  rcases outcome with ⟨⟨v, passes, rfl, rfl⟩, timely⟩
  have later := passes_later passes
  have awaits : AwaitsAck port cmd identity answers
      (w.writes ++ (List.replicate resends (commandTo port cmd)).flatten) resends
      (v.note .waitStart) := by
    refine ⟨later.incoming.trans commanded.incoming, ?_, later.onTime commanded.onTime,
      later.awaiting commanded.awaiting, later.answers.trans commanded.answers, ?_, timely.room _ rfl⟩
    · exact (later.ackDue commanded.due).later later.clock
    · rw [← List.append_nil w.writes, ← later.writes]
      rfl
  apply Task.Inevitable.iterate (I := fun left g' u => g' = g ∧ u.waitStart = v.clock ∧
    AwaitsAck port cmd identity answers
      (w.writes ++ (List.replicate resends (commandTo port cmd)).flatten) left u) _
    ⟨rfl, rfl, awaits⟩
  intro left _ x outcome
  rcases outcome with ⟨rfl, start, awaits⟩
  rw [← start]
  apply (awaitAck_inevitable valid clear heard awaits).mono
  intro y z ends
  cases y with
  | inl g' =>
      rcases ends with ⟨rfl, start', less, lower, awaits⟩
      exact ⟨less, lower, rfl, start', awaits⟩
  | inr r => exact ends

theorem command_inevitable {resends : Nat} (incoming : w.device.incoming = [])
    (idle : w.awaiting = none) (known : w.answers = ⟨cmd, resends, identity⟩ :: answers) :
    Task.Inevitable timelyStep (sendToPort port cmd) w fun _ u =>
      Commanded identity answers resends u ∧ u.writes = w.writes ++ commandTo port cmd := by
  apply (sendToPort_inevitable port cmd).mono
  intro _ _ outcome
  rcases outcome with ⟨v, selects, busy, later, whole, rfl⟩
  have silent : v.device.output = none := by
    have none' := later.incoming.trans incoming
    rw [Device.incoming] at none'
    simpa using (List.append_eq_nil_iff.mp none').1
  have hears : v.write ps2DataPort cmd busy =
      { v with
        busy
        writes := v.writes ++ [(ps2DataPort, cmd)]
        device := ⟨v.device.output, resends, ps2Ack :: identity,
          v.clock + ps2TimeoutDuration.toNat⟩
        answers } := by
    simp [TimedWorld.write, TimedWorld.hear, later.answers, known]
  rw [hears]
  refine ⟨⟨?_, .inl ⟨rfl, Nat.le_refl _⟩, Nat.le_refl _, later.awaiting idle, rfl⟩, ?_⟩
  · simp [Device.incoming, silent]
  · dsimp only
    rw [later.writes, List.append_assoc, whole]

theorem acknowledge_inevitable {α : Type} {f : Int × Ps2 → Driver α} {Q : α → TimedWorld → Prop}
    (valid : ¬ g.InvalidPort port) (clear : g.ps2Error = false) {resends : Nat}
    (incoming : w.device.incoming = []) (idle : w.awaiting = none)
    (known : w.answers = ⟨cmd, resends, identity⟩ :: answers)
    (heard : ∀ answer ∈ answers.head?, answer.command ≠ cmd)
    (rest : ∀ u, AckTaken identity answers (w.writes ++ commandsTo port cmd resends) u →
      Task.Inevitable timelyStep (f (0, g)) u Q) :
    Task.Inevitable timelyStep
      (ps2PortWriteData g port cmd >>= fun _ => ps2WaitForAck g port cmd >>= f) w Q := by
  rw [ps2PortWriteData_eq, if_neg valid]
  apply (command_inevitable incoming idle known).bind
  intro _ v outcome
  rcases outcome with ⟨commanded, writes⟩
  apply (waitForAck_inevitable valid clear heard commanded).bind
  intro _ u outcome
  rcases outcome with ⟨rfl, acked⟩
  apply rest
  have whole : w.writes ++ commandsTo port cmd resends =
      v.writes ++ (List.replicate resends (commandTo port cmd)).flatten := by
    rw [writes, commandsTo, List.replicate_succ, List.flatten_cons, List.append_assoc]
  rwa [whole]

end Wait

end Waits

end Flosp.Kernel
