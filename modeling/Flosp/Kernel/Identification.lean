import Flosp.Kernel.TimedWaits
import Flosp.Kernel.EagerDevice

/-! What `ps2_port_identify` finds out about a device that answers in time. -/

namespace Flosp.Kernel

open Interaction

/-- A device that is idle, and how it will answer the three commands. -/
def idleWorld (resends : Nat × Nat × Nat) (identity : List (BitVec 8))
    (clock patience busy : Nat) : TimedWorld where
  device := ⟨none, 0, [], 0⟩
  answers := [⟨ps2DisableScanning, resends.1, []⟩, ⟨ps2Identify, resends.2.1, identity⟩,
    ⟨ps2EnableScanning, resends.2.2, []⟩]
  clock := clock
  patience := patience
  busy := busy
  writes := []
  awaiting := none
  waitStart := 0

/-- The identity is read, the device has acknowledged all three commands, and each was written
once more for each RESEND. -/
structure ReadsIdentity (port : BitVec 8) (resends : Nat × Nat × Nat) (identity : List (BitVec 8))
    (r : Ps2Response × Ps2) (w : TimedWorld) : Prop where
  count : r.1.byteCount.toNat = identity.length
  data : r.1.data.toList.take identity.length = identity
  writes : w.writes = commandsTo port ps2DisableScanning resends.1 ++
    commandsTo port ps2Identify resends.2.1 ++ commandsTo port ps2EnableScanning resends.2.2
  acknowledged : w.answers = [] ∧ w.device.incoming = []
  error : r.2.ps2Error = false

def Ps2Response.Holds (response : Ps2Response) (got : List (BitVec 8)) : Prop :=
  response.byteCount.toNat = got.length ∧ response.data.toList.take got.length = got

theorem push_holds {response : Ps2Response} {got : List (BitVec 8)} (holds : response.Holds got)
    (room : got.length < 3) (b : BitVec 8) : (response.push b).Holds (got ++ [b]) := by
  rcases holds with ⟨count, data⟩
  have whole : response.data.toList.length = 3 := Vector.length_toList
  constructor
  · have one : (1 : BitVec 8).toNat = 1 := rfl
    rw [Ps2Response.push, BitVec.toNat_add, count, one, List.length_append, List.length_singleton]
    omega
  · rw [Ps2Response.push, count, List.length_append, List.length_singleton, List.take_add_one,
      Vector.toList_setIfInBounds, List.take_set_of_le (Nat.le_refl _), data,
      List.getElem?_set_self (by omega)]
    rfl

theorem byteCount_two {response : Ps2Response} {got : List (BitVec 8)}
    (holds : response.Holds got) : response.byteCount = 2 ↔ got.length = 2 := by
  rw [← holds.1]
  constructor
  · intro two
    rw [two]
    rfl
  · intro two
    exact BitVec.eq_of_toNat_eq two

section Retrieve

variable {w v u : TimedWorld} {port : BitVec 8} {identity : List (BitVec 8)} {resends : Nat}
  {writes : List (Port × BitVec 8)} {g : Ps2}

theorem enableScanning_inevitable (valid : ¬ g.InvalidPort port) (clear : g.ps2Error = false)
    (acked : AckTaken [] [⟨ps2EnableScanning, resends, []⟩] writes w) :
    Task.Inevitable timelyStep (enableScanning port g) w fun g' u => g' = g ∧
      AckTaken [] [] (writes ++ commandsTo port ps2EnableScanning resends) u := by
  apply acknowledge_inevitable valid clear acked.incoming acked.awaiting acked.answers nofun
  intro u acked'
  rw [acked.writes] at acked'
  exact .ret ⟨rfl, acked'⟩

/-- Between two turns: some of the identity is read, and the rest will come. -/
structure Retrieves (identity : List (BitVec 8)) (answers : List Answer)
    (writes : List (Port × BitVec 8)) (g : Ps2) (left : Nat) (state : Ps2Response × Ps2)
    (w : TimedWorld) : Prop where
  same : state.2 = g
  read : ∃ got rest, got ++ rest = identity ∧ rest.length = left ∧ state.1.Holds got ∧
    AckTaken rest answers writes w

/-- The retrieval ends with the whole identity, and where it ends the function scanning is enabled
again. -/
def RetrievesAll (port : BitVec 8) (identity : List (BitVec 8)) (resends : Nat)
    (writes : List (Port × BitVec 8)) (g : Ps2) (r : Bool × Ps2Response × Ps2) (w : TimedWorld) :
    Prop :=
  r.2.2 = g ∧ r.2.1.Holds identity ∧
    if r.1 then AckTaken [] [⟨ps2EnableScanning, resends, []⟩] writes w
    else AckTaken [] [] (writes ++ commandsTo port ps2EnableScanning resends) w

theorem retrieveByte_inevitable (valid : ¬ g.InvalidPort port) (clear : g.ps2Error = false)
    (short : identity.length ≤ 2) {left : Nat} {state : Ps2Response × Ps2}
    (retrieves : Retrieves identity [⟨ps2EnableScanning, resends, []⟩] writes g left state w) :
    Task.Inevitable timelyStep (retrieveByte port state) w fun x u =>
      x.elim (fun state' => ∃ less < left,
          Retrieves identity [⟨ps2EnableScanning, resends, []⟩] writes g less state' u)
        fun r => RetrievesAll port identity resends writes g r u := by
  rcases state with ⟨response, g'⟩
  rcases retrieves with ⟨rfl, got, rest, rfl, rfl, holds, acked⟩
  rw [List.length_append] at short
  rw [retrieveByte_eq]
  split
  · rename_i two
    have full := (byteCount_two holds).mp two
    have whole : rest = [] := List.eq_nil_of_length_eq_zero (by omega)
    subst whole
    rw [List.append_nil]
    exact .ret ⟨rfl, holds, acked⟩
  · have reads : IsByteReader .portIdentify := List.mem_cons_of_mem _ List.mem_cons_self
    apply (startWait_inevitable reads acked.onTime acked.awaiting).bind
    intro _ v outcome
    rcases outcome with ⟨start, rfl, waiting⟩
    apply (awaitOutputBuffer_inevitable reads waiting).bind
    intro timedOut u awaited
    have acked' := acked.elapsed awaited.elapsed awaited.awaiting
    cases timedOut with
    | true =>
        have whole : rest = [] := acked'.incoming.symm.trans (awaited.silent rfl)
        subst whole
        rw [if_pos rfl, List.append_nil]
        apply (perform_later (o := .console _) trivial).bind
        intro _ x later
        have acked'' := acked'.elapsed later.toElapsed (later.awaiting acked'.awaiting)
        apply (enableScanning_inevitable valid clear acked'').bind
        intro _ y outcome
        rcases outcome with ⟨rfl, enabled⟩
        exact .ret ⟨rfl, holds, enabled⟩
    | false =>
        rw [if_neg Bool.false_ne_true]
        cases rest with
        | nil =>
            have silent := acked'.incoming
            rw [Device.incoming, List.append_eq_nil_iff] at silent
            exact absurd (by simpa using silent.1) (awaited.shown rfl)
        | cons b rest =>
            apply (polRecieveByte_inevitable acked'.onTime acked'.awaiting acked'.incoming _).bind
            intro _ x outcome
            rcases outcome with ⟨rfl, took⟩
            rcases took.same with ⟨answers', writes', -⟩
            rw [keepByte, clear, if_neg Bool.false_ne_true]
            refine .ret ⟨rest.length, Nat.lt_succ_self _, rfl, got ++ [b], rest, by simp, rfl, ?_, ?_⟩
            · rw [List.length_cons] at short
              exact push_holds holds (by omega) b
            · exact ⟨took.incoming acked'.incoming, took.onTime acked'.onTime, took.awaiting,
                answers'.trans acked'.answers, writes'.trans acked'.writes⟩

/-- The identity of a device that answers in time is read. -/
theorem portIdentify_inevitable (valid : ¬ g.InvalidPort port) (clear : g.ps2Error = false)
    (resends : Nat × Nat × Nat) {identity : List (BitVec 8)} (short : identity.length ≤ 2)
    (clock patience busy : Nat) :
    Task.Inevitable timelyStep (ps2PortIdentify port g)
      (idleWorld resends identity clock patience busy) (ReadsIdentity port resends identity) := by
  have distinct : ps2Identify ≠ ps2DisableScanning ∧ ps2EnableScanning ≠ ps2Identify := by decide
  unfold ps2PortIdentify
  apply acknowledge_inevitable valid clear rfl rfl rfl
  · intro answer next
    cases next
    exact distinct.1
  intro w₁ acked₁
  have passed : (0 : Int) ≠ 1 := by decide
  dsimp only
  rw [if_neg passed]
  apply acknowledge_inevitable valid clear acked₁.incoming acked₁.awaiting acked₁.answers
  · intro answer next
    cases next
    exact distinct.2
  intro w₂ acked₂
  rw [acked₁.writes] at acked₂
  have retrieved : Task.Inevitable timelyStep
      (Task.iterate (retrieveByte port) (⟨0, #v[0, 0, 0]⟩, g)) w₂
      fun r u => RetrievesAll port identity resends.2.2 _ g r u :=
    Task.Inevitable.iterate
      (I := fun left state u => Retrieves identity [⟨ps2EnableScanning, resends.2.2, []⟩]
        (commandsTo port ps2DisableScanning resends.1 ++ commandsTo port ps2Identify resends.2.1)
        g left state u)
      (fun left state u => retrieveByte_inevitable valid clear short)
      ⟨rfl, [], identity, rfl, rfl, ⟨rfl, rfl⟩, acked₂⟩
  apply retrieved.bind
  intro outcome w₃ outcome₂
  rcases outcome with ⟨atCondition, response, g'⟩
  rcases outcome₂ with ⟨rfl, holds, ends⟩
  cases atCondition with
  | true =>
      apply (enableScanning_inevitable valid clear ends).bind
      intro _ w₄ outcome
      rcases outcome with ⟨rfl, enabled⟩
      exact .ret ⟨holds.1, holds.2, enabled.writes, ⟨enabled.answers, enabled.incoming⟩, clear⟩
  | false => exact .ret ⟨holds.1, holds.2, ends.writes, ⟨ends.answers, ends.incoming⟩, clear⟩

end Retrieve

/-- A keyboard that asks once for DISABLE_SCANNING to be sent again. -/
def keyboardWorld : TimedWorld := idleWorld (1, 0, 0) [0xAB, 0x83] 0 100 0

theorem keyboardWorld_runs :
    ∃ t r w, Task.Runs (ps2PortIdentify 1 Ps2.loaded) t r ∧ Follows timelyStep t keyboardWorld w := by
  have returns : (Task.execute eagerAnswer 5 (ps2PortIdentify 1 Ps2.loaded) keyboardWorld).any
      (fun x => decide (x.1.length ≤ 100)) = true := rfl
  rcases (Option.any_eq_true _ _).mp returns with ⟨⟨t, r, w⟩, computed, short⟩
  rcases Task.execute_runs computed with ⟨run, follows⟩
  have canGoOn : keyboardWorld.CanGoOn t.length := by
    refine ⟨of_decide_eq_true short, rfl, ?_, by decide, nofun, by decide⟩
    rintro (owes | owes) <;> exact absurd rfl owes
  exact ⟨t, r, w, run, follows_timely follows canGoOn⟩

theorem keyboard_readsIdentity :
    ∃ t r w, Task.Runs (ps2PortIdentify 1 Ps2.loaded) t r ∧ Follows timelyStep t keyboardWorld w ∧
      ReadsIdentity 1 (1, 0, 0) [0xAB, 0x83] r w := by
  rcases keyboardWorld_runs with ⟨t, r, w, run, follows⟩
  have valid : ¬ Ps2.loaded.InvalidPort 1 := by decide
  have short : [(0xAB : BitVec 8), 0x83].length ≤ 2 := by decide
  exact ⟨t, r, w, run, follows,
    (portIdentify_inevitable valid rfl (1, 0, 0) short 0 100 0).satisfies t r w run follows⟩

def replay : (o : Op) → List (BitVec 64) → Reply o × List (BitVec 64)
  | .inb _, replies => ((replies.headD 0).setWidth 8, replies.tail)
  | .readTicks _, replies => (replies.headD 0, replies.tail)
  | .load _ n, replies | .loadVolatile _ n, replies => (BitVec.zero (8 * n), replies)
  | .outb _ _, replies | .store _ _ _, replies | .storeVolatile _ _ _, replies
  | .enableLapicTimer, replies | .console _, replies | .lidt _, replies | .sti, replies =>
      ((), replies)

/-- DISABLE_SCANNING is written at 0. At 99 the status is still empty, and the reading of the clock
after it is 100. -/
def raced : List DriverEvent :=
  [⟨.readTicks .portWriteData, (0 : BitVec 64)⟩, ⟨.inb ps2StatusPort, (0 : BitVec 8)⟩,
    ⟨.inb ps2StatusPort, (0 : BitVec 8)⟩, ⟨.outb ps2DataPort ps2DisableScanning, ()⟩,
    ⟨.readTicks .waitStart, (0 : BitVec 64)⟩, ⟨.readTicks .polRecieveByte, (0 : BitVec 64)⟩,
    ⟨.inb ps2StatusPort, (0 : BitVec 8)⟩, ⟨.readTicks .polRecieveByte, (100 : BitVec 64)⟩,
    ⟨.console (.kernLog 3
      "Error: PS/2 polling timeout: output buffer still empty, no data recieved"), ()⟩]

def awaitedWorld (clock patience : Nat) (awaiting : Option Nat) : TimedWorld where
  device := ⟨none, 0, [ps2Ack], 100⟩
  answers := [⟨ps2Identify, 0, [0xAB, 0x83]⟩, ⟨ps2EnableScanning, 0, []⟩]
  clock := clock
  patience := patience
  busy := 0
  writes := [(ps2DataPort, ps2DisableScanning)]
  awaiting := awaiting
  waitStart := 0

/-- The acknowledge has come at 99, after that status. -/
def racedWorld (patience : Nat) : TimedWorld :=
  { awaitedWorld 100 patience none with device := ⟨some ps2Ack, 0, [], 199⟩ }

theorem raced_follows : Follows TimedWorld.step raced
    (idleWorld (0, 0, 0) [0xAB, 0x83] 0 10 0) (racedWorld 1) := by
  have idle (patience : Nat) : (idleWorld (0, 0, 0) [0xAB, 0x83] 0 patience 0).Shows 0 := by
    simp [TimedWorld.Shows, idleWorld]
  have sends : (awaitedWorld 99 3 (some 0)).device.Sends 99 ⟨some ps2Ack, 0, [], 199⟩ :=
    .next rfl rfl rfl (by decide)
  refine ⟨idleWorld (0, 0, 0) [0xAB, 0x83] 0 9 0, ?_⟩
  refine ⟨TimedWorld.step_quiet 0 9 (by decide) (by decide) (by decide) ⟨rfl, rfl⟩, ?_⟩
  refine ⟨idleWorld (0, 0, 0) [0xAB, 0x83] 0 8 0, ?_⟩
  refine ⟨TimedWorld.step_quiet 0 8 (by decide) (by decide) (by decide) ⟨idle 8, rfl⟩, ?_⟩
  refine ⟨idleWorld (0, 0, 0) [0xAB, 0x83] 0 7 0, ?_⟩
  refine ⟨TimedWorld.step_quiet 0 7 (by decide) (by decide) (by decide) ⟨idle 7, rfl⟩, ?_⟩
  refine ⟨awaitedWorld 0 6 none, ?_⟩
  refine ⟨TimedWorld.step_quiet 0 6 (by decide) (by decide) (by decide) ⟨0, rfl⟩, ?_⟩
  refine ⟨awaitedWorld 0 5 none, ?_⟩
  refine ⟨TimedWorld.step_quiet 0 5 (by decide) (by decide) (by decide) ⟨rfl, rfl⟩, ?_⟩
  refine ⟨awaitedWorld 0 4 (some 0), ?_⟩
  refine ⟨TimedWorld.step_quiet 0 4 (by decide) (by decide) (by decide) ⟨rfl, rfl⟩, ?_⟩
  refine ⟨awaitedWorld 99 3 (some 0), ?_⟩
  refine ⟨TimedWorld.step_quiet 99 3 (by decide) (by decide) (by decide) ⟨?_, rfl⟩, ?_⟩
  · constructor <;> decide
  refine ⟨racedWorld 2, ?_⟩
  refine ⟨⟨{ racedWorld 2 with awaiting := some 0 }, ?_, rfl, rfl⟩, ?_⟩
  · exact .sends (Nat.le_refl 99) (by decide) sends (by decide)
  refine ⟨racedWorld 1, ?_⟩
  exact ⟨TimedWorld.step_quiet 100 1 (by decide) (by decide) (by decide) rfl, rfl⟩

/-- The wait gives up, although the device has answered in time. -/
theorem raced_not_readsIdentity :
    ∃ r, Task.Runs (ps2PortIdentify 1 Ps2.loaded) raced r ∧
      Follows TimedWorld.step raced (idleWorld (0, 0, 0) [0xAB, 0x83] 0 10 0) (racedWorld 1) ∧
      ¬ ReadsIdentity 1 (0, 0, 0) [0xAB, 0x83] r (racedWorld 1) := by
  have computed : Task.execute replay 2 (ps2PortIdentify 1 Ps2.loaded) [0, 0, 0, 0, 0, 0, 100] =
      some (raced, (Ps2Response.empty, { Ps2.loaded with ps2Error := true }), []) := rfl
  refine ⟨_, (Task.execute_runs computed).1, raced_follows, ?_⟩
  intro reads
  have set := reads.error
  cases set

end Flosp.Kernel

