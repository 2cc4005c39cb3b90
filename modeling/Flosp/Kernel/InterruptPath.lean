import Flosp.Kernel.InterruptFrame
import Flosp.Kernel.InterruptHandler

/-! An interrupt from the first instruction of its stub to `iretq`: the stub, the structure it
builds and `interrupt_handler` on that structure. -/

namespace Flosp.Kernel

open ByteMemory Interaction WordStack

/-- What the compiled `interrupt_handler` leaves when it returns `pointer` to the stub: it has
written to no byte of the structure. -/
structure ReturnsTo (handler : Cpu → Cpu) (c : Cpu) (pointer : Addr) : Prop where
  rax : (handler c).regs .rax = pointer
  unmodified : ∀ x, Within x (c.regs .rdi) cpuStatusSize → (handler c).mem x = c.mem x

/-- The stub comes to `iretq` in the interrupted context. -/
def Resumes (handler : Cpu → Cpu) (s : Stub) (i : Interrupted) (top : Addr)
    (errorCode : BitVec 64) : Prop :=
  ∃ c, runTo handler .iretq s.code (s.entry i top errorCode) = some c ∧
    (∀ r, r ≠ .rsp → c.regs r = i.regs r) ∧
    c.regs .rsp = top - 40 ∧ Holds (n := 8) c.mem (c.regs .rsp) i.frame

structure Served (handler : Cpu → Cpu) (s : Stub) (i : Interrupted) (top : Addr)
    (errorCode : BitVec 64) (g : HandlerGlobals) (h : Handling) (r : Addr × HandlerGlobals)
    (h' : Handling) : Prop where
  acknowledged : HandledInterrupt ((atCall handler s i top errorCode).regs .rdi)
    (BitVec.ofNat 64 s.number) g h r h'
  resumes : ReturnsTo handler (atCall handler s i top errorCode) r.1 →
    Resumes handler s i top errorCode

section Path

variable {handler : Cpu → Cpu} {s : Stub} {i : Interrupted} {top : Addr}
  {errorCode : BitVec 64}

/-- Code without the call does the same under any handler. -/
theorem execAll_congr (handler' : Cpu → Cpu) {code : List Instr}
    (free : Instr.callInterruptHandler ∉ code) (c : Cpu) :
    execAll handler code c = execAll handler' code c := by
  induction code generalizing c with
  | nil => rfl
  | cons instr code ih =>
      rw [List.mem_cons, not_or] at free
      have same : instr.exec handler c = instr.exec handler' c := by
        cases instr with
        | callInterruptHandler => exact absurd rfl free.1
        | _ => rfl
      exact (ih free.2 _).trans (congrArg (execAll handler' code) same)

theorem atCall_congr (handler' : Cpu → Cpu) :
    atCall handler s i top errorCode = atCall handler' s i top errorCode :=
  execAll_congr handler' (s.save_free (.inl rfl)) _

/-- What returns the frame to this stub, made to return the frame to every stub. -/
def returningFrame (called c : Cpu) : Cpu where
  regs := Function.update called.regs .rax (c.regs .rdi)
  mem x := if Within x (c.regs .rdi) cpuStatusSize then c.mem x else called.mem x

theorem returningFrame_returns (called : Cpu) : ReturnsFrame (returningFrame called) := by
  constructor
  · intro c
    exact Function.update_self Register.rax (c.regs .rdi) called.regs
  · intro c x inside
    exact if_pos inside

theorem returningFrame_eq {c : Cpu} (returns : ReturnsTo handler c (c.regs .rdi)) :
    returningFrame (handler c) c = handler c := by
  have regs : Function.update (handler c).regs .rax (c.regs .rdi) = (handler c).regs := by
    rw [← returns.rax, Function.update_eq_self]
  have mem : (fun x => if Within x (c.regs .rdi) cpuStatusSize then c.mem x else (handler c).mem x) =
      (handler c).mem := by
    funext x
    split
    · next inside => exact (returns.unmodified x inside).symm
    · rfl
  rw [returningFrame, regs, mem]

theorem resumes_of_returns
    (returns : ReturnsTo handler (atCall handler s i top errorCode)
      ((atCall handler s i top errorCode).regs .rdi)) : Resumes handler s i top errorCode := by
  let called := handler (atCall handler s i top errorCode)
  have restored := restore_onStack s i top errorCode (returningFrame_returns called)
  rw [atCall_congr handler, returningFrame_eq returns, execAll_congr handler (by decide)] at restored
  refine ⟨_, runTo_iretq handler s i top errorCode, restored.others, restored.pointer, ?_⟩
  rw [restored.pointer]
  exact restored.holds

theorem atCall_vector : load (atCall handler s i top errorCode).mem
    ((atCall handler s i top errorCode).regs .rdi + intVectorOffset) 8 =
      BitVec.ofNat 64 s.number :=
  congrArg CpuStatus.intVector (atCall_status handler s i top errorCode)

theorem atCall_error : load (atCall handler s i top errorCode).mem
    ((atCall handler s i top errorCode).regs .rdi + errorOffset) 8 =
      if s.hasErrorCode then (1 : BitVec 64) else 0 :=
  congrArg CpuStatus.error (atCall_status handler s i top errorCode)

/-- The CPU freezes on the vectors with an error code. Every other interrupt, an exception among
them, is acknowledged as the controllers' and returned from. -/
theorem interrupt_served (handler : Cpu → Cpu) (s : Stub) (i : Interrupted) (top : Addr)
    (errorCode : BitVec 64) (tables : KeyTables) (g : HandlerGlobals) (h : Handling) :
    let c := atCall handler s i top errorCode
    if s.hasErrorCode then
      Task.Guards (handlingStep c.mem) (interruptHandler tables (c.regs .rdi) g) h (· = h)
        fun _ _ => False
    else
      Task.Ensures (handlingStep c.mem) (interruptHandler tables (c.regs .rdi) g) h
        (Served handler s i top errorCode g h) := by
  intro c
  have error : load c.mem (c.regs .rdi + errorOffset) 8 = _ := atCall_error
  cases coded : s.hasErrorCode with
  | true =>
      rw [coded] at error
      rw [if_pos rfl]
      apply interruptHandler_freezes
      rw [error]
      decide
  | false =>
      rw [coded] at error
      rw [if_neg Bool.false_ne_true]
      apply (interruptHandler_handled atCall_vector error).mono
      intro r h' acknowledged
      refine ⟨acknowledged, fun returns => ?_⟩
      rw [acknowledged.handsBack.pointer] at returns
      exact resumes_of_returns returns

end Path

end Flosp.Kernel
