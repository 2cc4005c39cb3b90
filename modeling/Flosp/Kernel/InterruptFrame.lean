import Flosp.Kernel.Isr
import Flosp.Lib.WordStack

/-! Interrupt entry and exit: what the stubs hand to `interrupt_handler` and what they leave to
`iretq`. -/

namespace Flosp.Kernel

open ByteMemory WordStack

/-- The context that an interrupt finds. -/
structure Interrupted where
  regs : Register → BitVec 64
  rip : BitVec 64
  cs : BitVec 64
  rflags : BitVec 64
  ss : BitVec 64
  mem : Memory 64

namespace Interrupted

def frame (i : Interrupted) : List (BitVec 64) := [i.rip, i.cs, i.rflags, i.regs .rsp, i.ss]

/-- The CPU pushes the frame on the stack that ends at `top`, and for some vectors an
error code. -/
def deliver (i : Interrupted) (top : Addr) (errorCode : Option (BitVec 64)) : Cpu :=
  let c : Cpu := ⟨Function.update i.regs .rsp top, i.mem⟩
  let c := ((((c.push i.ss).push (i.regs .rsp)).push i.rflags).push i.cs).push i.rip
  match errorCode with
  | some code => c.push code
  | none => c

/-- The `cpu_status_t` of the context; `rsp` is the one that the stub itself pushes. -/
def status (i : Interrupted) (intVector error errorCode rsp : BitVec 64) : CpuStatus :=
  { r15 := i.regs .r15, r14 := i.regs .r14, r13 := i.regs .r13, r12 := i.regs .r12,
    r11 := i.regs .r11, r10 := i.regs .r10, r9 := i.regs .r9, r8 := i.regs .r8,
    rdi := i.regs .rdi, rsi := i.regs .rsi, rsp, rbp := i.regs .rbp,
    rdx := i.regs .rdx, rcx := i.regs .rcx, rbx := i.regs .rbx, rax := i.regs .rax,
    intVector, error, errorCode,
    iretqRip := i.rip, iretqCs := i.cs, iretqFlags := i.rflags,
    iretqRsp := i.regs .rsp, iretqSs := i.ss }

end Interrupted

namespace Stub

def hasErrorCode (s : Stub) : Bool := s.stubMacro == .isrErr

def number (s : Stub) : Nat :=
  match s.stubMacro with
  | .isrErr => s.argument
  | .isrNoErr => s.argument
  | .irq => s.argument + 32

def entry (s : Stub) (i : Interrupted) (top : Addr) (errorCode : BitVec 64) : Cpu :=
  i.deliver top (if s.hasErrorCode then some errorCode else none)

def status (s : Stub) (i : Interrupted) (errorCode rsp : BitVec 64) : CpuStatus :=
  i.status (BitVec.ofNat 64 s.number) (if s.hasErrorCode then 1 else 0)
    (if s.hasErrorCode then errorCode else 0) rsp

end Stub

/-- `interrupt_handler` returns the pointer it was given and leaves the structure as it was. -/
structure ReturnsFrame (handler : Cpu → Cpu) : Prop where
  pointer : ∀ c, (handler c).regs .rax = c.regs .rdi
  unmodified : ∀ c x, Within x (c.regs .rdi) cpuStatusSize → (handler c).mem x = c.mem x

/-- The stub hands over the interrupted context and gives it back to `iretq`. -/
structure PreservesContext (handler : Cpu → Cpu) (s : Stub) (i : Interrupted) (top : Addr)
    (errorCode : BitVec 64) : Prop where
  status : ∃ c rsp, runTo handler .callInterruptHandler s.code (s.entry i top errorCode) = some c ∧
    CpuStatus.read c.mem (c.regs .rdi) = s.status i errorCode rsp
  exit : ∃ c, runTo handler .iretq s.code (s.entry i top errorCode) = some c ∧
    (∀ r, r ≠ .rsp → c.regs r = i.regs r) ∧
    c.regs .rsp = top - 40 ∧ Holds (n := 8) c.mem (c.regs .rsp) i.frame

def stackPointer (top : Addr) (count : Nat) : Addr := top - BitVec.ofNat 64 (8 * count)

/-- The stack below `top` holds `words` and nothing else, and the registers other than `rsp`
are as in `regs`. -/
structure OnStack (top : Addr) (regs : Register → BitVec 64) (words : List (BitVec 64)) (c : Cpu) :
    Prop where
  others : ∀ r, r ≠ .rsp → c.regs r = regs r
  pointer : c.regs .rsp = stackPointer top words.length
  holds : Holds (n := 8) c.mem (stackPointer top words.length) words

theorem stackPointer_drop (top : Addr) (count dropped : Nat) :
    stackPointer top (dropped + count) + BitVec.ofNat 64 (8 * dropped) = stackPointer top count := by
  rw [stackPointer, stackPointer, Nat.mul_add, BitVec.ofNat_add]
  ring

theorem stackPointer_pop (top : Addr) (count : Nat) :
    stackPointer top (count + 1) + 8 = stackPointer top count := by
  rw [Nat.add_comm]
  exact stackPointer_drop top count 1

theorem stackPointer_push (top : Addr) (count : Nat) :
    stackPointer top count - 8 = stackPointer top (count + 1) := by
  rw [← stackPointer_pop, BitVec.add_sub_cancel]

@[simp] theorem Cpu.set_same (c : Cpu) (r : Register) (value : BitVec 64) :
    (c.set r value).regs r = value := by
  simp [Cpu.set]

@[simp] theorem Cpu.set_other (c : Cpu) {q r : Register} (other : q ≠ r) (value : BitVec 64) :
    (c.set r value).regs q = c.regs q := by
  simp [Cpu.set, other]

namespace OnStack

variable {top : Addr} {regs : Register → BitVec 64} {words : List (BitVec 64)} {c : Cpu}

theorem push (on : OnStack top regs words c) (small : words.length < 2 ^ 60) (v : BitVec 64) :
    OnStack top regs (v :: words) (c.push v) := by
  have next : c.regs .rsp - 8 = stackPointer top (words.length + 1) := by
    rw [on.pointer, stackPointer_push]
  refine ⟨fun r other => ?_, ?_, ?_⟩
  · rw [← on.others r other]
    exact Function.update_of_ne other _ _
  · exact next
  · have pushed := on.holds.push (by omega) v
    change Holds (n := 8) (store c.mem (stackPointer top words.length - 8) (n := 8) v)
      (stackPointer top words.length - 8) (v :: words) at pushed
    rw [stackPointer_push] at pushed
    change Holds (n := 8) (store c.mem (c.regs .rsp - 8) (n := 8) v) _ _
    rw [next]
    exact pushed

theorem pop {v : BitVec 64} (on : OnStack top regs (v :: words) c) {dest : Register}
    (other : dest ≠ .rsp) : OnStack top (Function.update regs dest v) words (c.pop dest) := by
  have value : load c.mem (c.regs .rsp) 8 = v := by
    rw [on.pointer]
    exact on.holds.1
  have next : c.regs .rsp + 8 = stackPointer top words.length := by
    rw [on.pointer]
    exact stackPointer_pop top words.length
  refine ⟨fun r different => ?_, ?_, ?_⟩
  · by_cases same : r = dest
    · subst same
      simp [Cpu.pop, value]
    · simp [Cpu.pop, same, different, on.others r different]
  · rw [← next]
    simp [Cpu.pop, other.symm]
  · have rest := on.holds.2
    change Holds (n := 8) c.mem (stackPointer top (words.length + 1) + 8) words at rest
    rw [stackPointer_pop] at rest
    exact rest

/-- `pop rsp` is a pop like any other when the word is the address that follows it. -/
theorem popPointer (on : OnStack top regs (stackPointer top words.length :: words) c) :
    OnStack top regs words (c.pop .rsp) := by
  have value : load c.mem (c.regs .rsp) 8 = stackPointer top words.length := by
    rw [on.pointer]
    exact on.holds.1
  refine ⟨fun r different => ?_, ?_, ?_⟩
  · simp [Cpu.pop, different, on.others r different]
  · simp [Cpu.pop, value]
  · have rest := on.holds.2
    change Holds (n := 8) c.mem (stackPointer top (words.length + 1) + 8) words at rest
    rw [stackPointer_pop] at rest
    exact rest

end OnStack

def execAll (handler : Cpu → Cpu) (code : List Instr) (c : Cpu) : Cpu :=
  code.foldl (Instr.exec handler) c

theorem runTo_append {handler : Cpu → Cpu} {stop : Instr} {code : List Instr}
    (free : stop ∉ code) (rest : List Instr) (c : Cpu) :
    runTo handler stop (code ++ rest) c = runTo handler stop rest (execAll handler code c) := by
  induction code generalizing c with
  | nil => rfl
  | cons i code ih =>
      rw [List.mem_cons, not_or] at free
      rw [List.cons_append, runTo, if_neg (Ne.symm free.1), ih free.2]
      rfl

section Lists

variable (handler : Cpu → Cpu) {top : Addr} {regs : Register → BitVec 64}
  {words : List (BitVec 64)} {c : Cpu}

theorem pushAll (on : OnStack top regs words c) (saved : List Register)
    (others : ∀ r ∈ saved, r ≠ .rsp) (small : words.length + saved.length < 2 ^ 60) :
    OnStack top regs (saved.reverse.map regs ++ words) (execAll handler (saved.map .push) c) := by
  induction saved generalizing words c with
  | nil => exact on
  | cons r saved ih =>
      rw [List.length_cons] at small
      have pushed : OnStack top regs (regs r :: words) (c.push (c.regs r)) := by
        rw [on.others r (others r List.mem_cons_self)]
        exact on.push (by omega) (regs r)
      have rest := ih pushed (fun q member => others q (List.mem_cons_of_mem r member))
        (by rw [List.length_cons]; omega)
      rw [List.reverse_cons, List.map_append, List.append_assoc]
      exact rest

theorem popAll {value : Register → BitVec 64} (saved : List Register)
    (on : OnStack top regs (saved.map value ++ words) c) (others : ∀ r ∈ saved, r ≠ .rsp) :
    OnStack top (fun r => if r ∈ saved then value r else regs r) words
      (execAll handler (saved.map .pop) c) := by
  induction saved generalizing regs c with
  | nil => exact ⟨on.others, on.pointer, on.holds⟩
  | cons r saved ih =>
      have popped := on.pop (others r List.mem_cons_self)
      have rest := ih popped fun q member => others q (List.mem_cons_of_mem r member)
      refine ⟨fun q different => (rest.others q different).trans ?_, rest.pointer, rest.holds⟩
      by_cases same : q = r
      · subst same
        simp
      · simp [same]

end Lists

theorem execAll_append (handler : Cpu → Cpu) (first second : List Instr) (c : Cpu) :
    execAll handler (first ++ second) c = execAll handler second (execAll handler first c) :=
  List.foldl_append

theorem execAll_single (handler : Cpu → Cpu) (i : Instr) (c : Cpu) :
    execAll handler [i] c = i.exec handler c := rfl

/-- The registers that are pushed before `rsp`, and those after it. -/
def savedFirst : List Register := [.rax, .rbx, .rcx, .rdx, .rbp]

def savedLast : List Register := [.rsi, .rdi, .r8, .r9, .r10, .r11, .r12, .r13, .r14, .r15]

def save : List Instr :=
  savedFirst.map .push ++ ([.push .rsp] ++ (savedLast.map .push ++ [.mov .rdi .rsp]))

def restore : List Instr :=
  [.mov .rsp .rax] ++ (savedLast.reverse.map .pop ++
    ([.pop .rsp] ++ (savedFirst.reverse.map .pop ++ [.addImm .rsp 24])))

namespace Stub

/-- What the stub pushes before the registers. -/
def lead (s : Stub) : List Instr :=
  if s.hasErrorCode then [.pushImm 1, .pushImm (BitVec.ofNat 64 s.number)]
  else [.pushImm 0, .pushImm 0, .pushImm (BitVec.ofNat 64 s.number)]

theorem code_eq (s : Stub) :
    s.code = (s.lead ++ save) ++ (.callInterruptHandler :: (restore ++ [.iretq])) := by
  rcases s with ⟨kind, n⟩
  cases kind with
  | isrErr => rfl
  | isrNoErr => rfl
  | irq => rfl

def words (s : Stub) (errorCode : BitVec 64) : List (BitVec 64) :=
  [BitVec.ofNat 64 s.number, if s.hasErrorCode then 1 else 0,
    if s.hasErrorCode then errorCode else 0]

theorem save_free (s : Stub) {stop : Instr} (call : stop = .callInterruptHandler ∨ stop = .iretq) :
    stop ∉ s.lead ++ save := by
  rcases call with rfl | rfl
  · cases coded : s.hasErrorCode <;> simp [lead, coded, save, savedFirst, savedLast]
  · cases coded : s.hasErrorCode <;> simp [lead, coded, save, savedFirst, savedLast]

end Stub

section Stubs

variable (handler : Cpu → Cpu) (s : Stub) (i : Interrupted) (top : Addr) (errorCode : BitVec 64)

/-- The machine at the call of `interrupt_handler`. -/
def atCall : Cpu := execAll handler (s.lead ++ save) (s.entry i top errorCode)

theorem runTo_call : runTo handler .callInterruptHandler s.code (s.entry i top errorCode) =
    some (atCall handler s i top errorCode) := by
  rw [s.code_eq, runTo_append (s.save_free (.inl rfl)), runTo, if_pos rfl, atCall]

theorem runTo_iretq : runTo handler .iretq s.code (s.entry i top errorCode) =
    some (execAll handler restore (handler (atCall handler s i top errorCode))) := by
  have free : Instr.iretq ∉ restore := by decide
  rw [s.code_eq, runTo_append (s.save_free (.inr rfl)), runTo, if_neg (by decide),
    runTo_append free, runTo, if_pos rfl]
  rfl

theorem deliver_onStack : OnStack top i.regs i.frame (i.deliver top none) := by
  have empty : OnStack top i.regs [] ⟨Function.update i.regs .rsp top, i.mem⟩ := by
    refine ⟨fun r other => Function.update_of_ne other _ _, ?_, trivial⟩
    simp [stackPointer]
  have ss := empty.push (by simp) i.ss
  have rsp := ss.push (by simp) (i.regs .rsp)
  have rflags := rsp.push (by simp) i.rflags
  have cs := rflags.push (by simp) i.cs
  exact cs.push (by simp) i.rip

/-- The lead makes the three macros alike: a vector, an error flag and an error code. -/
theorem lead_onStack :
    OnStack top i.regs (s.words errorCode ++ i.frame)
      (execAll handler s.lead (s.entry i top errorCode)) := by
  have frame := deliver_onStack i top
  have short : i.frame.length = 5 := rfl
  cases coded : s.hasErrorCode with
  | true =>
      simp only [Stub.words, Stub.lead, Stub.entry, coded, if_true]
      have code := frame.push (by simp [short]) errorCode
      have flag := code.push (by simp [short]) 1
      exact flag.push (by simp [short]) _
  | false =>
      simp only [Stub.words, Stub.lead, Stub.entry, coded, Bool.false_eq_true, if_false]
      have code := frame.push (by simp [short]) 0
      have flag := code.push (by simp [short]) 0
      exact flag.push (by simp [short]) _

def savedWords : List (BitVec 64) :=
  savedLast.reverse.map i.regs ++ (stackPointer top 13 ::
    (savedFirst.reverse.map i.regs ++ (s.words errorCode ++ i.frame)))

theorem savedWords_length : (savedWords s i top errorCode).length = 24 := rfl

theorem atCall_onStack :
    (atCall handler s i top errorCode).regs .rdi = stackPointer top 24 ∧
      Holds (n := 8) (atCall handler s i top errorCode).mem (stackPointer top 24)
        (savedWords s i top errorCode) := by
  have lead := lead_onStack handler s i top errorCode
  have short : (s.words errorCode ++ i.frame).length = 8 := rfl
  have first := pushAll handler lead savedFirst (by decide) (by
    rw [short]
    decide)
  have pointer := first.push (by simp [savedFirst, short]) (stackPointer top 13)
  have last := pushAll handler pointer savedLast (by decide) (by
    simp [savedFirst, savedLast, short])
  rw [atCall, save, execAll_append, execAll_append, execAll_append, execAll_append]
  generalize execAll handler (savedFirst.map .push)
    (execAll handler s.lead (s.entry i top errorCode)) = saved at first last ⊢
  have pushed : execAll handler [.push .rsp] saved = saved.push (stackPointer top 13) :=
    congrArg saved.push first.pointer
  rw [pushed]
  generalize execAll handler (savedLast.map .push) (saved.push (stackPointer top 13)) = all
    at last ⊢
  have moved : (execAll handler [.mov .rdi .rsp] all).regs .rdi = all.regs .rsp :=
    Cpu.set_same all .rdi (all.regs .rsp)
  exact ⟨moved.trans last.pointer, last.holds⟩

theorem atCall_status : CpuStatus.read (atCall handler s i top errorCode).mem
    ((atCall handler s i top errorCode).regs .rdi) = s.status i errorCode (stackPointer top 13) := by
  obtain ⟨pointer, holds⟩ := atCall_onStack handler s i top errorCode
  rw [pointer]
  have member {j : Nat} {v : BitVec 64} (found : (savedWords s i top errorCode)[j]? = some v) :
      load (atCall handler s i top errorCode).mem
        (stackPointer top 24 + BitVec.ofNat 64 (8 * j)) 8 = v := holds.get found
  simp only [CpuStatus.read, Stub.status, Interrupted.status, CpuStatus.mk.injEq]
  exact ⟨member rfl, member rfl, member rfl, member rfl, member rfl, member rfl, member rfl,
    member rfl, member rfl, member rfl, member rfl, member rfl, member rfl, member rfl, member rfl,
    member rfl, member rfl, member rfl, member rfl, member rfl, member rfl, member rfl, member rfl,
    member rfl⟩

variable {handler}

theorem restore_onStack (returns : ReturnsFrame handler) :
    OnStack top i.regs i.frame
      (execAll handler restore (handler (atCall handler s i top errorCode))) := by
  obtain ⟨pointer, holds⟩ := atCall_onStack handler s i top errorCode
  let called := handler (atCall handler s i top errorCode)
  have returned : OnStack top called.regs (savedWords s i top errorCode)
      (called.set .rsp (called.regs .rax)) := by
    refine ⟨fun r other => called.set_other other _, ?_, ?_⟩
    · rw [savedWords_length, ← pointer, ← returns.pointer]
      exact called.set_same .rsp (called.regs .rax)
    · refine holds.congr (by simp [savedWords_length]) fun x inside =>
        (returns.unmodified _ x ?_).symm
      rw [pointer]
      exact inside
  have last := popAll handler savedLast.reverse returned (by decide)
  let below := savedFirst.reverse.map i.regs ++ (s.words errorCode ++ i.frame)
  have middle : OnStack top _ below _ := OnStack.popPointer last
  have first := popAll handler savedFirst.reverse middle (by decide)
  rw [restore, execAll_append, execAll_append, execAll_append, execAll_append]
  simp only [execAll_single, Instr.exec]
  generalize execAll handler (savedFirst.reverse.map .pop) _ = popped at first ⊢
  have skipped : stackPointer top 8 + 24 = stackPointer top i.frame.length :=
    stackPointer_drop top i.frame.length 3
  have pointer : popped.regs .rsp + 24 = stackPointer top i.frame.length := by
    rw [← skipped]
    exact congrArg (· + 24) first.pointer
  refine ⟨fun r other => ?_, ?_, ?_⟩
  · rw [Cpu.set_other _ other, first.others r other]
    cases r <;> first | rfl | exact absurd rfl other
  · rw [Cpu.set_same]
    exact pointer
  · have rest := first.holds.drop
    rw [List.length_append, stackPointer_drop] at rest
    exact rest

/-- Interrupt entry and exit preserve the interrupted context. -/
theorem stub_preserves (returns : ReturnsFrame handler) :
    PreservesContext handler s i top errorCode := by
  have restored := restore_onStack s i top errorCode returns
  constructor
  · exact ⟨_, _, runTo_call handler s i top errorCode, atCall_status handler s i top errorCode⟩
  · refine ⟨_, runTo_iretq handler s i top errorCode, restored.others, restored.pointer, ?_⟩
    rw [restored.pointer]
    exact restored.holds

end Stubs

def quietHandler (c : Cpu) : Cpu := c.set .rax (c.regs .rdi)

/-- A context in which no two registers are alike. -/
def numbered : Interrupted where
  regs
    | .rax => 1 | .rbx => 2 | .rcx => 3 | .rdx => 4 | .rbp => 5 | .rsp => 0x8000 | .rsi => 6
    | .rdi => 7 | .r8 => 8 | .r9 => 9 | .r10 => 10 | .r11 => 11 | .r12 => 12 | .r13 => 13
    | .r14 => 14 | .r15 => 15
  rip := 0x101000
  cs := 0x08
  rflags := 0x202
  ss := 0x10
  mem := fun _ => 0

/-- A page fault in that context. -/
theorem pageFault_preserves : PreservesContext quietHandler ⟨.isrErr, 14⟩ numbered 0x8000 2 := by
  have pointer (c : Cpu) : (quietHandler c).regs .rax = c.regs .rdi := by
    simp [quietHandler]
  exact stub_preserves ⟨.isrErr, 14⟩ numbered 0x8000 2 ⟨pointer, fun _ _ _ => rfl⟩

end Flosp.Kernel
