import Flosp.Kernel.Gates
import Flosp.Kernel.Gdt
import Flosp.Kernel.InterruptFrame

/-! `gdt_init_asm` from its call to its return. -/

namespace Flosp.Kernel

open ByteMemory WordStack Relation

/-- The table once its two segments have been loaded. -/
def gdt64Loaded : List (BitVec 64) :=
  [gdt64Null, Descriptor.accessed gdt64Code, Descriptor.accessed gdt64Data, gdt64Tss]

/-- Instruction `i` of the code is at `place i`. -/
def SegmentPlaced (fetch : Addr → Option (SegmentInstr × Addr)) (place : Nat → Addr)
    (code : List SegmentInstr) : Prop :=
  ∀ i instr, code[i]? = some instr → fetch (place i) = some (instr, place (i + 1))

/-- `gdt_init_asm` is called: its code and data are as they were assembled, and the stack is not
in the table. -/
structure CallsGdtInit (fetch : Addr → Option (SegmentInstr × Addr)) (place : Nat → Addr)
    (gdt64Start gdt64Descriptor : Addr) (c : SegmentedCpu) : Prop where
  placed : SegmentPlaced fetch place (gdtInitAsm gdt64Descriptor (place 8))
  rip : c.rip = place 0
  limit : load c.mem gdt64Descriptor 2 = (31 : BitVec 16)
  start : load c.mem (gdt64Descriptor + 2) 8 = gdt64Start
  table : Holds (n := 8) c.mem gdt64Start gdt64
  apart : Apart (c.regs .rsp - 40) 48 gdt64Start 32

/-- `gdt_init_asm` has returned: to its caller, with the registers that the caller has saved none
of, in 64-bit code and with flat data segments. The gates of `idt_init` can be entered. -/
structure Reloaded (gdt64Start : Addr) (c c' : SegmentedCpu) : Prop where
  returns : c'.rip = load c.mem (c.regs .rsp) 8
  rsp : c'.regs .rsp = c.regs .rsp + 8
  others : ∀ r, r ≠ .rax → r ≠ .rsp → c'.regs r = c.regs r
  rflags : c'.rflags = c.pushedFlags
  code : c'.segments .cs = ⟨codeSeg64, Descriptor.accessed gdt64Code⟩
  data : ∀ r, r ≠ .cs → c'.segments r = ⟨dataSeg64, Descriptor.accessed gdt64Data⟩
  frame : ∀ x, ¬ Within x (c.regs .rsp - 40) 40 → ¬ Within x gdt64Start 32 → c'.mem x = c.mem x
  table : Holds (n := 8) c'.mem gdt64Start gdt64Loaded
  gates : ∀ isr, (c'.loadSegment Descriptor.kernelCode .cs (gate isr).kernelCs).isSome = true

theorem loadSegment_entry {c : SegmentedCpu} {base : Addr} {words : List (BitVec 64)}
    {kind : BitVec 64 → Bool} {d : BitVec 64} {i : Nat} (gdtr : c.gdtr = ⟨31, base⟩)
    (holds : Holds (n := 8) c.mem base words) (length : words.length = 4)
    (found : words[i]? = some d) (right : kind d = true) (r : SegmentRegister) :
    ∃ mem, c.loadSegment kind r (BitVec.ofNat 16 (8 * i)) = some { c with
        mem
        segments := Function.update c.segments r ⟨BitVec.ofNat 16 (8 * i), Descriptor.accessed d⟩ } ∧
      Holds (n := 8) mem base (words.set i (Descriptor.accessed d)) ∧
      ∀ x, ¬ Within x base 32 → mem x = c.mem x := by
  obtain ⟨below, -⟩ := List.getElem?_eq_some_iff.mp found
  have selectors : ∀ i : Fin 4, BitVec.ofNat 16 (8 * i) &&& 7 = 0 ∧
      (BitVec.ofNat 16 (8 * i)).toNat + 7 ≤ (31 : BitVec 16).toNat ∧
      (BitVec.ofNat 16 (8 * i)).setWidth 64 = BitVec.ofNat 64 (8 * i) := by decide
  obtain ⟨aligned, limit, offset⟩ := selectors ⟨i, length ▸ below⟩
  have loaded := holds.get found
  refine ⟨store c.mem (base + BitVec.ofNat 64 (8 * i)) (n := 8) (Descriptor.accessed d), ?_, ?_, ?_⟩
  · unfold SegmentedCpu.loadSegment
    rw [gdtr]
    dsimp only at offset ⊢
    rw [offset, loaded, if_pos ⟨aligned, limit, right⟩]
  · exact holds.set (by omega) below _
  · intro x outside
    exact store_outside fun inside => outside ((within_of_sub (by omega) inside).mono (by omega))

section Steps

variable {fetch : Addr → Option (SegmentInstr × Addr)} {place : Nat → Addr}
  {code : List SegmentInstr} {base : Addr} {c₀ c c' : SegmentedCpu}

theorem segmentStep_at (placed : SegmentPlaced fetch place code) {i : Nat} {instr : SegmentInstr}
    (here : code[i]? = some instr) (rip : c.rip = place i)
    (exec : instr.exec (place (i + 1)) c = some c') : segmentStep fetch c c' :=
  ⟨instr, place (i + 1), rip ▸ placed i instr here, exec⟩

/-- Before `iretq`: the table register is loaded, `rsp` is in `rax` and `words` are pushed. -/
structure Pushed (base : Addr) (c₀ : SegmentedCpu) (words : List (BitVec 64)) (c : SegmentedCpu) :
    Prop where
  on : OnStack (c₀.regs .rsp) (Function.update c₀.regs .rax (c₀.regs .rsp)) words c.toCpu
  rflags : c.rflags = c₀.rflags
  gdtr : c.gdtr = ⟨31, base⟩
  frame : ∀ x, ¬ Within x (stackPointer (c₀.regs .rsp) words.length) (8 * words.length) →
    c.mem x = c₀.mem x

theorem Pushed.push {words : List (BitVec 64)} (pushed : Pushed base c₀ words c)
    (small : words.length < 2 ^ 60) (v : BitVec 64) (next : Addr) :
    Pushed base c₀ (v :: words) { c.push v, c with rip := next } := by
  have length : 8 * (words.length + 1) = 8 + 8 * words.length := by omega
  have top : c.regs .rsp - 8 = stackPointer (c₀.regs .rsp) (words.length + 1) := by
    rw [pushed.on.pointer, stackPointer_push]
  have below := stackPointer_pop (c₀.regs .rsp) words.length
  refine ⟨pushed.on.push small v, pushed.rflags, pushed.gdtr, fun x outside => ?_⟩
  rw [List.length_cons, length] at outside
  have kept : (c.push v).mem x = c.mem x := by
    apply store_outside
    rw [top]
    exact fun inside => outside (inside.mono (by omega))
  refine kept.trans (pushed.frame x fun inside => outside ?_)
  rw [← below] at inside
  exact within_of_sub (i := 8) (by omega) inside

/-- Between `segments_init` and `ret`, with `ss` and `loaded` reloaded. -/
structure Reloading (base : Addr) (c₀ : SegmentedCpu) (loaded : List SegmentRegister)
    (c : SegmentedCpu) : Prop where
  rsp : c.regs .rsp = c₀.regs .rsp
  others : ∀ r, r ≠ .rax → r ≠ .rsp → c.regs r = c₀.regs r
  rflags : c.rflags = c₀.pushedFlags
  gdtr : c.gdtr = ⟨31, base⟩
  code : c.segments .cs = ⟨codeSeg64, Descriptor.accessed gdt64Code⟩
  data : ∀ r ∈ loaded, c.segments r = ⟨dataSeg64, Descriptor.accessed gdt64Data⟩
  frame : ∀ x, ¬ Within x (c₀.regs .rsp - 40) 40 → ¬ Within x base 32 → c.mem x = c₀.mem x
  table : Holds (n := 8) c.mem base gdt64Loaded

/-- The frame for `iretq`, the first word at the lowest address. -/
def reloadFrame (place : Nat → Addr) (c : SegmentedCpu) : List (BitVec 64) :=
  [place 8, codeSeg64.setWidth 64, c.pushedFlags, c.regs .rsp, dataSeg64.setWidth 64]

theorem reaches_iretq {descriptor : Addr} (calls : CallsGdtInit fetch place base descriptor c) :
    ∃ c', ReflTransGen (segmentStep fetch) c c' ∧ c'.rip = place 7 ∧
      Pushed base c (reloadFrame place c) c' := by
  have placed := calls.placed
  let c₁ : SegmentedCpu := { c with gdtr := ⟨31, base⟩, rip := place 1 }
  let c₂ : SegmentedCpu := { c₁.set .rax (c.regs .rsp), c₁ with rip := place 2 }
  have lgdt : (SegmentInstr.lgdt descriptor).exec (place 1) c = some c₁ := by
    rw [SegmentInstr.exec, calls.limit, calls.start]
  have mov : (SegmentInstr.mov .rax .rsp).exec (place 2) c₁ = some c₂ := rfl
  have started : Pushed base c [] c₂ := by
    refine ⟨⟨fun r other => rfl, ?_, trivial⟩, rfl, rfl, fun x outside => rfl⟩
    exact (BitVec.sub_zero _).symm
  have ss := started.push (by decide) (dataSeg64.setWidth 64) (place 3)
  have rsp := ss.push (by simp) (c.regs .rsp) (place 4)
  have flags := rsp.push (by simp) c.pushedFlags (place 5)
  have cs := flags.push (by simp) (codeSeg64.setWidth 64) (place 6)
  have rip := cs.push (by simp) (place 8) (place 7)
  refine ⟨_, ?_, rfl, rip⟩
  refine .head (segmentStep_at placed (i := 0) rfl calls.rip lgdt) ?_
  refine .head (segmentStep_at placed (i := 1) rfl rfl mov) ?_
  refine .head (segmentStep_at placed (i := 2) rfl rfl rfl) ?_
  refine .head (segmentStep_at placed (i := 3) rfl rfl rfl) ?_
  refine .head (segmentStep_at placed (i := 4) rfl rfl rfl) ?_
  refine .head (segmentStep_at placed (i := 5) rfl rfl rfl) ?_
  exact .single (segmentStep_at placed (i := 6) rfl rfl rfl)

theorem Pushed.table {words : List (BitVec 64)} (pushed : Pushed base c₀ words c)
    (holds : Holds (n := 8) c₀.mem base gdt64)
    (apart : Apart (stackPointer (c₀.regs .rsp) words.length) (8 * words.length) base 32) :
    Holds (n := 8) c.mem base gdt64 :=
  holds.congr (by decide) fun x inside =>
    (pushed.frame x fun stack => apart x stack inside).symm

theorem iretq_reloads {place : Nat → Addr} (pushed : Pushed base c₀ (reloadFrame place c₀) c)
    (holds : Holds (n := 8) c₀.mem base gdt64)
    (apart : Apart (c₀.regs .rsp - 40) 48 base 32) :
    ∃ c', c.iretq = some c' ∧ c'.rip = place 8 ∧ Reloading base c₀ [.ss] c' := by
  have word (i : Nat) {v : BitVec 64} (found : (reloadFrame place c₀)[i]? = some v) :
      c.stackWord i = v := by
    rw [SegmentedCpu.stackWord, pushed.on.pointer]
    exact pushed.on.holds.get found
  have room : 8 * (reloadFrame place c₀).length ≤ 48 := by simp [reloadFrame]
  have table := pushed.table holds fun x stack => apart x (stack.mono room)
  have code : Descriptor.kernelCode gdt64Code = true := by decide
  have data : Descriptor.kernelData gdt64Data = true := by decide
  obtain ⟨mem, cs, marked, frame⟩ :=
    loadSegment_entry pushed.gdtr table rfl (i := 1) rfl code .cs
  let c₁ : SegmentedCpu := { c with
    mem
    segments := Function.update c.segments .cs ⟨codeSeg64, Descriptor.accessed gdt64Code⟩ }
  obtain ⟨mem', ss, marked', frame'⟩ :=
    loadSegment_entry (c := c₁) pushed.gdtr marked rfl (i := 2) rfl data .ss
  have selectors : (c.stackWord 1).setWidth 16 = codeSeg64 ∧ (c.stackWord 4).setWidth 16 = dataSeg64 := by
    rw [word 1 rfl, word 4 rfl]
    decide
  let c₂ : SegmentedCpu := { c₁ with
    mem := mem'
    segments := Function.update c₁.segments .ss ⟨dataSeg64, Descriptor.accessed gdt64Data⟩ }
  have cs' : c.loadSegment Descriptor.kernelCode .cs codeSeg64 = some c₁ := cs
  have ss' : c₁.loadSegment Descriptor.kernelData .ss dataSeg64 = some c₂ := ss
  refine ⟨{ c₂ with
    regs := Function.update c.regs .rsp (c.stackWord 3)
    rip := c.stackWord 0
    rflags := c.stackWord 2 }, ?_, word 0 rfl, ?_⟩
  · rw [SegmentedCpu.iretq, selectors.1, selectors.2, cs', Option.bind_eq_bind, Option.bind_some, ss']
    rfl
  · constructor
    · calc Function.update c.regs .rsp (c.stackWord 3) .rsp
        _ = c.stackWord 3 := Function.update_self ..
        _ = c₀.regs .rsp := word 3 rfl
    · intro r rax rsp
      calc Function.update c.regs .rsp (c.stackWord 3) r
        _ = c.regs r := Function.update_of_ne rsp ..
        _ = Function.update c₀.regs .rax (c₀.regs .rsp) r := pushed.on.others r rsp
        _ = c₀.regs r := Function.update_of_ne rax ..
    · exact word 2 rfl
    · exact pushed.gdtr
    · rfl
    · rintro r (_ | ⟨_, ⟨⟩⟩)
      rfl
    · intro x stack outside
      calc mem' x
        _ = mem x := frame' x outside
        _ = c.mem x := frame x outside
        _ = c₀.mem x := pushed.frame x stack
    · exact marked'

theorem Reloading.movAx {loaded : List SegmentRegister} (reloading : Reloading base c₀ loaded c)
    (next : Addr) :
    ∃ c', (SegmentInstr.movAx dataSeg64).exec next c = some c' ∧ c'.rip = next ∧
      (c'.regs .rax).setWidth 16 = dataSeg64 ∧ Reloading base c₀ loaded c' := by
  obtain ⟨rsp, others, rflags, gdtr, code, data, frame, table⟩ := reloading
  refine ⟨_, rfl, rfl, ?_, ?_⟩
  · change ((c.set .rax ((c.regs .rax).extractLsb' 16 48 ++ dataSeg64)).regs .rax).setWidth 16 = _
    rw [Cpu.set_same]
    exact BitVec.setWidth_append_eq_right
  · refine ⟨?_, fun r rax other => ?_, rflags, gdtr, code, data, frame, table⟩
    · exact (Cpu.set_other _ (by decide) _).trans rsp
    · exact (Cpu.set_other _ rax _).trans (others r rax other)

theorem Reloading.movSegment {loaded : List SegmentRegister} (reloading : Reloading base c₀ loaded c)
    (rax : (c.regs .rax).setWidth 16 = dataSeg64) {r : SegmentRegister} (other : r ≠ .cs)
    (next : Addr) :
    ∃ c', (SegmentInstr.movSegment r).exec next c = some c' ∧ c'.rip = next ∧
      (c'.regs .rax).setWidth 16 = dataSeg64 ∧ Reloading base c₀ (r :: loaded) c' := by
  have kind : Descriptor.kernelData (Descriptor.accessed gdt64Data) = true := by decide
  have again : Descriptor.accessed (Descriptor.accessed gdt64Data) = Descriptor.accessed gdt64Data := by
    decide
  obtain ⟨mem, loads, marked, frame⟩ :=
    loadSegment_entry reloading.gdtr reloading.table rfl (i := 2) rfl kind r
  rw [again] at loads marked
  have loads' : c.loadSegment Descriptor.kernelData r dataSeg64 = some { c with
      mem
      segments := Function.update c.segments r ⟨dataSeg64, Descriptor.accessed gdt64Data⟩ } := loads
  refine ⟨{ c with
    mem
    segments := Function.update c.segments r ⟨dataSeg64, Descriptor.accessed gdt64Data⟩
    rip := next }, ?_, rfl, rax, ?_⟩
  · rw [SegmentInstr.exec, rax, loads']
    rfl
  · constructor
    · exact reloading.rsp
    · exact reloading.others
    · exact reloading.rflags
    · exact reloading.gdtr
    · exact (Function.update_of_ne other.symm _ _).trans reloading.code
    · intro q member
      by_cases same : q = r
      · rw [same]
        exact Function.update_self ..
      · exact (Function.update_of_ne same _ _).trans
          (reloading.data q ((List.mem_cons.mp member).resolve_left same))
    · intro x stack outside
      exact (frame x outside).trans (reloading.frame x stack outside)
    · exact marked

theorem Reloading.returnAddress {loaded : List SegmentRegister}
    (reloading : Reloading base c₀ loaded c) (apart : Apart (c₀.regs .rsp - 40) 48 base 32) :
    c.stackWord 0 = load c₀.mem (c₀.regs .rsp) 8 := by
  have top : c₀.regs .rsp - 40 + BitVec.ofNat 64 40 = c₀.regs .rsp := BitVec.sub_add_cancel ..
  have zero : c₀.regs .rsp + BitVec.ofNat 64 (8 * 0) = c₀.regs .rsp := BitVec.add_zero _
  rw [SegmentedCpu.stackWord, reloading.rsp, zero]
  refine load_congr_within (by decide) fun x inside => ?_
  rw [← top] at inside
  have whole : Within x (c₀.regs .rsp - 40) 48 := within_of_sub (by decide) inside
  rw [within_sub_iff whole (by decide) (by decide)] at inside
  exact reloading.frame x (Nat.not_lt_of_le inside.1) (apart x whole)

theorem segmentsInit_reloads {descriptor : Addr}
    (placed : SegmentPlaced fetch place (gdtInitAsm descriptor (place 8)))
    (rip : c.rip = place 8) (reloading : Reloading base c₀ [.ss] c)
    (apart : Apart (c₀.regs .rsp - 40) 48 base 32) :
    ∃ c', ReflTransGen (segmentStep fetch) c c' ∧ Reloaded base c₀ c' := by
  obtain ⟨c₁, movAx, rip₁, rax₁, ax⟩ := reloading.movAx (place 9)
  obtain ⟨c₂, movDs, rip₂, rax₂, ds⟩ := ax.movSegment rax₁ (r := .ds) (by decide) (place 10)
  obtain ⟨c₃, movSs, rip₃, rax₃, ss⟩ := ds.movSegment rax₂ (r := .ss) (by decide) (place 11)
  obtain ⟨c₄, movEs, rip₄, rax₄, es⟩ := ss.movSegment rax₃ (r := .es) (by decide) (place 12)
  obtain ⟨c₅, movFs, rip₅, rax₅, fs⟩ := es.movSegment rax₄ (r := .fs) (by decide) (place 13)
  obtain ⟨c₆, movGs, rip₆, rax₆, gs⟩ := fs.movSegment rax₅ (r := .gs) (by decide) (place 14)
  let c₇ : SegmentedCpu := { c₆.set .rsp (c₆.regs .rsp + 8), c₆ with rip := c₆.stackWord 0 }
  refine ⟨c₇, ?_, ?_⟩
  · refine .head (segmentStep_at placed (i := 8) rfl rip movAx) ?_
    refine .head (segmentStep_at placed (i := 9) rfl rip₁ movDs) ?_
    refine .head (segmentStep_at placed (i := 10) rfl rip₂ movSs) ?_
    refine .head (segmentStep_at placed (i := 11) rfl rip₃ movEs) ?_
    refine .head (segmentStep_at placed (i := 12) rfl rip₄ movFs) ?_
    refine .head (segmentStep_at placed (i := 13) rfl rip₅ movGs) ?_
    exact .single (segmentStep_at placed (i := 14) rfl rip₆ rfl)
  · have kind : Descriptor.kernelCode (Descriptor.accessed gdt64Code) = true := by decide
    constructor
    · exact gs.returnAddress apart
    · exact (Cpu.set_same ..).trans (congrArg (· + 8) gs.rsp)
    · intro r rax rsp
      exact (Cpu.set_other _ rsp _).trans (gs.others r rax rsp)
    · exact gs.rflags
    · exact gs.code
    · intro r other
      apply gs.data
      cases r with
      | cs => exact absurd rfl other
      | _ => decide
    · exact gs.frame
    · exact gs.table
    · intro isr
      obtain ⟨mem, enters, -⟩ :=
        loadSegment_entry (c := c₇) gs.gdtr gs.table rfl (i := 1) rfl kind .cs
      exact Option.isSome_of_eq_some enters

/-- `gdt_init_asm` returns with the kernel's segments loaded. -/
theorem gdtInitAsm_reloads {descriptor : Addr} (calls : CallsGdtInit fetch place base descriptor c) :
    ∃ c', ReflTransGen (segmentStep fetch) c c' ∧ Reloaded base c c' := by
  obtain ⟨c₁, before, rip₁, pushed⟩ := reaches_iretq calls
  obtain ⟨c₂, iretq, rip₂, reloading⟩ := iretq_reloads pushed calls.table calls.apart
  obtain ⟨c₃, after, reloaded⟩ := segmentsInit_reloads calls.placed rip₂ reloading calls.apart
  have jumps : segmentStep fetch c₁ c₂ := segmentStep_at calls.placed (i := 7) rfl rip₁ iretq
  exact ⟨c₃, before.trans (.head jumps after), reloaded⟩

end Steps

/-- The table at 0x1000 and `gdt64_descriptor` behind it. -/
def gdtImage : List (BitVec 8) :=
  gdt64.flatMap (fun d => (List.range 8).map fun i => d.extractLsb' (8 * i) 8) ++
    [31, 0, 0, 0x10, 0, 0, 0, 0, 0, 0]

def gdtPlace (i : Nat) : Addr := 0x2000 + BitVec.ofNat 64 i

def gdtFetch (a : Addr) : Option (SegmentInstr × Addr) :=
  let i := (a - 0x2000).toNat
  ((gdtInitAsm 0x1020 (gdtPlace 8))[i]?).map fun instr => (instr, gdtPlace (i + 1))

/-- A CPU with the firmware's segments that calls `gdt_init_asm`. -/
def gdtCaller : SegmentedCpu where
  regs r := if r = .rsp then 0x9000 else 0
  mem := overlay (fun _ => 0) 0x1000 gdtImage
  rip := gdtPlace 0
  rflags := 0x202
  gdtr := ⟨0x47, 0x7F000000⟩
  segments r := if r = .cs then ⟨0x38, gdt64Code⟩ else ⟨0x30, gdt64Data⟩

theorem gdtCaller_calls : CallsGdtInit gdtFetch gdtPlace 0x1000 0x1020 gdtCaller where
  placed i instr here := by
    obtain ⟨below, -⟩ := List.getElem?_eq_some_iff.mp here
    have small : i < 15 := below
    have index : (gdtPlace i - 0x2000).toNat = i := by
      rw [gdtPlace, offset_sub, BitVec.toNat_ofNat, Nat.mod_eq_of_lt (by omega)]
    simp only [gdtFetch, index, here, Option.map_some]
  rip := rfl
  limit := by decide +kernel
  start := by decide +kernel
  table := by
    refine ⟨?_, ?_, ?_, ?_, trivial⟩ <;> decide +kernel
  apart := by
    intro x stack inside
    rw [within_iff_toNat (by decide)] at inside
    rw [show gdtCaller.regs .rsp - 40 = 0x8FD8 from rfl, within_iff_toNat (by decide)] at stack
    change 0x8FD8 ≤ _ ∧ _ at stack
    change 0x1000 ≤ _ ∧ _ < 0x1000 + 32 at inside
    omega

theorem gdtCaller_reloads :
    ∃ c', ReflTransGen (segmentStep gdtFetch) gdtCaller c' ∧ Reloaded 0x1000 gdtCaller c' :=
  gdtInitAsm_reloads gdtCaller_calls

end Flosp.Kernel
