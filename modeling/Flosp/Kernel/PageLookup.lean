import Flosp.Kernel.PatFlag

/-! `get_mem_page` beside the page walk of the processor. -/

namespace Flosp.Kernel

open ByteMemory

section Lookup

variable {cr3 addr : BitVec 64} {m : KernelMachine}

/-- For every address that the processor maps, the function returns the entry that maps it. -/
theorem getMemPage_agrees (root : cr3 &&& 0xFFF0000000000000 = 0)
    (mapped : PageWalk.Mapped (entries m.mem) cr3 addr) :
    ∃ level, PageWalk.leaf (entries m.mem) cr3 addr = some (level, (getMemPage cr3 addr m).1) := by
  rcases Option.isSome_iff_exists.mp mapped with ⟨⟨level, p⟩, found⟩
  rw [getMemPage_leaf root found]
  exact ⟨level, found⟩

end Lookup

/-- Memory in which every entry is the same one: it maps a page at 0x1000, with NX and all
ignored bits set, and as a table it leads to itself. -/
def loopedTables : KernelMachine where
  mem := fun a => [0x03, 0x10, 0x00, 0x00, 0x00, 0x00, 0xF0, 0xFF].getD (a.toNat % 8) 0
  log := []

theorem loopedTables_mapped :
    PageWalk.Mapped (entries loopedTables.mem) 0x1018 0xFFFF800000201000 := by
  rw [PageWalk.Mapped]
  decide +kernel

theorem loopedTables_agrees :
    ∃ level, PageWalk.leaf (entries loopedTables.mem) 0x1018 0xFFFF800000201000 =
      some (level, (getMemPage 0x1018 0xFFFF800000201000 loopedTables).1) :=
  getMemPage_agrees (by decide) loopedTables_mapped

end Flosp.Kernel
