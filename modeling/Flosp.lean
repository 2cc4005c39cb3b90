import Flosp.Lib.AccessLog
import Flosp.Lib.Interaction
import Flosp.Numeral
import Flosp.Boot.Efi
import Flosp.Boot.Video
import Flosp.Boot.Elf
import Flosp.Boot.Loader
import Flosp.Boot.Main
import Flosp.Lib.Monitor
import Flosp.Boot.Effects
import Flosp.Boot.FailureHandling
import Flosp.Boot.RootPointer
import Flosp.Boot.Firmware
import Flosp.Boot.Segment
import Flosp.Boot.KernelImage
import Flosp.Boot.BumpFirmware
import Flosp.Boot.SegmentBounds
import Flosp.Boot.Truncation
import Flosp.Kernel.Memcpy
import Flosp.Kernel.Console
import Flosp.Kernel.Paging
import Flosp.Kernel.Flush
import Flosp.Kernel.Drawing
import Flosp.Kernel.Cursor
import Flosp.Kernel.Printing
import Flosp.Kernel.Bounds
import Flosp.Lib.CellArray
import Flosp.Kernel.Pixels
import Flosp.Kernel.Terminal
import Flosp.Kernel.PatFlag
import Flosp.Kernel.Acpi
import Flosp.Lib.RecordChain
import Flosp.Kernel.Lapic
import Flosp.Kernel.MadtWalk
import Flosp.Kernel.Drivers
import Flosp.Kernel.Idt
import Flosp.Lib.WordStack
import Flosp.Kernel.Gates
import Flosp.Kernel.InterruptFrame
import Flosp.Kernel.Ps2
import Flosp.Kernel.StuckBuffer
import Flosp.Kernel.Ps2Controller
import Flosp.Kernel.PortSetup
import Flosp.Kernel.PromptDevice
import Flosp.Kernel.ErrorFlag
import Flosp.Kernel.UsablePorts
import Flosp.Lib.Coupling
import Flosp.Kernel.PortIndependence
import Flosp.Kernel.AckTimeout
import Flosp.Kernel.Silenced
import Flosp.Kernel.Keyboard
import Flosp.Kernel.Keystrokes
import Flosp.Kernel.Apic
import Flosp.Kernel.Timers
import Flosp.Kernel.DriverRuns
import Flosp.Kernel.Calibration
import Flosp.Boot.ExitServices
import Flosp.Kernel.LegacyPics
import Flosp.Boot.HeaderStride
import Flosp.Boot.IdentityCheck
import Flosp.Kernel.Probe
import Flosp.Kernel.HpetSleep
import Flosp.Kernel.PageLookup
import Flosp.Kernel.TimedDevice
import Flosp.Kernel.Identification
import Flosp.Kernel.Editing
import Flosp.Boot.MemoryMap
import Flosp.Boot.ModeSelection
import Flosp.Kernel.ApicBase
import Flosp.Boot.EntryPoint
import Flosp.Kernel.Output
import Flosp.Kernel.MissingTable
import Flosp.Kernel.FramebufferFlags
import Flosp.DigitStack
import Flosp.Kernel.NumberPrinters
import Flosp.Kernel.Checksum
import Flosp.Kernel.TableLookup
import Flosp.Numerals
import Flosp.Lib.Positional
import Flosp.Lib.LoggedArray
import Flosp.Kernel.InterruptHandler
import Flosp.Kernel.InterruptPath
import Flosp.Kernel.Controllers
import Flosp.Lib.Embedding
import Flosp.Kernel.Computer
import Flosp.Kernel.MainRuns
import Flosp.Kernel.EarlyTick
import Flosp.Lib.Reachable
import Flosp.Kernel.Main
import Flosp.Kernel.Cascade
import Flosp.Kernel.Gdt
import Flosp.Kernel.SegmentReload
import Flosp.Kernel.Transcript
import Flosp.Kernel.Sysprompt
import Flosp.Kernel.Echo
import Flosp.Lib.Contract
import Flosp.Boot.Holdings
import Flosp.Boot.HeldResources
import Flosp.Lib.RecordLayout
import Flosp.Lib.Promise
import Flosp.Lib.TaskLogic
import Flosp.Kernel.Walk
import Flosp.Boot.Handoff
import Flosp.Kernel.Startup
import Flosp.Kernel.BootInfo
import Flosp.Kernel.Uncalibrated
import Flosp.Kernel.Dispatch
import Flosp.Kernel.KeyboardSetup
import Flosp.Kernel.AcpiStage
import Flosp.Kernel.SparedMemory
import Flosp.Kernel.Pc
import Flosp.Kernel.PcDrivers
import Flosp.Kernel.Calibrated
