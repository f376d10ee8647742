import Libhat.Lib.Loop
import Libhat.Lib.FirstHit
import Libhat.Lib.BitScan
import Libhat.Memory
import Libhat.Signature
import Libhat.Frequency
import Libhat.ScanContext
import Libhat.SingleScan
import Libhat.SegmentScan
import Libhat.Vector
import Libhat.VectorScan
import Libhat.X86
import Libhat.Neon
import Libhat.Scan
import Libhat.FindAll
import Libhat.Lib.DigitPattern
import Libhat.SignatureText
import Libhat.SignatureToString
import Libhat.CApi
import Libhat.Lib.Blocks
import Libhat.Linux.Common
import Libhat.Linux.MemoryProtector
import Libhat.Lib.Runs
import Libhat.Linux.ProtectorLifetime
import Libhat.Linux.Process
import Libhat.RegionQueries
import Libhat.CStringView
import Libhat.Cow
import Libhat.CowRuns
import Libhat.CApiCalls
import Libhat.CApiLifetime
import Libhat.Mac.Regions
import Libhat.Win32.GuardPages
import Libhat.Lib.Bisect
import Libhat.PairHints
import Libhat.Lib.OrderedMap
import Libhat.Linux.Elf
import Libhat.Linux.MapsFormat
import Libhat.Linux.Sections
import Libhat.Mac.Module
import Libhat.CompileSignature
import Libhat.Mac.SectionNames
import Libhat.Linux.ModuleData
import Libhat.ParseInt
import Libhat.Win32.Vtable
import Libhat.Lib.RefCount
import Libhat.Loader
import Libhat.Linux.GetModule
import Libhat.Mac.GetModule
import Libhat.Win32.GetModule
import Libhat.Lib.Refinement
import Libhat.CApiThreads
import Libhat.TextScan
import Libhat.CApiHandles
import Libhat.Lib.Raising
import Libhat.Python.Binding
import Libhat.Python.Calls
import Libhat.Python.Session
import Libhat.Python.FindPattern
import Libhat.Java.FindPattern
import Libhat.System
import Libhat.AutoScan
import Libhat.Lib.Chase
import Libhat.Win32.VtableChain
import Libhat.Lib.Guards
import Libhat.ProtectorRuns
import Libhat.Win32.MemoryProtector
import Libhat.Mac.MemoryProtector
import Libhat.Linux.SectionCache
import Libhat.Lib.CallOnce
import Libhat.Linux.SectionThreads
import Libhat.Lib.LittleEndian
import Libhat.MemoryReads
import Libhat.ScanResult
import Libhat.Lib.Records
import Libhat.Win32.Image
import Libhat.Mac.Image
import Libhat.StringSignature
