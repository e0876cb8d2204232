import WimLean.Basic
import WimLean.LookupTable
import WimLean.Unaligned
import WimLean.Compress.Bitstream
import WimLean.Xml.LanguageMap
import WimLean.Xml.WindowsInfo
import WimLean.Resource.Read
import WimLean.Resource.Layout
import WimLean.Resource.ReadCorrect
import WimLean.Resource.ReadSafety
import WimLean.Resource.Extract
import WimLean.Resource.FpTable
import WimLean.Resource.EntryCodec
import WimLean.Resource.FullWrite
import WimLean.NtfsApply.SdFixup
import WimLean.NtfsApply.BlobExtract
import WimLean.NtfsApply.BlobData
import WimLean.NtfsApply.FileStructure
import WimLean.NtfsApply.Extract
import WimLean.Image.Modify
import WimLean.Image.BootIndex
import WimLean.Image.Refcount
import WimLean.Capture.NtfsCapture
import WimLean.Capture.ReadBack
import WimLean.Capture.SearchTree
import WimLean.Capture.SecurityIds
import WimLean.Capture.NtfsDirectory
import WimLean.Capture.CapturedTree
import WimLean.Capture.CaptureSecurity
import WimLean.Capture.CleanCapture
import WimLean.NtfsApply.FileStructureLinks
import WimLean.NtfsApply.ExtractionList
