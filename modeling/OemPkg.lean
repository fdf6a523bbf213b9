import OemPkg.Lib.Machine
import OemPkg.Lib.Fallible
import OemPkg.Lib.Bytes
import OemPkg.Lib.EndToEnd
import OemPkg.Lib.Compaction
import OemPkg.Lib.DenseIndex
import OemPkg.Lib.Loop
import OemPkg.Lib.PrefixCode
import OemPkg.Lib.Accesses
import OemPkg.Lib.Pool
import OemPkg.Lib.Looking
import OemPkg.Lib.Strings
import OemPkg.Lib.Numerals
import OemPkg.Uefi.Status
import OemPkg.Uefi.Variable
import OemPkg.Uefi.DevicePath
import OemPkg.Uefi.PrintLib
import OemPkg.Settings.BootManagerSettings
import OemPkg.Settings.Registers
import OemPkg.Settings.Provider
import OemPkg.Settings.Initialization
import OemPkg.Settings.Uninitialized
import OemPkg.Password.Policy
import OemPkg.Password.StringPolicy
import OemPkg.Password.Store
import OemPkg.Password.Tracking
import OemPkg.Password.Authentication
import OemPkg.Password.StoredRecord
import OemPkg.SecureBoot.ModeSetting
import OemPkg.SecureBoot.StatusText
import OemPkg.Boot.RebootReason
import OemPkg.Boot.OsIndications
import OemPkg.Boot.InternalShell
import OemPkg.Boot.PreBootChecks
import OemPkg.Boot.AltBoot
import OemPkg.Boot.VariableLock
import OemPkg.Boot.BootPolicy
import OemPkg.Boot.ReadyToBoot
import OemPkg.Facs.HardwareSignature
import OemPkg.Facs.RegionWords
import OemPkg.Facs.BufferLayout
import OemPkg.Config.PolicyCreator
import OemPkg.Config.PublishedValues
import OemPkg.Config.RejectedOverride
import OemPkg.Config.PolicyBuffer
import OemPkg.Config.Ownership
import OemPkg.Config.ProfileRollback
import OemPkg.BootMenu.OrderForm
import OemPkg.BootMenu.OrderLog
import OemPkg.BootMenu.Deletion
import OemPkg.BootMenu.Reorder
import OemPkg.BootMenu.Toggle
import OemPkg.BootMenu.BootNow
import OemPkg.BootMenu.Cancelling
import OemPkg.BootMenu.WriteGate
import OemPkg.BootMenu.Interleaving
import OemPkg.BootMenu.BootNext
import OemPkg.Smbios.StringArea
import OemPkg.Smbios.DeviceId
import OemPkg.FrontPage.Authentication
import OemPkg.FrontPage.FormMap
import OemPkg.FrontPage.TopMenu
import OemPkg.FrontPage.TokenLife
import OemPkg.FrontPage.PasswordPrompts
import OemPkg.FrontPage.PasswordChange
import OemPkg.FrontPage.DisplayStrings
import OemPkg.FrontPage.FirmwareVersions
import OemPkg.Version.VersionStrings
import OemPkg.FrontPage.Session
import OemPkg.FrontPage.Indicators
import OemPkg.Boot.SettingsInForce
import OemPkg.Boot.BootOrderSeal
import OemPkg.Boot.MemoryMapPrint
import OemPkg.SecureBoot.KeySetting
