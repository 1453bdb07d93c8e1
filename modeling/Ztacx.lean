import Ztacx.CModel.Memory
import Ztacx.CModel.LittleEndian
import Ztacx.CModel.Run
import Ztacx.CModel.Slist
import Ztacx.CModel.Records
import Ztacx.CModel.Lines
import Ztacx.CModel.Strtoul
import Ztacx.CModel.HexText
import Ztacx.CModel.Decimal
import Ztacx.CModel.Strtok
import Ztacx.CModel.Heap
import Ztacx.CModel.StringCopy
import Ztacx.CModel.IntArith
import Ztacx.CModel.Hysteresis
import Ztacx.CModel.Retry
import Ztacx.CModel.Sorting
import Ztacx.CModel.WorkQueue
import Ztacx.CModel.DelayableWork
import Ztacx.Value
import Ztacx.Variable
import Ztacx.VariableRead
import Ztacx.NumberEntry
import Ztacx.Display
import Ztacx.Registry
import Ztacx.RegistryLists
import Ztacx.Lifecycle
import Ztacx.VariablesCopy
import Ztacx.VariablesByName
import Ztacx.LeafSleep
import Ztacx.LeafTables
import Ztacx.TableCopies
import Ztacx.AutoContext
import Ztacx.NameRouting
import Ztacx.Settings
import Ztacx.SettingsLoad
import Ztacx.SettingsStore
import Ztacx.SettingsPersistence
import Ztacx.SettingsExport
import Ztacx.SettingsUpdate
import Ztacx.Bluetooth.Peripheral
import Ztacx.Bluetooth.Advertising
import Ztacx.Bluetooth.Connection
import Ztacx.Bluetooth.Gatt
import Ztacx.Bluetooth.GattString
import Ztacx.Bluetooth.GattEffect
import Ztacx.SettingsLife
import Ztacx.Bluetooth.Characteristic
import Ztacx.Bluetooth.ValueAttribute
import Ztacx.Bluetooth.Service
import Ztacx.Bluetooth.Uart
import Ztacx.Notification
import Ztacx.Keypad
import Ztacx.KeypadDelivery
import Ztacx.KeypadEdges
import Ztacx.KeypadSchedule
import Ztacx.Gps.Buffer
import Ztacx.Gps.Framing
import Ztacx.Gps.Sentence
import Ztacx.Gps.Location
import Ztacx.Gps.LocalTime
import Ztacx.Gps.Line
import Ztacx.Gps.Bounds
import Ztacx.Gps.Distance
import Ztacx.Gps.LocationText
import Ztacx.Gps.Movement
import Ztacx.Gps.Stream
import Ztacx.Lorawan
import Ztacx.LorawanJoin
import Ztacx.LorawanRetries
import Ztacx.HexSettings
import Ztacx.LedStrip
import Ztacx.LedStripUpdates
import Ztacx.LedStripColors
import Ztacx.LedStripAddressing
import Ztacx.LedStripRefresh
import Ztacx.LedBlink
import Ztacx.LedControl
import Ztacx.Button
import Ztacx.StringHeap
import Ztacx.StringOwnership
import Ztacx.Sensor.Ims
import Ztacx.Sensor.ImsRead
import Ztacx.Sensor.Battery
import Ztacx.Sensor.Lux
import Ztacx.Sensor.Temp
import Ztacx.Dac
import Ztacx.Spkr
import Ztacx.DeviceName
import Ztacx.SettingsAdd
import Ztacx.Shell
import Ztacx.ShellSafety
import Ztacx.ShellTable
import Ztacx.LeafStatus
import Ztacx.SettingsShell
import Ztacx.LorawanCredentials
import Ztacx.PwmLed
import Ztacx.SpkrTones
import Ztacx.Samples.BtSensor
import Ztacx.Samples.BtKeypad
