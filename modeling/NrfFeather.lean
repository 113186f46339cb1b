import NrfFeather.Lib.Prog
import NrfFeather.Lib.Transition
import NrfFeather.Lib.Calls
import NrfFeather.Lib.Views
import NrfFeather.Lib.Ledger
import NrfFeather.Lib.Accounting
import NrfFeather.Lib.Queue
import NrfFeather.Lib.Woken
import NrfFeather.Lib.Signal
import NrfFeather.Lib.Interleave
import NrfFeather.Lib.MachineInt
import NrfFeather.Lib.Memory
import NrfFeather.Lib.Interpolation
import NrfFeather.Lib.Json
import NrfFeather.Lib.PrefixCode
import NrfFeather.Zephyr
import NrfFeather.Pmic
import NrfFeather.UsbDetect.Main
import NrfFeather.UsbDetect.Handoff
import NrfFeather.UsbDetect.Buck2
import NrfFeather.UsbDetect.Startup
import NrfFeather.UsbDetect.Faults
import NrfFeather.UsbDetect.Settles
import NrfFeather.PmicPulldown
import NrfFeather.ActiveSleep
import NrfFeather.DeepSleep
import NrfFeather.SysregSetup
import NrfFeather.Nrf9151Startup
import NrfFeather.Battery.Driver
import NrfFeather.Battery.Steps
import NrfFeather.Battery.Freshness
import NrfFeather.Battery.Instances
import NrfFeather.Battery.Reachable
import NrfFeather.Battery.Level
import NrfFeather.Battery.Curves
import NrfFeather.Battery.Scan
import NrfFeather.Battery.Voltage
import NrfFeather.Battery.Gauge
import NrfFeather.Codec.ZephyrJson
import NrfFeather.Codec.ExampleJsonCodec
import NrfFeather.Codec.Size
import NrfFeather.Codec.Denotes
import NrfFeather.Codec.Atomic
import NrfFeather.Codec.Decodable
import NrfFeather.Codec.Buffer
import NrfFeather.Https.Cloud
import NrfFeather.Https.Sockets
import NrfFeather.Https.Publish
import NrfFeather.Https.Result
import NrfFeather.Https.Heap
import NrfFeather.Https.Provision
import NrfFeather.Https.Main
import NrfFeather.ExternalFlash.Init
import NrfFeather.ExternalFlash.BootCount
import NrfFeather.ExternalFlash.Main
import NrfFeather.Sms
import NrfFeather.SmsButton
import NrfFeather.AccelerometerZbus
import NrfFeather.LedPwm
