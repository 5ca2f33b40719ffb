import TinyEnvSensor.Foundations.History
import TinyEnvSensor.Foundations.Stretch
import TinyEnvSensor.Foundations.LastWrite
import TinyEnvSensor.Foundations.Rounding
import TinyEnvSensor.Foundations.SavedCounter
import TinyEnvSensor.Foundations.Spacing
import TinyEnvSensor.Foundations.Coverage
import TinyEnvSensor.Device.Config
import TinyEnvSensor.Device.State
import TinyEnvSensor.Diagnostics.Store
import TinyEnvSensor.Diagnostics.Counters
import TinyEnvSensor.Diagnostics.Ledger
import TinyEnvSensor.Diagnostics.FailedLoad
import TinyEnvSensor.Diagnostics.Watchdog
import TinyEnvSensor.Thread.Tracker
import TinyEnvSensor.Thread.TrackerMeaning
import TinyEnvSensor.Sensor.Battery
import TinyEnvSensor.Sensor.Sampling
import TinyEnvSensor.Sensor.GateMeaning
import TinyEnvSensor.Policy.AwakePolicy
import TinyEnvSensor.Policy.RebootMeaning
import TinyEnvSensor.Policy.HoldMeaning
import TinyEnvSensor.App.Task
import TinyEnvSensor.App.SamplingMeaning
import TinyEnvSensor.App.PublishedRange
import TinyEnvSensor.App.FlashBudget
import TinyEnvSensor.App.WatchdogFeeding
import TinyEnvSensor.Thread.ReattachMeaning
import TinyEnvSensor.Policy.KickMeaning
import TinyEnvSensor.Diagnostics.Dump
import TinyEnvSensor.Sensor.BatteryMeaning
import TinyEnvSensor.Foundations.Interpolation
import TinyEnvSensor.Sensor.CurveMeaning
import TinyEnvSensor.Foundations.Hex
import TinyEnvSensor.Foundations.Memory
import TinyEnvSensor.Identity.DeviceIdentity
import TinyEnvSensor.Identity.IdentityMeaning
import TinyEnvSensor.Diagnostics.Journaled
import TinyEnvSensor.App.Life
import TinyEnvSensor.App.Journaled
import TinyEnvSensor.App.LifeStore
import TinyEnvSensor.App.LifeCounters
import TinyEnvSensor.App.LifeAccount
import TinyEnvSensor.App.Observer
import TinyEnvSensor.App.LifeParties
import TinyEnvSensor.App.LifeRuns
import TinyEnvSensor.App.LifeHealth
import TinyEnvSensor.App.LifeWatchdog
import TinyEnvSensor.Led.StatusLed
import TinyEnvSensor.Foundations.Tally
import TinyEnvSensor.Led.StatusMeaning
import TinyEnvSensor.App.LifeSamples
import TinyEnvSensor.App.LifeBattery
import TinyEnvSensor.App.LifeFlash
import TinyEnvSensor.App.LifeLeds
import TinyEnvSensor.App.LifeRecovery
