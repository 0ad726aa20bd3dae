/-
ContentDelivery.Host.Lifecycle — lifecycle data as context parameters.

The keys of `Lifecycle.contextKeys` are reported under another name, and
only if they have a value; every other entry is reported as it is.
-/
import ContentDelivery.StringMap

namespace ContentDelivery.Lifecycle

/-- Keys of lifecycle data, each with the name that it is reported under. -/
def contextKeys : List (String × String) :=
  [ ("advertisingidentifier", "a.adid"),
    ("appid", "a.AppID"),
    ("carriername", "a.CarrierName"),
    ("crashevent", "a.CrashEvent"),
    ("dailyenguserevent", "a.DailyEngUserEvent"),
    ("dayofweek", "a.DayOfWeek"),
    ("dayssincefirstuse", "a.DaysSinceFirstUse"),
    ("dayssincelastuse", "a.DaysSinceLastUse"),
    ("dayssincelastupgrade", "a.DaysSinceLastUpgrade"),
    ("devicename", "a.DeviceName"),
    ("resolution", "a.Resolution"),
    ("hourofday", "a.HourOfDay"),
    ("ignoredsessionlength", "a.ignoredSessionLength"),
    ("installdate", "a.InstallDate"),
    ("installevent", "a.InstallEvent"),
    ("launchevent", "a.LaunchEvent"),
    ("launches", "a.Launches"),
    ("launchessinceupgrade", "a.LaunchesSinceUpgrade"),
    ("locale", "a.locale"),
    ("monthlyenguserevent", "a.MonthlyEngUserEvent"),
    ("osversion", "a.OSVersion"),
    ("prevsessionlength", "a.PrevSessionLength"),
    ("runmode", "a.RunMode"),
    ("upgradeevent", "a.UpgradeEvent") ]

/-- The name that a known key is reported under. -/
def contextName? (key : String) : Option String :=
  (contextKeys.find? (fun known => known.1 == key)).map (·.2)

/-- An entry as it is reported, if it is. -/
def report? (entry : String × String) : Option (String × String) :=
  match contextName? entry.1 with
  | some name => if entry.2.isEmpty then none else some (name, entry.2)
  | none => some entry

/-- The context parameters of lifecycle data. Entries are reported in ascending order of their
keys, which matters only where one is reported under the name of another: the last one is kept. -/
def contextData (lifecycle : StringMap) : StringMap :=
  Std.ExtTreeMap.ofList (lifecycle.toList.filterMap report?)

end ContentDelivery.Lifecycle
