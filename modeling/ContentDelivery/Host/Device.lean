/-
ContentDelivery.Host.Device — what the host tells about the device and the app.

Each of the three enumerations has a first value that holds when the
host says nothing, and one name per value in JSON.
-/
import ContentDelivery.Json.Decoding

namespace ContentDelivery

open Json (Syntax)

inductive DeviceType where
  | phone
  | tablet
deriving DecidableEq, Repr, Inhabited

inductive Orientation where
  | portrait
  | landscape
deriving DecidableEq, Repr, Inhabited

inductive PlatformType where
  | ios
  | android
deriving DecidableEq, Repr, Inhabited

namespace DeviceType

def name : DeviceType → String
  | phone => "phone"
  | tablet => "tablet"

def ofName? : String → Option DeviceType
  | "phone" => some phone
  | "tablet" => some tablet
  | _ => none

def ofSyntax? (s : Syntax) : Option DeviceType := s.readName?.bind ofName?

theorem ofName?_name (t : DeviceType) : ofName? t.name = some t := by cases t <;> rfl

end DeviceType

namespace Orientation

def name : Orientation → String
  | portrait => "portrait"
  | landscape => "landscape"

def ofName? : String → Option Orientation
  | "portrait" => some portrait
  | "landscape" => some landscape
  | _ => none

def ofSyntax? (s : Syntax) : Option Orientation := s.readName?.bind ofName?

theorem ofName?_name (o : Orientation) : ofName? o.name = some o := by cases o <;> rfl

end Orientation

namespace PlatformType

def name : PlatformType → String
  | ios => "ios"
  | android => "android"

def ofName? : String → Option PlatformType
  | "ios" => some ios
  | "android" => some android
  | _ => none

def ofSyntax? (s : Syntax) : Option PlatformType := s.readName?.bind ofName?

theorem ofName?_name (t : PlatformType) : ofName? t.name = some t := by cases t <;> rfl

end PlatformType

/-- The device and the app in it. -/
structure Device where
  deviceName : Option String := none
  deviceType : DeviceType := .phone
  platformType : PlatformType := .ios
  orientation : Orientation := .portrait
  screenWidth : UInt32 := 0
  screenHeight : UInt32 := 0
  appId : Option String := none
  appName : Option String := none
  appVersion : Option String := none
  userAgent : Option String := none
deriving DecidableEq

end ContentDelivery
