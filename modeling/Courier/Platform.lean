import Courier.Json.Record

/-!
# Platforms and push vendors

A client runs on one of ten platforms, known by the numbers 1 to 10. Two phone platforms and their
tablets can be reached through the push service of a vendor while no session is open.
-/

namespace Courier

/-- A vendor's push service. -/
inductive Vendor where
  | apns
  | fcm
  deriving DecidableEq, Repr, Inhabited

namespace Vendor

/-- The name of a vendor. -/
def name : Vendor → String
  | .apns => "apns"
  | .fcm => "fcm"

/-- The vendor with exactly this name. -/
def ofName? : String → Option Vendor
  | "apns" => some .apns
  | "fcm" => some .fcm
  | _ => none

/-- The vendor with this name, whatever its case. No character outside ASCII has a lower-case form
among the letters of a name, so the case of ASCII letters decides. -/
def parse? (s : String) : Option Vendor :=
  ofName? (s.map Char.toLower)

/-- Reads a vendor by its exact name. -/
def read : Json.Reader Vendor :=
  Json.readVariant ofName? fun _ => none

@[simp] theorem ofName?_name (v : Vendor) : ofName? v.name = some v := by
  cases v <;> rfl

end Vendor

/-- What a client runs on. -/
inductive Platform where
  | ios
  | android
  | windows
  | osx
  | web
  | miniWebApp
  | linux
  | androidPad
  | iPad
  | admin
  deriving DecidableEq, Repr, Inhabited

namespace Platform

/-- All platforms, in the order of their numbers. -/
def all : List Platform :=
  [.ios, .android, .windows, .osx, .web, .miniWebApp, .linux, .androidPad, .iPad, .admin]

/-- The number of a platform. -/
def id : Platform → Int32
  | .ios => 1
  | .android => 2
  | .windows => 3
  | .osx => 4
  | .web => 5
  | .miniWebApp => 6
  | .linux => 7
  | .androidPad => 8
  | .iPad => 9
  | .admin => 10

/-- The name of a platform. -/
def name : Platform → String
  | .ios => "IOS"
  | .android => "Android"
  | .windows => "Windows"
  | .osx => "OSX"
  | .web => "Web"
  | .miniWebApp => "MiniWebApp"
  | .linux => "Linux"
  | .androidPad => "AndroidPad"
  | .iPad => "IPad"
  | .admin => "Admin"

/-- The platform with a number. -/
def ofId? (n : Int32) : Option Platform :=
  all.find? fun p => p.id = n

/-- The name of the platform with a number, empty if there is none. -/
def nameOf (n : Int32) : String :=
  ((ofId? n).map name).getD ""

/-- The vendor that reaches a platform. -/
def vendor? : Platform → Option Vendor
  | .ios | .iPad => some .apns
  | .android | .androidPad => some .fcm
  | _ => none

/-- Why a number names no platform. -/
def unknown (n : Int32) : String :=
  "unknown platform id: " ++ toString n.toInt

/-- Reads a platform by its number. -/
def read : Json.Reader Platform := fun v => do
  let n ← Json.readCode v
  match ofId? n with
  | some p => return p
  | none => throw (.rejected (unknown n))

/-- A platform as its number. -/
def toJson (p : Platform) : Json :=
  .ofInt p.id.toInt

@[simp] theorem ofId?_id (p : Platform) : ofId? p.id = some p := by
  cases p <;> rfl

theorem id_of_ofId? {n : Int32} {p : Platform} (h : ofId? n = some p) : p.id = n := by
  simpa using List.find?_some h

end Platform

end Courier
