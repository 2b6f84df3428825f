import RouteProbe.Journal
import RouteProbe.Settings.Document
import RouteProbe.Settings.Environment

/-! # Loading settings

Settings are loaded in layers. A layer that holds a document replaces all settings of the layers
before it. Variables of the environment with the chosen start of their names come last: each of them
changes one setting, whatever layer it came from. They are looked through in order, and the program
panics at the first that is not a text. The result has to keep the rules of settings unless it is
asked for unchecked.
-/

namespace RouteProbe

/-- What is stored under the name of a file. -/
inductive FileEntry
  | file (content : List UInt8)
  | directory

/-- The files that can be read, by name. -/
abbrev Files := List (String × FileEntry)

namespace Files

/-- The parts of a file name between slashes, with those left out that lead nowhere. -/
def parts (name : String) : List String := (Text.segments name).filter (· ≠ ".")

/-- What there is at a place, which is told by its parts. A directory need not be listed if
something below it is, and the directories around the files are there, but nothing else in them. -/
def entry? (files : Files) (place : List String) : Option FileEntry :=
  if place.all (· ∈ ["..", "/"]) then some .directory
  else match List.find? (fun file => parts file.1 = place) files with
    | some (_, entry) => some entry
    | none =>
      if files.any fun file => place.isPrefixOf (parts file.1) then some .directory else none

/-- The place that a part of a name leads to from another place. -/
def step (place : List String) (part : String) : List String :=
  if part ∈ ["", "."] then place
  else if part = ".." ∧ place.any (· ∉ ["..", "/"]) then place.dropLast
  else place ++ [part]

/-- Follows the parts of a name from a place; only from a directory is there a way on. -/
def follow (files : Files) (place : List String) : List String → Option FileEntry
  | [] => files.entry? place
  | part :: rest =>
    match files.entry? place with
    | some .directory => files.follow (step place part) rest
    | _ => none

/-- What there is under a name. -/
def find? (files : Files) (name : String) : Option FileEntry :=
  match Text.pieces '/' name with
  | [""] => none
  | "" :: rest => files.follow ["/"] rest
  | pieces => files.follow [] pieces

def text? (files : Files) (name : String) : Option String :=
  match files.find? name with
  | some (.file content) => Text.ofOctets? content
  | _ => none

end Files

/-- What a variable may be set to. -/
inductive OverrideRule
  | wholeNumber
  | flag
  deriving DecidableEq, Repr

def OverrideRule.reason : OverrideRule → String
  | wholeNumber => "expected a non-negative integer"
  | flag => "expected true or false"

/-- Why settings cannot be loaded. -/
inductive SettingsError
  | missing (path : String)
  | unreadable (path : String)
  /-- A document does not spell settings in its format. -/
  | malformed (format : DocumentFormat)
  | unsupportedFormat (format : String)
  | invalidValue (rule : SettingsRule)
  | invalidOverride (name : String) (rule : OverrideRule)
  deriving DecidableEq, Repr

namespace SettingsError

def message? : SettingsError → Option String
  | missing path => s!"configuration file {path} does not exist"
  | unreadable path => s!"cannot read configuration file {path}"
  | malformed _ => none
  | unsupportedFormat format => "unsupported configuration format \x60" ++ format ++ "\x60"
  | invalidValue rule => "\x60" ++ rule.field ++ "\x60 " ++ rule.reason
  | invalidOverride name rule => s!"environment override {name} rejected: " ++ rule.reason

/-- Whether a file could not be had. -/
def isAccess : SettingsError → Bool
  | missing _ | unreadable _ => true
  | _ => false

end SettingsError

/-- How loading can end without settings. -/
inductive LoadFailure
  | refused (error : SettingsError)
  /-- A variable that is not a text was met on the way through the environment. -/
  | panicked
  deriving DecidableEq, Repr

/-- Where settings come from. -/
inductive SettingsLayer
  | defaults
  | document (content format : String)
  | file (name : String)
  /-- A file that may be missing. -/
  | optionalFile (name : String)
  /-- Variables whose names start with this text, in uppercase. -/
  | environment (start : String)
  /-- More variables from the file of variables. -/
  | variableFile

/-- Settings on their way through the layers. -/
structure SettingsLoader where
  files : Files := []
  environment : Environment := []
  settings : Settings := {}
  /-- How the names of the variables start that change settings, if any do. -/
  start : Option String := none
  notices : List Notice := []

/-- The part of a file name behind its last dot, unless that is its first character. -/
def fileExtension? (name : String) : Option String :=
  match (Files.parts name).getLast? with
  | none => none
  | some file =>
    if file = ".." then none
    else match (Text.cut '.' file.toList).reverse with
      | _ :: [] => none
      | _ :: [[]] => none
      | extension :: _ => some (String.ofList extension)
      | [] => none

namespace SettingsLoader

def variablesFile : String := ".env"

/-- Replaces the settings by those of a file. -/
def readFile (loader : SettingsLoader) (name : String) : Except SettingsError SettingsLoader :=
  if (loader.files.find? name).isNone then .error (.missing name)
  else match (fileExtension? name).bind DocumentFormat.ofName? with
    | none => .error (.unsupportedFormat name)
    | some format =>
      match loader.files.text? name with
      | none => .error (.unreadable name)
      | some content =>
        match format.read? content with
        | none => .error (.malformed format)
        | some settings => .ok { loader with settings }

/-- Applies a layer. -/
def apply (loader : SettingsLoader) : SettingsLayer → Except SettingsError SettingsLoader
  | .defaults => .ok { loader with settings := {} }
  | .document content format =>
    match DocumentFormat.ofName? format with
    | none => .error (.unsupportedFormat format)
    | some format =>
      match format.read? content with
      | none => .error (.malformed format)
      | some settings => .ok { loader with settings }
  | .file name => loader.readFile name
  | .optionalFile name =>
    if (loader.files.find? name).isSome then loader.readFile name else .ok loader
  | .environment start => .ok { loader with start := some (Text.uppercase start) }
  | .variableFile =>
    match loader.files.text? variablesFile with
    | none => .ok loader
    | some content =>
      let (environment, complete) := loader.environment.addFile content
      let notices := if complete then [.loadedEnvironment variablesFile] else []
      .ok { loader with environment, notices := loader.notices ++ notices }

/-- The setting that a variable names, as it is written in the variable. -/
def settingName? (start name : String) : Option String :=
  (Text.dropStart? (start ++ "__INTROSPECTION__").toList name.toList).map String.ofList

/-- The kinds of routers in a list with commas; blank items are left out, and a list of nothing else
sets no kinds. -/
def parseKinds (value : String) : Option (List String) :=
  match ((Text.pieces ',' value).map Text.trim).filter (· ≠ "") with
  | [] => none
  | kinds => some kinds

def parseDigits? (digits : List Char) : Option Nat :=
  if digits ≠ [] ∧ digits.all Char.isDigit then
    some (digits.foldl (fun value digit => value * 10 + (digit.toNat - '0'.toNat)) 0)
  else none

def parseLimit? (value : String) : Option UInt64 := do
  let number ← match (Text.trim value).toList with
    | '+' :: digits => parseDigits? digits
    | digits => parseDigits? digits
  if number < UInt64.size then some (UInt64.ofNat number) else none

def parseFlag? (value : String) : Option Bool :=
  let word := Text.lowercaseAscii (Text.trim value)
  if word ∈ ["true", "1", "yes", "on"] then some true
  else if word ∈ ["false", "0", "no", "off"] then some false
  else none

/-- Lets one variable change the settings. -/
def applyVariable (start : String) (entry : String × String) (settings : Settings) :
    Except SettingsError Settings :=
  let (name, value) := entry
  let introspection := settings.introspection
  match settingName? start name with
  | some "DEFAULT_ROUTERS" => .ok ⟨{ introspection with defaultRouters := parseKinds value }⟩
  | some "PATTERN_CACHE_LIMIT" =>
    match parseLimit? value with
    | some limit => .ok ⟨{ introspection with patternCacheLimit := limit }⟩
    | none => .error (.invalidOverride name .wholeNumber)
  | some "SUPPRESS_PROBE_LOGGING" =>
    match parseFlag? value with
    | some suppress => .ok ⟨{ introspection with suppressProbeLogging := suppress }⟩
    | none => .error (.invalidOverride name .flag)
  | _ => .ok settings

/-- The notice of a variable that names no setting, though its start promises one. -/
def variableNotice? (start : String) (entry : String × String) : Option Notice :=
  match settingName? start entry.1 with
  | none | some "DEFAULT_ROUTERS" | some "PATTERN_CACHE_LIMIT" | some "SUPPRESS_PROBE_LOGGING" =>
    none
  | some _ => some (.ignoredOverride entry.1)

/-- Lets variables change the settings in turn, up to the first that cannot, with the notices of
those before it. -/
def applyVariables (start : String) :
    List (String × String) → Settings → Except SettingsError Settings × List Notice
  | [], settings => (.ok settings, [])
  | entry :: rest, settings =>
    match applyVariable start entry settings with
    | .error error => (.error error, [])
    | .ok settings =>
      let (result, notices) := applyVariables start rest settings
      (result, (variableNotice? start entry).toList ++ notices)

/-- Applies layers in turn, up to the first that cannot be; that one is given by its number. -/
def applyAll (loader : SettingsLoader) (number : Nat) :
    List SettingsLayer → SettingsLoader × Option (Nat × SettingsError)
  | [] => (loader, none)
  | layer :: rest =>
    match loader.apply layer with
    | .error error => (loader, some (number, error))
    | .ok loader => applyAll loader (number + 1) rest

/-- Settings that keep the rules. -/
def check (settings : Settings) : Except SettingsError Settings :=
  match settings.brokenRule? with
  | some rule => .error (.invalidValue rule)
  | none => .ok settings

/-- Lets the variables of an environment change the settings, and looks at the rules in the
end. A variable that cannot change its setting stops this before one that is not a text, if it
comes first. -/
def override (start : String) (environment : Environment) (settings : Settings) :
    Except LoadFailure Settings × List Notice :=
  let (named, complete) := environment.texts
  let (result, notices) := applyVariables start named settings
  (match result with
    | .error error => .error (.refused error)
    | .ok settings => if complete then (check settings).mapError .refused else .error .panicked,
    notices)

/-- The settings that layers and variables make, if they keep the rules; with all notices. The
settings of the loader itself are those of the layers alone, unchecked. -/
def load (loader : SettingsLoader) : Except LoadFailure Settings × List Notice :=
  match loader.start with
  | none => ((check loader.settings).mapError .refused, loader.notices)
  | some start =>
    let (result, notices) := override start loader.environment loader.settings
    (result, loader.notices ++ notices)

end SettingsLoader

end RouteProbe
