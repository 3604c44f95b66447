import Catalog.Config.Document
import Catalog.Decimal.Shortest
import Catalog.Error

/-!
# Settings

The settings of the library, read from a TOML document. Every section and every key may be
left out and then takes its default; keys the settings do not know are ignored. A value of
the wrong kind is refused with a message naming what was found and what was expected, and
pointing at the value. After reading, the settings are checked: the checkpoint interval and
the page size must be positive, and the domain and instance names must not be empty.

The error policy of a pass is a table whose key `mode` says which: `abort_pass`, or
`skip_with_budget` together with `max_errors`. A complaint about the tag points at the tag;
the other values are read as a whole, so a complaint about one of them points at the whole
table.
-/

namespace Catalog.Config

/-- What a pass does when a record fails. -/
inductive ErrorPolicy where
  /-- Stop the pass at the first failure. -/
  | abortPass
  /-- Leave failed records pending and go on, unless more than `maxErrors` failed. -/
  | skipWithBudget (maxErrors : Nat)
  deriving Repr, BEq, Inhabited

/-- How passes run. -/
structure EngineSettings where
  checkpointInterval : Nat := 100000
  pausePollMs : Nat := 3000
  pageSize : Int := 1000
  errorPolicy : ErrorPolicy := .abortPass
  domainName : String := "localhost"
  instanceName : String := "recflow"
  maxLockWaitMs : Nat := 5000
  indexWaitMs : Nat := 60000
  deriving Repr, Inhabited

/-- Which matchers and match rules deduplication uses. -/
structure MatchingSettings where
  matchers : List String := ["isbn", "issn", "lccn", "system_control_number"]
  matchRules : List String := ["isbn", "issn", "lccn", "system_control_number"]
  deriving Repr, Inhabited

/-- How harvesting waits for a provider. -/
structure HarvestSettings where
  timeoutMs : Nat := 300000
  deriving Repr, Inhabited

/-- How often the scheduler looks for work. -/
structure SchedulerSettings where
  pollMs : Nat := 1000
  deriving Repr, Inhabited

/-- All settings. -/
structure Settings where
  rootFolder : Option String := none
  engine : EngineSettings := {}
  matching : MatchingSettings := {}
  harvest : HarvestSettings := {}
  scheduler : SchedulerSettings := {}
  deriving Repr, Inhabited

/-! ## Describing values in messages -/

/-- A character of a string as shown in messages: quotes, backslashes and control
characters escaped. -/
def debugChar (c : Char) : List Char :=
  if c = '"' then ['\\', '"']
  else if c = '\\' then ['\\', '\\']
  else if c = '\n' then ['\\', 'n']
  else if c = '\r' then ['\\', 'r']
  else if c = '\t' then ['\\', 't']
  else if c = '\x00' then ['\\', '0']
  else if c.toNat < 0x20 || (0x7F ≤ c.toNat && c.toNat < 0xA0) then
    "\\u".toList ++ ['\x7b'] ++ (Nat.toDigits 16 c.toNat) ++ ['\x7d']
  else [c]

/-- A string as shown in messages, quoted. -/
def debugString (s : String) : String :=
  String.ofList ('"' :: s.toList.flatMap debugChar ++ ['"'])

/-- A double as shown in messages: all its shortest digits without an exponent, and a
decimal point always. -/
def floatShown (f : Float) : String :=
  if f.isNaN then "NaN"
  else if f.isInf then (if f < 0 then "-inf" else "inf")
  else
    let sign := if Decimal.signBit f then "-" else ""
    let b := Decimal.Binary.ofFloat f
    if b.mantissa = 0 then sign ++ "0.0" else
    let (d, k) := Decimal.shortest b
    let ds := (toString d).toList
    let body :=
      if k ≥ 0 then ds ++ List.replicate k.toNat '0' ++ ['.', '0']
      else if (-k).toNat < ds.length then
        ds.take (ds.length - (-k).toNat) ++ '.' :: ds.drop (ds.length - (-k).toNat)
      else '0' :: '.' :: List.replicate ((-k).toNat - ds.length) '0' ++ ds
    sign ++ String.ofList body

/-- What a value is, as named in messages. -/
def describe : Toml → String
  | .str s _ => "string " ++ debugString s
  | .int n _ => "integer `" ++ toString n ++ "`"
  | .float f _ => "floating point `" ++ floatShown f ++ "`"
  | .bool b _ => "boolean `" ++ (if b then "true" else "false") ++ "`"
  | .datetime _ _ => "map"
  | .array .. => "sequence"
  | .table .. => "map"

/-- A value of the wrong kind. -/
def wrongKind {α : Type} (v : Toml) (expected : String) : Except TomlError α :=
  .error ⟨v.span, "invalid type: " ++ describe v ++ ", expected " ++ expected⟩

/-! ## Reading values -/

/-- A non-negative integer. -/
def readU64 (v : Toml) : Except TomlError Nat :=
  match v with
  | .int n span =>
    if n ≥ 0 then .ok n.toNat
    else .error ⟨span, "invalid value: integer `" ++ toString n ++ "`, expected u64"⟩
  | _ => wrongKind v "u64"

/-- An integer. -/
def readI64 (v : Toml) : Except TomlError Int :=
  match v with
  | .int n _ => .ok n
  | _ => wrongKind v "i64"

/-- A string. -/
def readText (v : Toml) : Except TomlError String :=
  match v with
  | .str s _ => .ok s
  | _ => wrongKind v "a string"

/-- A list of strings. -/
def readTexts (v : Toml) : Except TomlError (List String) :=
  match v with
  | .array items _ _ => items.mapM readText
  | _ => wrongKind v "a sequence"

/-- A path. -/
def readPath (v : Toml) : Except TomlError String :=
  match v with
  | .str s _ => .ok s
  | _ => wrongKind v "path string"

/-- Read a section given as a table, key by key in document order, or as an array of its
values in field order; `fields` lists the field names in order. Fields an array leaves out
keep their defaults, and values past the last field are not looked at. -/
def readSection {α : Type} (name : String) (fields : List String) (start : α)
    (set : α → String → Toml → Except TomlError α) (v : Toml) : Except TomlError α :=
  match v with
  | .table entries _ _ => entries.foldlM (fun acc (k, x) =>
      if fields.contains k then set acc k x else .ok acc) start
  | .array items _ _ => (items.zip fields).foldlM (fun acc (x, k) => set acc k x) start
  | _ => wrongKind v ("struct " ++ name)

/-- The variant named by the tag of an error policy; a complaint points at the tag. -/
def readVariant (tag : Toml) : Except TomlError String :=
  match tag with
  | .str s span =>
    if s = "abort_pass" || s = "skip_with_budget" then .ok s
    else .error ⟨span, "unknown variant `" ++ s ++
      "`, expected `abort_pass` or `skip_with_budget`"⟩
  | _ => wrongKind tag "variant identifier"

/-- An error policy: a table with the tag `mode`, or an array whose first value is the tag
and whose other values are the fields of the variant in order. Once the tag is read, the
rest is read as a whole, so a complaint about it points at the whole value. -/
def readErrorPolicy (v : Toml) : Except TomlError ErrorPolicy :=
  let whole (msg : String) : Except TomlError ErrorPolicy := .error ⟨v.span, msg⟩
  let budget (x : Toml) : Except TomlError ErrorPolicy :=
    match readU64 x with
    | .ok n => .ok (.skipWithBudget n)
    | .error e => .error { e with span := v.span }
  match v with
  | .table entries _ _ =>
    match entries.lookup "mode" with
    | none => whole "missing field `mode`"
    | some tag => do
      let mode ← readVariant tag
      if mode = "abort_pass" then .ok .abortPass
      else
        match entries.lookup "max_errors" with
        | none => whole "missing field `max_errors`"
        | some x => budget x
  | .array items _ _ =>
    match items with
    | [] => whole "missing field `mode`"
    | tag :: rest => do
      let mode ← readVariant tag
      if mode = "abort_pass" then
        if rest.isEmpty then .ok .abortPass
        else whole ("invalid length " ++ toString rest.length ++
          ", expected 0 elements in sequence")
      else
        match rest with
        | [] => whole ("invalid length 0, expected struct variant " ++
          "ErrorPolicy::SkipWithBudget with 1 element")
        | x :: more => do
          let p ← budget x
          if more.isEmpty then .ok p
          else whole ("invalid length " ++ toString rest.length ++
            ", expected 1 element in sequence")
  | _ => wrongKind v "internally tagged enum ErrorPolicy"

/-- Set one key of the engine settings. -/
def setEngine (e : EngineSettings) (k : String) (x : Toml) : Except TomlError EngineSettings :=
  if k = "checkpoint_interval" then return { e with checkpointInterval := ← readU64 x }
  else if k = "pause_poll_ms" then return { e with pausePollMs := ← readU64 x }
  else if k = "page_size" then return { e with pageSize := ← readI64 x }
  else if k = "error_policy" then return { e with errorPolicy := ← readErrorPolicy x }
  else if k = "domain_name" then return { e with domainName := ← readText x }
  else if k = "instance_name" then return { e with instanceName := ← readText x }
  else if k = "max_lock_wait_ms" then return { e with maxLockWaitMs := ← readU64 x }
  else if k = "index_wait_ms" then return { e with indexWaitMs := ← readU64 x }
  else .ok e

/-- Set one key of the matching settings. -/
def setMatching (m : MatchingSettings) (k : String) (x : Toml) :
    Except TomlError MatchingSettings :=
  if k = "matchers" then return { m with matchers := ← readTexts x }
  else if k = "match_rules" then return { m with matchRules := ← readTexts x }
  else .ok m

/-- The keys of the engine settings, in order. -/
def engineKeys : List String :=
  ["checkpoint_interval", "pause_poll_ms", "page_size", "error_policy", "domain_name",
    "instance_name", "max_lock_wait_ms", "index_wait_ms"]

/-- Set one key of all settings. -/
def setSettings (s : Settings) (k : String) (x : Toml) : Except TomlError Settings :=
  if k = "root_folder" then do
    let p ← readPath x
    pure { s with rootFolder := some p }
  else if k = "engine" then do
    let e ← readSection "EngineSettings" engineKeys {} setEngine x
    pure { s with engine := e }
  else if k = "matching" then do
    let m ← readSection "MatchingSettings" ["matchers", "match_rules"] {} setMatching x
    pure { s with matching := m }
  else if k = "harvest" then do
    let h ← readSection "HarvestSettings" ["timeout_ms"] ({} : HarvestSettings)
      (fun h _ x => do
        let t ← readU64 x
        pure { h with timeoutMs := t }) x
    pure { s with harvest := h }
  else if k = "scheduler" then do
    let h ← readSection "SchedulerSettings" ["poll_ms"] ({} : SchedulerSettings)
      (fun h _ x => do
        let t ← readU64 x
        pure { h with pollMs := t }) x
    pure { s with scheduler := h }
  else .ok s

/-- Check read settings. -/
def Settings.validate (s : Settings) : Outcome Settings :=
  if s.engine.checkpointInterval = 0 then
    .error (.config "checkpoint_interval must be positive")
  else if s.engine.pageSize ≤ 0 then .error (.config "page_size must be positive")
  else if s.engine.domainName.isEmpty || s.engine.instanceName.isEmpty then
    .error (.config "domain_name and instance_name are required")
  else .ok s

/-- Read and check settings from the text of a TOML document. -/
def Settings.ofToml (doc : String) : Outcome Settings :=
  let read : Except TomlError Settings := do
    let root ← readDocument doc
    readSection "RecflowConfig" ["root_folder", "engine", "matching", "harvest", "scheduler"]
      {} setSettings root
  match read with
  | .ok s => s.validate
  | .error e => .error (.config ("Invalid config file: " ++ e.render doc))

end Catalog.Config
