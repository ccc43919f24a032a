import LobstrMcp.Model.Errors

/-!
`schema_translator.py`: from a crawler's `input[]` and its `/params` payload to the schema the
server publishes: one property per input, the level each is sent at, the aliases of names
declared twice, and the defaults to fill.
-/

namespace LobstrMcp

/-- One entry of a crawler's `input[]`. `level` is absent, null, or a name. -/
structure InputItem where
  name : String
  type : Option String := none
  level : Option (Option String) := none
  required : Json := .null
  default : Option Json := none
  description : Option String := none
  example? : Option Json := none
  group : Option String := none
  creditsPerFunction : Option Json := none
  workerStats : Option Fields := none

/-- A crawler: its `input[]`, and the payload's other items. -/
structure Crawler where
  input : List InputItem
  fields : Fields := []

namespace InputItem

/-- `item.get("level")` -/
def levelOrNone (item : InputItem) : Option String := item.level.join

/-- `item.get("level", "task")`, which is null when the entry says null. -/
def levelOrTask (item : InputItem) : Option String := item.level.getD (some "task")

/-- `it.get("group")`, none when empty. -/
def groupName (item : InputItem) : Option String := item.group.filter (· ≠ "")

end InputItem

def typeMap : Dict String String := [
  ("int", "integer"), ("integer", "integer"), ("float", "number"), ("number", "number"),
  ("bool", "boolean"), ("boolean", "boolean"), ("string", "string"), ("str", "string"),
  ("list", "array"), ("array", "array"), ("dict", "object"), ("object", "object")]

/-- `_SQUID_LEVEL_NAMES`: "cluster" is the older name of the same placement. -/
def squidLevelNames : List String := ["squid", "cluster"]

def normalizedLevel (level : Option String) : String :=
  match level with
  | none => "task"
  | some l => if l ∈ squidLevelNames then "squid" else if l = "" then "task" else l

/-- Alternative input sets: the fields of one group, and the ungrouped ones always asked for. -/
structure InputModes where
  either : List (List String)
  always : List String
  description : String
  deriving DecidableEq

/-- The required names of `items`, by group and ungrouped. -/
def requiredGroups (items : List InputItem) : Dict String (List String) × List String :=
  items.foldl (fun (groups, always) it =>
    if !it.required.truthy then (groups, always) else
    match it.groupName with
    | some group => (Dict.set groups group ((Dict.get? groups group).getD [] ++ [it.name]), always)
    | none => if it.default.isSome then (groups, always) else (groups, always ++ [it.name])) ([], [])

def joinGroup (group : List String) : String := "(" ++ String.intercalate " + " group ++ ")"

def inputModes (items : List InputItem) : Option InputModes :=
  let (groups, always) := requiredGroups items
  let either := (groups.map Prod.snd).filter (!·.isEmpty)
  if either.length < 2 then none else
  let desc := "Provide the fields of ONE of these groups: " ++
    String.intercalate " OR " (either.map joinGroup)
  let desc := if always.isEmpty then desc else
    desc ++ ". Always also provide: " ++ String.intercalate ", " always ++ "."
  some { either, always, description := desc }

/-- `at.setdefault(name, set()).add(level)` -/
def addLevel (at' : Dict String (List String)) (name level : String) : Dict String (List String) :=
  let levels := (Dict.get? at' name).getD []
  Dict.set at' name (if level ∈ levels then levels else levels ++ [level])

/-- `_levels_from_params`: every level the `/params` payload places a name at. -/
def levelsFromParams (params : Json) : Dict String (List String) :=
  match params with
  | .obj params =>
    let at' := match Fields.get params "task" with
      | .obj task => task.foldl (fun at' item => addLevel at' item.1 "task") []
      | _ => []
    match Fields.get params "squid" with
    | .obj squid => squid.foldl (fun at' (name, spec) =>
        if name = "functions" then
          match spec with
          | .obj functions => functions.foldl (fun at' item => addLevel at' item.1 "function") at'
          | _ => at'
        else addLevel at' name "squid") at'
    | _ => at'
  | _ => []

/-- The level a name is sent at when several sections list it: the task claim wins. -/
def strongestLevel (levels : List String) : Option String :=
  ["task", "function", "squid"].find? (· ∈ levels)

def placementFromParams (params : Json) : Dict String String :=
  (levelsFromParams params).filterMap fun (name, levels) => (strongestLevel levels).map (name, ·)

/-- The JSON-schema type of a default value. -/
def defaultType : Json → Option String
  | .null => none
  | .bool _ => some "boolean"
  | .int _ => some "integer"
  | .float _ => some "number"
  | .str _ => some "string"
  | .arr _ => some "array"
  | .obj _ => some "object"

def paramsType (spec : Fields) : Option String :=
  match Fields.get spec "type" with
  | .str declared => (Dict.get? typeMap declared).or (defaultType (Fields.get spec "default"))
  | _ => defaultType (Fields.get spec "default")

/-- `_params_only_specs`: every input the squid section describes by a spec object. -/
def paramsOnlySpecs (params : Json) : Dict String Fields :=
  match params with
  | .obj params =>
    match Fields.get params "squid" with
    | .obj squid => squid.foldl (fun specs (name, spec) =>
        match spec with
        | .obj spec =>
          if name = "functions" then
            spec.foldl (fun specs (fname, fspec) =>
              match fspec with
              | .obj fspec => Dict.set specs fname fspec
              | _ => specs) specs
          else Dict.set specs name spec
        | _ => specs) []
    | _ => []
  | _ => []

def propertyFromItem (item : InputItem) : Fields :=
  let prop : Fields :=
    [("type", .str ((Dict.get? typeMap (item.type.getD "string")).getD "string"))]
  let prop := match item.description with
    | some d => Dict.set prop "description" (.str d)
    | none => prop
  let prop := match item.default with
    | some d => Dict.set prop "default" d
    | none => prop
  match item.example? with
  | some e => Dict.set prop "examples" (.arr [e])
  | none => prop

/-- The `while candidate in taken` loop of `_alias_name`. Each round needs another taken name,
so `taken.length` rounds are enough to leave it. -/
def aliasLoop (base : String) (taken : List String) : Nat → Nat → String → String
  | 0, _, candidate => candidate
  | fuel + 1, n, candidate =>
    if candidate ∈ taken then aliasLoop base taken fuel (n + 1) s!"{base}_{n + 1}" else candidate

def aliasName (level name : String) (taken : List String) : String :=
  let base := s!"{normalizedLevel (some level)}_{name}"
  aliasLoop base taken (taken.length + 1) 1 base

def levelBlurb (level : String) : String :=
  (Dict.get? [("task", "one value per input row you scrape"),
    ("squid", "one value for the whole scraper"),
    ("function", "one value for the whole scraper, an optional extra step")] level).getD ""

/-- `(item.get("description") or "").strip().rstrip(".")` -/
def trimmedDescription (item : InputItem) : String :=
  String.ofList (((strip (item.description.getD "")).toList.reverse.dropWhile (· = '.')).reverse)

def aliasDescription (aliased name level : String) (item : InputItem) (otherLevel : Option String)
    (otherItem : InputItem) : String :=
  let own := trimmedDescription item
  let other := trimmedDescription otherItem
  let mine := normalizedLevel (some level)
  let theirs := normalizedLevel otherLevel
  let text := s!"This scraper has two different inputs both named \"{name}\". " ++
    s!"This is the {mine}-level one ({levelBlurb mine})"
  let text := text ++ if own = "" then ". " else s!": {own}. "
  let text := text ++ s!"The other one is {theirs}-level ({levelBlurb theirs})"
  let text := text ++ if other = "" then ". " else s!": {other}. "
  text ++ s!"That one keeps the plain name \"{name}\"; set this one as " ++
    s!"\"{aliased}\" instead. run_scraper sends it to the API under its " ++
    s!"real name \"{name}\" — the alias exists only here."

def shadowedLevel (name : String) (shadowed kept : InputItem)
    (paramsLevels : Dict String (List String)) : String :=
  let candidates := ((Dict.get? paramsLevels name).getD []).filter
    (· ≠ normalizedLevel kept.levelOrNone)
  match candidates with
  | [level] => level
  | _ => match shadowed.levelOrNone with
    | some level => if level = "" then "squid" else level
    | none => "squid"

/-- `_outranks`: the required entry, when exactly one of the two is. -/
def outranks (new old : InputItem) : Bool :=
  if new.required.truthy ≠ old.required.truthy then new.required.truthy else false

/-- The entries that keep their names, and the ones a same-named entry of another level shadows. -/
structure Declared where
  seen : Dict String InputItem := []
  shadowed : Dict String InputItem := []

/-- One round of the loop over `input[]`. -/
def declare (d : Declared) (item : InputItem) : Declared :=
  match Dict.get? d.seen item.name with
  | none => { d with seen := Dict.set d.seen item.name item }
  | some previous =>
    let (kept, dropped) := if outranks item previous then (item, previous) else (previous, item)
    { seen := Dict.set d.seen item.name kept
      shadowed := if normalizedLevel dropped.levelOrNone ≠ normalizedLevel kept.levelOrNone
        then Dict.set d.shadowed item.name dropped else d.shadowed }

/-- What `translate_input_schema` returns; `wire_names` and `defaults_to_fill` are empty where
the source leaves the keys out. -/
structure Translated where
  properties : Dict String Fields := []
  required : List String := []
  levels : Dict String (Option String) := []
  inputModes : Option InputModes := none
  wireNames : Dict String String := []
  defaultsToFill : Dict String Json := []

/-- One entry that keeps its plain name. -/
def publishKept (placement : Dict String String) (shadowed : Dict String InputItem)
    (t : Translated) (entry : String × InputItem) : Translated :=
  let (name, item) := entry
  let t := { t with properties := Dict.set t.properties name (propertyFromItem item) }
  let t := if !item.required.truthy then t else
    match item.default with
    | some d =>
      if item.groupName.isNone then { t with defaultsToFill := Dict.set t.defaultsToFill name d }
      else { t with required := t.required ++ [name] }
    | none => { t with required := t.required ++ [name] }
  let level := if Dict.contains shadowed name then item.levelOrTask else
    match Dict.get? placement name with
    | some level => some level
    | none => item.levelOrTask
  { t with levels := Dict.set t.levels name level }

/-- One input only `/params` knows about. -/
def publishParamsOnly (placement : Dict String String) (t : Translated)
    (entry : String × Fields) : Translated :=
  let (name, spec) := entry
  if Dict.contains t.properties name then t else
  let prop : Fields := match paramsType spec with
    | some type => [("type", .str type)]
    | none => []
  let prop := match Fields.get spec "description" with
    | .str d => if d = "" then prop else Dict.set prop "description" (.str d)
    | _ => prop
  let prop := match Dict.get? spec "default" with
    | some d => Dict.set prop "default" d
    | none => prop
  { t with properties := Dict.set t.properties name prop
           levels := Dict.set t.levels name (some ((Dict.get? placement name).getD "squid")) }

/-- One shadowed entry, under an alias. -/
def publishShadowed (paramsLevels : Dict String (List String)) (seen : Dict String InputItem)
    (t : Translated) (entry : String × InputItem) : Translated :=
  let (name, item) := entry
  let kept := (Dict.get? seen name).getD item
  let level := shadowedLevel name item kept paramsLevels
  let aliased := aliasName level name (Dict.keys t.properties)
  let prop := Dict.set (propertyFromItem item) "description"
    (.str (aliasDescription aliased name level item ((Dict.get? t.levels name).join) kept))
  { t with properties := Dict.set t.properties aliased prop
           levels := Dict.set t.levels aliased (some level)
           wireNames := Dict.set t.wireNames aliased name }

/-- `translate_input_schema`; `params` is null where the payload could not be read. -/
def translateInputSchema (crawler : Crawler) (params : Json) : Translated :=
  let placement := placementFromParams params
  let paramsLevels := levelsFromParams params
  let declared := crawler.input.foldl declare {}
  let t := declared.seen.foldl (publishKept placement declared.shadowed) {}
  let t := (paramsOnlySpecs params).foldl (publishParamsOnly placement) t
  let t := declared.shadowed.foldl (publishShadowed paramsLevels declared.seen) t
  let modes := inputModes (declared.seen.map Prod.snd)
  { t with inputModes := modes
           required := match modes with
             | some modes => modes.always
             | none => t.required }

namespace Translated

/-- `levels.get(key)` -/
def levelOf (t : Translated) (key : String) : Option String := (Dict.get? t.levels key).join

/-- `wire_names.get(key, key)` -/
def wireName (t : Translated) (key : String) : String := (Dict.get? t.wireNames key).getD key

end Translated
end LobstrMcp
