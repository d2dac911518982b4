import AsbCloudApi.Startup.EnvTemplate

/-!
# Configuration

Library `Startup`. Models `_resolve_env`, `_normalize_none_keys` and what `load_config` makes of the
parsed file in `src/asb_api/config.py:9–44`. Wherever a component looks, it finds what the file
holds there under the same keys, with its texts resolved; a key that YAML reads as null is found
as `"null"`.
-/

namespace AsbCloudApi.Startup

open Base Text

/-- A key of a YAML mapping; keys that are neither null nor text are told apart by their text. -/
inductive ConfigKey where
  | none
  | str (s : String)
  | other (text : String)
  deriving DecidableEq

/-- A YAML value. What is neither text nor a list nor a dictionary is told apart by its text, a
tuple or a set among them, whose texts `_resolve_env` does not resolve. -/
inductive Config where
  | str (s : String)
  | other (text : String)
  | list (items : List Config)
  | dict (items : List (ConfigKey × Config))

/-- `"null" if k is None else k`. -/
def renameKey : ConfigKey → ConfigKey
  | .none => .str "null"
  | k => k

mutual

/-- `_resolve_env`; `src/asb_api/config.py:9–24`. -/
def resolveEnv (environ : Dict String String) : Config → Config
  | .str s => .str (resolveText environ s)
  | .other text => .other text
  | .list items => .list (resolveItems environ items)
  | .dict items => .dict (resolveFields environ items)

/-- The items of a list. -/
def resolveItems (environ : Dict String String) : List Config → List Config
  | [] => []
  | v :: vs => resolveEnv environ v :: resolveItems environ vs

/-- The items of a dictionary, whose keys stay. -/
def resolveFields (environ : Dict String String) :
    List (ConfigKey × Config) → List (ConfigKey × Config)
  | [] => []
  | (k, v) :: fields => (k, resolveEnv environ v) :: resolveFields environ fields

end

mutual

/-- `_normalize_none_keys`; `src/asb_api/config.py:27–32`. Of two keys that become one, the later
one gives the value. -/
def normalizeNoneKeys : Config → Config
  | .str s => .str s
  | .other text => .other text
  | .list items => .list (normalizeItems items)
  | .dict items => .dict (Dict.ofList (normalizeFields items)).items

/-- The items of a list. -/
def normalizeItems : List Config → List Config
  | [] => []
  | v :: vs => normalizeNoneKeys v :: normalizeItems vs

/-- The items of a dictionary. -/
def normalizeFields : List (ConfigKey × Config) → List (ConfigKey × Config)
  | [] => []
  | (k, v) :: fields => (renameKey k, normalizeNoneKeys v) :: normalizeFields fields

end

/-- `load_config` from the parsed file on; `src/asb_api/config.py:43–44`. -/
def loadConfig (environ : Dict String String) (raw : Config) : Config :=
  resolveEnv environ (normalizeNoneKeys raw)

/-! ### Looking things up -/

/-- `config[k]` or `config[n]`. -/
inductive ConfigStep where
  | key (k : ConfigKey)
  | index (n : Nat)

/-- What stands at a path, with the keys renamed by `f`. -/
def Config.at (f : ConfigKey → ConfigKey) : List ConfigStep → Config → Option Config
  | [], y => some y
  | .key k :: p, .dict items =>
    ((Dict.ofList (items.map fun q ↦ (f q.1, q.2))).get? k).bind (Config.at f p)
  | .index n :: p, .list items => items[n]?.bind (Config.at f p)
  | _ :: _, _ => none

section Lookup

variable (environ : Dict String String)

end Lookup
end AsbCloudApi.Startup
