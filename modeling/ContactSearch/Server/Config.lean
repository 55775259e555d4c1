import ContactSearch.Contact.Seed
import ContactSearch.Server.Address
import ContactSearch.Server.Setting
import ContactSearch.Text.Blank

namespace ContactSearch
namespace Server

/-!
# Configuration

A configuration has four parts.  Its default is a value; any other one is read
off a tree of settings, in which every value has to be present.  The default
is written as a tree too, value by value, so an empty list leaves no trace in
it and has to come from a later source.

Reading does not judge.  `Config.validate` does, and names the first value
that cannot be used.
-/

/-- Where the server listens, and for whom. -/
structure Listener where
  host : String
  portNumber : UInt16
  origins : List String
  bodyLimit : UInt64

/-- Where log lines go, and how they look. -/
structure Logging where
  level : String
  json : Bool
  toFile : Bool
  directory : String
  fileStem : String
  rotation : String
  service : String
  environment : String

/-- A user who may log in. -/
structure User where
  name : String
  password : String
  deriving DecidableEq

/-- Who may search. -/
structure Access where
  enabled : Bool
  realm : String
  publicPaths : List String
  users : List User

/-- Where the contacts are kept. -/
structure Storage where
  database : String
  collection : String
  seeded : Bool

/-- A configuration of the server. -/
structure Config where
  listener : Listener
  logging : Logging
  access : Access
  storage : Storage

namespace Config

/-- The name under which the server presents itself. -/
def serviceName : String := "contacts-server"

/-- The configuration of a server that is told nothing. -/
def default : Config where
  listener := ⟨"127.0.0.1", 8080, [], 65536⟩
  logging :=
    { level := "info"
      json := false
      toFile := false
      directory := "logs"
      fileStem := serviceName
      rotation := "daily"
      service := serviceName
      environment := "development" }
  access :=
    { enabled := true
      realm := "contacts"
      publicPaths := ["/", "/index.html", "/favicon.ico", "/health", "/metrics"]
      users := [⟨"user1", "pass1"⟩, ⟨"user2", "pass2"⟩, ⟨"user3", "pass3"⟩] }
  storage := ⟨Contact.seedDatabase, Contact.seedCollection, true⟩

instance : Inhabited Config :=
  ⟨default⟩

/-! ## Settings of a configuration -/

/-- A list under a name, or nothing if it is empty. -/
def listEntry (key : String) (items : List Setting) : List (String × Setting) :=
  if items.isEmpty then [] else [(key, .list items)]

/-- The settings of a user. -/
def userSettings (user : User) : Setting :=
  .table [("name", .text user.name), ("password", .text user.password)]

/-- The tree of settings that writes a configuration, value by value. -/
def settings (config : Config) : Setting :=
  .table
    [("server", .table
        ([("host", .text config.listener.host),
            ("port", .integer config.listener.portNumber.toNat)] ++
          listEntry "cors_origins" (config.listener.origins.map .text) ++
          [("max_request_body_size", .integer config.listener.bodyLimit.toNat)])),
      ("logging", .table
        [("level", .text config.logging.level),
          ("json", .flag config.logging.json),
          ("file_enabled", .flag config.logging.toFile),
          ("file_directory", .text config.logging.directory),
          ("file_prefix", .text config.logging.fileStem),
          ("file_rotation", .text config.logging.rotation),
          ("service_name", .text config.logging.service),
          ("deployment_environment", .text config.logging.environment)]),
      ("auth", .table
        ([("enabled", .flag config.access.enabled),
            ("realm", .text config.access.realm)] ++
          listEntry "public_paths" (config.access.publicPaths.map .text) ++
          listEntry "users" (config.access.users.map userSettings))),
      ("store", .table
        [("database", .text config.storage.database),
          ("collection", .text config.storage.collection),
          ("seed_on_start", .flag config.storage.seeded)])]

/-- The greatest port number. -/
def greatestPort : Nat := 65535

/-- Read the settings of a listener. -/
def listenerOf? (tree : Setting) : Option Listener := do
  let host ← (tree.part 0 "host").asText?
  let portNumber ← (tree.part 1 "port").asBounded? greatestPort
  let origins ← (tree.part 2 "cors_origins").asList? Setting.asText?
  let bodyLimit ← (tree.part 3 "max_request_body_size").asNatural?
  return ⟨host, UInt16.ofNat portNumber, origins, UInt64.ofNat bodyLimit⟩

/-- Read the settings of the log. -/
def loggingOf? (tree : Setting) : Option Logging := do
  let level ← (tree.part 0 "level").asText?
  let json ← (tree.part 1 "json").asFlag?
  let toFile ← (tree.part 2 "file_enabled").asFlag?
  let directory ← (tree.part 3 "file_directory").asText?
  let fileStem ← (tree.part 4 "file_prefix").asText?
  let rotation ← (tree.part 5 "file_rotation").asText?
  let service ← (tree.part 6 "service_name").asText?
  let environment ← (tree.part 7 "deployment_environment").asText?
  return { level, json, toFile, directory, fileStem, rotation, service, environment }

/-- Read the settings of a user. -/
def userOf? (tree : Setting) : Option User := do
  let name ← (tree.part 0 "name").asText?
  let password ← (tree.part 1 "password").asText?
  return ⟨name, password⟩

/-- Read the settings of access. -/
def accessOf? (tree : Setting) : Option Access := do
  let enabled ← (tree.part 0 "enabled").asFlag?
  let realm ← (tree.part 1 "realm").asText?
  let publicPaths ← (tree.part 2 "public_paths").asList? Setting.asText?
  let users ← (tree.part 3 "users").asList? userOf?
  return ⟨enabled, realm, publicPaths, users⟩

/-- Read the settings of the storage. -/
def storageOf? (tree : Setting) : Option Storage := do
  let database ← (tree.part 0 "database").asText?
  let collection ← (tree.part 1 "collection").asText?
  let seeded ← (tree.part 2 "seed_on_start").asFlag?
  return ⟨database, collection, seeded⟩

/-- Read a configuration off a tree of settings; names that mean nothing are passed over. -/
def ofSettings? (tree : Setting) : Option Config := do
  let listener ← listenerOf? (tree.field "server")
  let logging ← loggingOf? (tree.field "logging")
  let access ← accessOf? (tree.field "auth")
  let storage ← storageOf? (tree.field "store")
  return ⟨listener, logging, access, storage⟩

/-! ## Validity -/

/-- Why a configuration cannot be used. -/
inductive Fault where
  | zeroPort
  | zeroBodyLimit
  | emptyRealm
  | noUsers
  | userName (name : String)
  | repeatedUser (name : String)
  | emptyDatabase
  | emptyCollection
  | rotation (name : String)
  deriving DecidableEq

/-- The wording of an unusable configuration. -/
def Fault.message : Fault -> String
  | .zeroPort => "server.port must be non-zero"
  | .zeroBodyLimit => "server.max_request_body_size must be non-zero"
  | .emptyRealm => "auth.realm must not be empty"
  | .noUsers => "auth.users must not be empty when auth is enabled"
  | .userName name => "auth.users: invalid user name '" ++ name ++ "'"
  | .repeatedUser name => "auth.users: duplicate user '" ++ name ++ "'"
  | .emptyDatabase => "store.database must not be empty"
  | .emptyCollection => "store.collection must not be empty"
  | .rotation name => "logging.file_rotation: unknown rotation '" ++ name ++ "'"

/-- How often a log file can be replaced. -/
def rotations : List String :=
  ["daily", "hourly", "minutely", "never"]

/-- Whether a text consists of white space only. -/
def isBlankText (text : String) : Bool :=
  text.toList.all Text.isBlank

/-- Whether credentials can name a user: the name ends at the first colon. -/
def isUserName (name : String) : Bool :=
  !name.isEmpty && !name.toList.contains ':'

/-- Check users in turn; the names of the earlier ones are taken. -/
def validateUsers (taken : List String) : List User -> Except Fault Unit
  | [] => .ok ()
  | user :: rest =>
      if !isUserName user.name then .error (.userName user.name)
      else if user.name ∈ taken then .error (.repeatedUser user.name)
      else validateUsers (user.name :: taken) rest

/-- Whether a configuration can be used; the first fault is the answer. -/
def validate (config : Config) : Except Fault Unit := do
  if config.listener.portNumber = 0 then .error .zeroPort
  if config.listener.bodyLimit = 0 then .error .zeroBodyLimit
  if isBlankText config.access.realm then .error .emptyRealm
  if config.access.enabled ∧ config.access.users = [] then .error .noUsers
  validateUsers [] config.access.users
  if isBlankText config.storage.database then .error .emptyDatabase
  if isBlankText config.storage.collection then .error .emptyCollection
  if config.logging.rotation ∉ rotations then .error (.rotation config.logging.rotation)

/-- The wording of a host that is no address. -/
def addressMessage (host : String) : String :=
  "Invalid server.host '" ++ host ++ "': invalid IP address syntax"

/-- Where the server listens, as text, or why it cannot. -/
def socketText (config : Config) : Except String String :=
  match Address.ofText? config.listener.host with
  | some address => .ok (address.socketText config.listener.portNumber.toNat)
  | none => .error (addressMessage config.listener.host)

end Config
end Server
end ContactSearch
