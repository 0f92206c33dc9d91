import GrafuxMcp.Foundation.PosixPath
import GrafuxMcp.Foundation.Program
import Mathlib.Logic.Function.Basic

/-! # The cloud syncer

`app/core/runtime/cloud_syncer.py`: the pull of tool files from S3 and from
Supabase storage to the data tree. -/

namespace GrafuxMcp.CloudSync

open GrafuxMcp PosixPath

/-! ### Operations -/

/-- An item of a page of `list_objects_v2`. -/
structure S3Object where
  key : String
  etag : String := ""
  deriving DecidableEq, Repr

/-- An item of a storage listing; a folder has no id. -/
structure StorageItem where
  name : String
  hasId : Bool
  deriving DecidableEq, Repr

abbrev EtagCache := String → Option String

inductive Op
  | s3Available
  | awsAccessKey
  | supabaseConfigured
  /-- `self._get_client()`. -/
  | getClient
  /-- The objects of the pages under a prefix, up to the page that could not be
  fetched; `none` when that was the first one. -/
  | listObjects (keyPrefix : String)
  /-- The paginator comes to its end, or fails. -/
  | endOfPages (keyPrefix : String)
  /-- `self._uid_cache`. -/
  | cachedUserId (username project : String)
  | cacheUserId (username project uid : String)
  | download (key : String) (path : List String)
  /-- The readable items of `POST /storage/v1/object/list`. -/
  | listFolder (folder : String)
  /-- `GET /storage/v1/object`; whether its status is 200. -/
  | fetchObject (path : String)
  | pathExists (path : List String)
  | isDir (path : Location)
  | isFile (path : Location)
  /-- `os.mkdir` of a directory that may exist; whether it was created. -/
  | makeDir (path : List String)
  /-- `shutil.rmtree(path, ignore_errors=True)`. -/
  | removeTree (path : List String)
  | rglob (base : Location) (pattern : String)
  | unlink (path : Location)
  | readEtags (path : List String)
  | writeEtags (path : List String) (cache : EtagCache)
  | replace (source target : List String)
  | writeBytes (path : List String) (object : String)
  /-- `reload_plugins()["tools"]`. -/
  | reloadPlugins

@[reducible] def Op.Answer : Op → Type
  | .s3Available | .awsAccessKey | .supabaseConfigured | .fetchObject _ | .pathExists _
  | .isDir _ | .isFile _ | .makeDir _ => Bool
  | .listObjects _ => Option (List S3Object)
  | .cachedUserId _ _ => Option String
  | .listFolder _ => Option (List StorageItem)
  | .rglob _ _ => List Location
  | .readEtags _ => EtagCache
  | .reloadPlugins => Nat
  | _ => Unit

/-- The text of an exception. -/
abbrev Exc := String

def Op.mayRaise : Op → Exc → Bool
  | .s3Available, _ | .awsAccessKey, _ | .supabaseConfigured, _ | .cachedUserId _ _, _
  | .cacheUserId _ _ _, _ => false
  | _, _ => true

/-- The interface of the syncer to its surroundings. -/
@[reducible] def effects : Interface where
  Op := Op
  Answer := Op.Answer
  Exc := Exc
  mayRaise := Op.mayRaise

abbrev Sync (α : Type) := Program effects α

abbrev SyncEvent := Event effects

@[reducible] def perform (op : Op) : Sync op.Answer :=
  Program.call (I := effects) op

/-- `_get_data_root()`. -/
structure DataRoot where
  path : Location
  plain : IsPlain path

/-! ### Small parts -/

/-- An optional string that Python takes for true. -/
def given (text : Option String) : Option String :=
  text.filter (· != "")

def stripQuotes (text : String) : String :=
  let dropped := text.toList.dropWhile (· == '"')
  String.ofList (dropped.reverse.dropWhile (· == '"')).reverse

/-- `path.mkdir(parents=True, exist_ok=True)`. -/
def makeDirs (path : List String) : Sync Unit :=
  path.inits.forM fun front => do
    let _ ← perform (.makeDir front)

def etagFile : String := ".s3_etag_cache.json"

def etagTemporaryFile : String := ".s3_etag_cache.tmp"

variable (root : DataRoot)

def etagPath : Sync (List String) := do
  let _ ← perform (.makeDir root.path)
  return root.path ++ [etagFile]

def loadEtags : Sync EtagCache := do
  if ← perform (.pathExists (← etagPath root)) then
    try perform (.readEtags (← etagPath root)) catch _ => pure fun _ => none
  else
    return fun _ => none

def saveEtags (cache : EtagCache) : Sync Unit := do
  let temporary := (← etagPath root).dropLast ++ [etagTemporaryFile]
  try
    perform (.writeEtags temporary cache)
    perform (.replace temporary (← etagPath root))
  catch _ => pure ()

/-- All objects of the paginator. -/
def listAllObjects (keyPrefix : String) : Sync (List S3Object) := do
  match ← perform (.listObjects keyPrefix) with
  | some objects =>
      perform (.endOfPages keyPrefix)
      return objects
  | none => throw "list_objects_v2"

/-- The user id of the first object whose key names the user and project. -/
def userIdOf (pattern : String) (objects : List S3Object) : Option String :=
  objects.findSome? fun object =>
    if contains object.key pattern then
      match split object.key with
      | "users" :: uid :: _ => some uid
      | _ => none
    else none

def userPattern (username : String) (project : Option String) : String :=
  match given project with
  | some project => s!"{username}/{project}/"
  | none => s!"{username}/"

/-- The search of `lookup_user_id`, which swallows its exceptions. -/
def findUserId (username : String) (project : Option String) : Sync (Option String) :=
  try
    perform .getClient
    match ← perform (.listObjects "users/") with
    | some objects => pure (userIdOf (userPattern username project) objects)
    | none => pure none
  catch _ => pure none

def lookupUserId (username : String) (project : Option String) : Sync String := do
  match ← perform (.cachedUserId username ((given project).getD "")) with
  | some uid => return uid
  | none =>
      let uid := (← findUserId username project).getD "10"
      perform (.cacheUserId username ((given project).getD "") uid)
      return uid

/-! ### Downloads -/

/-- What the loop over the objects keeps. -/
structure Tally where
  cache : EtagCache
  synced : Nat := 0
  skipped : Nat := 0

/-- The object was downloaded before, as it is. -/
def isCurrent (cache : EtagCache) (object : S3Object) (localPath : List String) : Sync Bool :=
  if cache object.key = some (stripQuotes object.etag) then perform (.pathExists localPath)
  else return false

def syncObject (tally : Tally) (object : S3Object) (localKey : String) : Sync Tally := do
  let localPath := child root.path localKey
  if ← isCurrent tally.cache object localPath then
    return { tally with skipped := tally.skipped + 1 }
  else
    makeDirs localPath.dropLast
    try
      perform (.download object.key localPath)
      pure { tally with
        cache := Function.update tally.cache object.key (some (stripQuotes object.etag))
        synced := tally.synced + 1 }
    catch _ => pure tally

/-- The loop over the objects; an object without a local key is passed over. -/
def syncObjects (localKey : S3Object → Option String) : Tally → List S3Object → Sync Tally
  | tally, [] => return tally
  | tally, object :: objects => do
      match localKey object with
      | some key => syncObjects localKey (← syncObject root tally object key) objects
      | none => syncObjects localKey tally objects

/-! ### `sync_all` -/

def isFolderMarker (key : String) : Bool :=
  key.toList.getLast? == some '/'

/-- The filters of `sync_all` on a key. -/
def isSelected (username project : Option String) (key : String) : Bool :=
  !isFolderMarker key
    && (given username).all (contains key ·)
    && (given project).all (contains key ·)
    && contains key "/tools/"

/-- The part of a key below `users/{uid}/`. -/
def belowUser (key : String) : String :=
  match split key with
  | "users" :: _ :: first :: rest => join (first :: rest)
  | _ => key

def selectedKey (username project : Option String) (object : S3Object) : Option String :=
  if isSelected username project object.key then some (belowUser object.key) else none

/-- The directory that `clean_first` removes. -/
def cleanTarget (username project : Option String) : Option (List String) :=
  match given username, given project with
  | some username, some project => some (child (child root.path username) project)
  | some username, none => some (child root.path username)
  | none, _ => none

def clean (username project : Option String) : Sync Unit := do
  match cleanTarget root username project with
  | some target =>
      if ← perform (.pathExists target) then
        perform (.removeTree target)
  | none => pure ()

/-- The name of a location below the data root, as it is compared with the keys. -/
def nameOf (location : Location) : String :=
  join (location.drop root.path.length)

def removeOrphan (s3Files : List String) (location : Location) : Sync Nat := do
  if ← perform (.isFile location) then
    try
      if nameOf root location ∈ s3Files then
        pure 0
      else
        perform (.unlink location)
        pure 1
    catch _ => pure 0
  else
    return 0

/-- Number of files removed by a loop over locations. -/
def removeEach (remove : Location → Sync Nat) : List Location → Sync Nat
  | [] => return 0
  | location :: locations => do
      let first ← remove location
      let rest ← removeEach remove locations
      return first + rest

/-- Delete what the listing does not name below the directories called `tools`. -/
def removeOrphans (s3Files : List String) : Sync Nat := do
  let tools ← perform (.rglob root.path "tools")
  removeEach (fun directory => do
    if ← perform (.isDir directory) then
      removeEach (removeOrphan root s3Files) (← perform (.rglob directory "*"))
    else
      return 0) tools

/-- The number of tools, when there is something to reload. -/
def reloadIf (changed : Bool) : Sync Nat :=
  if changed then perform .reloadPlugins else return 0

structure SyncResult where
  success : Bool
  error : String := ""
  message : String := ""
  filesSynced : Nat := 0
  filesSkipped : Nat := 0
  filesDeleted : Nat := 0
  toolsLoaded : Nat := 0
  deriving DecidableEq, Repr

def failure (error : String) : SyncResult where
  success := false
  error := error

def syncListed (username project : Option String) (objects : List S3Object) : Sync SyncResult := do
  let tally ← syncObjects root (selectedKey username project) ⟨← loadEtags root, 0, 0⟩ objects
  let deleted ← removeOrphans root (objects.filterMap (selectedKey username project))
  saveEtags root tally.cache
  let tools ← reloadIf (tally.synced + deleted > 0)
  return {
    success := true
    filesSynced := tally.synced
    filesSkipped := tally.skipped
    filesDeleted := deleted
    toolsLoaded := tools }

/-- What `sync_all` guards against exceptions. -/
def syncAllBody (username project : Option String) (cleanFirst : Bool) : Sync SyncResult := do
  perform .getClient
  let _ ← perform (.makeDir root.path)
  let objects ← listAllObjects "users/"
  if objects.isEmpty then
    return { success := true, message := "No files in S3" }
  else
    if cleanFirst then
      clean root username project
    syncListed root username project objects

def syncAll (username project : Option String) (cleanFirst : Bool) : Sync SyncResult := do
  if ← perform .s3Available then
    if ← perform .awsAccessKey then
      try syncAllBody root username project cleanFirst
      catch error => pure (failure error)
    else
      return failure "AWS credentials not configured"
  else
    return failure "boto3 not installed"

/-! ### `sync_tool` -/

/-- `key.split("/", 2)[2]`, or the whole key. -/
def belowTwo (key : String) : String :=
  match split key with
  | _ :: _ :: first :: rest => join (first :: rest)
  | _ => key

def fileKey (object : S3Object) : Option String :=
  if isFolderMarker object.key then none else some (belowTwo object.key)

def toolPrefix (uid username project toolName : String) (category : Option String) : String :=
  match given category with
  | some category => s!"users/{uid}/{username}/{project}/tools/{category}/{toolName}/"
  | none => s!"users/{uid}/{username}/{project}/tools/{toolName}/"

def toolUserId (username project : String) (userId : Option String) : Sync String :=
  match given userId with
  | some uid => return uid
  | none => lookupUserId username (some project)

def syncToolBody (username project toolName : String) (category userId : Option String) :
    Sync SyncResult := do
  perform .getClient
  let uid ← toolUserId username project userId
  let keyPrefix := toolPrefix uid username project toolName category
  let cache ← loadEtags root
  match ← perform (.listObjects keyPrefix) with
  | some objects =>
      let tally ← syncObjects root fileKey ⟨cache, 0, 0⟩ objects
      perform (.endOfPages keyPrefix)
      saveEtags root tally.cache
      let tools ← reloadIf (tally.synced > 0)
      return {
        success := true
        filesSynced := tally.synced
        filesSkipped := tally.skipped
        toolsLoaded := tools }
  | none => throw "list_objects_v2"

def syncTool (username project toolName : String) (category userId : Option String) :
    Sync SyncResult := do
  if ← perform .s3Available then
    if ← perform .awsAccessKey then
      try syncToolBody root username project toolName category userId
      catch error => pure (failure error)
    else
      return failure "AWS credentials not configured"
  else
    return failure "boto3 not installed"

/-! ### `sync_tool_from_supabase` -/

def isHidden (item : StorageItem) : Bool :=
  item.name == "" || item.name.toList.head? == some '.'

def listFolder (folder : String) : Sync (Option (List StorageItem)) :=
  try perform (.listFolder folder) catch _ => pure none

/-- The folders of the tools directory are taken for categories. -/
def categoryCandidates (username project toolName : String) (items : List StorageItem) :
    List String :=
  let categories := items.filter fun item => !isHidden item && !item.hasId
  let candidates := s!"{username}/{project}/tools/{toolName}" ::
    categories.map fun item => s!"{username}/{project}/tools/{item.name}/{toolName}"
  candidates.eraseDups

def prefixesToTry (username project toolName : String) (category : Option String) :
    Sync (List String) := do
  match given category with
  | some category => return [s!"{username}/{project}/tools/{category}/{toolName}"]
  | none =>
      let items ← listFolder s!"{username}/{project}/tools/"
      return categoryCandidates username project toolName (items.getD [])

/-- The loop over the items of a folder; a folder that cannot be listed ends it. -/
def listItems (listSubfolder : String → Sync (List String)) (folder : String) :
    List StorageItem → List String → Sync (List String)
  | [], paths => return paths
  | item :: items, paths =>
      let path := s!"{folder}/{item.name}"
      if isHidden item then
        listItems listSubfolder folder items paths
      else if item.hasId then
        listItems listSubfolder folder items (paths ++ [path])
      else do
        match ← try some <$> listSubfolder path catch _ => pure none with
        | some found => listItems listSubfolder folder items (paths ++ found)
        | none => return paths

/-- The first argument is how deep the interpreter lets the recursion go. -/
def listRecursive : Nat → String → Sync (List String)
  | 0, _ => throw "maximum recursion depth exceeded"
  | depth + 1, folder => do
      let items ← listFolder folder
      listItems (listRecursive depth) folder (items.getD []) []

/-- The files of the first prefix that has any. -/
def firstListed (depth : Nat) : List String → Sync (List String)
  | [] => return []
  | folder :: folders => do
      let found ← listRecursive depth folder
      if found.isEmpty then firstListed depth folders else return found

def isToolFile (path : String) : Bool :=
  let name := ((split path).getLast?.getD "").toList
  ".py".toList.isSuffixOf name || ".txt".toList.isSuffixOf name || ".json".toList.isSuffixOf name

def fetch (path : String) : Sync Bool :=
  try perform (.fetchObject path) catch _ => pure false

def pullFile (path : String) : Sync Nat := do
  if isToolFile path then
    if ← fetch path then
      let localPath := child root.path path
      makeDirs localPath.dropLast
      perform (.writeBytes localPath path)
      return 1
    else
      return 0
  else
    return 0

def pullFiles : List String → Sync Nat
  | [] => return 0
  | path :: paths => do
      let first ← pullFile root path
      let rest ← pullFiles paths
      return first + rest

def syncToolFromSupabaseBody (depth : Nat) (username project toolName : String)
    (category : Option String) : Sync SyncResult := do
  let prefixes ← prefixesToTry username project toolName category
  let paths ← firstListed depth prefixes
  let synced ← pullFiles root paths
  let tools ← reloadIf (synced > 0)
  return { success := true, filesSynced := synced, toolsLoaded := tools }

def syncToolFromSupabase (depth : Nat) (username project toolName : String)
    (category : Option String) : Sync SyncResult := do
  if ← perform .supabaseConfigured then
    try syncToolFromSupabaseBody root depth username project toolName category
    catch error => pure (failure error)
  else
    return failure
      "Supabase credentials not configured on MCP server (set SUPABASE_URL and SUPABASE_SERVICE_ROLE_KEY)"

/-! ### Requests -/

inductive Request
  | all (username project : Option String) (cleanFirst : Bool)
  | tool (username project toolName : String) (category userId : Option String)
  | toolFromSupabase (depth : Nat) (username project toolName : String)
      (category : Option String)
  deriving DecidableEq, Repr

def Request.program : Request → Sync SyncResult
  | .all username project cleanFirst => syncAll root username project cleanFirst
  | .tool username project toolName category userId =>
      syncTool root username project toolName category userId
  | .toolFromSupabase depth username project toolName category =>
      syncToolFromSupabase root depth username project toolName category

end GrafuxMcp.CloudSync
