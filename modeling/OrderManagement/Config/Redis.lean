import OrderManagement.Library.Decimal
import OrderManagement.Library.Layers

/-
  The Redis section of the configuration, the environment
  that is applied on top of it, and the client options that
  are built from the result. The two steps pass a field on
  as one value, in which zero stands for a field that is not
  set.

  Main declarations:
    * `RedisConfig` and `RedisEnv`
    * `applyRedisEnvOverrides`
    * `buildOptions`
    * `RedisPrecedence` and `SourcesTold`
    * `redis_precedence_iff`
-/

namespace OrderManagement

------------------------------------------------------------
-- Sources
------------------------------------------------------------

structure RedisConfig where
  url : String
  addr : String
  username : String
  password : String
  db : Int
  tls : Bool
deriving DecidableEq

/- The zero value of the struct. -/
def RedisConfig.zero : RedisConfig where
  url := ""
  addr := ""
  username := ""
  password := ""
  db := 0
  tls := false

/- The variables REDIS_URL, REDIS_ADDR and so on, where they
   are in the environment. -/
structure RedisEnv where
  url : Option String
  addr : Option String
  username : Option String
  password : Option String
  db : Option String
  tls : Option String
deriving DecidableEq

/- `os.Getenv`: a missing variable is empty, and the code
   takes an empty one for missing. -/
def getenv
    (envVar : Option String) : String :=
  envVar.getD ""

/- The value of a variable that is set. -/
def setting
    (envVar : Option String) : Option String :=
  if getenv envVar = "" then none
  else some (getenv envVar)

def atoi
    (text : String) : Option Int :=
  Decimal.parseInt 64 text.toList

def parseBool
    (text : String) : Option Bool :=
  if text ∈ ["1", "t", "T", "TRUE", "true", "True"] then
    some true
  else if
    text ∈ ["0", "f", "F", "FALSE", "false", "False"]
  then
    some false
  else
    none

------------------------------------------------------------
-- Environment Overrides
------------------------------------------------------------

/- The step that a connection URL in the environment makes:
   every field of the file is discarded. -/
def applyRedisURL
    (env : RedisEnv)
    (cfg : RedisConfig) : RedisConfig :=
  if getenv env.url ≠ "" then
    { RedisConfig.zero with url := getenv env.url }
  else
    cfg

/- The steps of the three variables that hold text. -/
def applyRedisTexts
    (env : RedisEnv)
    (cfg : RedisConfig) : RedisConfig :=
  let cfg :=
    if getenv env.addr ≠ "" then
      { cfg with addr := getenv env.addr }
    else
      cfg
  let cfg :=
    if getenv env.username ≠ "" then
      { cfg with username := getenv env.username }
    else
      cfg
  if getenv env.password ≠ "" then
    { cfg with password := getenv env.password }
  else
    cfg

def applyRedisDB
    (env : RedisEnv)
    (cfg : RedisConfig) : Except String RedisConfig :=
  if getenv env.db ≠ "" then
    match atoi (getenv env.db) with
    | none =>
        .error
          ("invalid REDIS_DB: " ++
            Decimal.intError "Atoi" (getenv env.db))
    | some db => .ok { cfg with db := db }
  else
    .ok cfg

def applyRedisTLS
    (env : RedisEnv)
    (cfg : RedisConfig) : Except String RedisConfig :=
  if getenv env.tls ≠ "" then
    match parseBool (getenv env.tls) with
    | none =>
        -- a malformed flag does not fall back to plain text
        .error
          ("invalid REDIS_TLS: " ++
            Decimal.numError "ParseBool" (getenv env.tls)
              "invalid syntax")
    | some tls => .ok { cfg with tls := tls }
  else
    .ok cfg

def applyRedisEnvOverrides
    (env : RedisEnv)
    (cfg : RedisConfig) : Except String RedisConfig := do
  let cfg := applyRedisTexts env (applyRedisURL env cfg)
  let cfg ← applyRedisDB env cfg
  applyRedisTLS env cfg

------------------------------------------------------------
-- Client Options
------------------------------------------------------------

structure TLSConfig where
  serverName : String
  minVersion : Nat
deriving DecidableEq

/- The options of the client, as far as they are built. -/
structure RedisOptions where
  addr : String
  username : String
  password : String
  db : Int
  tlsConfig : Option TLSConfig
deriving DecidableEq

inductive RedisErr
| redisConfigMissing
| redisAddrNotFound
| redisURLInvalid (e : String)
deriving DecidableEq

/- tls.VersionTLS12 -/
def versionTLS12 : Nat := 0x0303

/- The host that `net.SplitHostPort` returns, if it has no
   error: what stands before the last colon, in brackets if
   it has colons of its own. -/
def splitHost
    (hostport : List Char) : Option (List Char) :=
  match hostport.reverse.idxOf? ':' with
  | none => none
  | some fromEnd =>
      let i := hostport.length - 1 - fromEnd
      if hostport.head? = some '[' then
        match hostport.idxOf? ']' with
        | none => none
        | some close =>
            if close + 1 = i ∧
                '[' ∉ hostport.drop 1 ∧
                ']' ∉ hostport.drop (close + 1) then
              some ((hostport.take close).drop 1)
            else
              none
      else if
        ':' ∈ hostport.take i ∨ '[' ∈ hostport ∨
          ']' ∈ hostport
      then
        none
      else
        some (hostport.take i)

def tlsConfigFor
    (addr : String) : TLSConfig where
  serverName :=
    ((splitHost addr.toList).map String.ofList).getD addr
  minVersion := versionTLS12

/- The fields of the section that are not zero, over the
   options of the URL. -/
def overlayOptions
    (cfg : RedisConfig)
    (opts : RedisOptions) : RedisOptions :=
  let opts :=
    if cfg.addr ≠ "" then { opts with addr := cfg.addr }
    else opts
  let opts :=
    if cfg.username ≠ "" then
      { opts with username := cfg.username }
    else
      opts
  let opts :=
    if cfg.password ≠ "" then
      { opts with password := cfg.password }
    else
      opts
  let opts :=
    if cfg.db ≠ 0 then { opts with db := cfg.db } else opts
  if cfg.tls then
    { opts with tlsConfig := some (tlsConfigFor opts.addr) }
  else
    opts

/- `redis.Options` with nothing but an address. -/
def RedisOptions.ofAddr
    (addr : String) : RedisOptions where
  addr := addr
  username := ""
  password := ""
  db := 0
  tlsConfig := none

/- `redis.ParseURL` is a parameter; nil is no section. -/
def buildOptions
    (parseURL : String → Except String RedisOptions) :
    Option RedisConfig → Except RedisErr RedisOptions
| none => .error .redisConfigMissing
| some cfg =>
    if cfg.url ≠ "" then
      match parseURL cfg.url with
      | .error e => .error (.redisURLInvalid e)
      | .ok parsed => .ok (overlayOptions cfg parsed)
    else if cfg.addr = "" then
      .error .redisAddrNotFound
    else
      .ok (overlayOptions cfg (.ofAddr cfg.addr))

------------------------------------------------------------
-- Precedence
------------------------------------------------------------

def dbSetting
    (env : RedisEnv) : Option Int :=
  (setting env.db).bind atoi

def tlsSetting
    (env : RedisEnv) : Option Bool :=
  (setting env.tls).bind parseBool

/- The connection URL that is configured: that of the
   environment, or else that of the file. -/
def connectionURL
    (env : RedisEnv)
    (yaml : RedisConfig) : String :=
  (setting env.url).getD yaml.url

/- What the connection URL says, if there is one. -/
def urlOptions
    (parseURL : String → Except String RedisOptions)
    (url : String) : Option RedisOptions :=
  if url = "" then none else (parseURL url).toOption

/-
  The contract of the section. A field is that of its own
  variable, or else that of the connection URL, or else that
  of the file.
-/
structure RedisPrecedence
    (parseURL : String → Except String RedisOptions)
    (yaml : RedisConfig)
    (env : RedisEnv)
    (opts : RedisOptions) : Prop where
  addr :
    opts.addr =
      Layers.prefer (setting env.addr)
        ((urlOptions parseURL (connectionURL env yaml)).map
          (·.addr))
        yaml.addr
  username :
    opts.username =
      Layers.prefer (setting env.username)
        ((urlOptions parseURL (connectionURL env yaml)).map
          (·.username))
        yaml.username
  password :
    opts.password =
      Layers.prefer (setting env.password)
        ((urlOptions parseURL (connectionURL env yaml)).map
          (·.password))
        yaml.password
  db :
    opts.db =
      Layers.prefer (dbSetting env)
        ((urlOptions parseURL (connectionURL env yaml)).map
          (·.db))
        yaml.db
  tls :
    opts.tlsConfig.isSome =
      Layers.prefer (tlsSetting env)
        ((urlOptions parseURL (connectionURL env yaml)).map
          (·.tlsConfig.isSome))
        yaml.tls

/-
  The sources are told apart by the values that are passed
  on. With a connection URL, no variable sets the zero value
  where the URL has another one; and a URL of the file does
  not differ from a field of the file that is not zero and
  that no variable sets.
-/
structure SourcesTold
    (parseURL : String → Except String RedisOptions)
    (yaml : RedisConfig)
    (env : RedisEnv) : Prop where
  addr :
    Layers.Told "" (setting env.addr)
      ((urlOptions parseURL (connectionURL env yaml)).map
        (·.addr))
      (getenv env.url ≠ "") yaml.addr
  username :
    Layers.Told "" (setting env.username)
      ((urlOptions parseURL (connectionURL env yaml)).map
        (·.username))
      (getenv env.url ≠ "") yaml.username
  password :
    Layers.Told "" (setting env.password)
      ((urlOptions parseURL (connectionURL env yaml)).map
        (·.password))
      (getenv env.url ≠ "") yaml.password
  db :
    Layers.Told 0 (dbSetting env)
      ((urlOptions parseURL (connectionURL env yaml)).map
        (·.db))
      (getenv env.url ≠ "") yaml.db
  tls :
    Layers.Told false (tlsSetting env)
      ((urlOptions parseURL (connectionURL env yaml)).map
        (·.tlsConfig.isSome))
      (getenv env.url ≠ "") yaml.tls

------------------------------------------------------------
-- What The Two Steps Pass On
------------------------------------------------------------

theorem setting_of_set
    {envVar : Option String}
    (hSet : getenv envVar ≠ "") :
    setting envVar = some (getenv envVar) := by
  simp [setting, hSet]

theorem setting_of_unset
    {envVar : Option String}
    (hUnset : ¬ getenv envVar ≠ "") :
    setting envVar = none := by
  simpa [setting] using hUnset

theorem applyRedisURL_eq
    (env : RedisEnv)
    (cfg : RedisConfig) :
    applyRedisURL env cfg =
      { url := connectionURL env cfg
        addr := if getenv env.url ≠ "" then "" else cfg.addr
        username :=
          if getenv env.url ≠ "" then "" else cfg.username
        password :=
          if getenv env.url ≠ "" then "" else cfg.password
        db := if getenv env.url ≠ "" then 0 else cfg.db
        tls :=
          if getenv env.url ≠ "" then false
          else cfg.tls } := by
  by_cases hSet : getenv env.url ≠ ""
  · simp [applyRedisURL, connectionURL, setting_of_set hSet,
      hSet, RedisConfig.zero]
  · simp [applyRedisURL, connectionURL,
      setting_of_unset hSet, hSet]

theorem setting_getD
    (envVar : Option String)
    (value : String) :
    (setting envVar).getD value =
      if getenv envVar ≠ "" then getenv envVar else value := by
  by_cases hSet : getenv envVar ≠ ""
  · rw [setting_of_set hSet, if_pos hSet, Option.getD_some]
  · rw [setting_of_unset hSet, if_neg hSet, Option.getD_none]

theorem applyRedisTexts_eq
    (env : RedisEnv)
    (cfg : RedisConfig) :
    applyRedisTexts env cfg =
      { cfg with
        addr := (setting env.addr).getD cfg.addr
        username := (setting env.username).getD cfg.username
        password :=
          (setting env.password).getD cfg.password } := by
  have hAddr :
      ∀ c : RedisConfig,
        (if getenv env.addr ≠ "" then
          { c with addr := getenv env.addr }
        else c) =
          { c with addr := (setting env.addr).getD c.addr } := by
    intro c
    rw [setting_getD]
    split <;> rfl
  have hUsername :
      ∀ c : RedisConfig,
        (if getenv env.username ≠ "" then
          { c with username := getenv env.username }
        else c) =
          { c with
            username :=
              (setting env.username).getD c.username } := by
    intro c
    rw [setting_getD]
    split <;> rfl
  have hPassword :
      ∀ c : RedisConfig,
        (if getenv env.password ≠ "" then
          { c with password := getenv env.password }
        else c) =
          { c with
            password :=
              (setting env.password).getD c.password } := by
    intro c
    rw [setting_getD]
    split <;> rfl
  unfold applyRedisTexts
  dsimp only
  rw [hPassword, hUsername, hAddr]

theorem applyRedisDB_ok
    {env : RedisEnv}
    {cfg cfg' : RedisConfig}
    (hApply : applyRedisDB env cfg = .ok cfg') :
    cfg' = { cfg with db := (dbSetting env).getD cfg.db } := by
  unfold applyRedisDB at hApply
  by_cases hSet : getenv env.db ≠ ""
  · rw [if_pos hSet] at hApply
    cases hRead : atoi (getenv env.db) with
    | none => simp [hRead] at hApply
    | some db =>
        simp only [hRead, Except.ok.injEq] at hApply
        simp [dbSetting, setting_of_set hSet, hRead, ← hApply]
  · rw [if_neg hSet] at hApply
    cases hApply
    simp [dbSetting, setting_of_unset hSet]

theorem applyRedisTLS_ok
    {env : RedisEnv}
    {cfg cfg' : RedisConfig}
    (hApply : applyRedisTLS env cfg = .ok cfg') :
    cfg' =
      { cfg with tls := (tlsSetting env).getD cfg.tls } := by
  unfold applyRedisTLS at hApply
  by_cases hSet : getenv env.tls ≠ ""
  · rw [if_pos hSet] at hApply
    cases hRead : parseBool (getenv env.tls) with
    | none => simp [hRead] at hApply
    | some tls =>
        simp only [hRead, Except.ok.injEq] at hApply
        simp [tlsSetting, setting_of_set hSet, hRead,
          ← hApply]
  · rw [if_neg hSet] at hApply
    cases hApply
    simp [tlsSetting, setting_of_unset hSet]

/- The section that the overrides leave: the variables over
   the file, of which a URL in the environment keeps
   nothing. -/
theorem applyRedisEnvOverrides_ok
    {env : RedisEnv}
    {yaml cfg : RedisConfig}
    (hLoad : applyRedisEnvOverrides env yaml = .ok cfg) :
    cfg =
      { url := connectionURL env yaml
        addr :=
          (setting env.addr).getD
            (if getenv env.url ≠ "" then "" else yaml.addr)
        username :=
          (setting env.username).getD
            (if getenv env.url ≠ "" then ""
             else yaml.username)
        password :=
          (setting env.password).getD
            (if getenv env.url ≠ "" then ""
             else yaml.password)
        db :=
          (dbSetting env).getD
            (if getenv env.url ≠ "" then 0 else yaml.db)
        tls :=
          (tlsSetting env).getD
            (if getenv env.url ≠ "" then false
             else yaml.tls) } := by
  unfold applyRedisEnvOverrides at hLoad
  cases hDB :
      applyRedisDB env
        (applyRedisTexts env (applyRedisURL env yaml)) with
  | error e => simp [hDB, bind, Except.bind] at hLoad
  | ok mid =>
      have hTLS : applyRedisTLS env mid = .ok cfg := by
        simpa [hDB, bind, Except.bind] using hLoad
      rw [applyRedisTLS_ok hTLS, applyRedisDB_ok hDB,
        applyRedisTexts_eq, applyRedisURL_eq]

/- A step that sets a field unless the section leaves it
   out sets it to one laid over the other. -/
theorem overlayOptions_fields
    (cfg : RedisConfig)
    (opts : RedisOptions) :
    (overlayOptions cfg opts).addr =
        Layers.overlay "" cfg.addr opts.addr ∧
      (overlayOptions cfg opts).username =
        Layers.overlay "" cfg.username opts.username ∧
      (overlayOptions cfg opts).password =
        Layers.overlay "" cfg.password opts.password ∧
      (overlayOptions cfg opts).db =
        Layers.overlay 0 cfg.db opts.db ∧
      (overlayOptions cfg opts).tlsConfig.isSome =
        Layers.overlay false cfg.tls
          opts.tlsConfig.isSome := by
  have hAddr :
      ∀ o : RedisOptions,
        (if cfg.addr ≠ "" then { o with addr := cfg.addr }
        else o) =
          { o with
            addr := Layers.overlay "" cfg.addr o.addr } := by
    intro o
    rw [Layers.overlay_eq_ite_ne]
    split <;> rfl
  have hUsername :
      ∀ o : RedisOptions,
        (if cfg.username ≠ "" then
          { o with username := cfg.username }
        else o) =
          { o with
            username :=
              Layers.overlay "" cfg.username o.username } := by
    intro o
    rw [Layers.overlay_eq_ite_ne]
    split <;> rfl
  have hPassword :
      ∀ o : RedisOptions,
        (if cfg.password ≠ "" then
          { o with password := cfg.password }
        else o) =
          { o with
            password :=
              Layers.overlay "" cfg.password o.password } := by
    intro o
    rw [Layers.overlay_eq_ite_ne]
    split <;> rfl
  have hDB :
      ∀ o : RedisOptions,
        (if cfg.db ≠ 0 then { o with db := cfg.db } else o) =
          { o with
            db := Layers.overlay 0 cfg.db o.db } := by
    intro o
    rw [Layers.overlay_eq_ite_ne]
    split <;> rfl
  unfold overlayOptions
  dsimp only
  rw [hDB, hPassword, hUsername, hAddr]
  -- what is left is the step of the TLS configuration
  by_cases hTLS : cfg.tls = true
  · rw [if_pos hTLS, hTLS]
    exact ⟨rfl, rfl, rfl, rfl, rfl⟩
  · rw [if_neg hTLS, Bool.eq_false_iff.mpr hTLS]
    exact ⟨rfl, rfl, rfl, rfl, rfl⟩

theorem buildOptions_ok
    {parseURL : String → Except String RedisOptions}
    {cfg : RedisConfig}
    {opts : RedisOptions}
    (hBuild : buildOptions parseURL (some cfg) = .ok opts) :
    (∃ parsed,
        urlOptions parseURL cfg.url = some parsed ∧
          opts = overlayOptions cfg parsed) ∨
      (cfg.url = "" ∧
        urlOptions parseURL cfg.url = none ∧
        opts = overlayOptions cfg (.ofAddr cfg.addr)) := by
  rw [buildOptions] at hBuild
  by_cases hURL : cfg.url ≠ ""
  · rw [if_pos hURL] at hBuild
    cases hParse : parseURL cfg.url with
    | error e => simp [hParse] at hBuild
    | ok parsed =>
        simp only [hParse, Except.ok.injEq] at hBuild
        refine Or.inl ⟨parsed, ?_, hBuild.symm⟩
        simp [urlOptions, hURL, hParse, Except.toOption]
  · rw [if_neg hURL] at hBuild
    have hEmpty : cfg.url = "" := not_not.mp hURL
    by_cases hAddr : cfg.addr = ""
    · simp [hAddr] at hBuild
    · rw [if_neg hAddr] at hBuild
      cases hBuild
      exact
        Or.inr ⟨hEmpty, by simp [urlOptions, hEmpty], rfl⟩

/- Every field of the options is that of the section over
   that of the URL, whatever the section holds it from. -/
theorem buildOptions_fields
    {parseURL : String → Except String RedisOptions}
    {cfg : RedisConfig}
    {opts : RedisOptions}
    (hBuild : buildOptions parseURL (some cfg) = .ok opts) :
    opts.addr =
        Layers.overlay "" cfg.addr
          (((urlOptions parseURL cfg.url).map (·.addr)).getD
            "") ∧
      opts.username =
        Layers.overlay "" cfg.username
          (((urlOptions parseURL cfg.url).map
            (·.username)).getD "") ∧
      opts.password =
        Layers.overlay "" cfg.password
          (((urlOptions parseURL cfg.url).map
            (·.password)).getD "") ∧
      opts.db =
        Layers.overlay 0 cfg.db
          (((urlOptions parseURL cfg.url).map (·.db)).getD
            0) ∧
      opts.tlsConfig.isSome =
        Layers.overlay false cfg.tls
          (((urlOptions parseURL cfg.url).map
            (·.tlsConfig.isSome)).getD false) := by
  rcases buildOptions_ok hBuild with
    ⟨parsed, hParsed, rfl⟩ | ⟨_, hNone, rfl⟩
  · rw [hParsed]
    exact overlayOptions_fields cfg parsed
  · rw [hNone]
    rcases overlayOptions_fields cfg (.ofAddr cfg.addr) with
      ⟨hAddr, hRest⟩
    refine ⟨?_, hRest⟩
    -- the address is laid over itself
    rw [hAddr]
    unfold Layers.overlay RedisOptions.ofAddr
    by_cases hEmpty : cfg.addr = ""
    · simp [hEmpty]
    · simp [hEmpty]

------------------------------------------------------------
-- Main Result
------------------------------------------------------------

/-
  The options keep the precedence of their sources exactly
  when the values that are passed on tell the sources apart.
-/
theorem redis_precedence_iff
    {parseURL : String → Except String RedisOptions}
    {yaml cfg : RedisConfig}
    {env : RedisEnv}
    {opts : RedisOptions}
    (hLoad : applyRedisEnvOverrides env yaml = .ok cfg)
    (hBuild : buildOptions parseURL (some cfg) = .ok opts) :
    RedisPrecedence parseURL yaml env opts ↔
      SourcesTold parseURL yaml env := by
  have hFields := buildOptions_fields hBuild
  have hBuilt := buildOptions_ok hBuild
  rw [applyRedisEnvOverrides_ok hLoad] at hFields hBuilt
  rcases hFields with
    ⟨hAddr, hUsername, hPassword, hDB, hTLS⟩
  -- a URL of the environment is one that was parsed
  have hParsed :
      getenv env.url ≠ "" →
        (urlOptions parseURL
          (connectionURL env yaml)).isSome = true := by
    intro hSet
    rcases hBuilt with ⟨parsed, hSome, _⟩ | ⟨hEmpty, _⟩
    · exact Option.isSome_of_eq_some hSome
    · simp only [connectionURL, setting_of_set hSet,
        Option.getD_some] at hEmpty
      exact absurd hEmpty hSet
  have hField :
      ∀ {α : Type} [DecidableEq α] {unset bottom : α}
        {top : Option α} (f : RedisOptions → α),
        Layers.overlay unset
              (top.getD
                (if getenv env.url ≠ "" then unset
                 else bottom))
              (((urlOptions parseURL
                (connectionURL env yaml)).map f).getD
                unset) =
            Layers.prefer top
              ((urlOptions parseURL
                (connectionURL env yaml)).map f) bottom ↔
          Layers.Told unset top
            ((urlOptions parseURL
              (connectionURL env yaml)).map f)
            (getenv env.url ≠ "") bottom := by
    intro α _ unset bottom top f
    apply Layers.overlay_eq_prefer_iff
    intro hSet
    rw [Option.isSome_map]
    exact hParsed hSet
  constructor
  · intro hKept
    exact
      { addr := (hField _).mp (hAddr ▸ hKept.addr)
        username := (hField _).mp (hUsername ▸ hKept.username)
        password := (hField _).mp (hPassword ▸ hKept.password)
        db := (hField _).mp (hDB ▸ hKept.db)
        tls := (hField _).mp (hTLS ▸ hKept.tls) }
  · intro hTold
    exact
      { addr := hAddr.trans ((hField _).mpr hTold.addr)
        username :=
          hUsername.trans ((hField _).mpr hTold.username)
        password :=
          hPassword.trans ((hField _).mpr hTold.password)
        db := hDB.trans ((hField _).mpr hTold.db)
        tls := hTLS.trans ((hField _).mpr hTold.tls) }

/- The section that the repository ships, and the options of
   a connection URL with TLS and a database number. -/
def shippedSection : RedisConfig :=
  { RedisConfig.zero with addr := "127.0.0.1:6379" }

def cloudURL : String := "rediss://cloud-host:6380/5"

def parseCloudURL
    (url : String) : Except String RedisOptions :=
  if url = cloudURL then
    .ok
      { addr := "cloud-host:6380"
        username := ""
        password := ""
        db := 5
        tlsConfig := some ⟨"cloud-host", versionTLS12⟩ }
  else
    .error ("redis: invalid URL scheme: " ++ url)

/- The URL in the environment, with a database number. -/
def cloudEnv
    (db : String) : RedisEnv where
  url := some cloudURL
  addr := none
  username := none
  password := none
  db := some db
  tls := none

def cloudSection
    (db : Int) : RedisConfig :=
  { RedisConfig.zero with url := cloudURL, db := db }

def cloudOptions
    (db : Int) : RedisOptions where
  addr := "cloud-host:6380"
  username := ""
  password := ""
  db := db
  tlsConfig := some ⟨"cloud-host", versionTLS12⟩

theorem cloudEnv_told :
    SourcesTold parseCloudURL shippedSection
      (cloudEnv "3") where
  addr := by decide +kernel
  username := by decide +kernel
  password := by decide +kernel
  db := by decide +kernel
  tls := by decide +kernel

theorem redis_precedence_cloud :
    RedisPrecedence parseCloudURL shippedSection
      (cloudEnv "3") (cloudOptions 3) :=
  (redis_precedence_iff
    (by decide +kernel :
      applyRedisEnvOverrides (cloudEnv "3") shippedSection =
        .ok (cloudSection 3))
    (by decide +kernel)).mpr cloudEnv_told

/- The number 0 of the variable is lost to that of the
   URL. -/
theorem not_redis_precedence :
    ¬ ∀ (parseURL : String → Except String RedisOptions)
        (yaml cfg : RedisConfig)
        (env : RedisEnv)
        (opts : RedisOptions),
      applyRedisEnvOverrides env yaml = .ok cfg →
        buildOptions parseURL (some cfg) = .ok opts →
          RedisPrecedence parseURL yaml env opts := by
  intro hAll
  have hKept :=
    hAll parseCloudURL shippedSection (cloudSection 0)
      (cloudEnv "0") (cloudOptions 5) (by decide +kernel)
      (by decide +kernel)
  exact absurd hKept.db (by decide +kernel)

end OrderManagement
