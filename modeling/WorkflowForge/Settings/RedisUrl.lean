import WorkflowForge.Python.Text
import WorkflowForge.Uri.Laws

/-! The URLs of the Celery broker and result backend, built from the Redis settings, and what
they say when they are read as generic URIs. -/

namespace WorkflowForge.Settings

open Python Uri

/-- The Redis settings that the URLs are built from. A password is any secret: the validators
only turn the empty text into no password. -/
structure RedisSettings where
  host : Text
  port : Nat
  password : Option Text
  ssl : Bool
  host_nonempty : host ≠ []
  port_range : 1 ≤ port ∧ port ≤ 65535

/-- The transport settings with the explicit URLs and the database indices. -/
structure CelerySettings where
  brokerUrl : Option Text := none
  resultBackend : Option Text := none
  brokerDatabase : Nat := 1
  resultBackendDatabase : Nat := 2

/-- `_redis_url`. -/
def redisUrl (settings : RedisSettings) (db : Nat) : Text :=
  let scheme := if settings.ssl then "rediss" else "redis"
  let password :=
    match settings.password with
    | some password => ':' :: password ++ ['@']
    | none => []
  scheme.toList ++ "://".toList ++ password ++ settings.host ++ ':' :: Nat.toDigits 10 settings.port
  ++ '/' :: Nat.toDigits 10 db

def resolvedBrokerUrl (celery : CelerySettings) (redis : RedisSettings) : Text :=
  match celery.brokerUrl with
  | some url => url
  | none => redisUrl redis celery.brokerDatabase

def resolvedResultBackend (celery : CelerySettings) (redis : RedisSettings) : Text :=
  match celery.resultBackend with
  | some url => url
  | none => redisUrl redis celery.resultBackendDatabase

-----------------------------------------------------------------------------------------
-- Reading a URL
-----------------------------------------------------------------------------------------

/-- What a URL says about a Redis server. The password is in octets. -/
structure Endpoint where
  password : Option Bytes
  host : Text
  port : Nat
  db : Nat
  deriving DecidableEq

/-- A number in decimal digits. -/
def readDecimal (digits : Text) : Option Nat :=
  if digits ≠ [] ∧ digits.all Char.isDigit then some (Nat.ofDigitChars 10 digits 0) else none

/-- Read a URL by the generic rules: the password follows the first colon of the user
information and is percent-decoded, the path names the database. -/
def readEndpoint (url : Text) : Option Endpoint := do
  let components ← Uri.parse url
  let authority ← components.authority
  let port ← readDecimal (← authority.port)
  match components.path with
  | '/' :: digits =>
      let db ← readDecimal digits
      let password := authority.userinfo.bind (fun info => (splitFirst ':' info).2)
      return { password := password.map percentDecode, host := authority.host, port, db }
  | _ => none

/-- The server that the settings mean. -/
def RedisSettings.endpoint (settings : RedisSettings) (db : Nat) : Endpoint where
  password := settings.password.map utf8
  host := settings.host
  port := settings.port
  db := db

/-- The password, if there is one, has only the characters that user information may have
without encoding, and the host is a host of the generic grammar. -/
def RedisSettings.Plain (settings : RedisSettings) : Prop :=
  (∀ password, settings.password = some password → ∀ c ∈ password, isUserinfoChar c = true)
  ∧ isHost settings.host = true

-----------------------------------------------------------------------------------------
-- The URL of the settings
-----------------------------------------------------------------------------------------

def scheme (settings : RedisSettings) : Text :=
  if settings.ssl then "rediss".toList else "redis".toList

/-- The user information names no user. -/
def userinfo (settings : RedisSettings) : Option Text := settings.password.map (':' :: ·)

theorem redisUrl_eq (settings : RedisSettings) (db : Nat)
    : redisUrl settings db
      = scheme settings ++ ':' :: '/' :: '/' ::
          (assembleAuthority (userinfo settings) settings.host (Nat.toDigits 10 settings.port)
            ++ '/' :: Nat.toDigits 10 db) := by
  unfold redisUrl scheme userinfo assembleAuthority
  cases settings.ssl <;> cases settings.password <;> simp

theorem scheme_valid (settings : RedisSettings) : isScheme (scheme settings) = true := by
  unfold scheme
  split <;> decide

theorem toDigits_isDigit {n : Nat} {c : Char} (member : c ∈ Nat.toDigits 10 n)
    : c.isDigit = true :=
  Nat.isDigit_of_mem_toDigits (by decide) (by decide) member

theorem readDecimal_toDigits (n : Nat) : readDecimal (Nat.toDigits 10 n) = some n := by
  have digits : (Nat.toDigits 10 n).all Char.isDigit = true :=
    List.all_eq_true.mpr (fun _ member => toDigits_isDigit member)
  rw [readDecimal, if_pos ⟨Nat.toDigits_ne_nil, digits⟩, Nat.ofDigitChars_ten_toDigits]

/-- Plain settings are read back. -/
theorem readEndpoint_of_plain {settings : RedisSettings} (plain : settings.Plain) (db : Nat)
    : readEndpoint (redisUrl settings db) = some (settings.endpoint db) := by
  have info : (userinfo settings).all (wellEncoded isUserinfoChar) = true := by
    cases given : settings.password with
    | none => simp [userinfo, given]
    | some password =>
        have valid : wellEncoded isUserinfoChar password = true :=
          wellEncoded_of_all (by decide) (plain.1 password given)
        simpa [userinfo, given, wellEncoded] using ⟨by decide, valid⟩
  have path : wellEncoded isPathChar ('/' :: Nat.toDigits 10 db) = true := by
    apply wellEncoded_of_all (by decide)
    intro c member
    rcases List.mem_cons.mp member with rfl | digit
    · decide
    · simp [isPathChar, isUserinfoChar, isNameChar, isUnreserved, Char.isAlphanum,
        toDigits_isDigit digit]
  have digits : ∀ c ∈ Nat.toDigits 10 settings.port, c.isDigit = true :=
    fun _ member => toDigits_isDigit member
  have password
      : ((userinfo settings).bind (fun info => (splitFirst ':' info).2)).map percentDecode
        = settings.password.map utf8 := by
    cases given : settings.password with
    | none => simp [userinfo, given]
    | some password =>
        have split : splitFirst ':' (':' :: password) = ([], some password) :=
          splitFirst_append List.not_mem_nil password
        have encoded : '%' ∉ password := fun member =>
          absurd (plain.1 password given _ member) (by decide)
        simp [userinfo, given, split, percentDecode_of_notMem encoded]
  rw [redisUrl_eq, readEndpoint,
    parse_assemble (scheme_valid settings) info plain.2 digits path]
  simp only [Option.bind_eq_bind, Option.bind_some, readDecimal_toDigits, password]
  rfl

/-- A password whose user information decodes to it has only plain characters: the user
information ends before the first `@`, and decoding shortens what is encoded. -/
theorem plain_of_decoded {password text rest info more : Text}
    (same : ':' :: (password ++ '@' :: rest) = info ++ '@' :: more)
    (valid : wellEncoded isUserinfoChar info = true)
    (found : (splitFirst ':' info).2 = some text) (decoded : percentDecode text = utf8 password)
    : ∀ c ∈ password, isUserinfoChar c = true := by
  cases info with
  | nil => exact absurd (List.cons.inj same).1 (by decide)
  | cons first raw =>
      obtain ⟨rfl, tails⟩ := List.cons.inj same
      have split : splitFirst ':' (':' :: raw) = ([], some raw) :=
        splitFirst_append List.not_mem_nil raw
      rw [split] at found
      obtain rfl := Option.some.inj found
      have rawValid : wellEncoded isUserinfoChar raw = true := by
        rw [wellEncoded, Bool.and_eq_true] at valid
        · exact valid.2
        · simp
      have signs : '@' ∉ raw :=
        notMem_of_wellEncoded rawValid (by decide) (by decide) (by decide)
      have whole : password = raw := by
        rcases List.append_eq_append_iff.mp tails with
          ⟨middle, longer, tail⟩ | ⟨middle, longer, tail⟩
        · cases middle with
          | nil => simpa using longer.symm
          | cons sign middle =>
              obtain ⟨rfl, -⟩ := List.cons.inj tail
              exact absurd (by simp [longer]) signs
        · cases middle with
          | nil => simpa using longer
          | cons sign middle =>
              have shorter := length_percentDecode_le raw
              have position := length_utf8_pos sign
              rw [decoded, longer] at shorter
              simp only [utf8, List.flatMap_append, List.flatMap_cons, List.length_append]
                at shorter
              omega
      subst whole
      by_cases encoded : '%' ∈ password
      · have shorter := length_percentDecode_lt rawValid encoded
        rw [decoded] at shorter
        exact absurd shorter (Nat.lt_irrefl _)
      · exact all_of_wellEncoded rawValid encoded

/-- The settings are read back only if they are plain. -/
theorem plain_of_readEndpoint {settings : RedisSettings} {db : Nat}
    (read : readEndpoint (redisUrl settings db) = some (settings.endpoint db))
    : settings.Plain := by
  unfold readEndpoint at read
  obtain ⟨components, parsed, read⟩ := Option.bind_eq_some_iff.mp read
  obtain ⟨authority, found, read⟩ := Option.bind_eq_some_iff.mp read
  obtain ⟨portText, _, read⟩ := Option.bind_eq_some_iff.mp read
  obtain ⟨port, _, read⟩ := Option.bind_eq_some_iff.mp read
  obtain ⟨host, rest, url, colon, info⟩ := parse_eq_some parsed found
  split at read
  · rename_i digits _
    obtain ⟨database, _, read⟩ := Option.bind_eq_some_iff.mp read
    simp only [pure, Option.some.injEq, RedisSettings.endpoint, Endpoint.mk.injEq] at read
    obtain ⟨password, sameHost, -, -⟩ := read
    refine ⟨?_, sameHost ▸ host⟩
    intro secret given
    rw [given, Option.map_some] at password
    obtain ⟨text, bound, decoded⟩ := Option.map_eq_some_iff.mp password
    obtain ⟨infoText, present, split⟩ := Option.bind_eq_some_iff.mp bound
    obtain ⟨valid, more, rfl⟩ := info infoText present
    have schemes := congrArg (splitFirst ':') ((redisUrl_eq settings db).symm.trans url)
    rw [splitFirst_append (colon_notMem_scheme (scheme_valid settings)),
      splitFirst_append colon] at schemes
    simp only [Prod.mk.injEq, Option.some.injEq, List.cons.injEq, true_and] at schemes
    have same
        : ':' :: (secret ++ '@' :: (settings.host ++ ':' :: (Nat.toDigits 10 settings.port
              ++ '/' :: Nat.toDigits 10 db)))
          = infoText ++ '@' :: more := by
      simpa [assembleAuthority, userinfo, given] using schemes.2
    exact plain_of_decoded same valid split decoded
  · cases read

/-- Without an explicit URL, the broker URL and the result backend URL say the configured
password, host, port and database exactly when the settings are plain. -/
theorem resolved_urls_read_iff (celery : CelerySettings) (redis : RedisSettings)
    : (celery.brokerUrl = none
        → (readEndpoint (resolvedBrokerUrl celery redis)
              = some (redis.endpoint celery.brokerDatabase)
            ↔ redis.Plain))
      ∧ (celery.resultBackend = none
          → (readEndpoint (resolvedResultBackend celery redis)
                = some (redis.endpoint celery.resultBackendDatabase)
              ↔ redis.Plain)) := by
  constructor
  · intro default
    rw [resolvedBrokerUrl, default]
    exact ⟨plain_of_readEndpoint, fun plain => readEndpoint_of_plain plain _⟩
  · intro default
    rw [resolvedResultBackend, default]
    exact ⟨plain_of_readEndpoint, fun plain => readEndpoint_of_plain plain _⟩

def localRedis (password : Text) : RedisSettings where
  host := "localhost".toList
  port := 6379
  password := some password
  ssl := false
  host_nonempty := by decide
  port_range := by decide

theorem resolved_urls_read_local
    : readEndpoint (resolvedBrokerUrl {} (localRedis "redis-secret".toList))
        = some ((localRedis "redis-secret".toList).endpoint 1) :=
  ((resolved_urls_read_iff {} (localRedis "redis-secret".toList)).1 rfl).mpr
    (by
      refine ⟨?_, by decide +kernel⟩
      rintro password ⟨⟩
      exact List.all_eq_true.mp (by decide +kernel))

/-- A slash in the password ends the authority of the URL. -/
theorem slash_unread
    : readEndpoint (resolvedBrokerUrl {} (localRedis "a/b".toList))
      ≠ some ((localRedis "a/b".toList).endpoint 1) := by
  decide +kernel

end WorkflowForge.Settings
