import SkyfireBG.Cryptography.Srp6
import SkyfireBG.Lib.Run
import SkyfireBG.Server.WorldSocket

/-!
# SkyfireBG.Server.AuthSocket

The commands of one connection to the login server: `_HandleLogonChallenge`, `_HandleLogonProof`,
`_HandleReconnectChallenge`, `_HandleReconnectProof`, `_HandleRealmList` and the table of `OnRead`.

Hashing and the arithmetic modulo `N` are a parameter.  What the database answers comes with the
command, for other connections write to it too.  A handler's result only tells `OnRead` whether to
go on reading, so that a handler is the change it makes.
-/

namespace SkyfireBG

def SHA_DIGEST_LENGTH : Nat := 20

def s_BYTE_SIZE : Nat := 32

/-- `SetBinary` of a whole array. -/
def setBinary (bytes : List Byte) : Nat := BigNumber.bin2bn bytes.reverse

/-- SHA-1, powers modulo `N`, and numbers from hexadecimal text. -/
structure Crypto where
  sha : List Byte → List Byte
  modExp : Nat → Nat → Nat
  setHexStr : String → Nat
  asHexStr : Nat → String

namespace Crypto

/-- `AsByteArray()` -/
def bytes (n : Nat) : List Byte := BigNumber.asByteArray n 0 true

/-- `AsByteArray()`, and the zeros of the array that it is copied into. -/
def paddedArray (n size : Nat) : List Byte :=
  bytes n ++ List.replicate (size - (bytes n).length) 0

def N : Nat := 0x894B645E89E1535BBDAD5B8B290650530801B18EBFBF5E8FAB3C82872A3E9BB7

def g : Nat := 7

variable (c : Crypto)

/-- The verifier that `_SetVSFields` makes from the password hash. -/
def makeVerifier (rI : String) (s : Nat) : Nat :=
  let I := c.setHexStr rI
  let mDigest := if BigNumber.numBytes I ≤ SHA_DIGEST_LENGTH
    then (paddedArray I SHA_DIGEST_LENGTH).reverse
    else List.replicate SHA_DIGEST_LENGTH 0
  c.modExp g (setBinary (c.sha (bytes s ++ mDigest)))

def makeB (v b : Nat) : Nat := (v * 3 + c.modExp g b) % N

def makeKey (A B v b : Nat) : Nat :=
  let u := setBinary (c.sha (bytes A ++ bytes B))
  let t := (BigNumber.asByteArray (c.modExp (A * c.modExp v u) b) 32 true).take 32
  setBinary (Srp6.interleave (c.sha (Srp6.half t 0)) (c.sha (Srp6.half t 1)))

/-- What a client that knows the password sends.  The source does not pad `M`; the bytes past a
short one are taken as zeros. -/
def makeM (login : String) (s A B K : Nat) : List Byte :=
  let t3 := setBinary (List.zipWith (· ^^^ ·) (c.sha (bytes N)) (c.sha (bytes g)))
  let t4 := c.sha login.toUTF8.toList
  paddedArray (setBinary (c.sha (bytes t3 ++ t4 ++ bytes s ++ bytes A ++ bytes B ++ bytes K)))
    SHA_DIGEST_LENGTH

def makeReconnect (login : String) (R1 : List Byte) (reconnectProof K : Nat) : List Byte :=
  c.sha (login.toUTF8.toList ++ bytes (setBinary R1) ++ bytes reconnectProof ++ bytes K)

end Crypto

def NO_VALID_EXP_FLAG : Nat := 0
def PRE_BC_EXP_FLAG : Nat := 1
def POST_BC_EXP_FLAG : Nat := 2
def POST_WOTLK_EXP_FLAG : Nat := 4

def isPreBCAcceptedClientBuild (build : Nat) : Bool := [5875, 6005].contains build

def isPostBCAcceptedClientBuild (build : Nat) : Bool :=
  [13205, 13164, 12340, 11723, 11403, 11159, 10571, 10505, 10146, 9947, 8606].contains build

def isPostWotLKAcceptedClientBuild (build : Nat) : Bool :=
  [14480, 14333, 13623, 13596, 13329].contains build

def expFlags (postWotLK postBC preBC : Bool) : Nat :=
  (if postWotLK then POST_WOTLK_EXP_FLAG else NO_VALID_EXP_FLAG) |||
    (if postBC then POST_BC_EXP_FLAG else NO_VALID_EXP_FLAG) |||
    (if preBC then PRE_BC_EXP_FLAG else NO_VALID_EXP_FLAG)

/-- `sAuthLogonChallenge_C`: the texts as they are read, up to a zero. -/
structure AuthChallenge where
  I : String
  build : Nat
  os : String
  country : String
deriving DecidableEq, Repr

/-- A row of `LOGIN_GET_LOGONCHALLENGE`. -/
structure AccountRow where
  shaPassHash : String
  id : Nat
  locked : Nat
  lastIp : String
  gmlevel : Nat
  v : String
  s : String
deriving DecidableEq, Repr

/-- A row of `LOGIN_GET_SESSIONKEY`. -/
structure SessionRow where
  sessionkey : String
  gmlevel : Nat
deriving DecidableEq, Repr

/-- A row of `LOGIN_GET_ACCBANNED`. -/
structure BanRow where
  bandate : Nat
  unbandate : Nat
deriving DecidableEq, Repr

/-- A row of `LOGIN_GET_FAILEDLOGINS`. -/
structure FailedRow where
  id : Nat
  failedLogins : Nat
deriving DecidableEq, Repr

structure LogonAnswers where
  ipBanned : Bool
  account : Option AccountRow
  banned : Option BanRow
  randomS : Nat
  randomB : Nat
  unk3 : Nat
deriving DecidableEq, Repr

structure Realm where
  id : Nat
  gamebuild : Nat
  allowedSecurityLevel : Nat
deriving DecidableEq, Repr

inductive AuthCommand where
  | logonChallenge (ch : AuthChallenge) (answers : LogonAnswers)
  | logonProof (A M1 : List Byte) (loginfail : Option FailedRow)
  | reconnectChallenge (ch : AuthChallenge) (row : Option SessionRow) (random : Nat)
  | reconnectProof (R1 R2 : List Byte)
  | realmList (accountId : Option Nat) (realms : List Realm)
  | short
deriving DecidableEq, Repr

/-- `STATUS_AUTHED` in the table. -/
def AuthCommand.needsAuthed : AuthCommand → Bool
  | .realmList _ _ => true
  | _ => false

inductive AuthResult where
  | WOW_FAIL_BANNED
  | WOW_FAIL_UNKNOWN_ACCOUNT
  | WOW_FAIL_SUSPENDED
deriving DecidableEq, Repr

inductive AuthReply where
  | challengeFailed (result : AuthResult)
  | challenge (B s unk3 : Nat)
  | proof (M2 : List Byte)
  | proofFailed
  | reconnectChallenge (reconnectProof : Nat)
  | reconnectProof
  /-- The list for an account: each realm, and whether it is locked. -/
  | realmList (login : String) (realms : List (Nat × Bool))
deriving DecidableEq, Repr

/-- Statements for the login database.  Whether a session key comes from a proof against the
account's own verifier is a record of the model. -/
inductive LoginStatement where
  | setVS (v s : Nat) (login : String)
  | setLogonProof (sessionkey : String) (ip : String) (locale : Nat) (os login : String)
      (own : Bool)
  | setFailedLogins (login : String)
  | setAccAutobanned (id time : Nat)
  | setIpAutobanned (ip : String) (time : Nat)
deriving DecidableEq, Repr

def localeNames : List String :=
  ["enUS", "koKR", "frFR", "deDE", "zhCN", "zhTW", "esES", "esMX", "ruRU"]

/-- `GetLocaleByName`: a name that is not listed, as `enGB`, is `enUS`. -/
def getLocaleByName (name : String) : Nat := (localeNames.findIdx? (· == name)).getD 0

def SEC_PLAYER : Nat := 0
def SEC_ADMINISTRATOR : Nat := 3

/-- The options that `_HandleLogonProof` reads, and the address of the client. -/
structure AuthConfig where
  maxWrongPassCount : Nat
  wrongPassBanTime : Nat
  wrongPassBanType : Bool
  remoteAddress : String
deriving DecidableEq, Repr

/-! ## The connection -/

structure SrpChallenge where
  login : String
  s : Nat
  v : Nat
  b : Nat
  B : Nat
deriving DecidableEq, Repr

structure SessionKey where
  login : String
  K : Nat
deriving DecidableEq, Repr

/-- The fields of the source; `challenges`, `keys` and `proven` are records of the model, with the
newest entry first. -/
structure AuthSocket where
  s : Nat := 0
  v : Nat := 0
  b : Nat := 0
  B : Nat := 0
  K : Nat := 0
  reconnectProof : Nat := 0
  authed : Bool := false
  login : String := ""
  localizationName : String := ""
  os : String := ""
  build : Nat
  expversion : Nat
  accountSecurityLevel : Nat := SEC_PLAYER
  shutdown : Bool := false
  sent : List AuthReply := []
  executed : List LoginStatement := []
  challenges : List SrpChallenge := []
  /-- The session keys that were read, or stored. -/
  keys : List SessionKey := []
  /-- The login for which `K` was read or stored; none after a proof that failed. -/
  keyLogin : Option String := none
  /-- The accounts for which a proof succeeded against their own verifier or session key. -/
  proven : List String := []
deriving DecidableEq, Repr

namespace AuthSocket

variable (c : Crypto) (config : AuthConfig) (k : AuthSocket)

/-- The verifier in use is that of the last challenge that succeeded for the current login. -/
def OwnVerifier : Prop :=
  k.challenges.find? (fun ch => ch.login == k.login) = some ⟨k.login, k.s, k.v, k.b, k.B⟩

def OwnKey : Prop :=
  k.keys.find? (fun key => key.login == k.login) = some ⟨k.login, k.K⟩

instance : Decidable k.OwnVerifier := inferInstanceAs (Decidable (_ = _))

instance : Decidable k.OwnKey := inferInstanceAs (Decidable (_ = _))

def reply (r : AuthReply) : AuthSocket := { k with sent := k.sent ++ [r] }

def execute (st : LoginStatement) : AuthSocket := { k with executed := k.executed ++ [st] }

def close : AuthSocket := { k with shutdown := true }

def prove : AuthSocket := { k with proven := k.login :: k.proven }

def setVSFields (rI : String) (randomS : Nat) : AuthSocket :=
  let v := c.makeVerifier rI randomS
  { k with s := randomS, v := v }.execute (.setVS v randomS k.login)

def readChallenge (ch : AuthChallenge) : AuthSocket :=
  { k with
    login := ch.I
    build := ch.build
    expversion := expFlags (isPostWotLKAcceptedClientBuild ch.build)
      (isPostBCAcceptedClientBuild ch.build) (isPreBCAcceptedClientBuild ch.build)
    os := ch.os }

/-- The challenge to an account that is neither locked to another address nor banned. -/
def challengeAccount (ch : AuthChallenge) (answers : LogonAnswers) (row : AccountRow) :
    AuthSocket :=
  let k := if row.v.length ≠ s_BYTE_SIZE * 2 ∨ row.s.length ≠ s_BYTE_SIZE * 2 then
      k.setVSFields c row.shaPassHash answers.randomS
    else { k with s := c.setHexStr row.s, v := c.setHexStr row.v }
  let B := c.makeB k.v answers.randomB
  { k with
    b := answers.randomB
    B := B
    accountSecurityLevel := if row.gmlevel ≤ SEC_ADMINISTRATOR then row.gmlevel
      else SEC_ADMINISTRATOR
    localizationName := String.ofList ch.country.toList.reverse
    challenges := ⟨k.login, k.s, k.v, answers.randomB, B⟩ :: k.challenges
    sent := k.sent ++ [.challenge B k.s answers.unk3] }

def handleLogonChallenge (ch : AuthChallenge) (answers : LogonAnswers) : AuthSocket :=
  let k := k.readChallenge ch
  if ch.os.length > 4 then k
  else
    let k := { k with os := String.ofList ch.os.toList.reverse }
    if answers.ipBanned then k.reply (.challengeFailed .WOW_FAIL_BANNED)
    else match answers.account with
      | none => k.reply (.challengeFailed .WOW_FAIL_UNKNOWN_ACCOUNT)
      | some row =>
        if row.locked = 1 ∧ row.lastIp ≠ config.remoteAddress then
          k.reply (.challengeFailed .WOW_FAIL_SUSPENDED)
        else match answers.banned with
          | some ban => k.reply (.challengeFailed
              (if ban.bandate = ban.unbandate then .WOW_FAIL_BANNED else .WOW_FAIL_SUSPENDED))
          | none => k.challengeAccount c ch answers row

def countFailed (loginfail : Option FailedRow) : AuthSocket :=
  if config.maxWrongPassCount > 0 then
    let k := k.execute (.setFailedLogins k.login)
    match loginfail with
    | none => k
    | some row =>
      if row.failedLogins ≥ config.maxWrongPassCount then
        if config.wrongPassBanType then
          k.execute (.setAccAutobanned row.id config.wrongPassBanTime)
        else k.execute (.setIpAutobanned config.remoteAddress config.wrongPassBanTime)
      else k
  else k

/-- The proof that the connection expects for `A`. -/
def expectedM1 (A : Nat) : List Byte :=
  c.makeM k.login k.s A k.B (c.makeKey A k.B k.v k.b)

def Matches (A M1 : List Byte) : Prop :=
  k.expversion ≠ NO_VALID_EXP_FLAG ∧ setBinary A ≠ 0 ∧ k.expectedM1 c (setBinary A) = M1

instance (A M1 : List Byte) : Decidable (k.Matches c A M1) :=
  inferInstanceAs (Decidable (_ ∧ _))

def acceptProof (A M : List Byte) : AuthSocket :=
  let own := decide k.OwnVerifier
  let k := k.execute (.setLogonProof (c.asHexStr k.K) config.remoteAddress
    (getLocaleByName k.localizationName) k.os k.login own)
  let k := k.reply (.proof (c.sha (A ++ M ++ Crypto.bytes k.K)))
  let k := if own then k.prove else k
  { k with authed := true, keys := ⟨k.login, k.K⟩ :: k.keys, keyLogin := some k.login }

def handleLogonProof (A M1 : List Byte) (loginfail : Option FailedRow) : AuthSocket :=
  if k.expversion = NO_VALID_EXP_FLAG then k.close
  else if setBinary A = 0 then k.close
  else
    let M := k.expectedM1 c (setBinary A)
    let k := { k with K := c.makeKey (setBinary A) k.B k.v k.b, keyLogin := none }
    if M = M1 then k.acceptProof c config (Crypto.bytes (setBinary A)) M
    else (k.reply .proofFailed).countFailed config loginfail

def handleReconnectChallenge (ch : AuthChallenge) (row : Option SessionRow) (random : Nat) :
    AuthSocket :=
  let k := { k with login := ch.I }
  match row with
  | none => k.close
  | some row =>
    let k := { k with
      build := ch.build
      expversion := expFlags false (isPostBCAcceptedClientBuild ch.build)
        (isPreBCAcceptedClientBuild ch.build)
      os := ch.os }
    if ch.os.length > 4 then k
    else
      let K := c.setHexStr row.sessionkey
      { k with
        os := String.ofList ch.os.toList.reverse
        accountSecurityLevel := if row.gmlevel ≤ SEC_ADMINISTRATOR then row.gmlevel
          else SEC_ADMINISTRATOR
        K := K
        keys := ⟨k.login, K⟩ :: k.keys
        keyLogin := some k.login
        reconnectProof := random
        sent := k.sent ++ [.reconnectChallenge random] }

def MatchesReconnect (R1 R2 : List Byte) : Prop :=
  (k.login ≠ "" ∧ BigNumber.numBytes k.reconnectProof ≠ 0 ∧ BigNumber.numBytes k.K ≠ 0) ∧
    c.makeReconnect k.login R1 k.reconnectProof k.K = R2

instance (R1 R2 : List Byte) : Decidable (k.MatchesReconnect c R1 R2) :=
  inferInstanceAs (Decidable (_ ∧ _))

def handleReconnectProof (R1 R2 : List Byte) : AuthSocket :=
  if k.login = "" ∨ BigNumber.numBytes k.reconnectProof = 0 ∨ BigNumber.numBytes k.K = 0 then k
  else if c.makeReconnect k.login R1 k.reconnectProof k.K = R2 then
    let k := k.reply .reconnectProof
    let k := if k.OwnKey then k.prove else k
    { k with authed := true }
  else k.close

/-- The realms that the build of the client is compatible with, and which of them are locked. -/
def shownRealms (realms : List Realm) : List (Nat × Bool) :=
  (realms.filter fun realm =>
      if k.expversion &&& POST_BC_EXP_FLAG ≠ 0 ∨ k.expversion &&& POST_WOTLK_EXP_FLAG ≠ 0 then
        realm.gamebuild == k.build
      else if k.expversion &&& PRE_BC_EXP_FLAG ≠ 0 then
        isPreBCAcceptedClientBuild realm.gamebuild
      else true).map
    fun realm => (realm.id, decide (realm.allowedSecurityLevel > k.accountSecurityLevel))

def handleRealmList (accountId : Option Nat) (realms : List Realm) : AuthSocket :=
  match accountId with
  | none => k.close
  | some _ => k.reply (.realmList k.login (k.shownRealms realms))

/-- `OnRead` for one command: what is not in the table for this status closes the connection. -/
def onRead (cmd : AuthCommand) : AuthSocket :=
  if cmd.needsAuthed && !k.authed then k.close
  else match cmd with
    | .logonChallenge ch answers => k.handleLogonChallenge c config ch answers
    | .logonProof A M1 loginfail => k.handleLogonProof c config A M1 loginfail
    | .reconnectChallenge ch row random => k.handleReconnectChallenge c ch row random
    | .reconnectProof R1 R2 => k.handleReconnectProof c R1 R2
    | .realmList accountId realms => k.handleRealmList accountId realms
    | .short => k

/-- A new connection.  `_build` and `_expversion` are not initialised. -/
def accept (build expversion : Nat) : AuthSocket := { build := build, expversion := expversion }

/-- Session keys are stored by proofs against the account's own verifier, and a realm list goes only
to an account that has proved itself. -/
structure Bound : Prop where
  authed : k.authed = true → k.login ∈ k.proven
  stored : ∀ key ip locale os login own,
    .setLogonProof key ip locale os login own ∈ k.executed → own = true
  served : ∀ login realms, .realmList login realms ∈ k.sent → login ∈ k.proven

/-- The verifier is that of the last challenge that succeeded, and `K` the last session key. -/
structure Recorded : Prop where
  verifier : ∀ ch ∈ k.challenges.head?, ch = ⟨ch.login, k.s, k.v, k.b, k.B⟩
  key : ∀ login, k.keyLogin = some login → k.keys.head? = some ⟨login, k.K⟩

structure Keeps (k k' : AuthSocket) : Prop where
  authed : k'.authed = k.authed
  proven : k'.proven = k.proven
  stored : ∀ key ip locale os login own,
    .setLogonProof key ip locale os login own ∈ k'.executed →
      .setLogonProof key ip locale os login own ∈ k.executed
  served : ∀ login realms, .realmList login realms ∈ k'.sent → .realmList login realms ∈ k.sent
  recorded : k.Recorded → k'.Recorded

variable {c config k} {k' k'' : AuthSocket}

theorem Keeps.refl : Keeps k k := ⟨rfl, rfl, fun _ _ _ _ _ _ h => h, fun _ _ h => h, id⟩

theorem Keeps.trans (h : Keeps k k') (h' : Keeps k' k'') : Keeps k k'' where
  authed := h'.authed.trans h.authed
  proven := h'.proven.trans h.proven
  stored := fun key ip locale os login own hst =>
    h.stored key ip locale os login own (h'.stored key ip locale os login own hst)
  served := fun login realms hsent => h.served login realms (h'.served login realms hsent)
  recorded := fun hr => h'.recorded (h.recorded hr)

theorem Bound.keeps (hk : k.Bound) (h : Keeps k k')
    (hlogin : k'.authed = true → k'.login ∈ k.proven) : k'.Bound where
  authed := fun ha => by
    rw [h.proven]
    exact hlogin ha
  stored := fun key ip locale os login own hst =>
    hk.stored key ip locale os login own (h.stored key ip locale os login own hst)
  served := fun login realms hsent => by
    rw [h.proven]
    exact hk.served login realms (h.served login realms hsent)

theorem close_keeps : Keeps k k.close :=
  ⟨rfl, rfl, fun _ _ _ _ _ _ h => h, fun _ _ h => h, fun h => ⟨h.verifier, h.key⟩⟩

theorem reply_keeps {r : AuthReply} (hr : ∀ login realms, r ≠ .realmList login realms) :
    Keeps k (k.reply r) where
  authed := rfl
  proven := rfl
  stored := fun _ _ _ _ _ _ h => h
  served := by
    intro login realms h
    rcases List.mem_append.mp h with h | h
    · exact h
    · exact absurd (List.mem_singleton.mp h).symm (hr login realms)
  recorded := fun h => ⟨h.verifier, h.key⟩

theorem execute_keeps {st : LoginStatement}
    (hst : ∀ key ip locale os login own, st ≠ .setLogonProof key ip locale os login own) :
    Keeps k (k.execute st) where
  authed := rfl
  proven := rfl
  stored := by
    intro key ip locale os login own h
    rcases List.mem_append.mp h with h | h
    · exact h
    · exact absurd (List.mem_singleton.mp h).symm (hst key ip locale os login own)
  served := fun _ _ h => h
  recorded := fun h => ⟨h.verifier, h.key⟩

theorem countFailed_keeps {loginfail : Option FailedRow} :
    Keeps k (k.countFailed config loginfail) ∧ (k.countFailed config loginfail).login = k.login := by
  unfold countFailed
  have hset : Keeps k (k.execute (.setFailedLogins k.login)) := execute_keeps nofun
  split
  · cases loginfail with
    | none => exact ⟨hset, rfl⟩
    | some row =>
      dsimp only
      split
      · split
        · exact ⟨hset.trans (execute_keeps nofun), rfl⟩
        · exact ⟨hset.trans (execute_keeps nofun), rfl⟩
      · exact ⟨hset, rfl⟩
  · exact ⟨.refl, rfl⟩

theorem Keeps.challenge {B s unk3 : Nat} (ha : k'.authed = k.authed) (hp : k'.proven = k.proven)
    (he : ∀ st ∈ k'.executed, st ∈ k.executed ∨ ∃ v s login, st = .setVS v s login)
    (hs : k'.sent = k.sent ++ [.challenge B s unk3])
    (hch : k'.challenges.head? = some ⟨k'.login, k'.s, k'.v, k'.b, k'.B⟩)
    (hkey : k'.keyLogin = k.keyLogin) (hkeys : k'.keys = k.keys) (hK : k'.K = k.K) :
    Keeps k k' where
  authed := ha
  proven := hp
  stored := fun key ip locale os login own h => by
    rcases he _ h with h | ⟨v, s, login, h⟩
    · exact h
    · cases h
  served := fun login realms h => by
    rw [hs] at h
    rcases List.mem_append.mp h with h | h
    · exact h
    · cases List.mem_singleton.mp h
  recorded := fun h => by
    refine ⟨fun ch hmem => ?_, fun login hlogin => ?_⟩
    · rw [hch] at hmem
      cases hmem
      rfl
    · rw [hkeys, hK]
      exact h.key login (hkey ▸ hlogin)

theorem challengeAccount_keeps {ch : AuthChallenge} {answers : LogonAnswers} {row : AccountRow} :
    Keeps k (k.challengeAccount c ch answers row) ∧
      (k.challengeAccount c ch answers row).login = k.login := by
  unfold challengeAccount
  by_cases hsize : row.v.length ≠ s_BYTE_SIZE * 2 ∨ row.s.length ≠ s_BYTE_SIZE * 2
  · rw [if_pos hsize]
    refine ⟨.challenge rfl rfl (fun st hst => ?_) rfl rfl rfl rfl rfl, rfl⟩
    rcases List.mem_append.mp hst with hst | hst
    · exact .inl hst
    · exact .inr ⟨_, _, _, List.mem_singleton.mp hst⟩
  · rw [if_neg hsize]
    exact ⟨.challenge rfl rfl (fun st hst => .inl hst) rfl rfl rfl rfl rfl, rfl⟩

theorem handleLogonChallenge_keeps {ch : AuthChallenge} {answers : LogonAnswers} :
    Keeps k (k.handleLogonChallenge c config ch answers) ∧
      (k.handleLogonChallenge c config ch answers).login = ch.I := by
  have hread : Keeps k (k.readChallenge ch) :=
    ⟨rfl, rfl, fun _ _ _ _ _ _ h => h, fun _ _ h => h, fun h => ⟨h.verifier, h.key⟩⟩
  have hos : Keeps k { k.readChallenge ch with os := String.ofList ch.os.toList.reverse } :=
    ⟨rfl, rfl, fun _ _ _ _ _ _ h => h, fun _ _ h => h, fun h => ⟨h.verifier, h.key⟩⟩
  unfold handleLogonChallenge
  dsimp only
  split
  · exact ⟨hread, rfl⟩
  · split
    · exact ⟨hos.trans (reply_keeps nofun), rfl⟩
    · cases answers.account with
      | none => exact ⟨hos.trans (reply_keeps nofun), rfl⟩
      | some row =>
        dsimp only
        split
        · exact ⟨hos.trans (reply_keeps nofun), rfl⟩
        · cases answers.banned with
          | some ban => exact ⟨hos.trans (reply_keeps nofun), rfl⟩
          | none => exact ⟨hos.trans challengeAccount_keeps.1, challengeAccount_keeps.2⟩

theorem handleReconnectChallenge_keeps {ch : AuthChallenge} {row : Option SessionRow}
    {random : Nat} : Keeps k (k.handleReconnectChallenge c ch row random) ∧
      (k.handleReconnectChallenge c ch row random).login = ch.I := by
  unfold handleReconnectChallenge
  cases row with
  | none =>
    exact ⟨⟨rfl, rfl, fun _ _ _ _ _ _ h => h, fun _ _ h => h, fun h => ⟨h.verifier, h.key⟩⟩, rfl⟩
  | some row =>
    dsimp only
    split
    · exact ⟨⟨rfl, rfl, fun _ _ _ _ _ _ h => h, fun _ _ h => h, fun h => ⟨h.verifier, h.key⟩⟩, rfl⟩
    · refine ⟨⟨rfl, rfl, fun _ _ _ _ _ _ h => h, fun login realms h => ?_,
        fun h => ⟨h.verifier, fun login hlogin => ?_⟩⟩, rfl⟩
      · rcases List.mem_append.mp h with h | h
        · exact h
        · cases List.mem_singleton.mp h
      · cases hlogin
        rfl

/-! ## Runs -/

/-- Once authed, challenges name no other account; a proof that is what was expected comes while the
login is that of the last logon challenge that succeeded, or that for which `K` was read or stored. -/
def Admits (c : Crypto) (k : AuthSocket) : AuthCommand → Prop
  | .logonChallenge ch _ => k.authed = true → ch.I = k.login
  | .reconnectChallenge ch _ _ => k.authed = true → ch.I = k.login
  | .logonProof A M1 _ =>
    k.Matches c A M1 → (k.challenges.head?.map fun ch => ch.login) = some k.login
  | .reconnectProof R1 R2 => k.MatchesReconnect c R1 R2 → k.keyLogin = some k.login
  | .realmList _ _ => True
  | .short => True

instance (c : Crypto) (k : AuthSocket) : DecidablePred (k.Admits c) := fun cmd => by
  cases cmd <;> unfold Admits <;> infer_instance

theorem Recorded.ownVerifier (hr : k.Recorded)
    (h : (k.challenges.head?.map fun ch => ch.login) = some k.login) : k.OwnVerifier := by
  obtain ⟨ch, hch, hlogin⟩ := Option.map_eq_some_iff.mp h
  obtain ⟨rest, hrest⟩ := List.head?_eq_some_iff.mp hch
  rw [OwnVerifier, hrest, List.find?_cons_of_pos (by simp [hlogin]), hr.verifier ch hch, hlogin]

theorem Recorded.ownKey (hr : k.Recorded) (h : k.keyLogin = some k.login) : k.OwnKey := by
  obtain ⟨rest, hrest⟩ := List.head?_eq_some_iff.mp (hr.key _ h)
  rw [OwnKey, hrest, List.find?_cons_of_pos (by simp)]

theorem handleLogonProof_bound {A M1 : List Byte} {loginfail : Option FailedRow} (hk : k.Bound)
    (hr : k.Recorded) (hok : k.Admits c (.logonProof A M1 loginfail)) :
    (k.handleLogonProof c config A M1 loginfail).Bound ∧
      (k.handleLogonProof c config A M1 loginfail).Recorded := by
  unfold handleLogonProof
  by_cases hexp : k.expversion = NO_VALID_EXP_FLAG
  · rw [if_pos hexp]
    exact ⟨hk.keeps close_keeps hk.authed, close_keeps.recorded hr⟩
  rw [if_neg hexp]
  by_cases hA : setBinary A = 0
  · rw [if_pos hA]
    exact ⟨hk.keeps close_keeps hk.authed, close_keeps.recorded hr⟩
  rw [if_neg hA]
  dsimp only
  have hkey : Keeps k { k with K := c.makeKey (setBinary A) k.B k.v k.b, keyLogin := none } :=
    ⟨rfl, rfl, fun _ _ _ _ _ _ h => h, fun _ _ h => h, fun h =>
      ⟨h.verifier, fun _ h => (Option.some_ne_none _ h.symm).elim⟩⟩
  by_cases hM : k.expectedM1 c (setBinary A) = M1
  · rw [if_pos hM]
    have hown : OwnVerifier { k with
        K := c.makeKey (setBinary A) k.B k.v k.b, keyLogin := none } :=
      hr.ownVerifier (hok ⟨hexp, hA, hM⟩)
    simp only [acceptProof, decide_eq_true hown, if_true]
    refine ⟨⟨fun _ => List.mem_cons_self, fun key ip locale os login own h => ?_,
      fun login realms h => ?_⟩, hr.verifier, fun login hlogin => ?_⟩
    · rcases List.mem_append.mp h with h | h
      · exact hk.stored key ip locale os login own h
      · cases List.mem_singleton.mp h
        rfl
    · rcases List.mem_append.mp h with h | h
      · exact List.mem_cons_of_mem _ (hk.served login realms h)
      · cases List.mem_singleton.mp h
    · cases hlogin
      rfl
  · rw [if_neg hM]
    set k₁ : AuthSocket := { k with K := c.makeKey (setBinary A) k.B k.v k.b, keyLogin := none }
      with hk₁
    have hreply : Keeps k₁ (k₁.reply .proofFailed) := by
      refine reply_keeps fun login realms h => ?_
      cases h
    have hcount : Keeps (k₁.reply .proofFailed)
        ((k₁.reply .proofFailed).countFailed config loginfail) ∧
        ((k₁.reply .proofFailed).countFailed config loginfail).login = k.login := countFailed_keeps
    have hall := (hkey.trans hreply).trans hcount.1
    refine ⟨hk.keeps hall fun ha => ?_, hall.recorded hr⟩
    rw [hcount.2]
    exact hk.authed (hall.authed.symm.trans ha)

theorem handleReconnectProof_bound {R1 R2 : List Byte} (hk : k.Bound) (hr : k.Recorded)
    (hok : k.Admits c (.reconnectProof R1 R2)) : (k.handleReconnectProof c R1 R2).Bound ∧
      (k.handleReconnectProof c R1 R2).Recorded := by
  unfold handleReconnectProof
  by_cases hunset : k.login = "" ∨ BigNumber.numBytes k.reconnectProof = 0 ∨
      BigNumber.numBytes k.K = 0
  · rw [if_pos hunset]
    exact ⟨hk, hr⟩
  rw [if_neg hunset]
  by_cases hR : c.makeReconnect k.login R1 k.reconnectProof k.K = R2
  · rw [if_pos hR]
    simp only [not_or] at hunset
    have hown : (k.reply .reconnectProof).OwnKey := hr.ownKey (hok ⟨hunset, hR⟩)
    simp only [hown, if_true]
    refine ⟨⟨fun _ => List.mem_cons_self, hk.stored, fun login realms h => ?_⟩,
      hr.verifier, hr.key⟩
    rcases List.mem_append.mp h with h | h
    · exact List.mem_cons_of_mem _ (hk.served login realms h)
    · cases List.mem_singleton.mp h
  · rw [if_neg hR]
    exact ⟨hk.keeps close_keeps hk.authed, close_keeps.recorded hr⟩

theorem onRead_bound {cmd : AuthCommand} (hk : k.Bound) (hr : k.Recorded) (hok : k.Admits c cmd) :
    (k.onRead c config cmd).Bound ∧ (k.onRead c config cmd).Recorded := by
  unfold onRead
  split
  · exact ⟨hk.keeps close_keeps hk.authed, close_keeps.recorded hr⟩
  · rename_i hstatus
    cases cmd with
    | logonChallenge ch answers =>
      have hkeeps : Keeps k (k.handleLogonChallenge c config ch answers) ∧ _ :=
        handleLogonChallenge_keeps
      refine ⟨hk.keeps hkeeps.1 fun ha => ?_, hkeeps.1.recorded hr⟩
      have hauthed := hkeeps.1.authed.symm.trans ha
      rw [hkeeps.2, hok hauthed]
      exact hk.authed hauthed
    | logonProof A M1 loginfail => exact handleLogonProof_bound hk hr hok
    | reconnectChallenge ch row random =>
      have hkeeps : Keeps k (k.handleReconnectChallenge c ch row random) ∧ _ :=
        handleReconnectChallenge_keeps
      refine ⟨hk.keeps hkeeps.1 fun ha => ?_, hkeeps.1.recorded hr⟩
      have hauthed := hkeeps.1.authed.symm.trans ha
      rw [hkeeps.2, hok hauthed]
      exact hk.authed hauthed
    | reconnectProof R1 R2 => exact handleReconnectProof_bound hk hr hok
    | realmList accountId realms =>
      have hauthed : k.authed = true := by
        simpa [AuthCommand.needsAuthed] using hstatus
      cases accountId with
      | none => exact ⟨hk.keeps close_keeps hk.authed, close_keeps.recorded hr⟩
      | some id =>
        refine ⟨⟨hk.authed, hk.stored, fun login realms h => ?_⟩, hr.verifier, hr.key⟩
        rcases List.mem_append.mp h with h | h
        · exact hk.served login realms h
        · cases List.mem_singleton.mp h
          exact hk.authed hauthed
    | short => exact ⟨hk, hr⟩

theorem accept_bound {build expversion : Nat} : (accept build expversion).Bound :=
  ⟨fun h => Bool.noConfusion h, fun _ _ _ _ _ _ h => (List.not_mem_nil h).elim,
    fun _ _ h => (List.not_mem_nil h).elim⟩

theorem accept_recorded {build expversion : Nat} : (accept build expversion).Recorded :=
  ⟨fun _ h => (Option.not_mem_none _ h).elim, fun _ h => (Option.some_ne_none _ h.symm).elim⟩

/-- Authentication is bound to the account in every state that admitted commands lead to. -/
theorem run_bound {build expversion : Nat} {cmds : List AuthCommand}
    (h : Run (onRead c config) (Admits c) (accept build expversion) cmds k) : k.Bound :=
  (h.invariant (I := fun k => k.Bound ∧ k.Recorded) (fun _ _ hk hok => onRead_bound hk.1 hk.2 hok)
    ⟨accept_bound, accept_recorded⟩).1

def sampleCrypto : Crypto where
  sha := fun bytes => littleEndian SHA_DIGEST_LENGTH (setBinary bytes * 5 + 3)
  modExp := fun base exp => (base * 11 + exp * 7 + 2) % Crypto.N
  setHexStr := fun text => text.toList.foldl (fun n x => n * 16 + x.toNat % 16) 0
  asHexStr := fun n => toString n

def sampleConfig : AuthConfig := ⟨3, 600, true, "10.0.0.1"⟩

def sampleChallenge (login : String) : AuthChallenge := ⟨login, 13623, "niW", "SUne"⟩

def sampleAnswers : LogonAnswers := ⟨false, some ⟨"AB", 1, 0, "", 0, "", ""⟩, none, 21, 33, 5⟩

def sampleLogon (login : String) : List AuthCommand :=
  let k := (accept 0 0).handleLogonChallenge sampleCrypto sampleConfig (sampleChallenge login)
    sampleAnswers
  [.logonChallenge (sampleChallenge login) sampleAnswers,
    .logonProof [9] (k.expectedM1 sampleCrypto (setBinary [9])) none]

theorem run_bound_logon :
    ∃ k, Run (onRead sampleCrypto sampleConfig) (Admits sampleCrypto) (accept 0 0)
        (sampleLogon "A" ++ [.realmList (some 1) [], .reconnectChallenge (sampleChallenge "A")
          (some ⟨"12", 0⟩) 40]) k ∧
      k.authed = true ∧ k.login = "A" ∧ k.Bound := by
  refine ⟨_, Admitted.run (by decide +kernel), by decide +kernel, by decide +kernel, ?_⟩
  exact run_bound (Admitted.run (by decide +kernel))

/-- After a logon to one account a challenge names another, and the realm list is served for it. -/
theorem run_unbound :
    ∃ k, Run (onRead sampleCrypto sampleConfig) (fun _ _ => True) (accept 0 0)
        (sampleLogon "A" ++ [.logonChallenge (sampleChallenge "B") { sampleAnswers with
          account := none }, .realmList (some 2) []]) k ∧
      k.authed = true ∧ k.login = "B" ∧ k.proven = ["A"] ∧ .realmList "B" [] ∈ k.sent ∧
      ¬ k.Bound := by
  refine ⟨_, Run.free _, by decide +kernel, by decide +kernel, by decide +kernel,
    by decide +kernel, fun h => ?_⟩
  exact absurd (h.authed (by decide +kernel)) (by decide +kernel)

/-- Without a challenge that succeeded the expected proof is made from zeros, so that a client can
log in to any account whose challenge it makes fail: here by a system name of five letters. -/
theorem forged_login {build expversion build' : Nat} {login os country : String}
    {answers : LogonAnswers} {A : List Byte} (hbuild : isPreBCAcceptedClientBuild build' = true)
    (hos : os.length > 4) (hA : setBinary A ≠ 0) :
    let k := ((accept build expversion).onRead c config
      (.logonChallenge ⟨login, build', os, country⟩ answers)).onRead c config
        (.logonProof A (c.makeM login 0 (setBinary A) 0 (c.makeKey (setBinary A) 0 0 0)) none)
    k.authed = true ∧ k.login = login ∧ k.proven = [] := by
  have hflags : ∀ x y, expFlags x y true ≠ NO_VALID_EXP_FLAG := by decide
  have hchallenge : (accept build expversion).onRead c config
      (.logonChallenge ⟨login, build', os, country⟩ answers) =
      (accept build expversion).readChallenge ⟨login, build', os, country⟩ := by
    simp only [onRead, AuthCommand.needsAuthed, Bool.false_and, Bool.false_eq_true, if_false,
      handleLogonChallenge, hos, if_true]
  rw [hchallenge]
  set k := (accept build expversion).readChallenge ⟨login, build', os, country⟩ with hk
  have hexp : k.expversion ≠ NO_VALID_EXP_FLAG := by
    simp only [hk, readChallenge, hbuild]
    exact hflags _ _
  have hM : k.expectedM1 c (setBinary A) =
      c.makeM login 0 (setBinary A) 0 (c.makeKey (setBinary A) 0 0 0) := rfl
  have hown : ¬ ({ k with
      K := c.makeKey (setBinary A) k.B k.v k.b, keyLogin := none } : AuthSocket).OwnVerifier :=
    fun h => by cases h
  simp only [onRead, AuthCommand.needsAuthed, Bool.false_and, Bool.false_eq_true, if_false,
    handleLogonProof, hexp, hA, hM, if_true, acceptProof, decide_eq_false hown]
  exact ⟨trivial, rfl, rfl⟩

theorem forged_login_admin :
    let k := ((accept 0 0).onRead sampleCrypto sampleConfig
      (.logonChallenge ⟨"ADMIN", 5875, "niWxx", "SUne"⟩ sampleAnswers)).onRead sampleCrypto sampleConfig
        (.logonProof [9] (sampleCrypto.makeM "ADMIN" 0 (setBinary [9]) 0
          (sampleCrypto.makeKey (setBinary [9]) 0 0 0)) none)
    k.authed = true ∧ k.login = "ADMIN" ∧ k.proven = [] :=
  forged_login (by decide) (by decide) (by decide)

end AuthSocket

end SkyfireBG
