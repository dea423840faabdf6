import SentinelEdge.Domain.Incidents
import SentinelEdge.Foundation.Dict
import SentinelEdge.Foundation.Run

/-! # Local bearer tokens

`AuthManager` keeps the digests of the tokens it issued, each with its principal. A
token is disabled alone or with all tokens of its principal, and never enabled again.
-/

namespace SentinelEdge.Security

open Foundation Domain

variable {P : Platform}

structure AuthenticationError where
  message : String
  deriving DecidableEq, Repr

structure TokenRecord (P : Platform) where
  tokenSha256 : P.Digest
  principal : PrincipalRef
  expiresAt : Option DateTime
  disabled : Bool := false

/-- `_ROLE_PERMISSIONS` -/
def rolePermissions : PrincipalRole → List String
  | .viewer => ["health:read", "incidents:read", "runtime:read", "configuration:read", "notifications:read",
      "sources:read", "reviews:read", "evidence:read", "storage:read"]
  | .operator => ["health:read", "incidents:read", "runtime:read", "configuration:read", "notifications:read",
      "sources:read", "reviews:read", "evidence:read", "evidence:write", "incidents:command", "scenarios:run",
      "incidents:acknowledge", "incidents:snooze", "notifications:dispatch", "reviews:generate", "storage:read",
      "spool:reconcile"]
  | .admin => ["*"]

/-- Not a human. -/
def isMachine (principal : PrincipalRef) : Bool := principal.principalKind ∈ ["service", "device", "system"]

def permissions (principal : PrincipalRef) : List String := principal.roles.flatMap rolePermissions

/-- `authorize` -/
def authorize (principal : PrincipalRef) (permission : String) : Except Error Unit :=
  if isMachine principal ∧ permission = "reviews:generate" then
    .error (.authorizationError "non-human principal cannot exercise operator review authority")
  else if "*" ∉ permissions principal ∧ permission ∉ permissions principal then
    .error (.authorizationError ("permission denied: " ++ permission))
  else .ok ()

/-- `_digest_token` -/
def digestToken (P : Platform) (token : String) : P.Digest := P.sha256Raw token.toByteArray.data.toList

/-- The records stand under their own digests. -/
structure AuthManager (P : Platform) where
  developmentOnly : Bool
  records : Dict P.Digest (TokenRecord P)
  keyed : ∀ digest record, records.get? digest = some record → record.tokenSha256 = digest

namespace AuthManager

theorem keyed_empty (digest : P.Digest) (record : TokenRecord P) :
    (Dict.empty : Dict P.Digest (TokenRecord P)).get? digest = some record → record.tokenSha256 = digest := nofun

def empty (developmentOnly : Bool) : AuthManager P := ⟨developmentOnly, .empty, keyed_empty⟩

theorem keyed_put (self : AuthManager P) (record : TokenRecord P) (digest : P.Digest) (other : TokenRecord P)
    (found : (self.records.insert record.tokenSha256 record).get? digest = some other) : other.tokenSha256 = digest := by
  rw [Dict.get?_insert] at found
  split at found
  · next here =>
      cases found
      exact here.symm
  · exact self.keyed digest other found

/-- `self._records[record.token_sha256] = record` -/
def put (self : AuthManager P) (record : TokenRecord P) : AuthManager P where
  developmentOnly := self.developmentOnly
  records := self.records.insert record.tokenSha256 record
  keyed := keyed_put self record

def addToken (self : AuthManager P) (token : String) (principal : PrincipalRef) (expiresAt : Option DateTime) :
    Except Error (AuthManager P) :=
  if token.length < 16 then .error (.valueError "bearer token must contain at least 16 characters")
  else if (self.records.get? (digestToken P token)).isSome then .error (.valueError "duplicate bearer token")
  else .ok (self.put { tokenSha256 := digestToken P token, principal := principal, expiresAt := expiresAt })

/-- `AuthManager(records, development_only=…)` -/
def init (records : List (String × PrincipalRef)) (developmentOnly : Bool) : Except Error (AuthManager P) :=
  records.foldlM (fun self record => self.addToken record.1 record.2 none) (empty developmentOnly)

/-- `AuthManager.development()` -/
def development : Except Error (AuthManager P) :=
  init [
    ("sentinel-dev-viewer-token", { principalId := "development-viewer", roles := [.viewer] }),
    ("sentinel-dev-operator-token", { principalId := "development-operator", roles := [.operator] }),
    ("sentinel-dev-admin-token", { principalId := "development-admin", roles := [.admin] })] true

def authenticate (self : AuthManager P) (token : Option String) (now : DateTime) :
    Except AuthenticationError PrincipalRef :=
  match token with
  | none | some "" => .error ⟨"missing bearer token"⟩
  | some token =>
      match self.records.get? (digestToken P token) with
      | none => .error ⟨"invalid bearer token"⟩
      | some record =>
          if record.disabled then .error ⟨"bearer token is disabled"⟩
          else if record.expiresAt.any (fun expiresAt => expiresAt ≤ now) then .error ⟨"bearer token is expired"⟩
          else .ok record.principal

def disableToken (self : AuthManager P) (token : String) : Except AuthenticationError (AuthManager P × PrincipalRef) :=
  match self.records.get? (digestToken P token) with
  | none => .error ⟨"invalid bearer token"⟩
  | some record => .ok (self.put { record with disabled := true }, record.principal)

/-- One turn of the loop in `disable_principal`. -/
def disableRecord (principalId : String) (state : AuthManager P × Nat) (record : TokenRecord P) : AuthManager P × Nat :=
  if record.principal.principalId = principalId ∧ record.disabled = false then
    (state.1.put { record with disabled := true }, state.2 + 1)
  else state

/-- The manager after it, with the number of tokens it disabled. -/
def disablePrincipal (self : AuthManager P) (principalId : String) : AuthManager P × Nat :=
  self.records.values.foldl (disableRecord principalId) (self, 0)

/-! ## What a call does to one record -/

@[simp] theorem get?_put (self : AuthManager P) (record : TokenRecord P) (digest : P.Digest) :
    (self.put record).records.get? digest = if digest = record.tokenSha256 then some record else self.records.get? digest :=
  Dict.get?_insert _ _ _ _

theorem authenticate_eq_ok {self : AuthManager P} {token : String} {now : DateTime} {principal : PrincipalRef} :
    self.authenticate (some token) now = .ok principal ↔ token ≠ "" ∧ ∃ record,
      self.records.get? (digestToken P token) = some record ∧ record.disabled = false ∧
        (∀ expiresAt ∈ record.expiresAt, now < expiresAt) ∧ record.principal = principal := by
  by_cases blank : token = ""
  · subst blank
    simp [authenticate]
  · cases found : self.records.get? (digestToken P token) with
    | none => simp [authenticate, found]
    | some record =>
        cases disabled : record.disabled with
        | true => simp [authenticate, found, disabled]
        | false =>
            cases expiry : record.expiresAt with
            | none => simp [authenticate, found, disabled, expiry, blank]
            | some time =>
                by_cases late : time ≤ now
                · simp [authenticate, found, disabled, expiry, late]
                · simp [authenticate, found, disabled, expiry, late, blank, lt_of_not_ge late]

/-- The record as `disable_principal` leaves it. -/
def disabledFor (principalId : String) (record : TokenRecord P) : TokenRecord P :=
  if record.principal.principalId = principalId then { record with disabled := true } else record

theorem get?_foldl_disableRecord (principalId : String) {records : List (TokenRecord P)}
    (distinct : (records.map TokenRecord.tokenSha256).Nodup) (state : AuthManager P × Nat) (digest : P.Digest)
    (present : ∀ record ∈ records, state.1.records.get? record.tokenSha256 = some record) :
    (records.foldl (disableRecord principalId) state).1.records.get? digest =
      if digest ∈ records.map TokenRecord.tokenSha256 then (state.1.records.get? digest).map (disabledFor principalId)
      else state.1.records.get? digest := by
  induction records generalizing state with
  | nil => simp
  | cons record records ih =>
      obtain ⟨fresh, distinct⟩ := List.nodup_cons.mp distinct
      have here := present record List.mem_cons_self
      have first : (disableRecord principalId state record).1.records.get? digest =
          if digest = record.tokenSha256 then (state.1.records.get? digest).map (disabledFor principalId)
          else state.1.records.get? digest := by
        unfold disableRecord
        split
        · next matches_ =>
            rw [get?_put]
            split
            · next same => simp [same, here, disabledFor, matches_.1]
            · rfl
        · next other =>
            split
            · next same =>
                rw [same, here, Option.map_some]
                unfold disabledFor
                split
                · next same =>
                    have already : record.disabled = true := by simpa [same] using other
                    rw [← already]
                · rfl
            · rfl
      have later : ∀ r ∈ records, (disableRecord principalId state record).1.records.get? r.tokenSha256 = some r := by
        intro r member
        have apart : r.tokenSha256 ≠ record.tokenSha256 := fun same => fresh (same ▸ List.mem_map_of_mem member)
        unfold disableRecord
        split
        · rw [get?_put, if_neg apart]
          exact present r (List.mem_cons_of_mem _ member)
        · exact present r (List.mem_cons_of_mem _ member)
      rw [List.foldl_cons, ih distinct _ later, first, List.map_cons]
      by_cases same : digest = record.tokenSha256
      · subst same
        simp [fresh]
      · simp [same]

theorem get?_disablePrincipal (self : AuthManager P) (principalId : String) (digest : P.Digest) :
    (self.disablePrincipal principalId).1.records.get? digest =
      (self.records.get? digest).map (disabledFor principalId) := by
  have keys : self.records.values.map TokenRecord.tokenSha256 = self.records.items.map Prod.fst := by
    rw [Dict.values, List.map_map]
    refine List.map_congr_left fun item member => ?_
    exact self.keyed item.1 item.2 (Dict.get?_eq_some_iff.mpr member)
  have distinct : (self.records.values.map TokenRecord.tokenSha256).Nodup := keys ▸ self.records.nodup
  have present : ∀ record ∈ self.records.values, self.records.get? record.tokenSha256 = some record := by
    intro record member
    obtain ⟨digest, found⟩ := Dict.mem_values_iff.mp member
    rwa [self.keyed digest record found]
  rw [disablePrincipal, get?_foldl_disableRecord principalId distinct _ _ present, keys]
  split
  · rfl
  · next absent =>
      cases found : self.records.get? digest with
      | none => rfl
      | some record => exact absurd (List.mem_map_of_mem (Dict.get?_eq_some_iff.mp found)) absent

end AuthManager

/-! ## Runs -/

inductive SessionOperation where
  | addToken (token : String) (principal : PrincipalRef) (expiresAt : Option DateTime)
  | disableToken (token : String)
  | disablePrincipal (principalId : String)

def sessionStep (self : AuthManager P) : SessionOperation → AuthManager P
  | .addToken token principal expiresAt => (self.addToken token principal expiresAt).toOption.getD self
  | .disableToken token => ((self.disableToken token).toOption.map Prod.fst).getD self
  | .disablePrincipal principalId => (self.disablePrincipal principalId).1

/-- The operation would issue a token with this digest. -/
def Issues (digest : P.Digest) : SessionOperation → Prop
  | .addToken token _ _ => digestToken P token = digest ∧ 16 ≤ token.length
  | _ => False

/-- The operation disables a token of this principal with this digest. -/
def Disables (digest : P.Digest) (principalId : String) : SessionOperation → Prop
  | .addToken _ _ _ => False
  | .disableToken token => digestToken P token = digest
  | .disablePrincipal id => id = principalId

variable {self : AuthManager P} {digest : P.Digest}

theorem sessionStep_unissued (absent : self.records.get? digest = none) {op : SessionOperation} (other : ¬ Issues digest op) :
    (sessionStep self op).records.get? digest = none := by
  cases op with
  | addToken token principal expiresAt =>
      unfold sessionStep AuthManager.addToken
      dsimp only
      split
      · exact absent
      · next long =>
          split
          · exact absent
          · have apart : digest ≠ digestToken P token := fun same => other ⟨same.symm, not_lt.mp long⟩
            show (AuthManager.put _ _).records.get? digest = none
            rw [AuthManager.get?_put, if_neg apart, absent]
  | disableToken token =>
      unfold sessionStep AuthManager.disableToken
      dsimp only
      split
      · exact absent
      · next record found =>
          have apart : digest ≠ digestToken P token := by
            rintro rfl
            rw [absent] at found
            cases found
          show (AuthManager.put _ _).records.get? digest = none
          rw [AuthManager.get?_put, self.keyed _ record found, if_neg apart, absent]
  | disablePrincipal principalId => rw [sessionStep, AuthManager.get?_disablePrincipal, absent, Option.map_none]

theorem sessionStep_issued (absent : self.records.get? digest = none) {token : String} {principal : PrincipalRef}
    {expiresAt : Option DateTime} (issues : Issues digest (.addToken token principal expiresAt)) :
    (sessionStep self (.addToken token principal expiresAt)).records.get? digest =
      some { tokenSha256 := digest, principal := principal, expiresAt := expiresAt } := by
  obtain ⟨rfl, long⟩ := issues
  simp [sessionStep, AuthManager.addToken, not_lt.mpr long, absent, Except.toOption]

/-- A record keeps what it was issued with, and stays disabled once it is. -/
theorem sessionStep_record {record : TokenRecord P} (found : self.records.get? digest = some record) (op : SessionOperation) :
    ∃ disabled, (sessionStep self op).records.get? digest = some { record with disabled := disabled } ∧
      (disabled = false ↔ record.disabled = false ∧ ¬ Disables digest record.principal.principalId op) := by
  cases op with
  | addToken token principal expiresAt =>
      refine ⟨record.disabled, ?_, by simp [Disables]⟩
      unfold sessionStep AuthManager.addToken
      dsimp only
      split
      · exact found
      · split
        · exact found
        · next free =>
            have apart : digest ≠ digestToken P token := by
              rintro rfl
              simp [found] at free
            show (AuthManager.put _ _).records.get? digest = _
            rw [AuthManager.get?_put, if_neg apart, found]
  | disableToken token =>
      by_cases same : digestToken P token = digest
      · subst same
        refine ⟨true, ?_, by simp [Disables]⟩
        simp [sessionStep, AuthManager.disableToken, found, Except.toOption, self.keyed _ record found]
      · refine ⟨record.disabled, ?_, by simp [Disables, same]⟩
        unfold sessionStep AuthManager.disableToken
        dsimp only
        split
        · exact found
        · next other there =>
            show (AuthManager.put _ _).records.get? digest = _
            rw [AuthManager.get?_put, self.keyed _ other there, if_neg (Ne.symm same), found]
  | disablePrincipal principalId =>
      rw [sessionStep, AuthManager.get?_disablePrincipal, found, Option.map_some, AuthManager.disabledFor]
      by_cases named : record.principal.principalId = principalId
      · exact ⟨true, by rw [if_pos named], by simp [Disables, named]⟩
      · exact ⟨record.disabled, by rw [if_neg named], by simp [Disables, Ne.symm named]⟩

theorem run_record {record : TokenRecord P} (found : self.records.get? digest = some record) (ops : List SessionOperation) :
    ∃ disabled, (run sessionStep self ops).records.get? digest = some { record with disabled := disabled } ∧
      (disabled = false ↔
        record.disabled = false ∧ ∀ op ∈ ops, ¬ Disables digest record.principal.principalId op) := by
  induction ops generalizing self record with
  | nil => exact ⟨record.disabled, found, by simp⟩
  | cons op ops ih =>
      obtain ⟨first, there, stays⟩ := sessionStep_record found op
      obtain ⟨last, later, lasting⟩ := ih there
      exact ⟨last, later, by rw [lasting, stays, List.forall_mem_cons, and_assoc]⟩

/-- A record that is in force at the end of a run was issued in it, first under its
    digest, and nothing disabled it since. -/
theorem run_inForce_iff (absent : self.records.get? digest = none) (ops : List SessionOperation) {record : TokenRecord P} :
    (run sessionStep self ops).records.get? digest = some record ∧ record.disabled = false ↔
      ∃ before token later, ops = before ++ .addToken token record.principal record.expiresAt :: later ∧
        Issues digest (.addToken token record.principal record.expiresAt) ∧ (∀ op ∈ before, ¬ Issues digest op) ∧
        (∀ op ∈ later, ¬ Disables digest record.principal.principalId op) ∧
        record = { tokenSha256 := digest, principal := record.principal, expiresAt := record.expiresAt } := by
  induction ops generalizing self with
  | nil =>
      refine iff_of_false ?_ (by simp)
      rintro ⟨found, -⟩
      rw [show run sessionStep self [] = self from rfl, absent] at found
      cases found
  | cons op ops ih =>
      by_cases issues : Issues digest op
      · cases op with
        | disableToken token => exact issues.elim
        | disablePrincipal principalId => exact issues.elim
        | addToken token principal expiresAt =>
            obtain ⟨disabled, there, lasting⟩ := run_record (sessionStep_issued absent issues) ops
            rw [show run sessionStep self (.addToken token principal expiresAt :: ops) =
              run sessionStep (sessionStep self (.addToken token principal expiresAt)) ops from rfl, there]
            constructor
            · rintro ⟨same, inForce⟩
              obtain rfl := Option.some.inj same
              exact ⟨[], token, ops, rfl, issues, nofun, (lasting.mp inForce).2, by rw [show disabled = false from inForce]⟩
            · rintro ⟨before, token', later, split_, -, first, undisturbed, shape⟩
              cases before with
              | cons op before =>
                  obtain ⟨rfl, -⟩ := List.cons.inj split_
                  exact absurd issues (first _ List.mem_cons_self)
              | nil =>
                  obtain ⟨⟨rfl, rfl, rfl⟩, rfl⟩ : (token = token' ∧ principal = record.principal ∧
                    expiresAt = record.expiresAt) ∧ ops = later := by simpa using split_
                  have inForce := lasting.mpr ⟨rfl, undisturbed⟩
                  subst inForce
                  exact ⟨congrArg some shape.symm, by rw [shape]⟩
      · have still := sessionStep_unissued absent issues
        rw [show run sessionStep self (op :: ops) = run sessionStep (sessionStep self op) ops from rfl, ih still]
        constructor
        · rintro ⟨before, token, later, rfl, issued, first, rest⟩
          exact ⟨op :: before, token, later, rfl, issued, List.forall_mem_cons.mpr ⟨issues, first⟩, rest⟩
        · rintro ⟨before, token, later, split_, issued, first, rest⟩
          cases before with
          | nil =>
              obtain ⟨rfl, -⟩ := List.cons.inj split_
              exact absurd issued issues
          | cons other before =>
              obtain ⟨rfl, rfl⟩ := List.cons.inj split_
              exact ⟨before, token, later, rfl, issued, (List.forall_mem_cons.mp first).2, rest⟩

/-- A token authenticates as a principal exactly when the first token issued under its
    digest was that principal's, neither it nor its principal was disabled since, and it
    has not expired. -/
theorem token_authenticates_iff (P : Platform) (developmentOnly : Bool) (ops : List SessionOperation) (token : String)
    (now : DateTime) (principal : PrincipalRef) :
    (run sessionStep (AuthManager.empty (P := P) developmentOnly) ops).authenticate (some token) now = .ok principal ↔
      token ≠ "" ∧ ∃ before issued expiresAt later, ops = before ++ .addToken issued principal expiresAt :: later ∧
        digestToken P issued = digestToken P token ∧ 16 ≤ issued.length ∧
        (∀ op ∈ before, ¬ Issues (digestToken P token) op) ∧
        (∀ op ∈ later, ¬ Disables (digestToken P token) principal.principalId op) ∧
        ∀ time ∈ expiresAt, now < time := by
  have absent : (AuthManager.empty (P := P) developmentOnly).records.get? (digestToken P token) = none := rfl
  rw [AuthManager.authenticate_eq_ok]
  refine and_congr_right fun _ => ?_
  constructor
  · rintro ⟨record, found, inForce, unexpired, rfl⟩
    obtain ⟨before, issued, later, split_, ⟨same, long⟩, first, undisturbed, -⟩ :=
      (run_inForce_iff absent ops).mp ⟨found, inForce⟩
    exact ⟨before, issued, record.expiresAt, later, split_, same, long, first, undisturbed, unexpired⟩
  · rintro ⟨before, issued, expiresAt, later, split_, same, long, first, undisturbed, unexpired⟩
    let record : TokenRecord P := { tokenSha256 := digestToken P token, principal := principal, expiresAt := expiresAt }
    have kept : _ ∧ record.disabled = false := (run_inForce_iff absent ops).mpr
      ⟨before, issued, later, split_, ⟨same, long⟩, first, undisturbed, rfl⟩
    exact ⟨record, kept.1, kept.2, unexpired, rfl⟩

end SentinelEdge.Security
