import Crewos.Documents.Processor
import Crewos.Foundation.Knowledge

/-! # Authentication and authorization

A request presents a tenant and a token; the grants of a tenant are the
server's. Every protected operation runs behind one policy decision. -/

namespace Crewos.Api

open Foundation

/-- `HTTPException` -/
structure HttpException where
  status : Nat
  detail : String
  deriving DecidableEq, Repr

/-- A strict string, stripped and not empty. -/
structure Permission where
  value : String
  stripped : Text.strip Text.whiteSpace value = value
  nonempty : value ≠ ""
  deriving Repr

structure TenantSettings where
  tenantApiKeys : String → Option String
  tenantPermissions : String → Option (List Permission)
  celeryQueueName : String

/-- The tenant of a call is a tenant identifier. -/
structure ToolExecutionContext where
  tenantId : String
  permissions : List Permission
  pattern : Documents.tenantPattern tenantId = true

namespace TenantSettings

variable (settings : TenantSettings)

/-- `tenant_queue`; nothing when it raises. -/
def tenantQueue (tenantId : String) : Option String :=
  if Documents.tenantPattern tenantId then some (settings.celeryQueueName ++ "." ++ tenantId)
  else none

def getTenantId (tenantHeader : String) (credentials : Option String) :
    Except HttpException String := do
  let some token := credentials | throw ⟨401, "Bearer token required"⟩
  let some expected := settings.tenantApiKeys tenantHeader | throw ⟨403, "Tenant access denied"⟩
  raiseWhen (expected = "" ∨ token ≠ expected) ⟨403, "Tenant access denied"⟩
  let some _ := settings.tenantQueue tenantHeader | throw ⟨403, "Tenant access denied"⟩
  return tenantHeader

/-- The context of a request; a tenant that was not authenticated has none. -/
def getToolExecutionContext (tenantHeader : String) (credentials : Option String) :
    Except HttpException ToolExecutionContext := do
  let tenantId ← settings.getTenantId tenantHeader credentials
  if pattern : Documents.tenantPattern tenantId = true then
    return { tenantId, permissions := (settings.tenantPermissions tenantId).getD [], pattern }
  else
    throw ⟨500, "Internal Server Error"⟩

/-- The grants a worker looks up again: none without a configured token. -/
def serverGrants (tenantId : String) : List Permission :=
  match settings.tenantApiKeys tenantId with
  | some token => if token = "" then [] else (settings.tenantPermissions tenantId).getD []
  | none => []

def Grants (tenantId action : String) : Prop :=
  ∃ permission ∈ settings.serverGrants tenantId, permission.value = action

/-- The token is the configured one of a tenant with a well-formed name. -/
structure Authenticated (tenantHeader : String) (credentials : Option String)
    (tenantId : String) : Prop where
  tenant : tenantId = tenantHeader
  pattern : Documents.tenantPattern tenantId = true
  token : ∃ token, credentials = some token ∧ token ≠ "" ∧
    settings.tenantApiKeys tenantId = some token

variable {settings} {tenantHeader tenantId : String} {credentials : Option String}

theorem getTenantId_ok : settings.getTenantId tenantHeader credentials = .ok tenantId ↔
    settings.Authenticated tenantHeader credentials tenantId := by
  constructor
  · intro ok
    unfold getTenantId at ok
    cases credentials with
    | none => cases ok
    | some token =>
        cases key : settings.tenantApiKeys tenantHeader with
        | none => simp [key, throw, throwThe, MonadExceptOf.throw] at ok
        | some expected =>
            simp only [key, Outcome.bind_eq_ok, raiseWhen_eq_ok] at ok
            obtain ⟨_, matching, ok⟩ := ok
            push Not at matching
            by_cases pattern : Documents.tenantPattern tenantHeader = true
            · simp only [tenantQueue, pattern, if_true] at ok
              cases ok
              exact ⟨rfl, pattern, token, rfl, matching.2 ▸ matching.1, matching.2 ▸ key⟩
            · simp [tenantQueue, pattern, throw, throwThe, MonadExceptOf.throw] at ok
  · rintro ⟨rfl, pattern, token, rfl, nonempty, key⟩
    simp [getTenantId, key, tenantQueue, pattern, nonempty, raiseWhen, pure, Except.pure, bind,
      Except.bind]

theorem getTenantId_error {exception : HttpException}
    (denied : settings.getTenantId tenantHeader credentials = .error exception) :
    exception = ⟨401, "Bearer token required"⟩ ∨ exception = ⟨403, "Tenant access denied"⟩ := by
  unfold getTenantId at denied
  cases credentials with
  | none => cases denied; exact .inl rfl
  | some token =>
      cases key : settings.tenantApiKeys tenantHeader with
      | none =>
          simp only [key] at denied
          cases denied
          exact .inr rfl
      | some expected =>
          simp only [key, Outcome.bind_eq_error, raiseWhen_eq_error] at denied
          rcases denied with ⟨_, rfl⟩ | ⟨_, _, denied⟩
          · exact .inr rfl
          · by_cases pattern : Documents.tenantPattern tenantHeader = true
            · simp only [tenantQueue, pattern, if_true] at denied
              cases denied
            · simp only [tenantQueue, pattern] at denied
              cases denied
              exact .inr rfl

theorem getToolExecutionContext_ok {context : ToolExecutionContext}
    (ok : settings.getToolExecutionContext tenantHeader credentials = .ok context) :
    settings.Authenticated tenantHeader credentials context.tenantId ∧
      context.permissions = settings.serverGrants context.tenantId := by
  simp only [getToolExecutionContext, Outcome.bind_eq_ok] at ok
  obtain ⟨tenantId, authenticates, ok⟩ := ok
  have authenticated := getTenantId_ok.mp authenticates
  rw [dif_pos authenticated.pattern] at ok
  cases ok
  obtain ⟨token, _, nonempty, key⟩ := authenticated.token
  exact ⟨authenticated, by simp [serverGrants, key, nonempty]⟩

theorem getToolExecutionContext_error {exception : HttpException}
    (denied : settings.getToolExecutionContext tenantHeader credentials = .error exception) :
    exception = ⟨401, "Bearer token required"⟩ ∨ exception = ⟨403, "Tenant access denied"⟩ := by
  simp only [getToolExecutionContext, Outcome.bind_eq_error] at denied
  rcases denied with denied | ⟨tenantId, authenticates, denied⟩
  · exact getTenantId_error denied
  · rw [dif_pos (getTenantId_ok.mp authenticates).pattern] at denied
    cases denied

end TenantSettings

/-! ## The policy -/

structure PolicyDecision where
  effect : Documents.PolicyEffect
  reasonCode : String
  policyVersion : String
  deriving DecidableEq, Repr

/-- `PermissionPolicyService.evaluate` -/
def permissionPolicy (context : ToolExecutionContext) (action : String) : PolicyDecision :=
  if ∃ permission ∈ context.permissions, permission.value = action then
    { effect := .allow, reasonCode := "permission_granted", policyVersion := "1" }
  else
    { effect := .deny, reasonCode := "permission_missing", policyVersion := "1" }

theorem permissionPolicy_allow {context : ToolExecutionContext} {action : String} :
    (permissionPolicy context action).effect = .allow ↔
      ∃ permission ∈ context.permissions, permission.value = action := by
  unfold permissionPolicy
  split <;> simp_all

/-- What an executor is built from: a policy service, a logger, and the exceptions
of its programs. -/
structure PolicyEnforcedExecutor {Request : Type} (Reply : Request → Type) (Error : Type) where
  evaluate : ToolExecutionContext → String → Exec Reply Error Unit PolicyDecision
  log : Exec Reply Error Unit Unit
  isException : Error → Bool
  policyDenied : PolicyDecision → Error
  policyEvaluation : Error

namespace PolicyEnforcedExecutor

variable {Request : Type} {Reply : Request → Type} {Error Ghost α : Type}

def execute (executor : PolicyEnforcedExecutor Reply Error) (context : ToolExecutionContext)
    (action : String) (operation : Exec Reply Error Unit α) : Exec Reply Error Unit α := do
  let decision ← tryCatch (executor.evaluate context action) fun error =>
    if executor.isException error then do
      executor.log
      throw executor.policyEvaluation
    else throw error
  executor.log
  if decision.effect ≠ .allow then
    throw (executor.policyDenied decision)
  else
    operation

variable [Preorder Ghost] {monitor : Monitor Reply Ghost} {raises : Error → Prop} {known : Ghost}
  {executor : PolicyEnforcedExecutor Reply Error} {context : ToolExecutionContext}
  {action : String} {operation : Exec Reply Error Unit α} {result : α → Ghost → Prop}

theorem learns_execute
    (policy : ∀ context action, executor.evaluate context action =
      pure (permissionPolicy context action))
    (logs : Exec.Learns monitor raises known executor.log fun _ _ => True)
    (denied : (permissionPolicy context action).effect ≠ .allow →
      raises (executor.policyDenied (permissionPolicy context action)))
    (allowed : (∃ permission ∈ context.permissions, permission.value = action) →
      ∀ later, known ≤ later → Exec.Learns monitor raises later operation result) :
    Exec.Learns monitor raises known (executor.execute context action operation) result := by
  unfold execute
  rw [policy]
  have decides : Exec.Learns monitor raises known
      (tryCatch (pure (permissionPolicy context action)) fun error =>
        if executor.isException error then do
          executor.log
          throw executor.policyEvaluation
        else throw error : Exec Reply Error Unit PolicyDecision)
      fun decision later => decision = permissionPolicy context action ∧ later = known :=
    ⟨fun _ => ⟨le_refl _, rfl, rfl⟩⟩
  refine decides.bind ?_
  rintro _ _ - ⟨rfl, rfl⟩
  refine logs.bind fun _ later grown _ => Exec.Learns.ite ?_ ?_
  · exact fun refused => .throw (denied refused)
  · exact fun granted => allowed (permissionPolicy_allow.mp (not_not.mp granted)) later grown

end PolicyEnforcedExecutor

end Crewos.Api
