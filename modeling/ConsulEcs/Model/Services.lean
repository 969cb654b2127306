import Mathlib.Data.String.Basic
import Mathlib.Data.List.Sort
import ConsulEcs.Model.Json

/-! # Secrets Manager and Consul's ACL store as the controller sees them

The world is the secret store (secret name to secret string) and the live ACL tokens, kept in
the order of Consul's accessor index. Every external call the controller makes goes through
`call`: the environment may fail it with an error of its choosing, and otherwise the service
answers from the world. Consul generates the identifiers of a created token; the environment
proposes them and the server keeps its accessor IDs distinct and nonempty, so the token store's
invariant is a field of `World` and no operation can break it.
-/

namespace ConsulEcs.Controller

/-- `api.ACLServiceIdentity`; its datacenters are never set by the controller. -/
structure ACLServiceIdentity where
  serviceName : String
deriving DecidableEq, Repr

/-- `api.ACLToken`, with the fields the controller writes or reads. -/
structure ACLToken where
  accessorID : String
  secretID : String
  description : String
  serviceIdentities : List ACLServiceIdentity
deriving DecidableEq, Repr

/-- A token the controller owns for `family`: its only service identity is `family`. -/
def ACLToken.BoundTo (family : String) (token : ACLToken) : Prop :=
  token.serviceIdentities = [⟨family⟩]

instance (family : String) (token : ACLToken) : Decidable (token.BoundTo family) :=
  inferInstanceAs (Decidable (_ = _))

/-- Consul's live tokens in accessor order, each accessor ID nonempty. -/
structure World where
  secrets : String → Option String
  tokens : List ACLToken
  sorted : tokens.Pairwise fun t u => t.accessorID < u.accessorID
  accessor_ne : ∀ token ∈ tokens, token.accessorID ≠ ""

/-- An external call, with the arguments the controller passes. -/
inductive Call where
  | getSecretValue (secretId : String)
  | updateSecret (secretId secretString : String)
  | tokenList
  | tokenRead (accessorID : String)
  | tokenCreate (token : ACLToken)
  | tokenDelete (accessorID : String)
deriving DecidableEq, Repr

/-- The environment of one operation: which calls fail and with what error, and the
identifiers Consul proposes for a token it creates. -/
structure Env where
  fault : Call → Option String
  accessorID : String
  secretID : String

/-- The environment in which no call fails. -/
def Env.reliable (accessorID secretID : String) : Env := ⟨fun _ => none, accessorID, secretID⟩

/-- What a computation leaves: its value, the world after it, and its calls in order. -/
structure Step (α : Type) where
  value : α
  world : World
  calls : List Call

/-- A computation against the external services. -/
structure Ext (α : Type) where
  run : Env → World → Step α

instance : Monad Ext where
  pure a := ⟨fun _ world => ⟨a, world, []⟩⟩
  bind m k := ⟨fun env world =>
    let first := m.run env world
    let second := (k first.value).run env first.world
    ⟨second.value, second.world, first.calls ++ second.calls⟩⟩

@[simp] theorem Ext.run_pure {α : Type} (a : α) (env : Env) (world : World) :
    (pure a : Ext α).run env world = ⟨a, world, []⟩ := rfl

@[simp] theorem Ext.run_bind {α β : Type} (m : Ext α) (k : α → Ext β) (env : Env) (world : World) :
    (m >>= k).run env world =
      ⟨((k (m.run env world).value).run env (m.run env world).world).value,
        ((k (m.run env world).value).run env (m.run env world).world).world,
        (m.run env world).calls ++ ((k (m.run env world).value).run env (m.run env world).world).calls⟩ :=
  rfl

/-! ## The services -/

/-- Secrets Manager's error for a secret that does not exist. -/
def secretNotFound : String :=
  "ResourceNotFoundException: Secrets Manager can't find the specified secret."

/-- The API client's error for an accessor ID Consul does not hold. -/
def aclNotFound : String := "Unexpected response code: 403 (ACL not found)"

/-- One external call: it fails when the environment says so and is otherwise served. -/
def call {α : Type} (request : Call) (serve : Env → World → Except String α × World) :
    Ext (Except String α) := ⟨fun env world =>
  match env.fault request with
  | some err => ⟨.error err, world, [request]⟩
  | none => ⟨(serve env world).1, (serve env world).2, [request]⟩⟩

def World.putSecret (world : World) (secretId secretString : String) : World :=
  { world with secrets := Function.update world.secrets secretId (some secretString) }

/-- An accessor ID longer than every live one. -/
def unusedAccessorID (tokens : List ACLToken) : String :=
  String.mk (List.replicate ((tokens.map fun t => t.accessorID.length).foldr max 0 + 1) '0')

/-- The accessor ID Consul gives a new token: the proposed one unless it is empty or taken. -/
def assignAccessorID (proposed : String) (tokens : List ACLToken) : String :=
  if proposed ≠ "" ∧ proposed ∉ tokens.map (·.accessorID) then proposed else unusedAccessorID tokens

/-- The token store in accessor order, accessor IDs compared character by character. -/
def insertToken (token : ACLToken) (tokens : List ACLToken) : List ACLToken :=
  tokens.orderedInsert (fun t u => t.accessorID.toList ≤ u.accessorID.toList) token

theorem length_le_foldr_max (tokens : List ACLToken) :
    ∀ token ∈ tokens, token.accessorID.length ≤ (tokens.map fun t => t.accessorID.length).foldr max 0 := by
  induction tokens with
  | nil => simp
  | cons head rest ih =>
    intro token member
    rcases List.mem_cons.mp member with rfl | inRest
    · simp
    · exact le_max_of_le_right (ih token inRest)

theorem unusedAccessorID_fresh (tokens : List ACLToken) :
    unusedAccessorID tokens ∉ tokens.map (·.accessorID) := by
  intro taken
  obtain ⟨token, member, same⟩ := List.mem_map.mp taken
  have bound := length_le_foldr_max tokens token member
  rw [same] at bound
  simp only [unusedAccessorID, String.length, List.length_replicate] at bound
  omega

theorem assignAccessorID_fresh (proposed : String) (tokens : List ACLToken) :
    assignAccessorID proposed tokens ∉ tokens.map (·.accessorID) := by
  unfold assignAccessorID
  split_ifs with accepted
  · exact accepted.2
  · exact unusedAccessorID_fresh tokens

theorem assignAccessorID_ne (proposed : String) (tokens : List ACLToken) :
    assignAccessorID proposed tokens ≠ "" := by
  unfold assignAccessorID
  split_ifs with accepted
  · exact accepted.1
  · simp [unusedAccessorID, String.ext_iff]

theorem mem_insertToken {token t : ACLToken} {tokens : List ACLToken} :
    t ∈ insertToken token tokens ↔ t = token ∨ t ∈ tokens :=
  List.mem_orderedInsert _

theorem insertToken_sorted {token : ACLToken} {tokens : List ACLToken}
    (sorted : tokens.Pairwise fun t u => t.accessorID < u.accessorID)
    (fresh : token.accessorID ∉ tokens.map (·.accessorID)) :
    (insertToken token tokens).Pairwise fun t u => t.accessorID < u.accessorID := by
  induction tokens with
  | nil => simp [insertToken]
  | cons head rest ih =>
    have distinct : token.accessorID ≠ head.accessorID := fun same => fresh (by simp [same])
    obtain ⟨below, sortedRest⟩ := List.pairwise_cons.mp sorted
    simp only [insertToken, List.orderedInsert]
    split_ifs with before
    · have first : token.accessorID < head.accessorID :=
        lt_of_le_of_ne (String.le_iff_toList_le.mpr before) distinct
      exact List.Pairwise.cons (fun t member => by
        rcases List.mem_cons.mp member with rfl | inRest
        · exact first
        · exact first.trans (below t inRest)) sorted
    · have after : head.accessorID < token.accessorID :=
        lt_of_not_le fun below => before (String.le_iff_toList_le.mp below)
      refine List.Pairwise.cons (fun t member => ?_) (ih sortedRest (fun taken => fresh (by simp_all)))
      rcases mem_insertToken.mp member with rfl | inRest
      · exact after
      · exact below t inRest

/-- The token Consul stores for a create request, with the identifiers it assigns. -/
def World.createToken (world : World) (env : Env) (request : ACLToken) : ACLToken × World :=
  let token := { request with
    accessorID := assignAccessorID env.accessorID world.tokens, secretID := env.secretID }
  (token, { world with
    tokens := insertToken token world.tokens
    sorted := insertToken_sorted world.sorted (assignAccessorID_fresh _ _)
    accessor_ne := fun t member => by
      rcases mem_insertToken.mp member with rfl | old
      · exact assignAccessorID_ne _ _
      · exact world.accessor_ne t old })

def World.deleteToken (world : World) (accessorID : String) : World :=
  { world with
    tokens := world.tokens.filter fun t => t.accessorID ≠ accessorID
    sorted := world.sorted.sublist (List.filter_sublist _)
    accessor_ne := fun t member => world.accessor_ne t (List.mem_of_mem_filter member) }

/-- `SecretsManager.GetSecretValue`. -/
def getSecretValue (secretId : String) : Ext (Except String String) :=
  call (.getSecretValue secretId) fun _ world =>
    (match world.secrets secretId with
      | some secretString => .ok secretString
      | none => .error secretNotFound, world)

/-- `SecretsManager.UpdateSecret`, which needs the secret to exist. -/
def updateSecret (secretId secretString : String) : Ext (Except String Unit) :=
  call (.updateSecret secretId secretString) fun _ world =>
    match world.secrets secretId with
    | some _ => (.ok (), world.putSecret secretId secretString)
    | none => (.error secretNotFound, world)

/-- `ACL().TokenList`: the accessor IDs of the live tokens, in index order. -/
def tokenList : Ext (Except String (List String)) :=
  call .tokenList fun _ world => (.ok (world.tokens.map (·.accessorID)), world)

/-- `ACL().TokenRead`. -/
def tokenRead (accessorID : String) : Ext (Except String ACLToken) :=
  call (.tokenRead accessorID) fun _ world =>
    (match world.tokens.find? (·.accessorID = accessorID) with
      | some token => .ok token
      | none => .error aclNotFound, world)

/-- A character Consul allows at either end of a service-identity name: a lower-case letter or a
digit. -/
def identityEndChar (c : Char) : Bool := ('a' ≤ c && c ≤ 'z') || ('0' ≤ c && c ≤ '9')

/-- A character Consul allows inside a service-identity name. -/
def identityChar (c : Char) : Bool := identityEndChar c || c = '-' || c = '_'

/-- Consul's check of a service-identity name, `^[a-z0-9]([a-z0-9-_]*[a-z0-9])?$`: the
repository's comment on `constructServiceName` says service identities must be lower case. -/
def isValidServiceIdentityName (name : String) : Bool :=
  match name.data with
  | [] => false
  | first :: rest => identityEndChar first && rest.all identityChar && rest.getLast?.all identityEndChar

/-- Consul's error for a create request with a service identity whose name it rejects. -/
def invalidServiceIdentity (name : String) : String :=
  "Unexpected response code: 500 (Service identity \"" ++ name ++ "\" has an invalid name)"

/-- Consul's answer to a create request it rejects: the error for its first service identity
whose name fails the check. -/
def tokenCreateRejection (request : ACLToken) : Option String :=
  (request.serviceIdentities.find? fun identity => !isValidServiceIdentityName identity.serviceName).map
    fun identity => invalidServiceIdentity identity.serviceName

/-- `ACL().TokenCreate`: Consul rejects a request naming a service identity it does not accept,
and otherwise stores the token. -/
def tokenCreate (request : ACLToken) : Ext (Except String ACLToken) :=
  call (.tokenCreate request) fun env world =>
    match tokenCreateRejection request with
    | some err => (.error err, world)
    | none => (.ok (world.createToken env request).1, (world.createToken env request).2)

/-- `ACL().TokenDelete`; deleting an accessor ID Consul does not hold succeeds. -/
def tokenDelete (accessorID : String) : Ext (Except String Unit) :=
  call (.tokenDelete accessorID) fun _ world => (.ok (), world.deleteToken accessorID)

/-! ## What each call does -/

section Calls

variable {α : Type} {env : Env} {world : World}

theorem call_run (request : Call) (serve : Env → World → Except String α × World) :
    (call request serve).run env world =
      match env.fault request with
      | some err => ⟨.error err, world, [request]⟩
      | none => ⟨(serve env world).1, (serve env world).2, [request]⟩ := rfl

@[simp] theorem call_calls (request : Call) (serve : Env → World → Except String α × World) :
    ((call request serve).run env world).calls = [request] := by
  rw [call_run]; split <;> rfl

/-- A call that only reads leaves the world as it was, failed or not. -/
theorem call_world_of_reads {request : Call} {serve : Env → World → Except String α × World}
    (reads : ∀ env world, (serve env world).2 = world) : ((call request serve).run env world).world = world := by
  rw [call_run]; split
  · rfl
  · exact reads env world

@[simp] theorem getSecretValue_world (secretId : String) :
    ((getSecretValue secretId).run env world).world = world := call_world_of_reads fun _ _ => rfl

@[simp] theorem tokenRead_world (accessorID : String) :
    ((tokenRead accessorID).run env world).world = world := call_world_of_reads fun _ _ => rfl

@[simp] theorem tokenList_world : (tokenList.run env world).world = world := call_world_of_reads fun _ _ => rfl

@[simp] theorem getSecretValue_calls (secretId : String) :
    ((getSecretValue secretId).run env world).calls = [.getSecretValue secretId] := call_calls _ _

@[simp] theorem tokenRead_calls (accessorID : String) :
    ((tokenRead accessorID).run env world).calls = [.tokenRead accessorID] := call_calls _ _

@[simp] theorem tokenList_calls : (tokenList.run env world).calls = [.tokenList] := call_calls _ _

theorem getSecretValue_value (secretId : String) :
    ((getSecretValue secretId).run env world).value =
      match env.fault (.getSecretValue secretId) with
      | some err => .error err
      | none => match world.secrets secretId with
        | some secretString => .ok secretString
        | none => .error secretNotFound := by
  rw [getSecretValue, call_run]; split <;> rfl

theorem tokenRead_value (accessorID : String) :
    ((tokenRead accessorID).run env world).value =
      match env.fault (.tokenRead accessorID) with
      | some err => .error err
      | none => match world.tokens.find? (·.accessorID = accessorID) with
        | some token => .ok token
        | none => .error aclNotFound := by
  rw [tokenRead, call_run]; split <;> rfl

/-- A successful `TokenRead` returns a live token with the accessor ID asked for. -/
theorem live_of_tokenRead_ok {accessorID : String} {token : ACLToken}
    (read : ((tokenRead accessorID).run env world).value = .ok token) :
    token ∈ world.tokens ∧ token.accessorID = accessorID := by
  rw [tokenRead_value] at read
  split at read
  · cases read
  · split at read
    · rename_i found
      cases read
      exact ⟨List.mem_of_find?_eq_some found, by simpa using List.find?_some found⟩
    · cases read

theorem tokenList_value :
    (tokenList.run env world).value =
      match env.fault .tokenList with
      | some err => .error err
      | none => .ok (world.tokens.map (·.accessorID)) := by
  rw [tokenList, call_run]; split <;> rfl

theorem updateSecret_run (secretId secretString : String) :
    (updateSecret secretId secretString).run env world =
      match env.fault (.updateSecret secretId secretString), world.secrets secretId with
      | some err, _ => ⟨.error err, world, [.updateSecret secretId secretString]⟩
      | none, some _ => ⟨.ok (), world.putSecret secretId secretString, [.updateSecret secretId secretString]⟩
      | none, none => ⟨.error secretNotFound, world, [.updateSecret secretId secretString]⟩ := by
  rw [updateSecret, call_run]
  rcases env.fault (.updateSecret secretId secretString) with _ | err
  · rcases world.secrets secretId with _ | _ <;> rfl
  · rfl

theorem tokenCreate_run (request : ACLToken) :
    (tokenCreate request).run env world =
      match env.fault (.tokenCreate request), tokenCreateRejection request with
      | some err, _ => ⟨.error err, world, [.tokenCreate request]⟩
      | none, some err => ⟨.error err, world, [.tokenCreate request]⟩
      | none, none => ⟨.ok (world.createToken env request).1, (world.createToken env request).2,
          [.tokenCreate request]⟩ := by
  rw [tokenCreate, call_run]
  rcases env.fault (.tokenCreate request) with _ | err
  · rcases tokenCreateRejection request with _ | err <;> rfl
  · rfl

theorem tokenDelete_run (accessorID : String) :
    (tokenDelete accessorID).run env world =
      match env.fault (.tokenDelete accessorID) with
      | some err => ⟨.error err, world, [.tokenDelete accessorID]⟩
      | none => ⟨.ok (), world.deleteToken accessorID, [.tokenDelete accessorID]⟩ := rfl

end Calls

@[simp] theorem World.putSecret_tokens (world : World) (secretId secretString : String) :
    (world.putSecret secretId secretString).tokens = world.tokens := rfl

@[simp] theorem World.putSecret_secrets (world : World) (secretId secretString : String) :
    (world.putSecret secretId secretString).secrets =
      Function.update world.secrets secretId (some secretString) := rfl

@[simp] theorem World.createToken_secrets (world : World) (env : Env) (request : ACLToken) :
    (world.createToken env request).2.secrets = world.secrets := rfl

@[simp] theorem World.createToken_tokens (world : World) (env : Env) (request : ACLToken) :
    (world.createToken env request).2.tokens =
      insertToken (world.createToken env request).1 world.tokens := rfl

@[simp] theorem World.deleteToken_secrets (world : World) (accessorID : String) :
    (world.deleteToken accessorID).secrets = world.secrets := rfl

@[simp] theorem World.deleteToken_tokens (world : World) (accessorID : String) :
    (world.deleteToken accessorID).tokens = world.tokens.filter fun t => t.accessorID ≠ accessorID := rfl

theorem World.ext {world other : World} (secrets : world.secrets = other.secrets)
    (tokens : world.tokens = other.tokens) : world = other := by
  cases world; cases other; cases secrets; cases tokens; rfl

/-- Accessor IDs name live tokens uniquely. -/
theorem World.token_eq_of_accessorID_eq (world : World) {token other : ACLToken}
    (member : token ∈ world.tokens) (live : other ∈ world.tokens) (same : token.accessorID = other.accessorID) :
    token = other :=
  List.inj_on_of_nodup_map ((List.pairwise_map.mpr world.sorted).imp ne_of_lt) member live same

end ConsulEcs.Controller
