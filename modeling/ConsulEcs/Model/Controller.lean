import Mathlib.Data.List.Infix
import ConsulEcs.Model.Services

/-! # The ACL token controller's resources

`TaskDefinitionLister` lists the mesh task families of a cluster page by page and groups the
controller's tokens by family; `TaskFamily.Upsert` makes sure a family's secret names a live
token, and `DeleteTokenInfo` removes a family's tokens and resets its secret to `{}`. Each is
written against the services of `Services`, call by call, with the source's error texts.
Logging is not modelled.
-/

namespace ConsulEcs.Controller

/-- `meshTag`. -/
def meshTag : String := "consul.hashicorp.com/mesh"

/-- The empty record, `{}`, that `DeleteTokenInfo` writes. -/
def emptySecret : String := "\x7b\x7d"

/-- The state a run starts from: no tokens, and every record `{}`. -/
def World.initial : World := ⟨fun _ => some emptySecret, [], .nil, by simp⟩

/-- `secretName(prefix, family)`, that is `fmt.Sprintf("%s-%s", prefix, family)`. -/
def secretName (secretPrefix family : String) : String := secretPrefix ++ "-" ++ family

/-- `isACLNotFoundError`: the API client's error text for a missing token occurs in `err`. -/
def isACLNotFoundError (err : String) : Bool := decide (aclNotFound.toList <:+: err.toList)

/-- `TaskFamily`, without its clients and logger. -/
structure TaskFamily where
  cluster : String
  secretPrefix : String
  taskFamily : String
deriving DecidableEq, Repr

/-- `TaskDefinitionLister`, without its clients and logger. -/
structure TaskDefinitionLister where
  cluster : String
  secretPrefix : String
deriving DecidableEq, Repr

def TaskFamily.secretName (t : TaskFamily) : String := Controller.secretName t.secretPrefix t.taskFamily

def TaskFamily.id (t : TaskFamily) : String := t.taskFamily

/-! ## `TaskFamily.Upsert` -/

/-- The `if currSecret.AccessorID != ""` block of `Upsert`: the token the record names, `none`
when the record is empty or Consul reports the token not found, or the read's other error. -/
def readExistingToken (accessorID : String) : Ext (Except String (Option ACLToken)) :=
  if accessorID ≠ "" then do
    match ← tokenRead accessorID with
    | .ok token => pure (.ok (some token))
    | .error err => pure (if isACLNotFoundError err then .ok none else .error err)
  else pure (.ok none)

/-- The token create request for a family: one service identity, named by the family. -/
def serviceTokenRequest (serviceName : String) : ACLToken where
  accessorID := ""
  secretID := ""
  description := "Token for " ++ serviceName ++ " service"
  serviceIdentities := [⟨serviceName⟩]

/-- `updateServiceToken`. The `json.Marshal` of two strings cannot fail, so its error branch is
not modelled. -/
def TaskFamily.updateServiceToken (t : TaskFamily) : Ext (Except String Unit) := do
  match ← tokenCreate (serviceTokenRequest t.taskFamily) with
  | .error err => pure (.error ("creating envoy token: " ++ err))
  | .ok serviceToken =>
    let serviceSecretValue := Json.marshal ⟨serviceToken.accessorID, serviceToken.secretID⟩
    match ← updateSecret t.secretName serviceSecretValue with
    | .error err => pure (.error ("updating secret: " ++ err))
    | .ok () => pure (.ok ())

/-- `TaskFamily.Upsert`. -/
def TaskFamily.upsert (t : TaskFamily) : Ext (Except String Unit) := do
  match ← getSecretValue t.secretName with
  | .error err => pure (.error ("retrieving secret: " ++ err))
  | .ok currSecretValue =>
    match Json.unmarshal currSecretValue with
    | .error err => pure (.error ("unmarshalling secret value: " ++ err.message))
    | .ok currSecret =>
      match ← readExistingToken currSecret.accessorID with
      | .error err => pure (.error ("reading existing token: " ++ err))
      | .ok (some _) => pure (.ok ())
      | .ok none =>
        match ← t.updateServiceToken with
        | .error err => pure (.error ("updating service token: " ++ err))
        | .ok () => pure (.ok ())

/-! ## `TaskDefinitionLister.DeleteTokenInfo` and `TokenList` -/

/-- The loop of `DeleteTokenInfo`, which stops at the first failed delete. -/
def deleteTokens : List ACLToken → Ext (Except String Unit)
  | [] => pure (.ok ())
  | token :: rest => do
    match ← tokenDelete token.accessorID with
    | .error err => pure (.error ("deleting token: " ++ err))
    | .ok () => deleteTokens rest

/-- `DeleteTokenInfo(serviceName, tokens)`. -/
def TaskDefinitionLister.deleteTokenInfo (t : TaskDefinitionLister) (serviceName : String)
    (tokens : List ACLToken) : Ext (Except String Unit) := do
  match ← deleteTokens tokens with
  | .error err => pure (.error err)
  | .ok () =>
    match ← updateSecret (secretName t.secretPrefix serviceName) emptySecret with
    | .error err => pure (.error ("updating secret: " ++ err))
    | .ok () => pure (.ok ())

/-- The map `TokenList` builds; a family it never saw reads as nil. -/
def TokenMap : Type := String → List ACLToken

/-- `tokens[family] = append(tokens[family], token)`. -/
def TokenMap.append (tokens : TokenMap) (family : String) (token : ACLToken) : TokenMap :=
  fun key => if key = family then tokens key ++ [token] else tokens key

/-- The loop of `TokenList`: read each listed token and group those with exactly one service
identity under its name. It returns the map built so far with its error, as the source does. -/
def readTokens : List String → TokenMap → Ext (TokenMap × Option String)
  | [], tokens => pure (tokens, none)
  | accessorID :: rest, tokens => do
    match ← tokenRead accessorID with
    | .error err => pure (tokens, some ("reading token: " ++ err))
    | .ok token =>
      match token.serviceIdentities with
      | [identity] => readTokens rest (tokens.append identity.serviceName token)
      | _ => readTokens rest tokens

/-- `TaskDefinitionLister.TokenList`. -/
def TaskDefinitionLister.tokenList (_t : TaskDefinitionLister) : Ext (TokenMap × Option String) := do
  match ← Controller.tokenList with
  | .error err => pure (fun _ => [], some ("reading token list: " ++ err))
  | .ok entries => readTokens entries fun _ => []

/-! ## `TaskDefinitionLister.List` -/

/-- `ecs.Tag`; either pointer may be nil. -/
structure Tag where
  key : Option String
  value : Option String
deriving DecidableEq, Repr

/-- `ecs.Task`, with the fields the lister reads. -/
structure Task where
  taskDefinitionArn : String
  tags : List Tag
deriving DecidableEq, Repr

/-- `tagValue`: the value of the first tag with this key, `""` when it is nil or absent. -/
def tagValue : List Tag → String → String
  | [], _ => ""
  | t :: rest, key => if t.key = some key then t.value.getD "" else tagValue rest key

def isMeshTask (task : Task) : Bool := tagValue task.tags meshTag = "true"

/-- `%q` for the ARNs in error messages: quotes, with `"`, `\`, and the control characters
escaped as Go writes them (Unicode characters that Go finds unprintable are not escaped here). -/
def goQuote (s : String) : String :=
  "\"" ++ String.join (s.toList.map fun c =>
    if c = '"' then "\\\"" else if c = '\\' then "\\\\" else if c = '\n' then "\\n"
    else if c = '\t' then "\\t" else if c = '\r' then "\\r"
    else if c.toNat < 0x20 ∨ c.toNat = 0x7f then
      "\\x" ++ String.mk [Json.hexDigit (c.toNat / 16), Json.hexDigit (c.toNat % 16)]
    else c.toString) ++ "\""

/-- `parseFamilyNameFromTaskDefinitionARN`, with `strings.Split` on one character. -/
def parseFamilyNameFromTaskDefinitionARN (taskDefArn : String) : Except String String :=
  let splits := taskDefArn.toList.splitOn '/'
  if splits.length ≠ 2 then
    .error ("cannot determine task family from task definition ARN: " ++ goQuote taskDefArn)
  else
    let splits := (splits.getD 1 []).splitOn ':'
    if splits.length ≠ 2 then
      .error ("cannot determine task family from task definition ARN: " ++ goQuote taskDefArn)
    else .ok (String.mk (splits.getD 0 []))

/-- The resource `List` builds for a family. -/
def TaskDefinitionLister.taskFamily (t : TaskDefinitionLister) (family : String) : TaskFamily :=
  ⟨t.cluster, t.secretPrefix, family⟩

/-- What ECS answers for one page: `ListTasks` fails, or `DescribeTasks` on the page's ARNs
fails, or it returns the page's tasks, a nil task as `none`. -/
inductive PageReply where
  | listFailed (err : String)
  | describeFailed (err : String)
  | tasks (tasks : List (Option Task))
deriving DecidableEq, Repr

/-- The inner loop of `List` over one page's tasks, with the set of families seen so far. -/
def TaskDefinitionLister.collect (t : TaskDefinitionLister) :
    List (Option Task) → List String → List TaskFamily → Except String (List String × List TaskFamily)
  | [], taskFamilies, resources => .ok (taskFamilies, resources)
  | none :: rest, taskFamilies, resources => t.collect rest taskFamilies resources
  | some task :: rest, taskFamilies, resources =>
    if !isMeshTask task then t.collect rest taskFamilies resources
    else
      match parseFamilyNameFromTaskDefinitionARN task.taskDefinitionArn with
      | .error err => .error ("parsing family from ARN: " ++ err)
      | .ok family =>
        if family ∈ taskFamilies then t.collect rest taskFamilies resources
        else t.collect rest (taskFamilies ++ [family]) (resources ++ [t.taskFamily family])

/-- The outer do-while loop of `List`, one iteration per page; the next token is nil exactly on
the last page. -/
def TaskDefinitionLister.listPages (t : TaskDefinitionLister) :
    List PageReply → List String → List TaskFamily → Except String (List TaskFamily)
  | [], _, resources => .ok resources
  | reply :: rest, taskFamilies, resources =>
    match reply with
    | .listFailed err => .error ("listing tasks: " ++ err)
    | .describeFailed err => .error ("describing tasks: " ++ err)
    | .tasks tasks =>
      match t.collect tasks taskFamilies resources with
      | .error err => .error err
      | .ok (taskFamilies, resources) =>
        if rest = [] then .ok resources else t.listPages rest taskFamilies resources

/-- `TaskDefinitionLister.List` over the pages ECS serves. -/
def TaskDefinitionLister.list (t : TaskDefinitionLister) (pages : List PageReply) :
    Except String (List TaskFamily) :=
  t.listPages pages [] []

/-! ## Runs of the controller

The loop that calls these operations is not part of this source. A run is a sequence of
operations of one controller, each on one family: an `Upsert`, or a `DeleteTokenInfo` of the
group that a `TokenList` just reported for the family; a `TokenList` that fails stops that
operation before it deletes anything. -/

/-- One operation of the controller, with the environment of each of its passes. -/
inductive Op where
  | upsert (family : String) (env : Env)
  | deleteTokenInfo (family : String) (listEnv env : Env)

def Op.apply (cluster secretPrefix : String) : Op → World → World
  | .upsert family env, world => (((TaskFamily.mk cluster secretPrefix family).upsert).run env world).world
  | .deleteTokenInfo family listEnv env, world =>
    let lister : TaskDefinitionLister := ⟨cluster, secretPrefix⟩
    match (lister.tokenList.run listEnv world).value with
    | (_, some _) => world
    | (groups, none) => ((lister.deleteTokenInfo family (groups family)).run env world).world

def runOps (cluster secretPrefix : String) : List Op → World → World
  | [], world => world
  | op :: ops, world => runOps cluster secretPrefix ops (op.apply cluster secretPrefix world)

/-- An operation on one family, for a pair of families run in either order: an `Upsert`, or a
`DeleteTokenInfo` of given tokens. -/
inductive FamilyOp where
  | upsert (env : Env)
  | deleteTokenInfo (tokens : List ACLToken) (env : Env)

/-- The operation on `family`, with its result and the world it leaves. -/
def FamilyOp.run (cluster secretPrefix family : String) : FamilyOp → World → Except String Unit × World
  | .upsert env, world =>
    let step := (TaskFamily.mk cluster secretPrefix family).upsert.run env world
    (step.value, step.world)
  | .deleteTokenInfo tokens env, world =>
    let step := ((TaskDefinitionLister.mk cluster secretPrefix).deleteTokenInfo family tokens).run env world
    (step.value, step.world)

/-- The accessor ID an `Upsert` proposes for the token it may create. -/
def FamilyOp.proposals : FamilyOp → List String
  | .upsert env => [env.accessorID]
  | .deleteTokenInfo _ _ => []

/-- The accessor IDs a `DeleteTokenInfo` may delete. -/
def FamilyOp.targets : FamilyOp → List String
  | .upsert _ => []
  | .deleteTokenInfo tokens _ => tokens.map (·.accessorID)

end ConsulEcs.Controller
