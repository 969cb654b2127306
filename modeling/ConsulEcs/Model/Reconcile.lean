import Mathlib
import ConsulEcs.Proofs.Lister

/-! # Reconcile passes

The loop that drives `TaskDefinitionLister` and `TaskFamily` is not part of this source, so a pass
is modelled from the spec, over the source's operations. A pass lists the families that should
hold a token (`List`, the want set), groups the controller's tokens by family (`TokenList`, the
have set), runs `Upsert` for every listed family and `DeleteTokenInfo` for every family that holds
tokens but is not listed, with the group `TokenList` reported. A family's error is collected and
the pass goes on; a failed listing ends the pass before it changes anything. The controller runs
one pass after another.
-/

namespace ConsulEcs.Controller

/-- Modelled from the spec: the answers one pass gets: the pages ECS serves, the environment of
`TokenList`, and those of each family's `Upsert` and `DeleteTokenInfo`. -/
structure PassEnv where
  pages : List PageReply
  listEnv : Env
  upsertEnv : String → Env
  deleteEnv : String → Env

/-- The family `TokenList` groups a token under: its only service identity. -/
def owner (token : ACLToken) : Option String :=
  match token.serviceIdentities with
  | [identity] => some identity.serviceName
  | _ => none

/-- Modelled from the spec: the keys of the map `TokenList` returns, each once, in the order
`TokenList` first read them. Go ranges over a map in no fixed order; the pass takes this one. -/
def ownedFamilies (tokens : List ACLToken) : List String :=
  firstOccurrences (tokens.filterMap owner)

/-- Modelled from the spec: the errors a family's operation adds to the pass's report. -/
def reported : Except String Unit → List String
  | .error err => [err]
  | .ok () => []

/-- Modelled from the spec: `Upsert` of each resource in turn. -/
def upsertAll (pass : PassEnv) : List TaskFamily → World → List String × World
  | [], world => ([], world)
  | resource :: rest, world =>
    let step := resource.upsert.run (pass.upsertEnv resource.taskFamily) world
    let next := upsertAll pass rest step.world
    (reported step.value ++ next.1, next.2)

/-- Modelled from the spec: `DeleteTokenInfo` of each orphaned family's group in turn. -/
def deleteAll (t : TaskDefinitionLister) (pass : PassEnv) (groups : TokenMap) :
    List String → World → List String × World
  | [], world => ([], world)
  | family :: rest, world =>
    let step := (t.deleteTokenInfo family (groups family)).run (pass.deleteEnv family) world
    let next := deleteAll t pass groups rest step.world
    (reported step.value ++ next.1, next.2)

/-- Modelled from the spec: one pass of `Reconcile`, with the errors of the families it could not
converge, or the error of a listing. -/
def reconcile (t : TaskDefinitionLister) (pass : PassEnv) (world : World) :
    Except String (List String) × World :=
  match t.list pass.pages with
  | .error err => (.error err, world)
  | .ok resources =>
    match (t.tokenList.run pass.listEnv world).value with
    | (_, some err) => (.error err, world)
    | (groups, none) =>
      let wanted := resources.map TaskFamily.id
      let upserted := upsertAll pass resources world
      let orphans := (ownedFamilies world.tokens).filter fun family => family ∉ wanted
      let deleted := deleteAll t pass groups orphans upserted.2
      (.ok (upserted.1 ++ deleted.1), deleted.2)

/-- Modelled from the spec: the controller's passes one after another; a pass's error is logged
and the next pass runs. -/
def reconcileAll (t : TaskDefinitionLister) : List PassEnv → World → World
  | [], world => world
  | pass :: passes, world => reconcileAll t passes (reconcile t pass world).2

end ConsulEcs.Controller
