import Mathlib
import ConsulEcs.Proofs.Upsert
import ConsulEcs.Proofs.DeleteTokenInfo

/-! # At most one live token per family

The controller keeps a family's token alive through the family's record: `Upsert` creates a token
only when the record names no live token, and writes the new token into the record. The invariant
carried along a run is that the record exists and every live token bound to the family has the
accessor ID the record decodes to; as accessor IDs name tokens uniquely, at most one live token is
bound to each family.

The invariant does not survive every failure. When `UpdateSecret` fails after `TokenCreate`, the
new token is live while the record still names nothing, and the next `Upsert` creates a second
token; when `TokenRead` of the live token fails with a not-found error, `Upsert` does the same.
Every other failure is harmless, at any call of any operation.
-/

namespace ConsulEcs.Controller

variable {env : Env} {world : World}

theorem secretName_injective (secretPrefix : String) : Function.Injective (secretName secretPrefix) := by
  intro family other same
  have names := congrArg String.data same
  simp only [secretName, String.data_append, List.append_assoc, List.append_cancel_left_eq] at names
  exact String.ext names

/-- The family's record exists, and every live token bound to the family has the accessor ID the
record decodes to. -/
def RecordNamesToken (secretPrefix family : String) (world : World) : Prop :=
  ∃ value secret, world.secrets (secretName secretPrefix family) = some value ∧
    Json.unmarshal value = .ok secret ∧
    ∀ token ∈ world.tokens, token.BoundTo family → token.accessorID = secret.accessorID

theorem RecordNamesToken.unique {secretPrefix family : String} (inv : RecordNamesToken secretPrefix family world) :
    ∀ token ∈ world.tokens, ∀ other ∈ world.tokens, token.BoundTo family → other.BoundTo family → token = other := by
  obtain ⟨_, _, _, _, named⟩ := inv
  exact fun token member other live bound bound' =>
    world.token_eq_of_accessorID_eq member live ((named token member bound).trans (named other live bound').symm)

theorem recordNamesToken_initial (secretPrefix family : String) :
    RecordNamesToken secretPrefix family World.initial :=
  ⟨emptySecret, ⟨"", ""⟩, rfl, rfl, fun _ member => absurd member (List.not_mem_nil _)⟩

/-- Removing tokens and leaving the family's record keeps the invariant. -/
theorem RecordNamesToken.mono {secretPrefix family : String} {next : World}
    (inv : RecordNamesToken secretPrefix family world) (tokens : next.tokens ⊆ world.tokens)
    (record : next.secrets (secretName secretPrefix family) = world.secrets (secretName secretPrefix family)) :
    RecordNamesToken secretPrefix family next := by
  obtain ⟨value, secret, stored, decodes, named⟩ := inv
  exact ⟨value, secret, record.trans stored, decodes, fun token member => named token (tokens member)⟩

/-! ## `Upsert` -/

/-- The faults an `Upsert` pass may meet and keep the invariant: its `UpdateSecret` does not fail,
and its `TokenRead` never fails with an error `isACLNotFoundError` accepts. -/
structure Env.Tolerated (env : Env) : Prop where
  update : ∀ secretId secretString, env.fault (.updateSecret secretId secretString) = none
  read : ∀ accessorID err, env.fault (.tokenRead accessorID) = some err → isACLNotFoundError err = false

theorem Env.reliable_tolerated (accessorID secretID : String) : (Env.reliable accessorID secretID).Tolerated :=
  ⟨fun _ _ => rfl, fun _ _ failed => nomatch failed⟩

/-- `Upsert` leaves the world, or adds its token and writes no record but its own. -/
theorem upsert_world (t : TaskFamily) :
    (t.upsert.run env world).world = world ∨
      ((t.upsert.run env world).world.tokens = insertToken (t.createdToken env world) world.tokens ∧
        ∀ name ≠ t.secretName, (t.upsert.run env world).world.secrets name = world.secrets name) := by
  by_cases needs : t.NeedsToken env world
  · obtain ⟨calls, eq⟩ := upsert_of_needsToken t needs
    rw [eq]
    rcases @updateServiceToken_world env world t with ⟨same, -⟩ | ⟨tokens, ⟨secrets, -⟩ | ⟨-, secrets⟩⟩
    · exact .inl same
    · exact .inr ⟨tokens, fun name _ => by rw [secrets]⟩
    · exact .inr ⟨tokens, fun name other => by rw [secrets, Function.update_noteq other]⟩
  · exact .inl (upsert_of_not_needsToken t needs).1

theorem updateServiceToken_of_update_ok (t : TaskFamily)
    (reliable : ∀ secretString, env.fault (.updateSecret t.secretName secretString) = none)
    (stored : ∃ value, world.secrets t.secretName = some value) :
    (t.updateServiceToken.run env world).world = world ∨
      ((t.updateServiceToken.run env world).world.tokens = insertToken (t.createdToken env world) world.tokens ∧
        (t.updateServiceToken.run env world).world.secrets = Function.update world.secrets t.secretName
          (some (Json.marshal ⟨(t.createdToken env world).accessorID, (t.createdToken env world).secretID⟩))) := by
  obtain ⟨value, stored⟩ := stored
  rw [updateServiceToken_eq]
  rcases t.createFailure env with _ | err
  · refine .inr ?_
    dsimp only
    rw [updateSecret_run, reliable, World.createToken_secrets, stored]
    exact ⟨rfl, rfl⟩
  · exact .inl rfl

/-- When the invariant holds, `Upsert` needs a token only when no live token is bound to its family. -/
theorem unbound_of_needsToken (t : TaskFamily) (inv : RecordNamesToken t.secretPrefix t.taskFamily world)
    (tolerated : env.Tolerated) (needs : t.NeedsToken env world) :
    ∀ token ∈ world.tokens, ¬ token.BoundTo t.taskFamily := by
  intro token member bound
  obtain ⟨value, secret, stored, decodes, named⟩ := inv
  obtain ⟨read, record, read', decodes', missing⟩ := needs
  obtain rfl : read = value := Option.some_inj.mp ((secrets_of_getSecretValue_ok read').symm.trans stored)
  obtain rfl : record = secret := by rw [decodes] at decodes'; cases decodes'; rfl
  have same := named token member bound
  rcases missing with empty | ⟨err, failed, notFound⟩
  · exact world.accessor_ne token member (same.trans empty)
  · rw [tokenRead_value] at failed
    rcases fault : env.fault (.tokenRead record.accessorID) with _ | e <;> rw [fault] at failed
    · rcases found : world.tokens.find? (·.accessorID = record.accessorID) with _ | hit <;> simp only [found] at failed
      · exact List.find?_eq_none.mp found token member (by simpa using same)
      · cases failed
    · cases failed
      simp [tolerated.read _ _ fault] at notFound

theorem RecordNamesToken.upsert (t : TaskFamily) (inv : RecordNamesToken t.secretPrefix t.taskFamily world)
    (tolerated : env.Tolerated) : RecordNamesToken t.secretPrefix t.taskFamily (t.upsert.run env world).world := by
  by_cases needs : t.NeedsToken env world
  · have unbound := unbound_of_needsToken t inv tolerated needs
    obtain ⟨value, _, stored, _, _⟩ := inv
    obtain ⟨calls, eq⟩ := upsert_of_needsToken t needs
    rw [eq]
    rcases updateServiceToken_of_update_ok t (tolerated.update _) ⟨value, stored⟩ with same | ⟨tokens, secrets⟩
    · rw [same]
      exact ⟨value, _, stored, by assumption, fun token member bound => absurd bound (unbound token member)⟩
    · refine ⟨_, _, by rw [secrets]; exact Function.update_same _ _ _, Json.unmarshal_marshal _,
        fun token member bound => ?_⟩
      rcases mem_insertToken.mp (tokens ▸ member) with rfl | old
      · rfl
      · exact absurd bound (unbound token old)
  · rwa [(upsert_of_not_needsToken t needs).1]

/-- An `Upsert` of another family keeps the invariant, whatever fails. -/
theorem RecordNamesToken.upsert_other {secretPrefix family : String} (t : TaskFamily)
    (inv : RecordNamesToken secretPrefix family world) (prefixed : t.secretPrefix = secretPrefix)
    (other : t.taskFamily ≠ family) : RecordNamesToken secretPrefix family (t.upsert.run env world).world := by
  rcases upsert_world t with same | ⟨tokens, secrets⟩
  · rwa [same]
  · obtain ⟨value, secret, stored, decodes, named⟩ := inv
    have distinct : secretName secretPrefix family ≠ t.secretName := fun same =>
      other (secretName_injective secretPrefix (prefixed ▸ same.symm))
    refine ⟨value, secret, (secrets _ distinct).trans stored, decodes, fun token member bound => ?_⟩
    rcases mem_insertToken.mp (tokens ▸ member) with rfl | old
    · exact absurd (List.singleton_inj.mp ((createdToken_boundTo t).symm.trans bound))
        (fun same => other (congrArg ACLServiceIdentity.serviceName same))
    · exact named token old bound

/-! ## `DeleteTokenInfo` -/

/-- A `DeleteTokenInfo` of a `TokenList` group keeps the invariant of every family, whatever fails. -/
theorem RecordNamesToken.apply_deleteTokenInfo {cluster secretPrefix family : String}
    (inv : RecordNamesToken secretPrefix family world) (deleted : String) (listEnv env : Env) :
    RecordNamesToken secretPrefix family ((Op.deleteTokenInfo deleted listEnv env).apply cluster secretPrefix world) := by
  let lister : TaskDefinitionLister := ⟨cluster, secretPrefix⟩
  simp only [Op.apply]
  rcases listed : (lister.tokenList.run listEnv world).value with ⟨groups, _ | err⟩
  · dsimp only
    obtain ⟨k, -, remaining, ok, failed⟩ := @deleteTokenInfo_take env world lister deleted (groups deleted)
    have fewer : ((lister.deleteTokenInfo deleted (groups deleted)).run env world).world.tokens ⊆ world.tokens :=
      remaining ▸ (List.filter_sublist _).subset
    rcases result : ((lister.deleteTokenInfo deleted (groups deleted)).run env world).value with err | _
    · exact inv.mono fewer (by rw [failed err result])
    · obtain ⟨whole, secrets⟩ := ok result
      by_cases same : deleted = family
      · subst same
        have grouped : groups deleted = world.tokens.filter (·.BoundTo deleted) := by
          simpa [listed] using @tokenList_group listEnv world lister deleted (by rw [listed])
        refine ⟨emptySecret, ⟨"", ""⟩, by rw [secrets]; exact Function.update_same _ _ _, rfl, fun token member bound => ?_⟩
        rw [remaining, whole, List.take_length, List.mem_filter] at member
        refine absurd (List.mem_map_of_mem (fun x : ACLToken => x.accessorID) ?_) (of_decide_eq_true member.2)
        rw [grouped]
        exact List.mem_filter.mpr ⟨member.1, decide_eq_true bound⟩
      · refine inv.mono fewer ?_
        rw [secrets, Function.update_noteq fun names => same (secretName_injective secretPrefix names).symm]
  · exact inv

/-! ## Runs -/

/-- The operations whose faults the invariant tolerates: a `DeleteTokenInfo` may fail anywhere. -/
def Op.Tolerated : Op → Prop
  | .upsert _ env => env.Tolerated
  | .deleteTokenInfo _ _ _ => True

theorem Op.apply_recordNamesToken (cluster secretPrefix : String) {op : Op} (tolerated : op.Tolerated)
    (inv : ∀ family, RecordNamesToken secretPrefix family world) (family : String) :
    RecordNamesToken secretPrefix family (op.apply cluster secretPrefix world) := by
  cases op with
  | upsert upserted env =>
    by_cases same : upserted = family
    · subst same
      exact RecordNamesToken.upsert ⟨cluster, secretPrefix, upserted⟩ (inv upserted) tolerated
    · exact RecordNamesToken.upsert_other ⟨cluster, secretPrefix, upserted⟩ (inv family) rfl same
  | deleteTokenInfo deleted listEnv env => exact (inv family).apply_deleteTokenInfo deleted listEnv env

theorem runOps_recordNamesToken (cluster secretPrefix : String) :
    ∀ (ops : List Op) (world : World), (∀ op ∈ ops, op.Tolerated) →
      (∀ family, RecordNamesToken secretPrefix family world) →
      ∀ family, RecordNamesToken secretPrefix family (runOps cluster secretPrefix ops world)
  | [], _, _, inv => inv
  | op :: ops, _, tolerated, inv =>
    runOps_recordNamesToken cluster secretPrefix ops _ (fun op member => tolerated op (List.mem_cons_of_mem _ member))
      (Op.apply_recordNamesToken cluster secretPrefix (tolerated op (List.mem_cons_self _ _)) inv)

/-- An `Upsert` of `web` whose `TokenCreate` fails, then one that meets no fault, keep `web`'s record
naming every live token bound to it. -/
theorem runOps_recordNamesToken_tokenCreate_fault :
    RecordNamesToken "prefix" "web" (runOps "cluster" "prefix"
      [.upsert "web" ⟨fun | .tokenCreate _ => some "throttled" | _ => none, "a", "s"⟩,
        .upsert "web" (Env.reliable "b" "s")] World.initial) :=
  runOps_recordNamesToken "cluster" "prefix" _ World.initial
    (by simp only [List.mem_cons, List.mem_singleton, List.not_mem_nil, or_false, forall_eq_or_imp, forall_eq]
        exact ⟨⟨fun _ _ => rfl, fun _ _ failed => Option.noConfusion failed⟩, Env.reliable_tolerated _ _⟩)
    (recordNamesToken_initial "prefix") "web"

/-- The failure the invariant cannot absorb. From the initial state, an `Upsert` whose
`TokenCreate` goes through and whose `UpdateSecret` then fails leaves its token live while the
record stays `{}`; the next `Upsert`, meeting no fault, creates and records a second token. So a
family whose name Consul accepts ends with two live tokens bound to it, where `Upsert` is to ensure
one. -/
theorem runOps_failed_update_leaks (cluster secretPrefix family : String) (valid : isValidServiceIdentityName family)
    (throttled : Env) (read : throttled.fault (.getSecretValue (secretName secretPrefix family)) = none)
    (created : throttled.fault (.tokenCreate (serviceTokenRequest family)) = none)
    (failed : ∀ secretString, throttled.fault (.updateSecret (secretName secretPrefix family) secretString) ≠ none)
    (accessorID secretID : String) :
    let world := runOps cluster secretPrefix
      [.upsert family throttled, .upsert family (Env.reliable accessorID secretID)] World.initial
    ∃ token ∈ world.tokens, ∃ other ∈ world.tokens, token.BoundTo family ∧ other.BoundTo family ∧ token ≠ other := by
  let t : TaskFamily := ⟨cluster, secretPrefix, family⟩
  let first := t.createdToken throttled World.initial
  have read : throttled.fault (.getSecretValue t.secretName) = none := read
  have needs : t.NeedsToken throttled World.initial :=
    ⟨emptySecret, ⟨"", ""⟩, by rw [getSecretValue_value, read]; rfl, rfl, .inl rfl⟩
  have accepted : t.createFailure throttled = none := by
    simp [TaskFamily.createFailure, t, created, tokenCreateRejection_serviceTokenRequest, valid]
  -- the first `Upsert` creates its token and cannot record it
  have leaked : (t.upsert.run throttled World.initial).world =
      (World.initial.createToken throttled (serviceTokenRequest family)).2 := by
    obtain ⟨calls, eq⟩ := upsert_of_needsToken t needs
    obtain ⟨err, fault⟩ := Option.ne_none_iff_exists'.mp (failed (Json.marshal ⟨first.accessorID, first.secretID⟩))
    have fault : throttled.fault (.updateSecret t.secretName (Json.marshal ⟨first.accessorID, first.secretID⟩)) =
        some err := fault
    rw [eq, updateServiceToken_eq, accepted]
    simp only [updateSecret_run, fault]
  -- the second creates another, under an accessor ID the first does not hold
  obtain ⟨-, tokens, -⟩ := @upsert_reliable_of_unnamed (t.upsert.run throttled World.initial).world t accessorID
    secretID valid emptySecret ⟨"", ""⟩ (by rw [leaked]; rfl) rfl (by simp)
  have member : first ∈ (t.upsert.run throttled World.initial).world.tokens := by
    rw [leaked, World.createToken_tokens]
    exact mem_insertToken.mpr (.inl rfl)
  have fresh := @createdToken_fresh (Env.reliable accessorID secretID) (t.upsert.run throttled World.initial).world t
  refine ⟨first, ?_, _, ?_, createdToken_boundTo t, createdToken_boundTo t,
    fun same => fresh (same ▸ List.mem_map_of_mem _ member)⟩ <;>
    show _ ∈ (t.upsert.run (Env.reliable accessorID secretID) (t.upsert.run throttled World.initial).world).world.tokens <;>
    rw [tokens, mem_insertToken]
  · exact .inr member
  · exact .inl rfl

/-- An `Upsert` of `web` whose `UpdateSecret` is throttled, then one with no failure, leave two live
tokens bound to `web`. -/
theorem runOps_failed_update_two_tokens :
    let world := runOps "cluster" "prefix"
      [.upsert "web" ⟨fun | .updateSecret _ _ => some "throttled" | _ => none, "a", "s"⟩,
        .upsert "web" (Env.reliable "b" "s")] World.initial
    ∃ token ∈ world.tokens, ∃ other ∈ world.tokens, token.BoundTo "web" ∧ other.BoundTo "web" ∧ token ≠ other :=
  runOps_failed_update_leaks "cluster" "prefix" "web" (by decide) _ rfl rfl (fun _ => Option.noConfusion) "b" "s"

end ConsulEcs.Controller
