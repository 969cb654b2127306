import Mathlib
import ConsulEcs.Proofs.MeshInit
import ConsulEcs.Proofs.ReconcileAll

/-! # The registered service name against the token's identity

`mesh-init` registers a task under the name its configuration gives or, failing that, under the
task family in lower case: as its comment says, the auth method relies on tokens with a service
identity, and Consul service identities must be lower case. The controller asks for a family's
token with a service identity named after the family as it is. Consul rejects that name when the
family has an upper-case letter, so the controller's `TokenCreate` for such a family fails on
every pass: its `Upsert` changes nothing, and no pass, whatever fails, leaves a token bound to the
family. The result holds for every rune lowering that keeps the laws of `unicode.ToLower`.
-/

namespace ConsulEcs.Controller

/-! ## Names Consul rejects -/

theorem toNat_of_isUpper {c : Char} (upper : c.isUpper) : 65 ≤ c.toNat ∧ c.toNat ≤ 90 := by
  simpa [Char.isUpper, UInt32.le_def, BitVec.le_def, Char.toNat, UInt32.toNat] using upper

theorem identityChar_of_isUpper {c : Char} (upper : c.isUpper) : identityChar c = false := by
  have range := toNat_of_isUpper upper
  have ne : ∀ d : Char, (d.toNat < 65 ∨ 90 < d.toNat) → c ≠ d := fun d far same => by subst same; omega
  simp only [identityChar, identityEndChar, Bool.or_eq_false_iff, Bool.and_eq_false_iff, decide_eq_false_iff_not,
    Char.le_def, UInt32.le_def, BitVec.le_def]
  simp only [Char.toNat, UInt32.toNat] at range
  exact ⟨⟨⟨.inl (by simp; omega), .inr (by simp; omega)⟩, ne '-' (by decide)⟩, ne '_' (by decide)⟩

/-- A name with an upper-case letter is no service-identity name. -/
theorem isValidServiceIdentityName_of_upper {name : String} (upper : ∃ ch ∈ name.data, ch.isUpper) :
    isValidServiceIdentityName name = false := by
  obtain ⟨ch, member, isUpper⟩ := upper
  have rejected := identityChar_of_isUpper isUpper
  have endRejected : identityEndChar ch = false := by simp_all [identityChar]
  unfold isValidServiceIdentityName
  split
  next data => simp [data] at member
  next first rest data =>
    rw [data] at member
    rcases List.mem_cons.mp member with rfl | later
    · simp [endRejected]
    · have some : rest.all identityChar = false := List.all_eq_false.mpr ⟨ch, later, by simp [rejected]⟩
      simp [some]

/-- An upper-case ASCII letter lowers to another rune. -/
theorem toLower_ne_of_isUpper {c : Char} (upper : c.isUpper) : c.toLower ≠ c := by
  have range := toNat_of_isUpper upper
  intro same
  have lowered := congrArg Char.toNat same
  rw [Char.toLower, if_pos range, MeshInit.toNat_ofNat_of_lt (by omega)] at lowered
  omega

/-- Lowering a name with an upper-case letter changes it. -/
theorem toLower_ne_of_upper (lowering : MeshInit.RuneLowering) {name : String}
    (upper : ∃ ch ∈ name.data, ch.isUpper) : MeshInit.toLower lowering name ≠ name := by
  obtain ⟨ch, member, isUpper⟩ := upper
  intro same
  have kept : lowering.toLower ch = ch := by
    have data := congrArg String.data same
    simp only [MeshInit.toLower] at data
    exact List.map_inj_left.mp (data.trans (List.map_id _).symm) ch member
  have ascii : ch.toNat < 128 := by have := toNat_of_isUpper isUpper; omega
  exact toLower_ne_of_isUpper isUpper ((lowering.ascii_toLower ch ascii).symm.trans kept)

/-! ## The `Upsert` of such a family -/

section Rejected

variable {env : Env} {world : World}

theorem tokenCreate_rejected (t : TaskFamily) (rejected : isValidServiceIdentityName t.taskFamily = false) :
    ∃ err, ((tokenCreate (serviceTokenRequest t.taskFamily)).run env world).value = .error err := by
  rw [tokenCreate_run, tokenCreateRejection_serviceTokenRequest, if_neg (by simp [rejected])]
  rcases env.fault (.tokenCreate (serviceTokenRequest t.taskFamily)) with _ | err <;> exact ⟨_, rfl⟩

/-- An `Upsert` of a family whose name Consul rejects never changes anything: it creates no token
and writes no record. -/
theorem upsert_world_of_rejected (t : TaskFamily) (rejected : isValidServiceIdentityName t.taskFamily = false) :
    (t.upsert.run env world).world = world := by
  by_cases needs : t.NeedsToken env world
  · obtain ⟨err, failed⟩ := tokenCreate_rejected t rejected
    exact (upsert_of_tokenCreate_failure t needs failed).2
  · exact (upsert_of_not_needsToken t needs).1

/-- From records that name no live token of another family, with no live token bound to it, an
`Upsert` of a family whose name Consul rejects fails. -/
theorem upsert_of_rejected (t : TaskFamily) (rejected : isValidServiceIdentityName t.taskFamily = false)
    (owned : RecordsOwned t.secretPrefix world) (unowned : ∀ token ∈ world.tokens, ¬ token.BoundTo t.taskFamily) :
    ∃ err, (t.upsert.run env world).value = .error err := by
  rcases succeeded : (t.upsert.run env world).value with err | _
  · exact ⟨err, rfl⟩
  obtain ⟨value, secret, stored, decodes, -, token, member, named⟩ := record_live_of_upsert_ok t succeeded
  rw [upsert_world_of_rejected t rejected] at stored member
  exact absurd (owned t.taskFamily value secret stored decodes token member named) (unowned token member)

end Rejected

/-! ## Passes -/

/-- The upserts of a pass leave no live token bound to a family whose name Consul rejects, if none
was. -/
theorem upsertAll_unbound (pass : PassEnv) {family : String} (rejected : isValidServiceIdentityName family = false) :
    ∀ (resources : List TaskFamily) (world : World), (∀ token ∈ world.tokens, ¬ token.BoundTo family) →
      ∀ token ∈ (upsertAll pass resources world).2.tokens, ¬ token.BoundTo family
  | [], _, unowned => unowned
  | r :: rest, world, unowned => upsertAll_unbound pass rejected rest _ fun token member bound => by
    by_cases old : token ∈ world.tokens
    · exact unowned token old bound
    · -- a token the upsert of `r` created is bound to `r`'s family, so that family is rejected
      have created := (upsert_changes r (pass.upsertEnv r.taskFamily) world).2.1 token member old
      rw [upsert_world_of_rejected r (bound.unique created ▸ rejected)] at member
      exact old member

/-- A pass, whatever fails, leaves no live token bound to a family whose name Consul rejects, if
none was. -/
theorem reconcile_unbound (t : TaskDefinitionLister) (pass : PassEnv) (world : World) {family : String}
    (rejected : isValidServiceIdentityName family = false) (unowned : ∀ token ∈ world.tokens, ¬ token.BoundTo family) :
    ∀ token ∈ (reconcile t pass world).2.tokens, ¬ token.BoundTo family := by
  rcases reconcile_cases t pass world with ⟨err, failed⟩ | ⟨families, groups, -, listed, grouped⟩
  · rw [failed]
    exact unowned
  rw [reconcile_of_listed t pass world listed grouped]
  obtain ⟨fewer, -, -⟩ := deleteAll_changes t pass groups _ (upsertAll pass (families.map t.taskFamily) world).2
  exact fun token member => upsertAll_unbound pass rejected _ world unowned token (fewer member)

theorem reconcileAll_unbound (t : TaskDefinitionLister) {family : String}
    (rejected : isValidServiceIdentityName family = false) :
    ∀ (passes : List PassEnv) (world : World), (∀ token ∈ world.tokens, ¬ token.BoundTo family) →
      ∀ token ∈ (reconcileAll t passes world).tokens, ¬ token.BoundTo family
  | [], _, unowned => unowned
  | pass :: passes, world, unowned =>
    reconcileAll_unbound t rejected passes _ (reconcile_unbound t pass world rejected unowned)

/-! ## The two components together -/

/-- For a workload configured without a name, `mesh-init` registers a task of `family` under the
family lowered, while the controller asks for the family's token with a service identity named
`family` as it is. When the family has an upper-case letter, the two names differ and Consul
rejects the controller's. Every `Upsert` of the family then changes nothing, and fails from records
that name no live token of another family while none is bound to it; no pass, whatever fails,
leaves a token bound to it, so the family's tasks never get a token. -/
theorem serviceName_identity_rejected (k : MeshInit.Constants) (c : MeshInit.Config) (family : String)
    (workload : c.isGateway = false) (unnamed : c.service.name = "") (upper : ∃ ch ∈ family.data, ch.isUpper) :
    MeshInit.Command.constructServiceName k c family = MeshInit.toLower k.lowering family ∧
      MeshInit.Command.constructServiceName k c family ≠ family ∧
      (serviceTokenRequest family).serviceIdentities = [⟨family⟩] ∧
      tokenCreateRejection (serviceTokenRequest family) = some (invalidServiceIdentity family) ∧
      (∀ (t : TaskFamily) (env : Env) (world : World), t.taskFamily = family →
        (t.upsert.run env world).world = world ∧
        (RecordsOwned t.secretPrefix world → (∀ token ∈ world.tokens, ¬ token.BoundTo family) →
          ∃ err, (t.upsert.run env world).value = .error err)) ∧
      ∀ (t : TaskDefinitionLister) (passes : List PassEnv) (world : World),
        (∀ token ∈ world.tokens, ¬ token.BoundTo family) →
        ∀ token ∈ (reconcileAll t passes world).tokens, ¬ token.BoundTo family := by
  have rejected := isValidServiceIdentityName_of_upper upper
  have named := MeshInit.constructServiceName_of_unnamed k c family workload unnamed
  refine ⟨named, named ▸ toLower_ne_of_upper k.lowering upper, rfl, ?_, fun t env world same => ?_,
    fun t passes world => reconcileAll_unbound t rejected passes world⟩
  · rw [tokenCreateRejection_serviceTokenRequest, if_neg (by simp [rejected])]
  · subst same
    exact ⟨upsert_world_of_rejected t rejected, upsert_of_rejected t rejected⟩

/-- A task of the family `Web` registers as `web`, while no pass, even one in which nothing fails,
gives the family a token. -/
theorem serviceName_identity_rejected_Web :
    let k : MeshInit.Constants := ⟨8443, "lan", "wan", by decide, MeshInit.RuneLowering.ascii⟩
    let c : MeshInit.Config := ⟨⟨"", 8080, [], fun _ => none, ⟨1, 1⟩, false, "", ""⟩, none, 20000⟩
    let t : TaskDefinitionLister := ⟨"cluster", "prefix"⟩
    let pages := [PageReply.tasks [some ⟨"arn:aws:ecs:us-east-1:123456789012:task-definition/Web:1",
      [⟨some meshTag, some "true"⟩]⟩]]
    MeshInit.Command.constructServiceName k c "Web" = "web" ∧
      ∀ token ∈ (reconcileAll t [PassEnv.reliable pages fun _ => ("a", "s")] World.initial).tokens,
        ¬ token.BoundTo "Web" := by
  intro k c t pages
  have rejected := serviceName_identity_rejected k c "Web" rfl rfl ⟨'W', by decide, rfl⟩
  exact ⟨rejected.1.trans (by decide), rejected.2.2.2.2.2 t _ World.initial fun _ member => absurd member (List.not_mem_nil _)⟩

end ConsulEcs.Controller
