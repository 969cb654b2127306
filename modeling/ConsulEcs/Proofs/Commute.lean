import Mathlib
import ConsulEcs.Proofs.OneTokenPerFamily

/-! # Operations on distinct families commute

An operation on a family reads and writes only its footprint: the family's record, the live token
that record names, and the accessor ID of the token it may create. In every world that agrees with
the start on that footprint it has the same `Outcome`: the same result, the same created token, the
same deleted accessor IDs and the same record write. An operation on another family keeps the
footprint, when records name only tokens of their own family and new accessor IDs are fresh, so
either order makes the same two changes, and changes to different records and different tokens
commute. Token stores are kept in accessor order, so the two final stores are equal as lists.
-/

namespace ConsulEcs.Controller

variable {world : World}

/-- What an operation does: its result, the tokens it creates, the accessor IDs it deletes, and
what it writes to its record. -/
structure Outcome where
  value : Except String Unit
  created : List ACLToken
  deleted : List String
  written : Option String

/-- The secret store after `written`, if any, is written to the record `name`. -/
def writeRecord (name : String) (written : Option String) (secrets : String → Option String) :
    String → Option String :=
  written.elim secrets fun value => Function.update secrets name (some value)

theorem writeRecord_comm {name other : String} (distinct : name ≠ other) (written written' : Option String)
    (secrets : String → Option String) :
    writeRecord name written (writeRecord other written' secrets) =
      writeRecord other written' (writeRecord name written secrets) := by
  cases written <;> cases written' <;> simp [writeRecord, Function.update_comm distinct]

/-- `outcome` is what the step from `world` to `result` did, `name` being the record it may write. -/
def Outcome.Describes (outcome : Outcome) (name : String) (world : World) (result : Except String Unit × World) :
    Prop :=
  result.1 = outcome.value ∧
    result.2.tokens.Perm (outcome.created ++ world.tokens.filter (·.accessorID ∉ outcome.deleted)) ∧
    result.2.secrets = writeRecord name outcome.written world.secrets

theorem Outcome.describes_same (value : Except String Unit) (name : String) (world : World) :
    Outcome.Describes ⟨value, [], [], none⟩ name world (value, world) :=
  ⟨rfl, by simp, rfl⟩

theorem Outcome.describes_insert (value : Except String Unit) (name : String) (world next : World)
    (token : ACLToken) (written : Option String) (tokens : next.tokens = insertToken token world.tokens)
    (secrets : next.secrets = writeRecord name written world.secrets) :
    Outcome.Describes ⟨value, [token], [], written⟩ name world (value, next) :=
  ⟨rfl, by rw [tokens]; simpa using List.perm_orderedInsert _ _ _, secrets⟩

theorem Outcome.mem_of_describes {outcome : Outcome} {name : String} {result : Except String Unit × World}
    (describes : outcome.Describes name world result) {token : ACLToken} :
    token ∈ result.2.tokens ↔ token ∈ outcome.created ∨ (token ∈ world.tokens ∧ token.accessorID ∉ outcome.deleted) := by
  rw [describes.2.1.mem_iff]
  simp

/-! ## The footprint of an operation -/

/-- `TokenRead` finds the same token in two worlds that hold the same tokens with its accessor ID. -/
theorem find_accessorID_congr {other : World} {accessorID : String}
    (same : ∀ token, token.accessorID = accessorID → (token ∈ other.tokens ↔ token ∈ world.tokens)) :
    other.tokens.find? (·.accessorID = accessorID) = world.tokens.find? (·.accessorID = accessorID) := by
  rcases found : world.tokens.find? (·.accessorID = accessorID) with _ | token
  · rw [found, List.find?_eq_none]
    rw [List.find?_eq_none] at found
    intro token member named
    exact found token ((same token (by simpa using named)).mp member) named
  · have named : token.accessorID = accessorID := by simpa using List.find?_some found
    have member := (same token named).mpr (List.mem_of_find?_eq_some found)
    rw [found]
    rcases found' : other.tokens.find? (·.accessorID = accessorID) with _ | hit
    · exact absurd (List.find?_eq_none.mp found' token member) (by simpa using named)
    · have named' : hit.accessorID = accessorID := by simpa using List.find?_some found'
      rw [found']
      exact congrArg some (other.token_eq_of_accessorID_eq (List.mem_of_find?_eq_some found') member
        (named'.trans named.symm))

/-- In every world that agrees with `world` on its record, on the live token the record names and
on its new token's accessor ID, `Upsert` has the outcome it has in `world`. -/
theorem upsert_outcome (t : TaskFamily) (env : Env) (other : World)
    (record : other.secrets t.secretName = world.secrets t.secretName)
    (named : ∀ value secret, world.secrets t.secretName = some value → Json.unmarshal value = .ok secret →
      ∀ token, token.accessorID = secret.accessorID → (token ∈ other.tokens ↔ token ∈ world.tokens))
    (accepted : assignAccessorID env.accessorID other.tokens = assignAccessorID env.accessorID world.tokens) :
    ∃ outcome : Outcome, outcome.deleted = [] ∧ (∀ token ∈ outcome.created, token = t.createdToken env world) ∧
      outcome.Describes t.secretName world ((t.upsert.run env world).value, (t.upsert.run env world).world) ∧
      outcome.Describes t.secretName other ((t.upsert.run env other).value, (t.upsert.run env other).world) := by
  have read : ((getSecretValue t.secretName).run env other).value =
      ((getSecretValue t.secretName).run env world).value := by
    rw [getSecretValue_value, getSecretValue_value, record]
  have created : t.createdToken env other = t.createdToken env world := by
    simp only [TaskFamily.createdToken, World.createToken, accepted]
  rw [upsert_eq, upsert_eq, read]
  rcases stored : ((getSecretValue t.secretName).run env world).value with err | value
  · exact ⟨_, rfl, by simp, Outcome.describes_same _ _ _, Outcome.describes_same _ _ _⟩
  dsimp only
  rcases decodes : Json.unmarshal value with err | secret
  · exact ⟨_, rfl, by simp, Outcome.describes_same _ _ _, Outcome.describes_same _ _ _⟩
  have existing : ((readExistingToken secret.accessorID).run env other).value =
      ((readExistingToken secret.accessorID).run env world).value := by
    rw [readExistingToken_value, readExistingToken_value, tokenRead_value, tokenRead_value,
      find_accessorID_congr (named value secret (secrets_of_getSecretValue_ok stored) decodes)]
  dsimp only
  rw [existing]
  rcases ((readExistingToken secret.accessorID).run env world).value with err | _ | token
  · exact ⟨_, rfl, by simp, Outcome.describes_same _ _ _, Outcome.describes_same _ _ _⟩
  · rw [updateServiceToken_eq, updateServiceToken_eq, created]
    rcases t.createFailure env with _ | err
    · dsimp only
      rw [updateSecret_run, updateSecret_run, World.createToken_secrets, World.createToken_secrets, record]
      -- the record is written only when the update goes through to an existing record
      rcases env.fault (.updateSecret t.secretName _) with _ | err <;>
        rcases world.secrets t.secretName with _ | old <;>
        first
        | exact ⟨_, rfl, fun _ member => List.mem_singleton.mp member, Outcome.describes_insert _ _ _ _ _ none rfl rfl,
            Outcome.describes_insert _ _ _ _ _ none (congrArg (insertToken · other.tokens) created) rfl⟩
        | exact ⟨_, rfl, fun _ member => List.mem_singleton.mp member, Outcome.describes_insert _ _ _ _ _ (some _) rfl rfl,
            Outcome.describes_insert _ _ _ _ _ (some _) (congrArg (insertToken · other.tokens) created) rfl⟩
    · exact ⟨_, rfl, by simp, Outcome.describes_same _ _ _, Outcome.describes_same _ _ _⟩
  · exact ⟨_, rfl, by simp, Outcome.describes_same _ _ _, Outcome.describes_same _ _ _⟩

/-- In every world that agrees with `world` on its record, `DeleteTokenInfo` has the outcome it has
in `world`: its deletes fail or succeed alike, and it deletes by accessor ID. -/
theorem deleteTokenInfo_outcome (t : TaskDefinitionLister) (family : String) (tokens : List ACLToken)
    (env : Env) (other : World)
    (record : other.secrets (secretName t.secretPrefix family) = world.secrets (secretName t.secretPrefix family)) :
    ∃ outcome : Outcome, outcome.created = [] ∧ (∀ accessorID ∈ outcome.deleted, accessorID ∈ tokens.map (·.accessorID)) ∧
      outcome.Describes (secretName t.secretPrefix family) world
        (((t.deleteTokenInfo family tokens).run env world).value, ((t.deleteTokenInfo family tokens).run env world).world) ∧
      outcome.Describes (secretName t.secretPrefix family) other
        (((t.deleteTokenInfo family tokens).run env other).value, ((t.deleteTokenInfo family tokens).run env other).world) := by
  obtain ⟨k, -, value, -, run⟩ := @deleteTokens_take env tokens
  obtain ⟨resultWorld, secretsWorld, tokensWorld⟩ := run world
  obtain ⟨resultOther, secretsOther, tokensOther⟩ := run other
  have prefixed : ∀ accessorID ∈ (tokens.take k).map (·.accessorID), accessorID ∈ tokens.map (·.accessorID) :=
    fun _ member => List.map_subset _ (List.take_subset _ _) member
  rw [deleteTokenInfo_eq, deleteTokenInfo_eq, resultWorld, resultOther]
  rcases value with err | _
  · exact ⟨⟨.error err, [], (tokens.take k).map (·.accessorID), none⟩, rfl, prefixed,
      ⟨rfl, by simp [tokensWorld], secretsWorld⟩, ⟨rfl, by simp [tokensOther], secretsOther⟩⟩
  dsimp only
  rw [updateSecret_run, updateSecret_run, secretsWorld, secretsOther, record]
  -- the record is reset only when the update goes through to an existing record
  rcases env.fault (.updateSecret (secretName t.secretPrefix family) emptySecret) with _ | err <;>
    rcases world.secrets (secretName t.secretPrefix family) with _ | old <;>
    first
    | exact ⟨⟨_, [], (tokens.take k).map (·.accessorID), none⟩, rfl, prefixed,
        ⟨rfl, by simp [tokensWorld], secretsWorld⟩, ⟨rfl, by simp [tokensOther], secretsOther⟩⟩
    | exact ⟨⟨_, [], (tokens.take k).map (·.accessorID), some emptySecret⟩, rfl, prefixed,
        ⟨rfl, by simp [tokensWorld], by simp [secretsWorld, writeRecord]⟩,
        ⟨rfl, by simp [tokensOther], by simp [secretsOther, writeRecord]⟩⟩

/-- Each operation on `family` has one outcome in all worlds that agree with `world` on its
footprint, when the accessor ID it proposes is fresh in both. -/
theorem FamilyOp.outcome (cluster secretPrefix family : String) (op : FamilyOp) (other : World)
    (record : other.secrets (secretName secretPrefix family) = world.secrets (secretName secretPrefix family))
    (named : ∀ value secret, world.secrets (secretName secretPrefix family) = some value →
      Json.unmarshal value = .ok secret →
      ∀ token, token.accessorID = secret.accessorID → (token ∈ other.tokens ↔ token ∈ world.tokens))
    (fresh : ∀ accessorID ∈ op.proposals, accessorID ≠ "" ∧ accessorID ∉ world.tokens.map (·.accessorID) ∧
      accessorID ∉ other.tokens.map (·.accessorID)) :
    ∃ outcome : Outcome, (∀ token ∈ outcome.created, token.accessorID ∈ op.proposals) ∧
      (∀ accessorID ∈ outcome.deleted, accessorID ∈ op.targets) ∧
      outcome.Describes (secretName secretPrefix family) world (op.run cluster secretPrefix family world) ∧
      outcome.Describes (secretName secretPrefix family) other (op.run cluster secretPrefix family other) := by
  cases op with
  | upsert env =>
    obtain ⟨nonempty, freshWorld, freshOther⟩ := fresh env.accessorID (List.mem_singleton_self _)
    have acceptedWorld : assignAccessorID env.accessorID world.tokens = env.accessorID :=
      if_pos ⟨nonempty, freshWorld⟩
    have acceptedOther : assignAccessorID env.accessorID other.tokens = env.accessorID :=
      if_pos ⟨nonempty, freshOther⟩
    obtain ⟨outcome, deleted, created, describesWorld, describesOther⟩ :=
      upsert_outcome ⟨cluster, secretPrefix, family⟩ env other record named (acceptedOther.trans acceptedWorld.symm)
    refine ⟨outcome, fun token member => ?_, by simp [deleted], describesWorld, describesOther⟩
    rw [created token member]
    exact List.mem_singleton.mpr acceptedWorld
  | deleteTokenInfo tokens env =>
    obtain ⟨outcome, created, deleted, describesWorld, describesOther⟩ :=
      deleteTokenInfo_outcome ⟨cluster, secretPrefix⟩ family tokens env other record
    exact ⟨outcome, by simp [created], deleted, describesWorld, describesOther⟩

/-! ## Two families -/

/-- Every record that decodes names no live token of another family. -/
def RecordsOwned (secretPrefix : String) (world : World) : Prop :=
  ∀ family value secret, world.secrets (secretName secretPrefix family) = some value →
    Json.unmarshal value = .ok secret →
    ∀ token ∈ world.tokens, token.accessorID = secret.accessorID → token.BoundTo family

/-- An accessor ID Consul has never handed out: nonempty, held by no live token, named by no
record. -/
def FreshAccessorID (secretPrefix : String) (world : World) (accessorID : String) : Prop :=
  accessorID ≠ "" ∧ accessorID ∉ world.tokens.map (·.accessorID) ∧
    ∀ family value secret, world.secrets (secretName secretPrefix family) = some value →
      Json.unmarshal value = .ok secret → secret.accessorID ≠ accessorID

/-- A `DeleteTokenInfo` deletes live tokens bound to its own family. -/
def FamilyOp.Owned (family : String) (world : World) : FamilyOp → Prop
  | .upsert _ => True
  | .deleteTokenInfo tokens _ => ∀ token ∈ tokens, token ∈ world.tokens ∧ token.BoundTo family

theorem FamilyOp.targets_live {family : String} {op : FamilyOp} (owned : op.Owned family world) :
    ∀ accessorID ∈ op.targets, ∃ token ∈ world.tokens, token.accessorID = accessorID ∧ token.BoundTo family := by
  cases op with
  | upsert env => simp [FamilyOp.targets]
  | deleteTokenInfo tokens env =>
    intro accessorID member
    obtain ⟨token, listed, rfl⟩ := List.mem_map.mp member
    exact ⟨token, (owned token listed).1, rfl, (owned token listed).2⟩

theorem ACLToken.BoundTo.unique {token : ACLToken} {family other : String} (bound : token.BoundTo family)
    (bound' : token.BoundTo other) : family = other := by
  simpa using bound.symm.trans bound'

/-- Token stores with the same tokens are equal: both are kept in accessor order. -/
theorem World.tokens_eq_of_perm {other : World} (perm : world.tokens.Perm other.tokens) :
    world.tokens = other.tokens :=
  haveI : IsAntisymm ACLToken fun t u => t.accessorID < u.accessorID :=
    ⟨fun _ _ lt lt' => absurd (lt.trans lt') (lt_irrefl _)⟩
  List.eq_of_perm_of_sorted perm world.sorted other.sorted

theorem recordsOwned_initial (secretPrefix : String) : RecordsOwned secretPrefix World.initial :=
  fun _ _ _ _ _ _ member => absurd member (List.not_mem_nil _)

theorem freshAccessorID_initial (secretPrefix : String) {accessorID : String} (nonempty : accessorID ≠ "") :
    FreshAccessorID secretPrefix World.initial accessorID := by
  refine ⟨nonempty, List.not_mem_nil _, fun _ value secret stored decodes => ?_⟩
  obtain rfl : value = emptySecret := (Option.some.inj stored).symm
  obtain rfl : secret = ⟨"", ""⟩ := by cases decodes; rfl
  exact nonempty.symm

/-- An operation on `g` keeps the footprint of every other family `f`, and creates no accessor ID
but its own proposals. -/
theorem footprint_kept (secretPrefix : String) {f g : String} (distinct : f ≠ g)
    (records : RecordsOwned secretPrefix world) {outcome : Outcome} {result : Except String Unit × World}
    (describes : outcome.Describes (secretName secretPrefix g) world result) {proposals targets : List String}
    (created : ∀ token ∈ outcome.created, token.accessorID ∈ proposals)
    (deleted : ∀ accessorID ∈ outcome.deleted, accessorID ∈ targets)
    (fresh : ∀ accessorID ∈ proposals, FreshAccessorID secretPrefix world accessorID)
    (owned : ∀ accessorID ∈ targets, ∃ token ∈ world.tokens, token.accessorID = accessorID ∧ token.BoundTo g) :
    result.2.secrets (secretName secretPrefix f) = world.secrets (secretName secretPrefix f) ∧
    (∀ value secret, world.secrets (secretName secretPrefix f) = some value → Json.unmarshal value = .ok secret →
      ∀ token, token.accessorID = secret.accessorID → (token ∈ result.2.tokens ↔ token ∈ world.tokens)) ∧
    (∀ accessorID ∉ proposals, accessorID ∉ world.tokens.map (·.accessorID) →
      accessorID ∉ result.2.tokens.map (·.accessorID)) := by
  have names : secretName secretPrefix f ≠ secretName secretPrefix g :=
    fun same => distinct (secretName_injective secretPrefix same)
  refine ⟨?_, fun value secret stored decodes token same => ?_, fun accessorID unproposed unused listed => ?_⟩
  · rw [describes.2.2]
    cases outcome.written <;> simp [writeRecord, Function.update_noteq names]
  · rw [Outcome.mem_of_describes describes]
    constructor
    · rintro (new | ⟨old, -⟩)
      · exact absurd same ((fresh _ (created token new)).2.2 f value secret stored decodes).symm
      · exact old
    · refine fun old => .inr ⟨old, fun gone => ?_⟩
      obtain ⟨live, member, named, bound⟩ := owned _ (deleted _ gone)
      exact distinct ((records f value secret stored decodes live member (named.trans same)).unique bound)
  · obtain ⟨token, member, rfl⟩ := List.mem_map.mp listed
    rcases (Outcome.mem_of_describes describes).mp member with new | ⟨old, -⟩
    · exact unproposed (created token new)
    · exact unused (List.mem_map_of_mem _ old)

theorem filter_filter_comm (tokens : List ACLToken) (deleted deleted' : List String) :
    (tokens.filter (·.accessorID ∉ deleted)).filter (·.accessorID ∉ deleted') =
      (tokens.filter (·.accessorID ∉ deleted')).filter (·.accessorID ∉ deleted) := by
  simp only [List.filter_filter, Bool.and_comm]

/-- The tokens after two steps, the second keeping what the first created. -/
theorem perm_two_steps {first second : Outcome} {world : World} {middle last : List ACLToken}
    (firstStep : middle.Perm (first.created ++ world.tokens.filter (·.accessorID ∉ first.deleted)))
    (secondStep : last.Perm (second.created ++ middle.filter (·.accessorID ∉ second.deleted)))
    (kept : ∀ token ∈ first.created, token.accessorID ∉ second.deleted) :
    last.Perm (second.created ++ (first.created ++
      (world.tokens.filter (·.accessorID ∉ first.deleted)).filter (·.accessorID ∉ second.deleted))) := by
  refine secondStep.trans ((firstStep.filter _).append_left _ |>.trans ?_)
  rw [List.filter_append, List.filter_eq_self.mpr (by simpa using kept)]

/-- What one operation creates has a fresh accessor ID, so an operation that deletes only live
tokens of its own family does not delete it. -/
theorem created_not_deleted {secretPrefix family : String} {op op' : FamilyOp} {outcome outcome' : Outcome}
    (fresh : ∀ a ∈ op.proposals, FreshAccessorID secretPrefix world a) (owned : op'.Owned family world)
    (created : ∀ token ∈ outcome.created, token.accessorID ∈ op.proposals)
    (deleted : ∀ a ∈ outcome'.deleted, a ∈ op'.targets) :
    ∀ token ∈ outcome.created, token.accessorID ∉ outcome'.deleted := fun token new gone => by
  obtain ⟨live, member, named, -⟩ := FamilyOp.targets_live owned _ (deleted _ gone)
  exact (fresh _ (created token new)).2.1 (named ▸ List.mem_map_of_mem _ member)

/-- Two operations on distinct families commute: either order gives each the same result and
leaves the same world, when records name only live tokens of their own family, the accessor IDs
the two may create are fresh and distinct, and each `DeleteTokenInfo` deletes live tokens of its
own family. Neither writes the other's record. -/
theorem familyOps_commute (cluster secretPrefix f g : String) (opF opG : FamilyOp) (world : World)
    (distinct : f ≠ g) (records : RecordsOwned secretPrefix world)
    (fresh : ∀ accessorID ∈ opF.proposals ++ opG.proposals, FreshAccessorID secretPrefix world accessorID)
    (apart : (opF.proposals ++ opG.proposals).Nodup)
    (ownedF : opF.Owned f world) (ownedG : opG.Owned g world) :
    let first := opF.run cluster secretPrefix f world
    let second := opG.run cluster secretPrefix g first.2
    let first' := opG.run cluster secretPrefix g world
    let second' := opF.run cluster secretPrefix f first'.2
    Function.Injective (secretName secretPrefix) ∧
      first.2.secrets (secretName secretPrefix g) = world.secrets (secretName secretPrefix g) ∧
      first'.2.secrets (secretName secretPrefix f) = world.secrets (secretName secretPrefix f) ∧
      first.1 = second'.1 ∧ second.1 = first'.1 ∧ second.2 = second'.2 := by
  intro first second first' second'
  have freshF : ∀ a ∈ opF.proposals, FreshAccessorID secretPrefix world a :=
    fun a member => fresh a (List.mem_append_left _ member)
  have freshG : ∀ a ∈ opG.proposals, FreshAccessorID secretPrefix world a :=
    fun a member => fresh a (List.mem_append_right _ member)
  have disjoint : ∀ a ∈ opF.proposals, a ∉ opG.proposals := fun _ member member' =>
    List.disjoint_of_nodup_append apart member member'
  -- `G` from the start keeps the footprint of `F`, and `F` has one outcome in both orders
  obtain ⟨outcomeG₀, createdG₀, deletedG₀, describesG₀, -⟩ := opG.outcome cluster secretPrefix g world rfl
    (fun _ _ _ _ _ _ => Iff.rfl) fun a member => ⟨(freshG a member).1, (freshG a member).2.1, (freshG a member).2.1⟩
  have keptF := footprint_kept secretPrefix distinct records describesG₀ createdG₀ deletedG₀ freshG
    (FamilyOp.targets_live ownedG)
  obtain ⟨outcomeF, createdF, deletedF, describesF, describesF'⟩ := opF.outcome cluster secretPrefix f first'.2
    keptF.1 keptF.2.1 fun a member =>
      ⟨(freshF a member).1, (freshF a member).2.1, keptF.2.2 a (disjoint a member) (freshF a member).2.1⟩
  -- and symmetrically for `G`
  have keptG := footprint_kept secretPrefix distinct.symm records describesF createdF deletedF freshF
    (FamilyOp.targets_live ownedF)
  obtain ⟨outcomeG, createdG, deletedG, describesG, describesG'⟩ := opG.outcome cluster secretPrefix g first.2
    keptG.1 keptG.2.1 fun a member =>
      ⟨(freshG a member).1, (freshG a member).2.1, keptG.2.2 a (fun member' => disjoint a member' member)
        (freshG a member).2.1⟩
  have names : secretName secretPrefix f ≠ secretName secretPrefix g :=
    fun same => distinct (secretName_injective secretPrefix same)
  refine ⟨secretName_injective secretPrefix, keptG.1, keptF.1, describesF.1.trans describesF'.1.symm,
    describesG'.1.trans describesG.1.symm, World.ext ?_ (World.tokens_eq_of_perm ?_)⟩
  · rw [describesG'.2.2, describesF.2.2, describesF'.2.2, describesG.2.2]
    exact (writeRecord_comm names _ _ _).symm
  · refine (perm_two_steps describesF.2.1 describesG'.2.1
      (created_not_deleted freshF ownedG createdF deletedG)).trans ?_
    refine List.Perm.trans ?_ (perm_two_steps describesG.2.1 describesF'.2.1
      (created_not_deleted freshG ownedF createdG deletedF)).symm
    rw [filter_filter_comm]
    exact List.perm_append_comm_assoc _ _ _

theorem familyOps_commute_two_upserts :
    let opF := FamilyOp.upsert (Env.reliable "a" "s")
    let opG := FamilyOp.upsert (Env.reliable "b" "t")
    let second := opG.run "cluster" "prefix" "api" (opF.run "cluster" "prefix" "web" World.initial).2
    let second' := opF.run "cluster" "prefix" "web" (opG.run "cluster" "prefix" "api" World.initial).2
    second.2.tokens.length = 2 ∧ second.2 = second'.2 :=
  ⟨rfl, (familyOps_commute "cluster" "prefix" "web" "api" (.upsert (Env.reliable "a" "s"))
    (.upsert (Env.reliable "b" "t")) World.initial (by decide) (recordsOwned_initial "prefix")
    (fun _ member => freshAccessorID_initial "prefix" (by simp [FamilyOp.proposals] at member; rcases member with rfl | rfl <;> decide))
    (by decide) trivial trivial).2.2.2.2.2⟩

end ConsulEcs.Controller
