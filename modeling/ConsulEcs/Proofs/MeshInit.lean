import Mathlib
import ConsulEcs.Model.MeshInit

/-! # The registrations of `mesh-init`

All registrations go to one synthetic node, so their service IDs must not collide. A service ID is
the service name, a dash and the task ID; as a task ID has no dash, the last dash of an ID splits
it back into the two, and the proxy's suffix ends in `proxy`, which is not a task ID. The locality
of a workload's registrations follows the region, while a gateway's registration never carries one.
The name `mesh-init` registers for a task of a family is the family lowered rune by rune, a name
that is its own lower case; ASCII lowering keeps the laws of a rune lowering, so it is one.
-/

namespace ConsulEcs.MeshInit

/-! ## Service IDs -/

/-- A hexadecimal digit, in either case. -/
def isHexDigit (c : Char) : Bool :=
  c.isDigit || (decide ('a' ≤ c) && decide (c ≤ 'f')) || (decide ('A' ≤ c) && decide (c ≤ 'F'))

/-- A string of hexadecimal digits, as ECS task IDs are. -/
def HexDigits (s : String) : Prop := ∀ c ∈ s.toList, isHexDigit c = true

theorem dash_not_mem_of_hexDigits {s : String} (hex : HexDigits s) : '-' ∉ s.data :=
  fun member => absurd (hex '-' member) (by decide)

/-- Equal lists that end in a separator and a tail without it split there alike. -/
theorem append_sep_inj {sep : Char} {x y : List Char} (hx : sep ∉ x) (hy : sep ∉ y) :
    ∀ {a b : List Char}, a ++ sep :: x = b ++ sep :: y → a = b ∧ x = y
  | [], [], same => ⟨rfl, (List.cons.inj same).2⟩
  | [], _ :: _, same => absurd (by rw [(List.cons.inj same).2]; simp) hx
  | _ :: _, [], same => absurd (by rw [← (List.cons.inj same).2]; simp) hy
  | _ :: _, _ :: _, same =>
    have ⟨head, tail⟩ := List.cons.inj same
    have ⟨rest, tails⟩ := append_sep_inj hx hy tail
    ⟨head ▸ rest ▸ rfl, tails⟩

theorem makeServiceID_data (serviceName taskID : String) :
    (makeServiceID serviceName taskID).data = serviceName.data ++ '-' :: taskID.data := by
  simp [makeServiceID]

theorem makeServiceID_inj {serviceName serviceName' taskID taskID' : String} (hex : HexDigits taskID)
    (hex' : HexDigits taskID') (same : makeServiceID serviceName taskID = makeServiceID serviceName' taskID') :
    serviceName = serviceName' ∧ taskID = taskID' := by
  have split := append_sep_inj (dash_not_mem_of_hexDigits hex) (dash_not_mem_of_hexDigits hex')
    (by rw [← makeServiceID_data, ← makeServiceID_data, same])
  exact ⟨String.ext split.1, String.ext split.2⟩

theorem proxyID_data (serviceID serviceName : String) :
    (makeProxySvcIDAndName serviceID serviceName).1.data = (serviceID.data ++ "-sidecar".data) ++ '-' :: "proxy".data := by
  simp [makeProxySvcIDAndName]

/-- Service and gateway IDs of hexadecimal task IDs determine the name and the task, so do the
proxy IDs made from them, and no proxy ID is a service ID. -/
theorem serviceIDs_distinct (serviceName serviceName' taskID taskID' : String) (hex : HexDigits taskID)
    (hex' : HexDigits taskID') :
    (makeServiceID serviceName taskID = makeServiceID serviceName' taskID' →
      serviceName = serviceName' ∧ taskID = taskID') ∧
    ((makeProxySvcIDAndName (makeServiceID serviceName taskID) serviceName).1 =
        (makeProxySvcIDAndName (makeServiceID serviceName' taskID') serviceName').1 →
      serviceName = serviceName' ∧ taskID = taskID') ∧
    (makeProxySvcIDAndName (makeServiceID serviceName taskID) serviceName).1 ≠ makeServiceID serviceName' taskID' := by
  refine ⟨makeServiceID_inj hex hex', fun same => makeServiceID_inj hex hex' ?_, fun same => ?_⟩
  · have lists := congrArg String.data same
    simp only [makeProxySvcIDAndName, String.data_append] at lists
    exact String.ext (List.append_cancel_right lists)
  · have lists := congrArg String.data same
    rw [proxyID_data, makeServiceID_data serviceName' taskID'] at lists
    have tails := (append_sep_inj (by decide) (dash_not_mem_of_hexDigits hex') lists).2
    have proxyLetter := hex' 'p' (by rw [String.toList, ← tails]; simp)
    exact absurd proxyLetter (by decide)

theorem serviceIDs_distinct_web_api :
    HexDigits "abcdef" ∧ HexDigits "0123" ∧
      (makeProxySvcIDAndName (makeServiceID "web" "abcdef") "web").1 ≠ makeServiceID "api" "0123" :=
  have hex : HexDigits "abcdef" := by intro c member; simp at member; rcases member with rfl | rfl | rfl | rfl | rfl | rfl <;> rfl
  have hex' : HexDigits "0123" := by intro c member; simp at member; rcases member with rfl | rfl | rfl | rfl <;> rfl
  ⟨hex, hex', (serviceIDs_distinct "web" "api" "abcdef" "0123" hex hex').2.2⟩

/-! ## Service names -/

theorem toNat_ofNat_of_lt {n : Nat} (small : n < 0xD800) : (Char.ofNat n).toNat = n := by
  have valid : n.isValidChar := Or.inl small
  simp [Char.ofNat, valid, Char.ofNatAux, Char.toNat, UInt32.toNat]

theorem toLower_toLower_char (c : Char) : c.toLower.toLower = c.toLower := by
  unfold Char.toLower
  dsimp only
  split_ifs with upper upper'
  · rw [toNat_ofNat_of_lt (by omega)] at upper'
    omega
  · rfl
  · rfl

/-- Only a dot lowers to a dot. -/
theorem eq_dot_of_toLower {c : Char} (lowered : c.toLower = '.') : c = '.' := by
  unfold Char.toLower at lowered
  dsimp only at lowered
  split_ifs at lowered with upper
  · have dot := congrArg Char.toNat lowered
    rw [toNat_ofNat_of_lt (by omega)] at dot
    exact absurd dot (by simp only [show '.'.toNat = 46 from rfl]; omega)
  · exact lowered

/-- The lowering of ASCII letters, which `unicode.ToLower` agrees with on ASCII. -/
def RuneLowering.ascii : RuneLowering :=
  ⟨Char.toLower, toLower_toLower_char, fun _ _ => rfl, fun _ => eq_dot_of_toLower⟩

theorem toLower_toLower (lowering : RuneLowering) (s : String) :
    toLower lowering (toLower lowering s) = toLower lowering s := by
  simp only [toLower, List.map_map]
  exact congrArg String.mk (List.map_congr_left fun c _ => lowering.toLower_toLower c)

theorem constructServiceName_of_unnamed (k : Constants) (c : Config) (family : String) (workload : c.isGateway = false)
    (unnamed : c.service.name = "") : Command.constructServiceName k c family = toLower k.lowering family := by
  rcases c with ⟨service, _ | gateway, port⟩ <;>
    simp_all [Command.constructServiceName]

/-! ## What `realRun` sends -/

theorem realRun_eq (k : Constants) (c : Config) (region : String) (taskMeta : ECSTaskMeta) (clusterARN : String) :
    Command.realRun k c region taskMeta clusterARN =
      match c.gateway, c.isGateway with
      | some gateway, true => [Command.constructGatewayProxyRegistration k c gateway taskMeta clusterARN]
      | _, _ =>
        [Command.constructServiceRegistration k c region taskMeta clusterARN,
          Command.constructProxyRegistration c (Command.constructServiceRegistration k c region taskMeta clusterARN)
            taskMeta clusterARN] := by
  rcases c with ⟨service, _ | gateway, port⟩
  · rfl
  · cases gate : gateway.kind != "" <;>
      simp [Command.realRun, Command.registrations, Config.isGateway, Option.filter, gate]

/-- A workload's registrations carry the locality of the region, a gateway's none. -/
theorem realRun_locality (k : Constants) (c : Config) (region : String) (taskMeta : ECSTaskMeta)
    (clusterARN : String) :
    ∀ registration ∈ Command.realRun k c region taskMeta clusterARN,
      registration.service.locality = if c.isGateway then none else getLocalityParams region taskMeta := by
  rw [realRun_eq]
  rcases c with ⟨service, _ | gateway, port⟩
  · simp [Config.isGateway, Command.constructServiceRegistration, Command.constructProxyRegistration,
      Command.constructCatalogRegistrationPayload]
  · cases gate : gateway.kind != ""
    · simp [Config.isGateway, gate, Command.constructServiceRegistration, Command.constructProxyRegistration,
        Command.constructCatalogRegistrationPayload]
    · simp only [Config.isGateway, gate, List.mem_singleton, forall_eq, if_true]
      simp only [Command.constructGatewayProxyRegistration, Command.constructCatalogRegistrationPayload]
      split_ifs <;> rfl

/-- For a gateway and a known region, the registration carries no locality, where the region's
locality is at hand. -/
theorem realRun_gateway_locality (k : Constants) (c : Config) (region : String) (taskMeta : ECSTaskMeta)
    (clusterARN : String) (gateway : c.isGateway = true) (known : region ≠ "") :
    getLocalityParams region taskMeta = some ⟨region, taskMeta.availabilityZone⟩ ∧
      ∀ registration ∈ Command.realRun k c region taskMeta clusterARN, registration.service.locality = none :=
  ⟨if_neg known, fun registration member => by rw [realRun_locality k c region taskMeta clusterARN registration member, if_pos gateway]⟩

theorem realRun_gateway_locality_us_east_1 :
    let k : Constants := ⟨8443, "lan", "wan", by decide, RuneLowering.ascii⟩
    let c : Config := ⟨⟨"", 0, [], fun _ => none, ⟨1, 1⟩, false, "", ""⟩,
      some ⟨serviceKindMeshGateway, "gateway", [], fun _ => none, none, none, "", ""⟩, 20000⟩
    let taskMeta : ECSTaskMeta := ⟨"arn:aws:ecs:us-east-1:123456789012:task/cluster/abcdef", "gateway",
      "us-east-1a", "abcdef", "10.0.0.1"⟩
    getLocalityParams "us-east-1" taskMeta = some ⟨"us-east-1", "us-east-1a"⟩ ∧
      ∀ registration ∈ Command.realRun k c "us-east-1" taskMeta "arn:aws:ecs:us-east-1:123456789012:cluster/cluster",
        registration.service.locality = none :=
  realRun_gateway_locality _ _ _ _ _ rfl (by decide)

/-! ## The addresses of a mesh gateway -/

theorem lanAddresses_port (k : Constants) (lanAddress : Option GatewayAddress) (nodeIP : String) :
    (lanAddresses k lanAddress nodeIP).port = match lanAddress with
      | some lan => if lan.port > 0 then lan.port else k.defaultGatewayPort
      | none => k.defaultGatewayPort := by
  rcases lanAddress with _ | lan
  · rfl
  · simp only [lanAddresses, GatewayAddress.toConsulType]
    split_ifs <;> rfl

theorem lanAddresses_address (k : Constants) (lanAddress : Option GatewayAddress) (nodeIP : String) :
    (lanAddresses k lanAddress nodeIP).address = match lanAddress with
      | some lan => if lan.address ≠ "" then lan.address else nodeIP
      | none => nodeIP := by
  rcases lanAddress with _ | lan
  · rfl
  · simp only [lanAddresses, GatewayAddress.toConsulType]
    split_ifs <;> rfl

theorem AddressMap.get_insert_self (tagged : AddressMap) (key : String) (address : ServiceAddress) :
    (tagged.insert key address).get key = some address := by
  simp [AddressMap.insert, AddressMap.get]

theorem find?_filter_of_imp {α : Type} {p q : α → Bool} (imp : ∀ x, p x = true → q x = true) :
    ∀ l : List α, (l.filter q).find? p = l.find? p
  | [] => rfl
  | x :: rest => by
    by_cases kept : q x = true
    · simp only [List.filter_cons, kept, if_true, List.find?_cons, find?_filter_of_imp imp rest]
    · have skipped : p x = false := by simpa using mt (imp x) kept
      simp [List.filter_cons, kept, List.find?_cons, skipped, find?_filter_of_imp imp rest]

theorem AddressMap.get_insert_of_ne (tagged : AddressMap) {key other : String} (distinct : other ≠ key)
    (address : ServiceAddress) : (tagged.insert key address).get other = tagged.get other := by
  simp only [AddressMap.insert, AddressMap.get, List.find?_cons, Ne.symm distinct, decide_False]
  rw [find?_filter_of_imp fun entry named => by simpa [of_decide_eq_true named] using distinct]

theorem lanAddresses_get_lan (k : Constants) (lanAddress : Option GatewayAddress) (nodeIP : String) :
    (lanAddresses k lanAddress nodeIP).tagged.get k.taggedAddressLAN = match lanAddress with
      | some lan => if lan.address ≠ "" then some lan.toConsulType else none
      | none => none := by
  rcases lanAddress with _ | lan
  · rfl
  · simp only [lanAddresses, GatewayAddress.toConsulType]
    split_ifs <;> first | rfl | exact AddressMap.get_insert_self _ _ _

theorem lanAddresses_get_of_ne (k : Constants) (lanAddress : Option GatewayAddress) (nodeIP : String)
    {key : String} (other : key ≠ k.taggedAddressLAN) : (lanAddresses k lanAddress nodeIP).tagged.get key = none := by
  rcases lanAddress with _ | lan
  · rfl
  · simp only [lanAddresses]
    split_ifs <;> first | rfl | exact (AddressMap.get_insert_of_ne _ other _).trans rfl

theorem lanAddresses_length (k : Constants) (lanAddress : Option GatewayAddress) (nodeIP : String) :
    (lanAddresses k lanAddress nodeIP).tagged.length > 0 ↔ ∃ lan, lanAddress = some lan ∧ lan.address ≠ "" := by
  rcases lanAddress with _ | lan
  · simp [lanAddresses]
  · simp only [lanAddresses]
    split_ifs with named <;> simp_all [AddressMap.insert, GatewayAddress.toConsulType]

theorem wanAddresses_port (k : Constants) (wanAddress : Option GatewayAddress) (lan : MeshGatewayAddresses) :
    (wanAddresses k wanAddress lan).port = lan.port := by
  rcases wanAddress with _ | wan
  · rfl
  · simp only [wanAddresses]
    split_ifs <;> rfl

theorem wanAddresses_address (k : Constants) (wanAddress : Option GatewayAddress) (lan : MeshGatewayAddresses) :
    (wanAddresses k wanAddress lan).address = lan.address := by
  rcases wanAddress with _ | wan
  · rfl
  · simp only [wanAddresses]
    split_ifs <;> rfl

theorem wanAddresses_get_lan (k : Constants) (wanAddress : Option GatewayAddress) (lan : MeshGatewayAddresses) :
    (wanAddresses k wanAddress lan).tagged.get k.taggedAddressLAN = lan.tagged.get k.taggedAddressLAN := by
  rcases wanAddress with _ | wan
  · rfl
  · simp only [wanAddresses]
    split_ifs <;> first | rfl | exact AddressMap.get_insert_of_ne _ k.names_ne _

theorem wanAddresses_get_wan (k : Constants) (wanAddress : Option GatewayAddress) (lan : MeshGatewayAddresses) :
    (wanAddresses k wanAddress lan).tagged.get k.taggedAddressWAN = match wanAddress with
      | some wan => if wan.address ≠ "" then some ⟨wan.address, if wan.port = 0 then lan.port else wan.port⟩
        else lan.tagged.get k.taggedAddressWAN
      | none => lan.tagged.get k.taggedAddressWAN := by
  rcases wanAddress with _ | wan
  · rfl
  · simp only [wanAddresses, GatewayAddress.toConsulType]
    split_ifs <;> first | rfl | exact AddressMap.get_insert_self _ _ _

theorem wanAddresses_length (k : Constants) (wanAddress : Option GatewayAddress) (lan : MeshGatewayAddresses) :
    (wanAddresses k wanAddress lan).tagged.length > 0 ↔
      (∃ wan, wanAddress = some wan ∧ wan.address ≠ "") ∨ lan.tagged.length > 0 := by
  rcases wanAddress with _ | wan
  · simp [wanAddresses]
  · simp only [wanAddresses]
    split_ifs with named <;> simp_all [AddressMap.insert, GatewayAddress.toConsulType]

/-- In the mesh-gateway case the registration takes its port, address and tagged addresses from
the LAN and WAN addresses, and has no tagged addresses when they tag none. -/
theorem constructGatewayProxyRegistration_mesh (k : Constants) (c : Config) (gateway : GatewayRegistration)
    (taskMeta : ECSTaskMeta) (clusterARN : String) (mesh : gateway.kind = serviceKindMeshGateway) :
    let addresses := wanAddresses k gateway.wanAddress (lanAddresses k gateway.lanAddress taskMeta.nodeIP)
    let service := (Command.constructGatewayProxyRegistration k c gateway taskMeta clusterARN).service
    service.port = addresses.port ∧ service.address = addresses.address ∧
      service.taggedAddresses = if addresses.tagged.length > 0 then some addresses.tagged else none := by
  simp [Command.constructGatewayProxyRegistration, Command.constructCatalogRegistrationPayload, mesh,
    GatewayRegistration.toConsulType]

/-- The addresses of a mesh gateway's registration, as configured: the port is the LAN port if
positive and the default otherwise, the address the LAN address if nonempty and the node's
otherwise. The LAN and WAN addresses with an address are tagged, the LAN one as configured and the
WAN one with a zero port replaced by the gateway's; with neither there are no tagged addresses. -/
theorem constructGatewayProxyRegistration_addresses (k : Constants) (c : Config) (gateway : GatewayRegistration)
    (taskMeta : ECSTaskMeta) (clusterARN : String) (mesh : gateway.kind = serviceKindMeshGateway) :
    let service := (Command.constructGatewayProxyRegistration k c gateway taskMeta clusterARN).service
    let lanTagged := ∃ lan, gateway.lanAddress = some lan ∧ lan.address ≠ ""
    let wanTagged := ∃ wan, gateway.wanAddress = some wan ∧ wan.address ≠ ""
    service.port = (match gateway.lanAddress with
      | some lan => if lan.port > 0 then lan.port else k.defaultGatewayPort
      | none => k.defaultGatewayPort) ∧
    service.address = (match gateway.lanAddress with
      | some lan => if lan.address ≠ "" then lan.address else taskMeta.nodeIP
      | none => taskMeta.nodeIP) ∧
    (service.taggedAddresses = none ↔ ¬ lanTagged ∧ ¬ wanTagged) ∧
    ∀ tagged, service.taggedAddresses = some tagged →
      ((tagged.get k.taggedAddressLAN).isSome ↔ lanTagged) ∧
      ((tagged.get k.taggedAddressWAN).isSome ↔ wanTagged) ∧
      (∀ lan, gateway.lanAddress = some lan → ∀ entry, tagged.get k.taggedAddressLAN = some entry →
        entry = ⟨lan.address, lan.port⟩ ∧ entry.address = service.address ∧
          (0 < lan.port → entry.port = service.port)) ∧
      (∀ wan, gateway.wanAddress = some wan → ∀ entry, tagged.get k.taggedAddressWAN = some entry →
        entry.address = wan.address ∧ entry.port = if wan.port = 0 then service.port else wan.port) := by
  intro service lanTagged wanTagged
  let lan := lanAddresses k gateway.lanAddress taskMeta.nodeIP
  let all := (wanAddresses k gateway.wanAddress lan).tagged
  obtain ⟨port, address, tagged⟩ := constructGatewayProxyRegistration_mesh k c gateway taskMeta clusterARN mesh
  rw [wanAddresses_port] at port
  rw [wanAddresses_address] at address
  have any : all.length > 0 ↔ lanTagged ∨ wanTagged := by
    rw [wanAddresses_length, lanAddresses_length, or_comm]
  refine ⟨by rw [port, lanAddresses_port], by rw [address, lanAddresses_address], ?_, fun found listed => ?_⟩
  · rw [tagged, ite_eq_right_iff, any]
    simp [not_or]
  rw [tagged] at listed
  split_ifs at listed
  cases listed
  have getLan : all.get k.taggedAddressLAN = _ := (wanAddresses_get_lan k _ lan).trans (lanAddresses_get_lan k _ _)
  have getWan : all.get k.taggedAddressWAN = _ :=
    (wanAddresses_get_wan k _ lan).trans (by rw [lanAddresses_get_of_ne k _ _ (Ne.symm k.names_ne)])
  refine ⟨?_, ?_, fun configured listed entry found => ?_, fun configured listed entry found => ?_⟩
  · rw [getLan]
    simp only [lanTagged]
    rcases gateway.lanAddress with _ | configured <;> simp
  · rw [getWan]
    simp only [wanTagged]
    rcases gateway.wanAddress with _ | configured <;> simp
  · rw [getLan, listed] at found
    dsimp only at found
    split_ifs at found with named
    cases found
    refine ⟨rfl, by rw [address, lanAddresses_address, listed]; exact (if_pos named).symm, fun positive => ?_⟩
    rw [port, lanAddresses_port, listed]
    exact (if_pos positive).symm
  · rw [getWan, listed] at found
    dsimp only at found
    split_ifs at found with named zero <;> cases found
    · exact ⟨rfl, by rw [if_pos zero, port]⟩
    · exact ⟨rfl, by rw [if_neg zero]⟩

theorem constructGatewayProxyRegistration_addresses_lan_wan :
    let k : Constants := ⟨8443, "lan", "wan", by decide, RuneLowering.ascii⟩
    let gateway : GatewayRegistration := ⟨serviceKindMeshGateway, "gateway", [], fun _ => none,
      some ⟨"10.0.0.5", 9443⟩, some ⟨"203.0.113.7", 0⟩, "", ""⟩
    let c : Config := ⟨⟨"", 0, [], fun _ => none, ⟨1, 1⟩, false, "", ""⟩, some gateway, 20000⟩
    let taskMeta : ECSTaskMeta := ⟨"arn:aws:ecs:us-east-1:123456789012:task/cluster/abcdef", "gateway",
      "us-east-1a", "abcdef", "10.0.0.1"⟩
    let service := (Command.constructGatewayProxyRegistration k c gateway taskMeta
      "arn:aws:ecs:us-east-1:123456789012:cluster/cluster").service
    service.port = 9443 ∧ service.address = "10.0.0.5" ∧ service.taggedAddresses.isSome ∧
      ∀ tagged, service.taggedAddresses = some tagged → ∀ entry, tagged.get "wan" = some entry →
        entry = ⟨"203.0.113.7", service.port⟩ := by
  intro k gateway c taskMeta service
  have addresses := constructGatewayProxyRegistration_addresses k c gateway taskMeta
    "arn:aws:ecs:us-east-1:123456789012:cluster/cluster" rfl
  refine ⟨addresses.1.trans (by decide), addresses.2.1.trans (by decide),
    Option.ne_none_iff_isSome.mp (mt addresses.2.2.1.mp fun ⟨lan, _⟩ => lan ⟨_, rfl, by decide⟩),
    fun tagged listed entry found => ?_⟩
  obtain ⟨address, port⟩ := (addresses.2.2.2 tagged listed).2.2.2 _ rfl entry found
  cases entry
  exact congrArg₂ ServiceAddress.mk address (port.trans (if_pos rfl))

/-- A LAN address given without a port is tagged with port 0, while the gateway registers the
default port: the LAN entry then differs from the service's address and port. -/
theorem constructGatewayProxyRegistration_lan_port_unset :
    let k : Constants := ⟨8443, "lan", "wan", by decide, RuneLowering.ascii⟩
    let gateway : GatewayRegistration := ⟨serviceKindMeshGateway, "gateway", [], fun _ => none,
      some ⟨"10.0.0.5", 0⟩, none, "", ""⟩
    let c : Config := ⟨⟨"", 0, [], fun _ => none, ⟨1, 1⟩, false, "", ""⟩, some gateway, 20000⟩
    let taskMeta : ECSTaskMeta := ⟨"arn:aws:ecs:us-east-1:123456789012:task/cluster/abcdef", "gateway",
      "us-east-1a", "abcdef", "10.0.0.1"⟩
    let service := (Command.constructGatewayProxyRegistration k c gateway taskMeta
      "arn:aws:ecs:us-east-1:123456789012:cluster/cluster").service
    service.port = 8443 ∧ service.address = "10.0.0.5" ∧
      service.taggedAddresses = some [("lan", ⟨"10.0.0.5", 0⟩)] :=
  ⟨rfl, rfl, rfl⟩

end ConsulEcs.MeshInit
