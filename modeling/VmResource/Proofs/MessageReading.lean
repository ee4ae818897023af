/-
# Instances that travel as messages

A message keeps all of an instance but for one thing: it does not tell a
list that is empty from one that is absent. So whoever reads a message finds
every list there. What is read of the message of a payload is otherwise what
is read of the payload itself, and it counts as equal to that exactly if no
list was absent.

Key definitions: `Instance.listed`, `Instance.HasLists`.
Key theorems: `Tags.ofPayload_written`, `AttachedDisk.ofPayload_written`,
`Instance.ofMessage_of_ofPayload`, `Instance.listed_eq_self_iff`,
`Instance.message_reads_back`.
-/
import VmResource.Proofs.MessageFields
import VmResource.Proofs.SamePayload

namespace VmResource

open Json (ifSet valueOf)
open Message (exists_writtenFrom)

/-! ### Parts -/

namespace Tags

/-- The tags with a list of values, empty if there was none. -/
def listed (t : Tags) : Tags := { t with values := some (t.values.getD []) }

/-- What is read of tags that were written in a message. -/
theorem ofPayload_written {v w : Json} {t : Tags} (h : ofPayload v = .ok t)
    (hw : Message.tags v = .ok w) : ofPayload w = .ok t.listed := by
  obtain ⟨es, rfl, hvalues, hfingerprint⟩ := ofPayload_eq_ok_iff.mp h
  obtain ⟨fs, rfl, hfs⟩ := exists_writtenFrom (by decide) hw
  refine ofPayload_eq_ok_iff.mpr ⟨fs, rfl, ?_, ?_⟩
  · exact hfs.texts (by simp) hvalues
  · rwa [hfs.text (by simp)]

end Tags

namespace Metadata

/-- The metadata with a list of entries, empty if there was none. -/
def listed (m : Metadata) : Metadata := { m with items := some (m.items.getD []) }

theorem isEntry_written {v w : Json} {item : Text × Option Text} (h : IsEntry v item)
    (hw : Message.metadataItem v = .ok w) : IsEntry w item := by
  obtain ⟨es, rfl, hkey, hvalue⟩ := h
  obtain ⟨fs, rfl, hfs⟩ := exists_writtenFrom (by decide) hw
  refine ⟨fs, rfl, ?_, ?_⟩
  · rwa [hfs.text (by simp)]
  · rwa [hfs.text (by simp)]

/-- What is read of metadata that were written in a message. -/
theorem ofPayload_written {v w : Json} {m : Metadata} (h : ofPayload v = .ok m)
    (hw : Message.metadata v = .ok w) : ofPayload w = .ok m.listed := by
  obtain ⟨es, rfl, hitems, hfingerprint⟩ := ofPayload_eq_ok_iff.mp h
  obtain ⟨fs, rfl, hfs⟩ := exists_writtenFrom (by decide) hw
  refine ofPayload_eq_ok_iff.mpr ⟨fs, rfl, ?_, ?_⟩
  · have hwritten := hfs.items Message.metadataItem id (by simp) hitems fun _ _ _ hx hy =>
      isEntry_written hx hy
    rwa [List.map_id] at hwritten
  · rwa [hfs.text (by simp)]

end Metadata

namespace ServiceAccount

/-- The account with a list of scopes, empty if there was none. -/
def listed (a : ServiceAccount) : ServiceAccount := { a with scopes := some (a.scopes.getD []) }

/-- What is read of an account that was written in a message. -/
theorem ofPayload_written {v w : Json} {a : ServiceAccount} (h : ofPayload v = .ok a)
    (hw : Message.serviceAccount v = .ok w) : ofPayload w = .ok a.listed := by
  obtain ⟨es, rfl, hemail, hscopes⟩ := ofPayload_eq_ok_iff.mp h
  obtain ⟨fs, rfl, hfs⟩ := exists_writtenFrom (by decide) hw
  refine ofPayload_eq_ok_iff.mpr ⟨fs, rfl, ?_, ?_⟩
  · rwa [hfs.text (by simp)]
  · exact hfs.texts (by simp) hscopes

end ServiceAccount

namespace Scheduling

/-- What is read of scheduling that was written in a message. -/
theorem ofPayload_written {v w : Json} {s : Scheduling} (h : ofPayload v = .ok s)
    (hw : Message.scheduling v = .ok w) : ofPayload w = .ok s := by
  obtain ⟨es, rfl, hrestart, hmaintenance, hpreemptible⟩ := ofPayload_eq_ok_iff.mp h
  obtain ⟨fs, rfl, hfs⟩ := exists_writtenFrom (by decide) hw
  refine ofPayload_eq_ok_iff.mpr ⟨fs, rfl, ?_, ?_, ?_⟩
  · rwa [hfs.flag (by simp)]
  · rwa [hfs.text (by simp)]
  · rwa [hfs.flag (by simp)]

end Scheduling

namespace AccessConfig

/-- What is read of an access configuration that was written in a message. -/
theorem ofPayload_written {v w : Json} {a : AccessConfig} (h : ofPayload v = .ok a)
    (hw : Message.accessConfig v = .ok w) : ofPayload w = .ok a := by
  obtain ⟨es, rfl, hname, hnatIp, htype⟩ := ofPayload_eq_ok_iff.mp h
  obtain ⟨fs, rfl, hfs⟩ := exists_writtenFrom (by decide) hw
  refine ofPayload_eq_ok_iff.mpr ⟨fs, rfl, ?_, ?_, ?_⟩
  · rwa [hfs.text (by simp)]
  · rwa [hfs.text (by simp)]
  · rwa [hfs.text (by simp)]

end AccessConfig

namespace NetworkInterface

/-- The interface with a list of access configurations, empty if there was
none. -/
def listed (n : NetworkInterface) : NetworkInterface :=
  { n with accessConfigs := some (n.accessConfigs.getD []) }

/-- What is read of an interface that was written in a message. -/
theorem ofPayload_written {v w : Json} {n : NetworkInterface} (h : ofPayload v = .ok n)
    (hw : Message.networkInterface v = .ok w) : ofPayload w = .ok n.listed := by
  obtain ⟨es, rfl, hnetwork, hname, hip, hsubnetwork, hconfigs⟩ := ofPayload_eq_ok_iff.mp h
  obtain ⟨fs, rfl, hfs⟩ := exists_writtenFrom (by decide) hw
  refine ofPayload_eq_ok_iff.mpr ⟨fs, rfl, ?_, ?_, ?_, ?_, ?_⟩
  · rwa [hfs.text (by simp)]
  · rwa [hfs.text (by simp)]
  · rwa [hfs.text (by simp)]
  · rwa [hfs.text (by simp)]
  · have hwritten := hfs.items Message.accessConfig id (by simp) hconfigs fun _ _ _ hx hy =>
      AccessConfig.ofPayload_written hx hy
    rwa [List.map_id] at hwritten

end NetworkInterface

/-! ### Disks -/

namespace DiskConfiguration

variable {es fs : List (Text × Json)} {kind : DiskKind}

/-- The type of a disk is written as it was given, if it was given. -/
theorem sortIn_written (hkind : kindIn es = some kind)
    (htype : Message.single Message.text (valueOf es "type") = .ok (fs.lookup (.unicode "type"))) :
    sortIn fs = sortIn es := by
  have hnull : sortIn es ≠ .null := by
    intro hnull
    have hnone : kindIn es = none := by
      rw [kindIn_eq_none_iff, hnull]
      exact ⟨by decide, by decide⟩
    rw [hkind] at hnone
    cases hnone
  unfold sortIn at hnull ⊢
  rw [valueOf] at htype
  cases hlookup : es.lookup (.unicode "type") with
  | none =>
    rw [hlookup] at htype
    rw [← Except.ok.inj htype]
  | some v =>
    rw [hlookup, Option.getD_some] at htype hnull
    cases v with
    | null => exact absurd rfl hnull
    | text t =>
      cases t with
      | unicode s => rw [← Except.ok.inj htype]
      | broken cs hcs => cases htype
    | _ => cases htype

/-- The parameters of a disk are written as an object if there are any. -/
theorem parameters_written (hw : Message.disk (.object es) = .ok (.object fs)) :
    (valueOf es "initializeParams" = .null ∧ valueOf fs "initializeParams" = .null) ∨
      (valueOf es "initializeParams" ≠ .null ∧ ∃ qs, valueOf fs "initializeParams" = .object qs ∧
        Message.initializeParams (valueOf es "initializeParams") = .ok (.object qs)) := by
  obtain ⟨_, ⟨⟩, hfs⟩ := exists_writtenFrom (by decide) hw
  have hvalue : valueOf fs "initializeParams" =
      (fs.lookup (.unicode "initializeParams")).getD .null := rfl
  rcases hfs.single_cases "initializeParams" Message.initializeParams (by simp) with
    ⟨hnull, hlookup⟩ | ⟨hne, w, hw, hlookup⟩
  · rw [hlookup] at hvalue
    exact Or.inl ⟨hnull, hvalue⟩
  · obtain ⟨qs, rfl, -⟩ := exists_writtenFrom (by decide) hw
    rw [hlookup] at hvalue
    exact Or.inr ⟨hne, qs, hvalue, hw⟩

/-- What is read of a disk of a kind that was written in a message. -/
theorem readAs_written {c : DiskConfiguration} (h : readAs kind (.object es) = .ok c)
    (hw : Message.disk (.object es) = .ok (.object fs)) : readAs kind (.object fs) = .ok c := by
  obtain ⟨_, ⟨⟩, hfs⟩ := exists_writtenFrom (by decide) hw
  cases kind with
  | persistent =>
    obtain ⟨d, hd, rfl⟩ := Except.map_eq_ok_iff.mp h
    obtain ⟨_, ⟨⟩, hsource, hmode, hboot, hdelete⟩ := PersistentDisk.ofPayload_eq_ok_iff.mp hd
    refine Except.map_eq_ok_iff.mpr ⟨d, PersistentDisk.ofPayload_eq_ok_iff.mpr
      ⟨fs, rfl, ?_, ?_, ?_, ?_⟩, rfl⟩
    · rwa [hfs.text (by simp)]
    · rwa [hfs.text (by simp)]
    · rwa [hfs.flag (by simp)]
    · rwa [hfs.flag (by simp)]
  | create =>
    obtain ⟨d, hd, rfl⟩ := Except.map_eq_ok_iff.mp h
    obtain ⟨_, ⟨⟩, ps, hps, himage, hname, htype, hsize, hdelete⟩ :=
      CreatedDisk.ofPayload_eq_ok_iff.mp hd
    have hparams := parameters_written hw
    rw [hps] at hparams
    obtain ⟨⟨⟩, -⟩ | ⟨-, qs, hvalue, hparams⟩ := hparams
    obtain ⟨_, ⟨⟩, hqs⟩ := exists_writtenFrom (by decide) hparams
    refine Except.map_eq_ok_iff.mpr ⟨d, CreatedDisk.ofPayload_eq_ok_iff.mpr
      ⟨fs, rfl, qs, hvalue, ?_, ?_, ?_, ?_, ?_⟩, rfl⟩
    · rwa [hqs.text (by simp)]
    · rwa [hqs.text (by simp)]
    · rwa [hqs.text (by simp)]
    · exact hqs.number Message.int64 (by simp) hsize Message.integer_of_int64
    · rwa [hfs.flag (by simp)]
  | scratch =>
    obtain ⟨d, hd, rfl⟩ := Except.map_eq_ok_iff.mp h
    obtain ⟨hinterface, -, htype⟩ := ScratchDisk.ofPayload_object_eq_ok_iff.mp hd
    refine Except.map_eq_ok_iff.mpr ⟨d, ScratchDisk.ofPayload_object_eq_ok_iff.mpr
      ⟨?_, ?_⟩, rfl⟩
    · rwa [hfs.text (by simp)]
    · rcases parameters_written hw with ⟨hnull, hvalue⟩ | ⟨-, qs, hvalue, hparams⟩
      · rw [hvalue]
        rw [hnull] at htype
        exact ⟨Or.inl rfl, htype⟩
      · obtain ⟨_, ⟨⟩, hqs⟩ := exists_writtenFrom (by decide) hparams
        rw [hvalue, Json.within_object, hqs.text (by simp)]
        exact ⟨Or.inr ⟨qs, rfl⟩, htype⟩

end DiskConfiguration

namespace AttachedDisk

open DiskConfiguration (kindIn)

/-- What is read of a disk that was written in a message: a disk has no
lists. -/
theorem ofPayload_written {v w : Json} {d : AttachedDisk} (h : ofPayload v = .ok d)
    (hw : Message.disk v = .ok w) : ofPayload w = .ok d := by
  obtain ⟨es, rfl, hconfiguration, hname, hindex⟩ := ofPayload_eq_ok_iff.mp h
  obtain ⟨fs, rfl, hfs⟩ := exists_writtenFrom (by decide) hw
  have hkind := DiskConfiguration.kindIn_of_ofPayload hconfiguration
  have hkind' : kindIn fs = some d.configuration.kind := by
    rw [← hkind]
    refine DiskConfiguration.kindIn_congr ?_ ?_
    · exact DiskConfiguration.sortIn_written hkind (hfs "type" _ (by simp))
    · rcases DiskConfiguration.parameters_written hw with ⟨hnull, hvalue⟩ | ⟨hne, qs, hvalue, -⟩
      · simp [hnull, hvalue]
      · simp [hne, hvalue]
  rw [DiskConfiguration.ofPayload_of_kindIn hkind] at hconfiguration
  refine ofPayload_eq_ok_iff.mpr ⟨fs, rfl, ?_, ?_, ?_⟩
  · rw [DiskConfiguration.ofPayload_of_kindIn hkind']
    exact DiskConfiguration.readAs_written hconfiguration hw
  · rwa [hfs.text (by simp)]
  · exact hfs.number Message.int32 (by simp) hindex Message.integer_of_int32

end AttachedDisk

/-! ### Instances -/

namespace Instance

/-- The instance with every list that it may have, empty if there was none. -/
def listed (x : Instance) : Instance :=
  { x with
    interfaces := x.interfaces.map (·.listed)
    tags := x.tags.map (·.listed)
    metadata := x.metadata.map (·.listed)
    accounts := some ((x.accounts.getD []).map (·.listed)) }

/-- What is read of the message of a payload is what is read of the payload,
up to lists. -/
theorem ofMessage_of_ofPayload {p : Json} {x : Instance} {m : Message}
    (h : (ofPayload p).outcome = .ok x) (hm : Message.ofPayload p = .ok m) :
    (ofMessage m).outcome = .ok x.listed := by
  obtain ⟨es, rfl, hread⟩ := ofPayload_eq_ok_iff.mp h
  have hw : ∃ w, Message.vm (.object es) = .ok w ∧ m = ⟨w⟩ := by
    unfold Message.ofPayload at hm
    split at hm
    · obtain ⟨w, hw, rfl⟩ := Except.map_eq_ok_iff.mp hm
      exact ⟨w, hw, rfl⟩
    · cases hm
  obtain ⟨w, hw, rfl⟩ := hw
  obtain ⟨fs, rfl, hfs⟩ := exists_writtenFrom (by decide) hw
  refine ofPayload_eq_ok_iff.mpr ⟨fs, rfl, ?_⟩
  constructor
  case id =>
    rw [hfs.text (by simp)]
    exact hread.id
  case machineType =>
    rw [hfs.text (by simp)]
    exact hread.machineType
  case interfaces =>
    obtain ⟨xs, hxs, hinterfaces⟩ := hread.interfaces
    have hgives : (valueOf es "networkInterfaces").GivesItems
        (fun v n => NetworkInterface.ofPayload v = .ok n) (some x.interfaces) := by
      rw [hxs]
      exact Or.inr ⟨xs, _, rfl, hinterfaces, rfl⟩
    exact hfs.list Message.networkInterface NetworkInterface.listed (by simp) hgives
      fun _ _ _ => NetworkInterface.ofPayload_written
  case disks =>
    obtain ⟨xs, hxs, hdisks⟩ := hread.disks
    have hgives : (valueOf es "disks").GivesItems
        (fun v d => AttachedDisk.ofPayload v = .ok d) (some x.disks) := by
      rw [hxs]
      exact Or.inr ⟨xs, _, rfl, hdisks, rfl⟩
    have hwritten := hfs.list Message.disk (fun d => d) (by simp) hgives
      fun _ _ _ => AttachedDisk.ofPayload_written
    rwa [List.map_id'] at hwritten
  case description =>
    rw [hfs.text (by simp)]
    exact hread.description
  case tags =>
    exact hfs.part Message.tags Tags.listed (by simp) hread.tags fun _ _ ha hw =>
      ⟨Message.ne_null_of_record hw, Tags.ofPayload_written ha hw⟩
  case canIpForward =>
    rw [hfs.flag (by simp)]
    exact hread.canIpForward
  case metadata =>
    exact hfs.part Message.metadata Metadata.listed (by simp) hread.metadata fun _ _ ha hw =>
      ⟨Message.ne_null_of_record hw, Metadata.ofPayload_written ha hw⟩
  case accounts =>
    have hwritten := hfs.list Message.serviceAccount ServiceAccount.listed (by simp)
      (Payload.givesItems_of_parts hread.accounts) fun _ _ _ => ServiceAccount.ofPayload_written
    exact Payload.ifSet_parts_eq_some_iff.mpr hwritten
  case scheduling =>
    have hwritten := hfs.part Message.scheduling (fun s => s) (by simp) hread.scheduling
      fun _ _ ha hw => ⟨Message.ne_null_of_record hw, Scheduling.ofPayload_written ha hw⟩
    rwa [Option.map_id'] at hwritten
  case serverId =>
    have hwritten := hfs.part Message.uint64 (fun s => s) (by simp) hread.serverId fun _ _ ha hw =>
      Message.serverId_of_uint64 ha hw
    rwa [Option.map_id'] at hwritten
  case created =>
    rw [hfs.text (by simp)]
    exact hread.created
  case status =>
    rw [hfs.text (by simp)]
    exact hread.status
  case statusMessage =>
    rw [hfs.text (by simp)]
    exact hread.statusMessage
  case cpuPlatform =>
    rw [hfs.text (by simp)]
    exact hread.cpuPlatform

end Instance

/-! ### Lists that were there -/

theorem some_getD_eq_self_iff {α : Type} {o : Option (List α)} :
    some (o.getD []) = o ↔ o ≠ none := by
  cases o <;> simp

theorem map_eq_self_iff {α : Type} {f : α → α} {as : List α} :
    as.map f = as ↔ ∀ a ∈ as, f a = a := by
  have h : as.map f = as.map id ↔ ∀ a ∈ as, f a = id a := List.map_inj_left
  rwa [List.map_id] at h

theorem Tags.listed_eq_self_iff {t : Tags} : t.listed = t ↔ t.values ≠ none := by
  rw [← some_getD_eq_self_iff]
  cases t
  simp [listed]

theorem Metadata.listed_eq_self_iff {m : Metadata} : m.listed = m ↔ m.items ≠ none := by
  rw [← some_getD_eq_self_iff]
  cases m
  simp [listed]

theorem ServiceAccount.listed_eq_self_iff {a : ServiceAccount} :
    a.listed = a ↔ a.scopes ≠ none := by
  rw [← some_getD_eq_self_iff]
  cases a
  simp [listed]

theorem NetworkInterface.listed_eq_self_iff {n : NetworkInterface} :
    n.listed = n ↔ n.accessConfigs ≠ none := by
  rw [← some_getD_eq_self_iff]
  cases n
  simp [listed]

namespace Instance

/-- No list is absent that the instance may have. -/
structure HasLists (x : Instance) : Prop where
  values : ∀ t, x.tags = some t → t.values ≠ none
  items : ∀ m, x.metadata = some m → m.items ≠ none
  accounts : x.accounts ≠ none
  scopes : ∀ as, x.accounts = some as → ∀ a ∈ as, a.scopes ≠ none
  accessConfigs : ∀ n ∈ x.interfaces, n.accessConfigs ≠ none

/-- An instance that has its lists is not changed. -/
theorem listed_eq_self_iff {x : Instance} : x.listed = x ↔ x.HasLists := by
  have hinterfaces : x.interfaces.map (·.listed) = x.interfaces ↔
      ∀ n ∈ x.interfaces, n.accessConfigs ≠ none := by
    simp only [map_eq_self_iff, NetworkInterface.listed_eq_self_iff]
  have htags : x.tags.map (·.listed) = x.tags ↔ ∀ t, x.tags = some t → t.values ≠ none := by
    cases x.tags with
    | none => simp
    | some t => simp [Tags.listed_eq_self_iff]
  have hmetadata : x.metadata.map (·.listed) = x.metadata ↔
      ∀ m, x.metadata = some m → m.items ≠ none := by
    cases x.metadata with
    | none => simp
    | some m => simp [Metadata.listed_eq_self_iff]
  have haccounts : some ((x.accounts.getD []).map (·.listed)) = x.accounts ↔
      x.accounts ≠ none ∧ ∀ as, x.accounts = some as → ∀ a ∈ as, a.scopes ≠ none := by
    cases x.accounts with
    | none => simp
    | some as => simp [map_eq_self_iff, ServiceAccount.listed_eq_self_iff]
  have hfields : x.listed = x ↔ x.interfaces.map (·.listed) = x.interfaces ∧
      x.tags.map (·.listed) = x.tags ∧ x.metadata.map (·.listed) = x.metadata ∧
      some ((x.accounts.getD []).map (·.listed)) = x.accounts := by
    cases x
    simp [listed]
  rw [hfields, hinterfaces, htags, hmetadata, haccounts]
  constructor
  · rintro ⟨hconfigs, hvalues, hitems, hlist, hscopes⟩
    exact ⟨hvalues, hitems, hlist, hscopes, hconfigs⟩
  · intro h
    exact ⟨h.accessConfigs, h.values, h.items, h.accounts, h.scopes⟩

/-- The links of an instance do not depend on its lists. -/
theorem identities_listed (x : Instance) : x.listed.identities = x.identities := by
  simp only [identities, listed, List.flatMap_map]
  rfl

/-- An instance has a payload whether or not it has its lists. -/
theorem exists_payload_listed {x : Instance} {p : Json} (hp : x.payload = .ok p) :
    ∃ q, x.listed.payload = .ok q := by
  have hwritable := exists_payload_eq_ok_iff.mp ⟨p, hp⟩
  exact exists_payload_eq_ok_iff.mpr hwritable

end Instance
end VmResource
