/-
# Edits that are not noticed

A payload may be edited in any object that describes a resource, at any
depth: a key that the reader does not know there is added, changed or taken
away, or a key is taken away whose value is null. None of this is noticed,
neither by one edit nor by a run of them: the payload is read if it was read
before, and as the same instance. The type of a disk is the exception. A disk
whose type is null is refused, and one without a type is persistent.

Key definitions: `Json.IdleEdit`, `SameReading`, `ReadsOnly`,
`AttachedDisk.keysRead`, `Instance.Edit`.
Key theorems: `ReadsOnly.sameReading`, `DiskConfiguration.sameReading_readAs`,
`AttachedDisk.sameReading_of_edit`, `Instance.sameReading_of_edit`,
`Instance.edits_are_not_noticed`.
-/
import Mathlib.Logic.Relation
import VmResource.Proofs.InstancePayload
import VmResource.Proofs.Keys

namespace VmResource

open Json (ifSet valueOf)

/-! ### Edits of entries -/

namespace Json

variable {es fs : List (Text × Json)} {key : Text}

/-- The same entries up to those of one key. -/
def SameBut (key : Text) (es fs : List (Text × Json)) : Prop :=
  ∀ other : Text, other ≠ key → fs.lookup other = es.lookup other

/-- An edit of one key: any edit of a key that is not among `keys`, and the
removal of a null, unless the key is among those that are `strict`. -/
inductive IdleEdit (keys strict : List String) (es fs : List (Text × Json)) : Prop where
  | unknown (key : Text) (hkey : key ∉ keys.map Text.unicode) (hsame : SameBut key es fs)
  | null (key : Text) (hkey : key ∉ strict.map Text.unicode)
    (hnull : es.lookup key = some .null) (hgone : fs.lookup key = none) (hsame : SameBut key es fs)

/-- An edit, of the kind `R`, of the value of a key. -/
def AtKey (key : Text) (R : Json → Json → Prop) (es fs : List (Text × Json)) : Prop :=
  ∃ v w, es.lookup key = some v ∧ fs.lookup key = some w ∧ R v w ∧ SameBut key es fs

/-- An edit of the entries of an object. -/
def OfObject (R : List (Text × Json) → List (Text × Json) → Prop) (v w : Json) : Prop :=
  ∃ es fs, v = .object es ∧ w = .object fs ∧ R es fs

/-- An edit of one item of a list. -/
def AtItem (R : Json → Json → Prop) (v w : Json) : Prop :=
  ∃ xs ys x y, v = .list (xs ++ x :: ys) ∧ w = .list (xs ++ y :: ys) ∧ R x y

theorem OfObject.ne_null {R : List (Text × Json) → List (Text × Json) → Prop} {v w : Json}
    (h : OfObject R v w) : v ≠ .null ∧ w ≠ .null := by
  obtain ⟨es, fs, rfl, rfl, -⟩ := h
  exact ⟨by simp, by simp⟩

theorem AtItem.ne_null {R : Json → Json → Prop} {v w : Json} (h : AtItem R v w) :
    v ≠ .null ∧ w ≠ .null := by
  obtain ⟨xs, ys, x, y, rfl, rfl, -⟩ := h
  exact ⟨by simp, by simp⟩

theorem SameBut.valueOf_eq (h : SameBut key es fs) {other : Text} (hne : other ≠ key) :
    valueOf fs other = valueOf es other := by
  rw [valueOf, valueOf, h other hne]

theorem SameBut.valueOf_eq_of_ne {key other : String} (h : SameBut key es fs)
    (hne : other ≠ key) : valueOf fs other = valueOf es other :=
  h.valueOf_eq fun he => hne (Text.unicode.inj he)

namespace IdleEdit

variable {keys strict : List String}

/-- An idle edit does not change the values of the keys that are known. -/
theorem valueOf_eq (h : IdleEdit keys strict es fs) :
    ∀ key ∈ keys, valueOf fs key = valueOf es key := by
  intro other hother
  cases h with
  | unknown key hkey hsame =>
    refine hsame.valueOf_eq ?_
    rintro rfl
    exact hkey (List.mem_map_of_mem hother)
  | null key _ hnull hgone hsame =>
    by_cases heq : Text.unicode other = key
    · subst heq
      rw [valueOf, valueOf, hnull, hgone]
      rfl
    · exact hsame.valueOf_eq heq

/-- Nor does it take away a null where that would be noticed. -/
theorem lookup_eq (h : IdleEdit keys strict es fs) {key : String} (hkey : key ∈ keys)
    (hstrict : key ∈ strict) : fs.lookup (.unicode key) = es.lookup (.unicode key) := by
  cases h with
  | unknown other hother hsame =>
    refine hsame key ?_
    rintro rfl
    exact hother (List.mem_map_of_mem hkey)
  | null other hother _ _ hsame =>
    refine hsame key ?_
    rintro rfl
    exact hother (List.mem_map_of_mem hstrict)

end IdleEdit

namespace AtKey

variable {R : Json → Json → Prop}

theorem valueOf (h : AtKey key R es fs) : R (valueOf es key) (valueOf fs key) := by
  obtain ⟨v, w, hv, hw, hR, -⟩ := h
  rwa [Json.valueOf, Json.valueOf, hv, hw]

theorem sameBut (h : AtKey key R es fs) : SameBut key es fs := by
  obtain ⟨_, _, -, -, -, hsame⟩ := h
  exact hsame

end AtKey

end Json

open Json (IdleEdit AtKey OfObject AtItem SameBut)

/-! ### Readings that do not differ -/

/-- What is read from the one value is read from the other. -/
def SameReading {α : Type} (read : Json → Except Error α) (v w : Json) : Prop :=
  ∀ a, read v = .ok a ↔ read w = .ok a

namespace SameReading

variable {α : Type} {read : Json → Except Error α} {v w : Json}

theorem refl (v : Json) : SameReading read v v := fun _ => Iff.rfl

theorem symm (h : SameReading read v w) : SameReading read w v := fun a => (h a).symm

/-- Two values that are there are also read alike where they may be unset. -/
theorem ifSet (h : SameReading read v w) (hv : v ≠ .null) (hw : w ≠ .null) :
    SameReading (ifSet read) v w := by
  intro o
  rw [Json.ifSet_of_ne_null read hv, Json.ifSet_of_ne_null read hw]
  simp only [Except.map_eq_ok_iff, h _]

end SameReading

/-- What is read from an object depends on the values of these keys alone. -/
def ReadsOnly {α : Type} (keys : List String) (read : Json → Except Error α) : Prop :=
  ∀ es fs, (∀ key ∈ keys, valueOf fs key = valueOf es key) →
    SameReading read (.object es) (.object fs)

/-- An idle edit is not noticed by a reader of the keys that it leaves. -/
theorem ReadsOnly.sameReading {α : Type} {keys strict : List String}
    {read : Json → Except Error α} (hread : ReadsOnly keys read) {v w : Json}
    (h : OfObject (IdleEdit keys strict) v w) : SameReading read v w := by
  obtain ⟨es, fs, rfl, rfl, hidle⟩ := h
  exact hread es fs hidle.valueOf_eq

/-- An edit of an item is not noticed if it is not noticed in the item. -/
theorem forall₂_atItem_iff {α : Type} {E : Json → Json → Prop} {R : Json → α → Prop}
    (hE : ∀ x y, E x y → ∀ a, R x a ↔ R y a) {xs ys : List Json} {x y : Json} (h : E x y)
    {as : List α} : List.Forall₂ R (xs ++ x :: ys) as ↔ List.Forall₂ R (xs ++ y :: ys) as := by
  induction xs generalizing as with
  | nil =>
    cases as with
    | nil => simp
    | cons a as =>
      rw [List.nil_append, List.nil_append, List.forall₂_cons, List.forall₂_cons, hE x y h a]
  | cons z xs ih =>
    cases as with
    | nil => simp
    | cons a as =>
      rw [List.cons_append, List.cons_append, List.forall₂_cons, List.forall₂_cons, ih]

theorem Json.givesItems_atItem_iff {α : Type} {E : Json → Json → Prop} {R : Json → α → Prop}
    (hE : ∀ x y, E x y → ∀ a, R x a ↔ R y a) {v w : Json} (h : AtItem E v w)
    {o : Option (List α)} : v.GivesItems R o ↔ w.GivesItems R o := by
  obtain ⟨xs, ys, x, y, rfl, rfl, hxy⟩ := h
  simp only [GivesItems, items, Except.ok.injEq, reduceCtorEq, false_and, false_or,
    exists_and_left, exists_eq_left', forall₂_atItem_iff hE hxy]

theorem Payload.sameReading_parts {α : Type} {field : String} {read : Json → Except Error α}
    {E : Json → Json → Prop} (hE : ∀ x y, E x y → SameReading read x y) {v w : Json}
    (h : AtItem E v w) : SameReading (parts field read) v w := by
  obtain ⟨xs, ys, x, y, rfl, rfl, hxy⟩ := h
  intro as
  simp only [parts_eq_ok_iff, Json.list.injEq, exists_eq_left',
    forall₂_atItem_iff (R := fun x a => read x = .ok a) hE hxy]

/-! ### Parts -/

namespace Tags

/-- An edit of tags. -/
def Edit : Json → Json → Prop := OfObject (IdleEdit keys.all [])

theorem readsOnly_keys : ReadsOnly keys.all ofPayload := by
  intro es fs hsame t
  simp only [ofPayload_eq_ok_iff, Json.object.injEq, exists_eq_left']
  rw [hsame "items" (by decide), hsame "fingerprint" (by decide)]

end Tags

namespace Metadata

/-- An edit of an entry of metadata. -/
def ItemEdit : Json → Json → Prop := OfObject (IdleEdit itemKeys.all [])

/-- An edit of metadata, or of one of its entries. -/
inductive Edit (v w : Json) : Prop where
  | own (h : OfObject (IdleEdit keys.all []) v w)
  | item (h : OfObject (AtKey "items" (AtItem ItemEdit)) v w)

theorem isEntry_iff_of_edit {v w : Json} (h : ItemEdit v w) (item : Text × Option Text) :
    IsEntry v item ↔ IsEntry w item := by
  obtain ⟨es, fs, rfl, rfl, hidle⟩ := h
  have hsame := hidle.valueOf_eq
  simp only [IsEntry, Json.object.injEq, exists_eq_left']
  rw [hsame "key" (by decide), hsame "value" (by decide)]

theorem readsOnly_keys : ReadsOnly keys.all ofPayload := by
  intro es fs hsame m
  simp only [ofPayload_eq_ok_iff, Json.object.injEq, exists_eq_left']
  rw [hsame "items" (by decide), hsame "fingerprint" (by decide)]

theorem sameReading_of_edit {v w : Json} (h : Edit v w) : SameReading ofPayload v w := by
  cases h with
  | own h => exact readsOnly_keys.sameReading h
  | item h =>
    obtain ⟨es, fs, rfl, rfl, hitem⟩ := h
    intro m
    have hitems : (valueOf es "items").GivesItems IsEntry m.items ↔
        (valueOf fs "items").GivesItems IsEntry m.items :=
      Json.givesItems_atItem_iff (fun _ _ h => isEntry_iff_of_edit h) hitem.valueOf
    simp only [ofPayload_eq_ok_iff, Json.object.injEq, exists_eq_left']
    rw [hitems, hitem.sameBut.valueOf_eq_of_ne (by decide : "fingerprint" ≠ "items")]

end Metadata

namespace ServiceAccount

/-- An edit of a service account. -/
def Edit : Json → Json → Prop := OfObject (IdleEdit keys.all [])

theorem readsOnly_keys : ReadsOnly keys.all ofPayload := by
  intro es fs hsame a
  simp only [ofPayload_eq_ok_iff, Json.object.injEq, exists_eq_left']
  rw [hsame "email" (by decide), hsame "scopes" (by decide)]

end ServiceAccount

namespace Scheduling

/-- An edit of scheduling. -/
def Edit : Json → Json → Prop := OfObject (IdleEdit keys.all [])

theorem readsOnly_keys : ReadsOnly keys.all ofPayload := by
  intro es fs hsame s
  simp only [ofPayload_eq_ok_iff, Json.object.injEq, exists_eq_left']
  rw [hsame "automaticRestart" (by decide), hsame "onHostMaintenance" (by decide),
    hsame "preemptible" (by decide)]

end Scheduling

namespace AccessConfig

/-- An edit of an access configuration. -/
def Edit : Json → Json → Prop := OfObject (IdleEdit keys.all [])

theorem readsOnly_keys : ReadsOnly keys.all ofPayload := by
  intro es fs hsame c
  simp only [ofPayload_eq_ok_iff, Json.object.injEq, exists_eq_left']
  rw [hsame "name" (by decide), hsame "natIP" (by decide), hsame "type" (by decide)]

end AccessConfig

namespace NetworkInterface

/-- An edit of an interface, or of one of its access configurations. -/
inductive Edit (v w : Json) : Prop where
  | own (h : OfObject (IdleEdit keys.all []) v w)
  | accessConfig (h : OfObject (AtKey "accessConfigs" (AtItem AccessConfig.Edit)) v w)

theorem readsOnly_keys : ReadsOnly keys.all ofPayload := by
  intro es fs hsame n
  simp only [ofPayload_eq_ok_iff, Json.object.injEq, exists_eq_left']
  rw [hsame "network" (by decide), hsame "name" (by decide), hsame "networkIP" (by decide),
    hsame "subnetwork" (by decide), hsame "accessConfigs" (by decide)]

theorem sameReading_of_edit {v w : Json} (h : Edit v w) : SameReading ofPayload v w := by
  cases h with
  | own h => exact readsOnly_keys.sameReading h
  | accessConfig h =>
    obtain ⟨es, fs, rfl, rfl, hconfig⟩ := h
    intro n
    have hsame : ∀ key : String, key ≠ "accessConfigs" → valueOf fs key = valueOf es key :=
      fun _ => hconfig.sameBut.valueOf_eq_of_ne
    have hedit : ∀ v w, AccessConfig.Edit v w → SameReading AccessConfig.ofPayload v w :=
      fun _ _ h => AccessConfig.readsOnly_keys.sameReading h
    have hconfigs := Json.givesItems_atItem_iff (R := fun x c => AccessConfig.ofPayload x = .ok c)
      hedit hconfig.valueOf (o := n.accessConfigs)
    simp only [ofPayload_eq_ok_iff, Json.object.injEq, exists_eq_left']
    rw [hsame "network" (by decide), hsame "name" (by decide), hsame "networkIP" (by decide),
      hsame "subnetwork" (by decide), hconfigs]

end NetworkInterface

/-! ### Disks -/

namespace DiskConfiguration

variable {es fs : List (Text × Json)} {kind : DiskKind}

/-- Parameters that are the same, or two objects with the same values of the
keys that are known for a kind of disk. -/
def SameParameters (kind : DiskKind) (v w : Json) : Prop :=
  v = w ∨ ∃ ps qs, v = .object ps ∧ w = .object qs ∧
    ∀ key ∈ kind.parameters.all, valueOf qs key = valueOf ps key

/-- A disk of a kind is read from the keys that are known for the kind, of
its own and of its parameters. -/
theorem sameReading_readAs (hkeys : ∀ key ∈ kind.keys.all, valueOf fs key = valueOf es key)
    (hparams : SameParameters kind (valueOf es "initializeParams")
      (valueOf fs "initializeParams")) :
    SameReading (readAs kind) (.object es) (.object fs) := by
  intro c
  cases kind with
  | persistent =>
    simp only [readAs, Except.map_eq_ok_iff, PersistentDisk.ofPayload_eq_ok_iff,
      Json.object.injEq, exists_eq_left']
    rw [hkeys "source" (by decide), hkeys "mode" (by decide), hkeys "boot" (by decide),
      hkeys "autoDelete" (by decide)]
  | create =>
    simp only [readAs, Except.map_eq_ok_iff, CreatedDisk.ofPayload_eq_ok_iff,
      Json.object.injEq, exists_eq_left']
    rw [hkeys "autoDelete" (by decide)]
    rcases hparams with heq | ⟨ps, qs, hps, hqs, hvalues⟩
    · rw [heq]
    · rw [hps, hqs]
      simp only [Json.object.injEq, exists_eq_left']
      rw [hvalues "sourceImage" (by decide), hvalues "diskName" (by decide),
        hvalues "diskType" (by decide), hvalues "diskSizeGb" (by decide)]
  | scratch =>
    simp only [readAs, Except.map_eq_ok_iff, ScratchDisk.ofPayload_object_eq_ok_iff]
    rw [hkeys "interface" (by decide)]
    rcases hparams with heq | ⟨ps, qs, hps, hqs, hvalues⟩
    · rw [heq]
    · rw [hps, hqs]
      simp only [Json.within_object, Json.object.injEq, exists_eq', or_true, true_and]
      rw [hvalues "diskType" (by decide)]

/-- The same kind of disk, with the same values of what is known for it. -/
structure SameKnown (es fs : List (Text × Json)) : Prop where
  kind : kindIn fs = kindIn es
  keys : ∀ kind, kindIn es = some kind → ∀ key ∈ kind.keys.all, valueOf fs key = valueOf es key
  parameters : ∀ kind, kindIn es = some kind →
    SameParameters kind (valueOf es "initializeParams") (valueOf fs "initializeParams")

theorem sameReading_of_sameKnown (h : SameKnown es fs) :
    SameReading ofPayload (.object es) (.object fs) := by
  intro c
  cases hkind : kindIn es with
  | none =>
    -- a disk of an unknown type is not read, whatever else it has
    have hunread : ∀ gs, kindIn gs = none → ofPayload (.object gs) ≠ .ok c := by
      intro gs hgs hread
      rw [kindIn_of_ofPayload hread] at hgs
      cases hgs
    exact iff_of_false (hunread es hkind) (hunread fs (h.kind.trans hkind))
  | some kind =>
    rw [ofPayload_of_kindIn hkind, ofPayload_of_kindIn (h.kind.trans hkind)]
    exact sameReading_readAs (h.keys kind hkind) (h.parameters kind hkind) c

end DiskConfiguration

namespace AttachedDisk

open DiskConfiguration (kindIn sortIn SameKnown)

variable {es fs : List (Text × Json)}

/-- The keys that are read of a disk: its type, and if that is known, its
parameters and what its kind has. -/
def keysRead (es : List (Text × Json)) : List String :=
  "type" :: match kindIn es with
    | none => []
    | some kind => "initializeParams" :: kind.keys.all

/-- The keys of other kinds are not read. -/
theorem not_mem_keysRead_of_foreign {kind : DiskKind} (h : kindIn es = some kind) :
    ∀ key ∈ kind.foreign, key ∉ keysRead es := by
  rw [keysRead, h]
  cases kind <;> decide

/-- The keys that are read of the parameters of a disk. -/
def parametersRead (es : List (Text × Json)) : List String :=
  match kindIn es with
  | none => []
  | some kind => kind.parameters.all

/-- An edit of a disk, or of its parameters. A null that is the type of a disk
may not be taken away. -/
inductive Edit (v w : Json) : Prop where
  | own (h : OfObject (fun es fs => IdleEdit (keysRead es) ["type"] es fs) v w)
  | parameters (h : OfObject (fun es fs => AtKey "initializeParams"
      (OfObject (IdleEdit (parametersRead es) [])) es fs) v w)

/-- The name and the index are known for disks of any kind. -/
theorem sameReading_of_sameKnown (h : SameKnown es fs) :
    SameReading ofPayload (.object es) (.object fs) := by
  intro d
  simp only [ofPayload_eq_ok_iff, Json.object.injEq, exists_eq_left']
  rw [DiskConfiguration.sameReading_of_sameKnown h d.configuration]
  refine and_congr_right fun hread => ?_
  have hkind : kindIn es = some d.configuration.kind :=
    h.kind.symm.trans (DiskConfiguration.kindIn_of_ofPayload hread)
  have hknown : ∀ kind : DiskKind, "deviceName" ∈ kind.keys.all ∧ "index" ∈ kind.keys.all := by
    intro kind
    cases kind <;> decide
  obtain ⟨hname, hindex⟩ := hknown d.configuration.kind
  rw [h.keys _ hkind "deviceName" hname, h.keys _ hkind "index" hindex]

theorem sameKnown_of_own (h : IdleEdit (keysRead es) ["type"] es fs) : SameKnown es fs := by
  have hsort : sortIn fs = sortIn es := by
    rw [sortIn, sortIn, h.lookup_eq List.mem_cons_self (List.mem_singleton.mpr rfl)]
  have hsame := h.valueOf_eq
  cases hkind : kindIn es with
  | none =>
    have hunknown : kindIn fs = none := by
      rw [DiskConfiguration.kindIn_eq_none_iff] at hkind ⊢
      rwa [hsort]
    exact ⟨hunknown.trans hkind.symm, by simp [hkind], by simp [hkind]⟩
  | some kind =>
    rw [keysRead, hkind] at hsame
    have hparams := hsame "initializeParams" (by simp)
    constructor
    case kind => exact DiskConfiguration.kindIn_congr hsort (by rw [hparams])
    case keys =>
      intro kind' hkind'
      obtain rfl : kind = kind' := Option.some.inj (hkind.symm.trans hkind')
      intro key hkey
      exact hsame key (List.mem_cons_of_mem _ (List.mem_cons_of_mem _ hkey))
    case parameters => exact fun _ _ => Or.inl hparams.symm

theorem sameKnown_of_parameters
    (h : AtKey "initializeParams" (OfObject (IdleEdit (parametersRead es) [])) es fs) :
    SameKnown es fs := by
  have hsort : sortIn fs = sortIn es := by
    rw [sortIn, sortIn, h.sameBut "type" (by decide)]
  obtain ⟨ps, qs, hps, hqs, hidle⟩ := h.valueOf
  constructor
  case kind => exact DiskConfiguration.kindIn_congr hsort (by simp [hps, hqs])
  case keys =>
    intro kind _ key hkey
    exact h.sameBut.valueOf_eq_of_ne (DiskKind.ne_of_mem_keys key hkey).2
  case parameters =>
    intro kind hkind
    rw [parametersRead, hkind] at hidle
    exact Or.inr ⟨ps, qs, hps, hqs, hidle.valueOf_eq⟩

theorem sameReading_of_edit {v w : Json} (h : Edit v w) : SameReading ofPayload v w := by
  cases h with
  | own h =>
    obtain ⟨es, fs, rfl, rfl, hidle⟩ := h
    exact sameReading_of_sameKnown (sameKnown_of_own hidle)
  | parameters h =>
    obtain ⟨es, fs, rfl, rfl, hparams⟩ := h
    exact sameReading_of_sameKnown (sameKnown_of_parameters hparams)

/-- A disk whose type is null is not read. -/
theorem ofPayload_ne_ok_of_nullType (h : es.lookup (.unicode "type") = some .null)
    (d : AttachedDisk) : ofPayload (.object es) ≠ .ok d := by
  intro hread
  obtain ⟨_, ⟨⟩, hc, -⟩ := ofPayload_eq_ok_iff.mp hread
  obtain ⟨sort, hsort⟩ := DiskConfiguration.exists_sort_of_ofPayload hc
  rw [sortIn, h] at hsort
  cases hsort

/-- A disk that has no type is given that of a persistent one. -/
def TypeGiven (es fs : List (Text × Json)) : Prop :=
  es.lookup (.unicode "type") = none ∧
    fs.lookup (.unicode "type") = some (.text "PERSISTENT") ∧ SameBut "type" es fs

theorem sameKnown_of_typeGiven (h : TypeGiven es fs) : SameKnown es fs := by
  obtain ⟨habsent, hgiven, hsame⟩ := h
  have hsort : sortIn fs = sortIn es := by
    rw [sortIn, sortIn, habsent, hgiven]
    rfl
  have hparams : valueOf fs "initializeParams" = valueOf es "initializeParams" :=
    hsame.valueOf_eq (by decide)
  constructor
  case kind => exact DiskConfiguration.kindIn_congr hsort (by rw [hparams])
  case keys =>
    intro kind _ key hkey
    exact hsame.valueOf_eq_of_ne (DiskKind.ne_of_mem_keys key hkey).1
  case parameters => exact fun _ _ => Or.inl hparams.symm

end AttachedDisk

/-! ### Instances -/

namespace Instance

variable {es fs : List (Text × Json)}

/-- An edit of an instance, or of something in it. -/
inductive Edit (p q : Json) : Prop where
  | own (h : OfObject (IdleEdit keys.all []) p q)
  | tags (h : OfObject (AtKey "tags" Tags.Edit) p q)
  | metadata (h : OfObject (AtKey "metadata" Metadata.Edit) p q)
  | scheduling (h : OfObject (AtKey "scheduling" Scheduling.Edit) p q)
  | account (h : OfObject (AtKey "serviceAccounts" (AtItem ServiceAccount.Edit)) p q)
  | interface (h : OfObject (AtKey "networkInterfaces" (AtItem NetworkInterface.Edit)) p q)
  | disk (h : OfObject (AtKey "disks" (AtItem AttachedDisk.Edit)) p q)

/-- Two values of a key from which the same is read: the same parts if it is
a key of parts, and otherwise the same value. -/
def SameValue (key : String) (v w : Json) : Prop :=
  match key with
  | "tags" => SameReading (ifSet Tags.ofPayload) v w
  | "metadata" => SameReading (ifSet Metadata.ofPayload) v w
  | "scheduling" => SameReading (ifSet Scheduling.ofPayload) v w
  | "serviceAccounts" =>
    SameReading (ifSet (Payload.parts "serviceAccounts" ServiceAccount.ofPayload)) v w
  | "networkInterfaces" =>
    SameReading (Payload.parts "networkInterfaces" NetworkInterface.ofPayload) v w
  | "disks" => SameReading (Payload.parts "disks" AttachedDisk.ofPayload) v w
  | _ => v = w

theorem SameValue.refl (key : String) (v : Json) : SameValue key v v := by
  unfold SameValue
  split
  case h_7 => rfl
  all_goals exact SameReading.refl v

theorem SameValue.symm {key : String} {v w : Json} (h : SameValue key v w) :
    SameValue key w v := by
  unfold SameValue at h ⊢
  split at h
  case h_7 => exact h.symm
  all_goals exact SameReading.symm h

/-- An instance is read from the values of its keys. -/
theorem isReadFrom_of_sameValue {x : Instance}
    (h : ∀ key ∈ keys.all, SameValue key (valueOf es key) (valueOf fs key))
    (hx : x.IsReadFrom es) : x.IsReadFrom fs := by
  have hinterfaces := h "networkInterfaces" (by decide) x.interfaces
  have hdisks := h "disks" (by decide) x.disks
  rw [Payload.parts_eq_ok_iff, Payload.parts_eq_ok_iff] at hinterfaces hdisks
  constructor
  case id => exact (h "selfLink" (by decide)) ▸ hx.id
  case machineType => exact (h "machineType" (by decide)) ▸ hx.machineType
  case interfaces => exact hinterfaces.mp hx.interfaces
  case disks => exact hdisks.mp hx.disks
  case description => exact (h "description" (by decide)) ▸ hx.description
  case tags => exact (h "tags" (by decide) x.tags).mp hx.tags
  case canIpForward => exact (h "canIpForward" (by decide)) ▸ hx.canIpForward
  case metadata => exact (h "metadata" (by decide) x.metadata).mp hx.metadata
  case accounts => exact (h "serviceAccounts" (by decide) x.accounts).mp hx.accounts
  case scheduling => exact (h "scheduling" (by decide) x.scheduling).mp hx.scheduling
  case serverId => exact (h "id" (by decide)) ▸ hx.serverId
  case created => exact (h "creationTimestamp" (by decide)) ▸ hx.created
  case status => exact (h "status" (by decide)) ▸ hx.status
  case statusMessage => exact (h "statusMessage" (by decide)) ▸ hx.statusMessage
  case cpuPlatform => exact (h "cpuPlatform" (by decide)) ▸ hx.cpuPlatform

theorem sameReading_of_sameValue
    (h : ∀ key ∈ keys.all, SameValue key (valueOf es key) (valueOf fs key)) :
    SameReading (fun p => (ofPayload p).outcome) (.object es) (.object fs) := by
  intro x
  simp only [ofPayload_eq_ok_iff, Json.object.injEq, exists_eq_left']
  constructor
  · exact isReadFrom_of_sameValue h
  · exact isReadFrom_of_sameValue fun key hkey => (h key hkey).symm

theorem readsOnly_keys : ReadsOnly keys.all (fun p => (ofPayload p).outcome) := by
  intro es fs hsame
  refine sameReading_of_sameValue fun key hkey => ?_
  rw [hsame key hkey]
  exact SameValue.refl key _

/-- An edit of the value of one key is noticed nowhere else. -/
theorem sameReading_of_atKey {key : String} {R : Json → Json → Prop}
    (hvalue : ∀ v w, R v w → SameValue key v w) {p q : Json} (h : OfObject (AtKey key R) p q) :
    SameReading (fun p => (ofPayload p).outcome) p q := by
  obtain ⟨es, fs, rfl, rfl, hedit⟩ := h
  refine sameReading_of_sameValue fun other _ => ?_
  by_cases heq : other = key
  · subst heq
    exact hvalue _ _ hedit.valueOf
  · rw [hedit.sameBut.valueOf_eq_of_ne heq]
    exact SameValue.refl other _

/-- No edit of a payload is noticed. -/
theorem sameReading_of_edit {p q : Json} (h : Edit p q) :
    SameReading (fun p => (ofPayload p).outcome) p q := by
  cases h with
  | own h => exact readsOnly_keys.sameReading h
  | tags h =>
    refine sameReading_of_atKey (fun v w hvw => ?_) h
    exact (Tags.readsOnly_keys.sameReading hvw).ifSet hvw.ne_null.1 hvw.ne_null.2
  | metadata h =>
    refine sameReading_of_atKey (fun v w hvw => ?_) h
    have hne : v ≠ .null ∧ w ≠ .null := by
      cases hvw with
      | own h => exact h.ne_null
      | item h => exact h.ne_null
    exact (Metadata.sameReading_of_edit hvw).ifSet hne.1 hne.2
  | scheduling h =>
    refine sameReading_of_atKey (fun v w hvw => ?_) h
    exact (Scheduling.readsOnly_keys.sameReading hvw).ifSet hvw.ne_null.1 hvw.ne_null.2
  | account h =>
    refine sameReading_of_atKey (fun v w hvw => ?_) h
    have hparts : SameReading (Payload.parts "serviceAccounts" ServiceAccount.ofPayload) v w :=
      Payload.sameReading_parts (fun _ _ h => ServiceAccount.readsOnly_keys.sameReading h) hvw
    exact hparts.ifSet hvw.ne_null.1 hvw.ne_null.2
  | interface h =>
    refine sameReading_of_atKey (fun v w hvw => ?_) h
    exact Payload.sameReading_parts (fun _ _ => NetworkInterface.sameReading_of_edit) hvw
  | disk h =>
    refine sameReading_of_atKey (fun v w hvw => ?_) h
    exact Payload.sameReading_parts (fun _ _ => AttachedDisk.sameReading_of_edit) hvw

/-- Nor is any run of edits. -/
theorem sameReading_of_edits {p q : Json} (h : Relation.ReflTransGen Edit p q) :
    SameReading (fun p => (ofPayload p).outcome) p q := by
  induction h with
  | refl => exact SameReading.refl p
  | tail _ hedit ih =>
    intro x
    exact (ih x).trans (sameReading_of_edit hedit x)

/-- **Edits are not noticed.** A payload is read as before after any run of
edits, which may be of the name and the zone of the instance and of what a disk
has of disks of other kinds. The type of a disk is the exception: a payload
with a disk whose type is null is not read, and a disk without a type is read
as a persistent one. -/
theorem edits_are_not_noticed :
    (∀ p q, Relation.ReflTransGen Edit p q →
      ∀ x, (ofPayload p).outcome = .ok x ↔ (ofPayload q).outcome = .ok x) ∧
    ("name" ∉ keys.all ∧ "zone" ∉ keys.all ∧
      ∀ es kind, DiskConfiguration.kindIn es = some kind →
        ∀ key ∈ kind.foreign, key ∉ AttachedDisk.keysRead es) ∧
    (∀ es xs ds, valueOf es "disks" = .list xs → .object ds ∈ xs →
      ds.lookup (.unicode "type") = some .null → ∀ x, (ofPayload (.object es)).outcome ≠ .ok x) ∧
    (∀ p q, OfObject (AtKey "disks" (AtItem (OfObject AttachedDisk.TypeGiven))) p q →
      ∀ x, (ofPayload p).outcome = .ok x ↔ (ofPayload q).outcome = .ok x) := by
  refine ⟨fun p q h => sameReading_of_edits h, ⟨by decide, by decide, ?_⟩, ?_, ?_⟩
  · exact fun es kind hkind => AttachedDisk.not_mem_keysRead_of_foreign hkind
  · intro es xs ds hdisks hmem hnull x hread
    obtain ⟨_, ⟨⟩, hx⟩ := ofPayload_eq_ok_iff.mp hread
    obtain ⟨ys, hys, hds⟩ := hx.disks
    obtain rfl : xs = ys := Json.list.inj (hdisks.symm.trans hys)
    obtain ⟨d, -, hd⟩ := exists_mem_of_forall₂ hds.flip _ hmem
    exact AttachedDisk.ofPayload_ne_ok_of_nullType hnull d hd
  · intro p q h
    refine sameReading_of_atKey (fun v w hvw => ?_) h
    refine Payload.sameReading_parts (fun a b hab => ?_) hvw
    obtain ⟨ds, ds', rfl, rfl, hgiven⟩ := hab
    exact AttachedDisk.sameReading_of_sameKnown (AttachedDisk.sameKnown_of_typeGiven hgiven)

/-- A payload with scratch space that has the given entries besides its
type. -/
def withScratch (entries : List (Text × Json)) : List (Text × Json) :=
  [("selfLink", .text "zones/z/instances/i"), ("machineType", .text "zones/z/machineTypes/m"),
    ("networkInterfaces", .list []),
    ("disks", .list [.object (("type", .text "SCRATCH") :: entries)])]

/-- A name of another instance and an interface that is null may both go. -/
theorem ofPayload_withScratch : ∃ x,
    (ofPayload (.object (("name", .text "other") :: withScratch [("interface", .null)]))).outcome =
        .ok x ∧
      (ofPayload (.object (withScratch []))).outcome = .ok x := by
  have hname : Edit (.object (("name", .text "other") :: withScratch [("interface", .null)]))
      (.object (withScratch [("interface", .null)])) := by
    refine .own ⟨_, _, rfl, rfl, .unknown "name" (by decide) fun other hne => ?_⟩
    rw [List.lookup_cons, beq_false_of_ne hne]
  have hinterface : Edit (.object (withScratch [("interface", .null)]))
      (.object (withScratch [])) := by
    refine .disk ⟨_, _, rfl, rfl, _, _, rfl, rfl, ⟨[], [], _, _, rfl, rfl, ?_⟩, ?_⟩
    · refine .own ⟨_, _, rfl, rfl, .null "interface" (by decide) rfl rfl fun other hne => ?_⟩
      simp [List.lookup_cons, beq_false_of_ne hne]
    · intro other hne
      simp [withScratch, List.lookup_cons, beq_false_of_ne hne]
  have hread : ∃ x, (ofPayload (.object
      (("name", .text "other") :: withScratch [("interface", .null)]))).outcome = .ok x :=
    ⟨_, rfl⟩
  obtain ⟨x, hx⟩ := hread
  obtain ⟨hedits, -⟩ := edits_are_not_noticed
  exact ⟨x, hx, (hedits _ _ (.tail (.single hname) hinterface) x).mp hx⟩

end Instance

end VmResource
