/-
# Which payloads are disks

The form of the payload of a disk, told without readers: three forms, of
scratch space, of a disk that is created and of one that exists, told apart
by the type and by whether there are parameters. No object has two of these
forms, and a disk is read from a value exactly if the value is an object of
one of them, with a name and an index that may be left out; the disk is then
of the kind of this form.

Key definitions: `Json.IsBlank`, `Json.GivesInteger`, `ScratchDisk.HasForm`,
`CreatedDisk.HasForm`, `PersistentDisk.HasForm`, `DiskKind.HasForm`,
`AttachedDisk.HasForm`.
Key theorems: `Json.isBlank_iff`, `Payload.integer_eq_ok_iff`,
`AttachedDisk.disk_is_read_iff_hasForm`.
-/
import VmResource.Proofs.Grammar
import VmResource.Proofs.Keys

namespace VmResource

open Check
open Json (ifSet valueOf Optional IsText IsLink IsMember IsFlag ObjectOf)

/-! ### Forms of single values -/

namespace Json

/-- Null, false, zero, or a text, a list or an object with nothing in it. A
number with a point is zero if the double nearest to it is. -/
inductive IsBlank : Json → Prop where
  | null : IsBlank .null
  | false : IsBlank (.bool false)
  | zero : IsBlank (.int 0)
  | decimal (d : Decimal) (h : d.whole? = some 0) : IsBlank (.decimal d)
  | text : IsBlank (.text "")
  | list : IsBlank (.list [])
  | object : IsBlank (.object [])

theorem isBlank_iff {v : Json} : v.isBlank = true ↔ IsBlank v := by
  refine ⟨?_, ?_⟩
  · intro h
    cases v with
    | null => exact .null
    | bool b =>
      obtain rfl : b = false := by simpa [isBlank] using h
      exact .false
    | int n =>
      obtain rfl : n = 0 := by simpa [isBlank] using h
      exact .zero
    | decimal d => exact .decimal d (by simpa [isBlank] using h)
    | text s =>
      obtain rfl : s = "" := by simpa [isBlank] using h
      exact .text
    | list xs =>
      obtain rfl : xs = [] := by simpa [isBlank] using h
      exact .list
    | object es =>
      obtain rfl : es = [] := by simpa [isBlank] using h
      exact .object
  · intro h
    cases h with
    | decimal d h => simp [isBlank, h]
    | _ => rfl

/-- The integer that a value gives: a number gives itself, and a decimal text
of at most `digitLimit` digits the number that it is written for, with a
minus sign the negative one. -/
inductive GivesInteger : Json → Int → Prop where
  | number (n : Int) : GivesInteger (.int n) n
  | digits (s : String) (hne : s.toList ≠ []) (hdigits : ∀ c ∈ s.toList, c.isDigit = true)
    (hlen : s.toList.length ≤ digitLimit) :
    GivesInteger (.text s) (Nat.ofDigitChars 10 s.toList 0)
  | negative (s : String) (ds : List Char) (hs : s.toList = '-' :: ds) (hne : ds ≠ [])
    (hdigits : ∀ c ∈ ds, c.isDigit = true) (hlen : ds.length ≤ digitLimit) :
    GivesInteger (.text s) (-(Nat.ofDigitChars 10 ds 0 : Int))

end Json

open Json (IsBlank GivesInteger)

theorem Payload.integer_eq_ok_iff {field : String} {v : Json} {n : Int} :
    integer field v = .ok n ↔ GivesInteger v n := by
  refine ⟨?_, ?_⟩
  · intro h
    rcases exists_integer_eq_ok_iff.mp ⟨n, h⟩ with ⟨m, rfl⟩ | ⟨s, ds, rfl, hdecimal, hlen⟩
    · obtain rfl : m = n := Except.ok.inj h
      exact .number m
    · rw [integer_of_isDecimal hdecimal, if_neg (Nat.not_lt.mpr hlen)] at h
      obtain rfl := Except.ok.inj h
      obtain ⟨hne, hdigits, hs⟩ := hdecimal
      rcases hs with rfl | hs
      · simpa [Text.Numeral.toInt] using GivesInteger.digits s hne hdigits hlen
      · simpa [Text.Numeral.toInt, hs] using GivesInteger.negative s ds hs hne hdigits hlen
  · intro h
    cases h with
    | number n => rfl
    | digits s hne hdigits hlen =>
      rw [integer_of_isDecimal ⟨hne, hdigits, Or.inl rfl⟩, if_neg (Nat.not_lt.mpr hlen)]
      simp [Text.Numeral.toInt]
    | negative s ds hs hne hdigits hlen =>
      rw [integer_of_isDecimal ⟨hne, hdigits, Or.inr hs⟩, if_neg (Nat.not_lt.mpr hlen)]
      simp [Text.Numeral.toInt, hs]

/-! ### Forms of disks -/

/-- The form of the entries of scratch space. Parameters that are blank count
as none. -/
structure ScratchDisk.HasForm (es : List (Text × Json)) : Prop where
  type : es.lookup (.unicode "type") = some (.text "SCRATCH")
  interface : Optional (IsMember DiskInterface) (valueOf es "interface")
  initializeParams : IsBlank (valueOf es "initializeParams") ∨
    ObjectOf (fun ps => Optional (IsLink .diskType) (valueOf ps "diskType"))
      (valueOf es "initializeParams")

/-- The form of the parameters of a created disk. -/
structure CreatedDisk.ParametersHaveForm (ps : List (Text × Json)) : Prop where
  sourceImage : IsLink .image (valueOf ps "sourceImage")
  diskName : Optional IsText (valueOf ps "diskName")
  diskType : Optional (IsLink .diskType) (valueOf ps "diskType")
  diskSizeGb : Optional (fun v => ∃ n, GivesInteger v n ∧ 0 < n) (valueOf ps "diskSizeGb")

/-- The form of the entries of a created disk. The type may be left out, but
it must not be null. -/
structure CreatedDisk.HasForm (es : List (Text × Json)) : Prop where
  type : es.lookup (.unicode "type") = none ∨
    es.lookup (.unicode "type") = some (.text "PERSISTENT")
  initializeParams : ObjectOf CreatedDisk.ParametersHaveForm (valueOf es "initializeParams")
  autoDelete : Optional IsFlag (valueOf es "autoDelete")

/-- The form of the entries of a disk that exists already. -/
structure PersistentDisk.HasForm (es : List (Text × Json)) : Prop where
  type : es.lookup (.unicode "type") = none ∨
    es.lookup (.unicode "type") = some (.text "PERSISTENT")
  initializeParams : valueOf es "initializeParams" = .null
  source : IsLink .disk (valueOf es "source")
  mode : Optional (IsMember DiskMode) (valueOf es "mode")
  boot : Optional IsFlag (valueOf es "boot")
  autoDelete : Optional IsFlag (valueOf es "autoDelete")

/-- The form of the entries of a disk of a kind. -/
def DiskKind.HasForm (es : List (Text × Json)) : DiskKind → Prop
  | .persistent => PersistentDisk.HasForm es
  | .create => CreatedDisk.HasForm es
  | .scratch => ScratchDisk.HasForm es

/-- The form of the entries of a disk. -/
structure AttachedDisk.HasForm (es : List (Text × Json)) : Prop where
  kind : ∃ kind : DiskKind, kind.HasForm es
  deviceName : Optional IsText (valueOf es "deviceName")
  index : Optional (fun v => ∃ n, GivesInteger v n ∧ 0 ≤ n) (valueOf es "index")

/-! ### Reading numbers and types -/

/-- A number that may be unset is given exactly if the integers that the
field takes are those that some value of it is worth. -/
theorem Payload.exists_givesNumber_iff {α : Type} {field : String} {worth : α → Int}
    {P : Int → Prop} (hworth : ∀ n, (∃ a, worth a = n) ↔ P n) {v : Json} :
    (∃ o, GivesNumber field worth v o) ↔ Optional (fun v => ∃ n, GivesInteger v n ∧ P n) v := by
  simp only [GivesNumber, integer_eq_ok_iff, Optional, ← hworth]
  refine ⟨?_, ?_⟩
  · intro h
    obtain ⟨o, ⟨hnull, -⟩ | ⟨a, ha, -⟩⟩ := h
    · exact Or.inl hnull
    · exact Or.inr ⟨_, ha, a, rfl⟩
  · intro h
    rcases h with hnull | ⟨_, ha, a, rfl⟩
    · exact ⟨none, Or.inl ⟨hnull, rfl⟩⟩
    · exact ⟨some a, Or.inr ⟨a, ha, rfl⟩⟩

theorem CreatedDisk.exists_givesSize_iff {v : Json} :
    (∃ o, GivesSize v o) ↔ Optional (fun v => ∃ n, GivesInteger v n ∧ 0 < n) v := by
  refine Payload.exists_givesNumber_iff fun n => ⟨?_, ?_⟩
  · rintro ⟨a, rfl⟩
    exact Int.natCast_pos.mpr a.2
  · intro hn
    exact ⟨⟨n.toNat, by omega⟩, Int.toNat_of_nonneg (Int.le_of_lt hn)⟩

theorem AttachedDisk.exists_givesIndex_iff {v : Json} :
    (∃ o, GivesIndex v o) ↔ Optional (fun v => ∃ n, GivesInteger v n ∧ 0 ≤ n) v := by
  refine Payload.exists_givesNumber_iff fun n => ⟨?_, ?_⟩
  · rintro ⟨i, rfl⟩
    exact Int.natCast_nonneg i
  · intro hn
    exact ⟨n.toNat, Int.toNat_of_nonneg hn⟩

namespace DiskConfiguration

/-- A disk is a persistent one if its type is not told. -/
theorem sortIn_eq_persistent_iff {es : List (Text × Json)} :
    sortIn es = Choice.json DiskSort.persistent ↔
      es.lookup (.unicode "type") = none ∨
        es.lookup (.unicode "type") = some (.text "PERSISTENT") := by
  unfold sortIn
  cases es.lookup (.unicode "type") with
  | none => simp
  | some v => simp [Choice.json, Choice.name]

/-- Scratch space is always told. -/
theorem sortIn_eq_scratch_iff {es : List (Text × Json)} :
    sortIn es = Choice.json DiskSort.scratch ↔
      es.lookup (.unicode "type") = some (.text "SCRATCH") := by
  unfold sortIn
  cases es.lookup (.unicode "type") with
  | none => simp [Choice.json, Choice.name]
  | some v => simp [Choice.json, Choice.name]

end DiskConfiguration

/-! ### Reading disks -/

open Json (exists_nullable_text_iff exists_nullable_flag_iff exists_link_iff
  exists_ifSet_choice_iff exists_ifSet_link_iff)

namespace DiskKind

variable {es : List (Text × Json)}

/-- Entries of the form of a kind describe a disk of this kind, so they have
the form of no other. -/
theorem HasForm.kindIn {kind : DiskKind} (h : kind.HasForm es) :
    DiskConfiguration.kindIn es = some kind := by
  cases kind with
  | persistent =>
    have hform : PersistentDisk.HasForm es := h
    exact DiskConfiguration.kindIn_eq_persistent_iff.mpr
      ⟨DiskConfiguration.sortIn_eq_persistent_iff.mpr hform.type, hform.initializeParams⟩
  | create =>
    have hform : CreatedDisk.HasForm es := h
    obtain ⟨ps, hps, -⟩ := hform.initializeParams
    exact DiskConfiguration.kindIn_eq_create_iff.mpr
      ⟨DiskConfiguration.sortIn_eq_persistent_iff.mpr hform.type, by simp [hps]⟩
  | scratch =>
    have hform : ScratchDisk.HasForm es := h
    exact DiskConfiguration.kindIn_eq_scratch_iff.mpr
      (DiskConfiguration.sortIn_eq_scratch_iff.mpr hform.type)

end DiskKind

section Kinds

variable {es : List (Text × Json)}

open DiskConfiguration (kindIn kindIn_eq_persistent_iff kindIn_eq_create_iff kindIn_eq_scratch_iff
  sortIn_eq_persistent_iff sortIn_eq_scratch_iff)

theorem PersistentDisk.exists_ofPayload_iff (h : kindIn es = some .persistent) :
    (∃ d, ofPayload (.object es) = .ok d) ↔ PersistentDisk.HasForm es := by
  obtain ⟨hsort, hnull⟩ := kindIn_eq_persistent_iff.mp h
  simp only [ofPayload_eq_ok_iff, Json.object.injEq, exists_eq_left']
  refine ⟨?_, ?_⟩
  · intro hread
    obtain ⟨d, hsource, hmode, hboot, hautoDelete⟩ := hread
    exact ⟨sortIn_eq_persistent_iff.mp hsort, hnull, exists_link_iff.mp ⟨_, hsource⟩,
      exists_ifSet_choice_iff.mp ⟨_, hmode⟩, exists_nullable_flag_iff.mp ⟨_, hboot⟩,
      exists_nullable_flag_iff.mp ⟨_, hautoDelete⟩⟩
  · intro hform
    obtain ⟨source, hsource⟩ := exists_link_iff.mpr hform.source
    obtain ⟨mode, hmode⟩ := exists_ifSet_choice_iff.mpr hform.mode
    obtain ⟨boot, hboot⟩ := exists_nullable_flag_iff.mpr hform.boot
    obtain ⟨autoDelete, hautoDelete⟩ := exists_nullable_flag_iff.mpr hform.autoDelete
    exact ⟨⟨source, mode, boot, autoDelete⟩, hsource, hmode, hboot, hautoDelete⟩

theorem CreatedDisk.exists_ofPayload_iff (h : kindIn es = some .create) :
    (∃ d, ofPayload (.object es) = .ok d) ↔ CreatedDisk.HasForm es := by
  obtain ⟨hsort, -⟩ := kindIn_eq_create_iff.mp h
  simp only [ofPayload_eq_ok_iff, Json.object.injEq, exists_eq_left']
  refine ⟨?_, ?_⟩
  · intro hread
    obtain ⟨d, ps, hps, himage, hname, htype, hsize, hautoDelete⟩ := hread
    have hparams : CreatedDisk.ParametersHaveForm ps :=
      ⟨exists_link_iff.mp ⟨_, himage⟩, exists_nullable_text_iff.mp ⟨_, hname⟩,
        exists_ifSet_link_iff.mp ⟨_, htype⟩, exists_givesSize_iff.mp ⟨_, hsize⟩⟩
    exact ⟨sortIn_eq_persistent_iff.mp hsort, ⟨ps, hps, hparams⟩,
      exists_nullable_flag_iff.mp ⟨_, hautoDelete⟩⟩
  · intro hform
    obtain ⟨ps, hps, hparams⟩ := hform.initializeParams
    obtain ⟨image, himage⟩ := exists_link_iff.mpr hparams.sourceImage
    obtain ⟨name, hname⟩ := exists_nullable_text_iff.mpr hparams.diskName
    obtain ⟨type, htype⟩ := exists_ifSet_link_iff.mpr hparams.diskType
    obtain ⟨size, hsize⟩ := exists_givesSize_iff.mpr hparams.diskSizeGb
    obtain ⟨autoDelete, hautoDelete⟩ := exists_nullable_flag_iff.mpr hform.autoDelete
    exact ⟨⟨image, name, type, size, autoDelete⟩, ps, hps, himage, hname, htype, hsize,
      hautoDelete⟩

theorem ScratchDisk.exists_ofPayload_iff (h : kindIn es = some .scratch) :
    (∃ d, ofPayload (.object es) = .ok d) ↔ ScratchDisk.HasForm es := by
  have hsort := kindIn_eq_scratch_iff.mp h
  simp only [ofPayload_eq_ok_iff, Json.object.injEq, exists_eq_left', Json.isBlank_iff]
  refine ⟨?_, ?_⟩
  · intro hread
    obtain ⟨d, hinterface, htype⟩ := hread
    refine ⟨sortIn_eq_scratch_iff.mp hsort, exists_ifSet_choice_iff.mp ⟨_, hinterface⟩,
      htype.imp And.left ?_⟩
    rintro ⟨ps, hps, htype⟩
    exact ⟨ps, hps, exists_ifSet_link_iff.mp ⟨_, htype⟩⟩
  · intro hform
    obtain ⟨interface, hinterface⟩ := exists_ifSet_choice_iff.mpr hform.interface
    rcases hform.initializeParams with hblank | ⟨ps, hps, htype⟩
    · exact ⟨⟨none, interface⟩, hinterface, Or.inl ⟨hblank, rfl⟩⟩
    · obtain ⟨type, htype⟩ := exists_ifSet_link_iff.mpr htype
      exact ⟨⟨type, interface⟩, hinterface, Or.inr ⟨ps, hps, htype⟩⟩

end Kinds

namespace DiskConfiguration

variable {es : List (Text × Json)}

/-- A disk of the kind that the entries describe is read exactly if they have
the form of this kind. -/
theorem exists_readAs_iff {kind : DiskKind} (h : kindIn es = some kind) :
    (∃ c, readAs kind (.object es) = .ok c) ↔ kind.HasForm es := by
  have hmap : ∀ {α : Type} (make : α → DiskConfiguration) (read : Except Error α),
      (∃ c, make <$> read = .ok c) ↔ ∃ d, read = .ok d := by
    intro α make read
    cases read <;> simp
  cases kind with
  | persistent => exact (hmap _ _).trans (PersistentDisk.exists_ofPayload_iff h)
  | create => exact (hmap _ _).trans (CreatedDisk.exists_ofPayload_iff h)
  | scratch => exact (hmap _ _).trans (ScratchDisk.exists_ofPayload_iff h)

/-- A configuration is read exactly from entries of the form of a kind. -/
theorem exists_ofPayload_iff :
    (∃ c, ofPayload (.object es) = .ok c) ↔ ∃ kind : DiskKind, kind.HasForm es := by
  refine ⟨?_, ?_⟩
  · intro h
    obtain ⟨c, hc⟩ := h
    have hkind := kindIn_of_ofPayload hc
    rw [ofPayload_of_kindIn hkind] at hc
    exact ⟨c.kind, (exists_readAs_iff hkind).mp ⟨c, hc⟩⟩
  · intro h
    obtain ⟨kind, hform⟩ := h
    rw [ofPayload_of_kindIn hform.kindIn]
    exact (exists_readAs_iff hform.kindIn).mpr hform

/-- A configuration that was read is of the one kind whose form the entries
have. -/
theorem kind_eq_iff_hasForm {c : DiskConfiguration} (h : ofPayload (.object es) = .ok c)
    (kind : DiskKind) : c.kind = kind ↔ kind.HasForm es := by
  have hkind := kindIn_of_ofPayload h
  refine ⟨?_, ?_⟩
  · rintro rfl
    rw [ofPayload_of_kindIn hkind] at h
    exact (exists_readAs_iff hkind).mp ⟨c, h⟩
  · intro hform
    exact Option.some.inj (hkind.symm.trans hform.kindIn)

end DiskConfiguration

namespace AttachedDisk

/-- **The form of a disk.** A disk is read from a value if and only if the
value is an object of the form of a disk, and the disk is then of the kind
whose form the object has; there is only one. -/
theorem disk_is_read_iff_hasForm (v : Json) :
    ((∃ d, ofPayload v = .ok d) ↔ ∃ es, v = .object es ∧ HasForm es) ∧
    ∀ es d kind, v = .object es → ofPayload v = .ok d →
      (d.configuration.kind = kind ↔ kind.HasForm es) := by
  simp only [ofPayload_eq_ok_iff]
  refine ⟨⟨?_, ?_⟩, ?_⟩
  · intro h
    obtain ⟨d, es, hv, hc, hname, hindex⟩ := h
    exact ⟨es, hv, DiskConfiguration.exists_ofPayload_iff.mp ⟨_, hc⟩,
      exists_nullable_text_iff.mp ⟨_, hname⟩, exists_givesIndex_iff.mp ⟨_, hindex⟩⟩
  · intro h
    obtain ⟨es, hv, hkind, hname, hindex⟩ := h
    obtain ⟨c, hc⟩ := DiskConfiguration.exists_ofPayload_iff.mpr hkind
    obtain ⟨name, hname⟩ := exists_nullable_text_iff.mpr hname
    obtain ⟨index, hindex⟩ := exists_givesIndex_iff.mpr hindex
    exact ⟨⟨c, name, index⟩, es, hv, hc, hname, hindex⟩
  · rintro es d kind rfl ⟨_, heq, hc, -, -⟩
    obtain rfl := Json.object.inj heq
    exact DiskConfiguration.kind_eq_iff_hasForm hc kind

/-- A disk that exists already, with the link to it. -/
def ofSource (source : Text) : Json := .object [("source", .text source)]

/-- The link of a disk may lead to an address that no disk has. The disk is
refused then for the name that is no string, not for the link. -/
theorem half_source_is_refused :
    let source := Text.unicode "zones/w/disks/" ++ Text.halfPair
    Json.IsUrl .disk (.text source) ∧
      ofPayload (ofSource source) =
        .error (.invalid "DiskId" [⟨[.field "disk"], .notUnicode⟩]) := by
  intro source
  let a : Identity.Address .disk := ⟨none, [.unicode "w", Text.halfPair], rfl, by decide⟩
  have hurl : Identity.Address.ofUrl? .disk source = some a := rfl
  exact ⟨⟨source, a, rfl, Identity.Address.ofUrl?_eq_some_iff.mp hurl⟩, rfl⟩

end AttachedDisk
end VmResource
