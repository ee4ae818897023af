/-
# Instances put together from parts

Callers make identities from plain data or from URLs, put interfaces, disks
and instances together from them, take these apart again, move any of them to
another project, set fields of builders and build. An identity, an interface
or a disk can be moved to a project whose name is empty or no string, and gets
into an instance unseen then, since a resource in another one is not checked
again. No instance comes to hold such a project in another way: one that does
descends from a part that was moved there, or was moved there itself.

Key definitions: `Assembly`, `Assembly.Request`, `Assembly.perform`,
`Assembly.Derived`, `Assembly.FromMove`.
Key theorems: `Assembly.free_of_makes?`, `Assembly.AllAccounted.perform`,
`Assembly.projects_stay_named`.
-/
import VmResource.Proofs.NamedProjects

namespace VmResource

open Instance (Field)
open Resource (Composite)

/-! ### Requests -/

namespace Assembly

/-- What callers have in hand: a value or a builder. -/
inductive Object where
  | value (v : Value)
  | builder (b : Builder)

/-- A resource as an object. -/
def Object.resource (r : Resource) : Object := .value (.resource r)

/-- What is handed over: plain data, or an object by its number. -/
inductive Operand where
  | plain (v : Json)
  | object (k : Nat)

/-- The number of the object that is handed over, if it is one. -/
def Operand.number? : Operand → Option Nat
  | .plain _ => none
  | .object k => some k

/-- What callers can do. Objects are numbered in the order in which they are
made; the shortcuts of an interface and of a disk are calls of their
constructors. -/
inductive Request where
  /-- A list of these. -/
  | list (items : List Operand)
  /-- A resource from plain data. -/
  | make (c : Resource.Class) (v : Json)
  /-- The constructor of a class, called with values for some fields. -/
  | construct (c : Composite) (es : List (Text × Operand))
  /-- An identity from its URL. -/
  | ofUrl (k : Identity.Kind) (v : Json)
  | read (c : Resource.Class) (p : Json)
  | readBuilder (p : Json)
  | readMessage (m : Message)
  /-- A field or another property of a resource. -/
  | part (i : Nat) (name : String)
  /-- The item of a list at a position. -/
  | item (i n : Nat)
  /-- A resource in another project. -/
  | move (i : Nat) (args : List (Option Text))
  | of (id machineType disk interface : Operand)
  | start (id machineType : Operand)
  | set (i : Nat) (f : Field) (v : Operand)
  | build (i : Nat)
  /-- A builder that holds the fields of an instance. -/
  | copy (i : Nat)

namespace Request

/-- The numbers of the objects that a request works on. -/
def operands : Request → List Nat
  | .list items => items.filterMap Operand.number?
  | .construct _ es => (es.map Prod.snd).filterMap Operand.number?
  | .part i _ | .item i _ | .move i _ | .build i | .copy i => [i]
  | .of id machineType disk interface =>
    [id, machineType, disk, interface].filterMap Operand.number?
  | .start id machineType => [id, machineType].filterMap Operand.number?
  | .set i _ v => i :: [v].filterMap Operand.number?
  | .make _ _ | .ofUrl _ _ | .read _ _ | .readBuilder _ | .readMessage _ => []

/-- The project to which a request moves an object, if it does. -/
def destination? : Request → Option Text
  | .move _ args => args.head?.join
  | _ => none

end Request

/-- An object, with the requests that made it and changed it. -/
structure Entry where
  object : Object
  history : List Request

end Assembly

/-! ### Assemblies -/

/-- The objects made so far. -/
abbrev Assembly := List Assembly.Entry

namespace Assembly

/-- The object of a number. -/
def object? (s : Assembly) (k : Nat) : Option Object := s[k]?.map (·.object)

/-- The requests that made and changed the object of a number. -/
def history (s : Assembly) (k : Nat) : List Request := (s[k]?.map (·.history)).getD []

/-- The resource of a number. -/
def resource? (s : Assembly) (k : Nat) : Option Resource :=
  match s.object? k with
  | some (.value (.resource r)) => some r
  | _ => none

/-- The instance of a number. -/
def vm? (s : Assembly) (k : Nat) : Option Instance :=
  match s.resource? k with
  | some (.vm x) => some x
  | _ => none

/-- The builder of a number. -/
def builder? (s : Assembly) (k : Nat) : Option Builder :=
  match s.object? k with
  | some (.builder b) => some b
  | _ => none

/-- The value that is handed over. What is no value fits no field. -/
def value (s : Assembly) : Operand → Value
  | .plain v => .plain v
  | .object k =>
    match s.object? k with
    | some (.value v) => v
    | _ => .other

/-- The new object that a request makes, if it makes one. -/
def makes? (s : Assembly) : Request → Option Object
  | .list items => some (.value (.list (items.map s.value)))
  | .make c v => (Resource.make c v).toOption.map .resource
  | .construct c es =>
    ((c.construct (es.map fun e => (e.1, s.value e.2))).orInvalid c.cls.title).toOption.map
      .resource
  | .ofUrl k v => (Identity.read k v).toOption.map fun id => .resource (.identity k id)
  | .read c p => (Resource.ofPayload c p).outcome.toOption.map .resource
  | .readBuilder p => (Builder.ofPayload p).toOption.map .builder
  | .readMessage m => (Instance.ofMessage m).outcome.toOption.map fun x => .resource (.vm x)
  | .part i name => (s.resource? i).bind fun r => (r.property name).toOption.map .value
  | .item i n => ((s.value (.object i)).items.toOption.bind (·[n]?)).map .value
  | .move i args =>
    (s.resource? i).bind fun r => (r.withProject args).outcome.toOption.map .resource
  | .of id machineType disk interface =>
    (Instance.of (s.value id) (s.value machineType) (s.value disk)
      (s.value interface)).outcome.toOption.map fun x => .resource (.vm x)
  | .start id machineType =>
    (Builder.start (s.value id) (s.value machineType)).toOption.map .builder
  | .build i =>
    (s.builder? i).bind fun b => b.build.outcome.toOption.map fun x => .resource (.vm x)
  | .copy i => (s.vm? i).map fun x => .builder (Builder.ofInstance x)
  | .set _ _ _ => none

/-- The builder that a request changes in place, if it changes one: its
number and what becomes of it. -/
def changes? (s : Assembly) : Request → Option (Nat × Builder)
  | .set i f v =>
    (s.builder? i).bind fun b => (b.set f (s.value v)).toOption.map fun b' => (i, b')
  | _ => none

/-- The objects that there are, after a request. -/
def edited (s : Assembly) (r : Request) : Assembly :=
  match s.changes? r with
  | some (i, b) => s.modify i fun e => ⟨.builder b, r :: e.history⟩
  | none => s

/-- The objects after a request. One that fails changes nothing. -/
def perform (s : Assembly) (r : Request) : Assembly :=
  s.edited r ++ ((s.makes? r).map fun o => Entry.mk o [r]).toList

/-- The objects after these requests, one after the other. -/
def run (requests : List Request) : Assembly := requests.foldl perform []

/-- An object descends from itself, and from what an object descends from on
which a request worked that made it or changed it. -/
inductive Derived (s : Assembly) : Nat → Nat → Prop
  | refl (k : Nat) : Derived s k k
  | next {i j k : Nat} {r : Request} : Derived s i j → r ∈ s.history k → j ∈ r.operands →
      Derived s i k

/-- The object descends from one that was moved to this project. -/
def FromMove (s : Assembly) (p : Text) (k : Nat) : Prop :=
  ∃ i, s.Derived i k ∧ ∃ r ∈ s.history i, r.destination? = some p

/-! ### Objects free of a project -/

/-- No identity in the object is of the project of this name. -/
def Object.Free (w : NoName) : Object → Prop
  | .value v => v.Free w
  | .builder b => b.AllStagedFree w

/-- No identity in the object of this number is. -/
def FreeAt (s : Assembly) (w : NoName) (k : Nat) : Prop := ∀ o, s.object? k = some o → o.Free w

variable {s t : Assembly} {w : NoName} {k : Nat}

theorem FreeAt.resource (h : s.FreeAt w k) {r : Resource} (hr : s.resource? k = some r) :
    Identity.AllFree w r.identities := by
  rw [resource?] at hr
  split at hr
  · next q hobject =>
    obtain rfl := Option.some.inj hr
    exact Value.free_resource_iff.mp (h _ hobject)
  · cases hr

theorem FreeAt.vm (h : s.FreeAt w k) {x : Instance} (hx : s.vm? k = some x) :
    Identity.AllFree w x.identities := by
  rw [vm?] at hx
  split at hx
  · next y hresource =>
    obtain rfl := Option.some.inj hx
    exact h.resource hresource
  · cases hx

theorem FreeAt.builder (h : s.FreeAt w k) {b : Builder} (hb : s.builder? k = some b) :
    b.AllStagedFree w := by
  rw [builder?] at hb
  split at hb
  · next b' hobject =>
    obtain rfl := Option.some.inj hb
    exact h _ hobject
  · cases hb

theorem FreeAt.value (h : s.FreeAt w k) : (s.value (.object k)).Free w := by
  rw [Assembly.value]
  split
  · next v hobject => exact h _ hobject
  · exact .other

theorem free_values {as : List Operand} (h : ∀ j ∈ as.filterMap Operand.number?, s.FreeAt w j) :
    ∀ a ∈ as, (s.value a).Free w := by
  intro a ha
  cases a with
  | plain v => exact .plain v
  | object k => exact (h k (List.mem_filterMap.mpr ⟨_, ha, rfl⟩)).value

/-! ### One request -/

/-- **What is made.** A request that works on objects free of a project, and
is no move there, makes such an object. -/
theorem free_of_makes? {r : Request} (hoperands : ∀ j ∈ r.operands, s.FreeAt w j)
    (hr : r.destination? ≠ some w.text) {o : Object} (h : s.makes? r = some o) : o.Free w := by
  cases r with
  | list items =>
    obtain rfl := Option.some.inj h
    exact .list (List.forall_mem_map.mpr (free_values hoperands))
  | make c v =>
    obtain ⟨q, hq, rfl⟩ := Except.map_toOption_eq_some_iff.mp h
    exact .resource (Resource.allFree_of_check (Check.orInvalid_eq_ok_iff.mp hq))
  | construct c es =>
    obtain ⟨q, hq, rfl⟩ := Except.map_toOption_eq_some_iff.mp h
    have hes : Value.AllEntriesFree w (es.map fun e => (e.1, s.value e.2)) :=
      List.forall_mem_map.mpr fun e he => free_values hoperands e.2 (List.mem_map_of_mem he)
    exact .resource (c.allFree_of_construct hes (Check.orInvalid_eq_ok_iff.mp hq))
  | ofUrl k v =>
    obtain ⟨id, hid, rfl⟩ := Except.map_toOption_eq_some_iff.mp h
    exact Value.free_ofIdentity (Identity.isPlain_of_read hid).isNamed.isFree
  | read c p =>
    obtain ⟨q, hq, rfl⟩ := Except.map_toOption_eq_some_iff.mp h
    exact .resource (Resource.allFree_of_ofPayload hq)
  | readBuilder p =>
    obtain ⟨b, hb, rfl⟩ := Except.map_toOption_eq_some_iff.mp h
    exact Builder.allStagedFree_of_ofPayload hb
  | readMessage m =>
    obtain ⟨x, hx, rfl⟩ := Except.map_toOption_eq_some_iff.mp h
    exact .resource (Instance.allPlain_of_ofPayload hx).allFree
  | part i name =>
    have hi : s.FreeAt w i := hoperands i List.mem_cons_self
    obtain ⟨q, hq, hpart⟩ := Option.bind_eq_some_iff.mp h
    obtain ⟨v, hv, rfl⟩ := Except.map_toOption_eq_some_iff.mp hpart
    exact Resource.free_of_property (hi.resource hq) hv
  | item i n =>
    have hi : s.FreeAt w i := hoperands i List.mem_cons_self
    obtain ⟨v, hitem, rfl⟩ := Option.map_eq_some_iff.mp h
    obtain ⟨xs, hxs, hv⟩ := Option.bind_eq_some_iff.mp hitem
    have hitems := Value.free_of_items hi.value (Except.toOption_eq_some_iff.mp hxs)
    exact hitems v (List.mem_of_getElem? hv)
  | move i args =>
    have hi : s.FreeAt w i := hoperands i List.mem_cons_self
    obtain ⟨q, hq, hmove⟩ := Option.bind_eq_some_iff.mp h
    obtain ⟨moved, hmoved, rfl⟩ := Except.map_toOption_eq_some_iff.mp hmove
    exact .resource (Resource.allFree_of_withProject (hi.resource hq) hr hmoved)
  | of id machineType disk interface =>
    have hvalues := free_values hoperands
    obtain ⟨x, hx, rfl⟩ := Except.map_toOption_eq_some_iff.mp h
    exact .resource (Instance.allFree_of_of (hvalues id (by simp)) (hvalues machineType (by simp))
      (hvalues disk (by simp)) (hvalues interface (by simp)) hx)
  | start id machineType =>
    have hvalues := free_values hoperands
    obtain ⟨b, hb, rfl⟩ := Except.map_toOption_eq_some_iff.mp h
    exact Builder.allStagedFree_of_start (hvalues id (by simp)) (hvalues machineType (by simp)) hb
  | set i f v => cases h
  | build i =>
    have hi : s.FreeAt w i := hoperands i List.mem_cons_self
    obtain ⟨b, hb, hbuild⟩ := Option.bind_eq_some_iff.mp h
    obtain ⟨x, hx, rfl⟩ := Except.map_toOption_eq_some_iff.mp hbuild
    exact .resource (Builder.allFree_of_build (hi.builder hb) hx)
  | copy i =>
    have hi : s.FreeAt w i := hoperands i List.mem_cons_self
    obtain ⟨x, hx, rfl⟩ := Option.map_eq_some_iff.mp h
    exact Builder.allStagedFree_ofInstance (hi.vm hx)

/-- A setter stages what it is given. -/
theorem free_of_changes? {r : Request} (hoperands : ∀ j ∈ r.operands, s.FreeAt w j) {i : Nat}
    {b : Builder} (h : s.changes? r = some (i, b)) : b.AllStagedFree w := by
  cases r with
  | set j f v =>
    obtain ⟨b₀, hb₀, hset⟩ := Option.bind_eq_some_iff.mp h
    obtain ⟨b', hb', hpair⟩ := Except.map_toOption_eq_some_iff.mp hset
    obtain ⟨-, rfl⟩ := Prod.mk.inj hpair
    have hbuilder : b₀.AllStagedFree w := (hoperands j List.mem_cons_self).builder hb₀
    have hvalue : (s.value v).Free w :=
      free_values (fun i hi => hoperands i (List.mem_cons_of_mem j hi)) v List.mem_cons_self
    exact hbuilder.set hvalue hb'
  | _ => cases h

/-! ### Histories -/

theorem mem_history_iff {q : Request} :
    q ∈ s.history k ↔ ∃ e, s[k]? = some e ∧ q ∈ e.history := by
  rw [history]
  cases s[k]? <;> simp

/-- An entry after a request is as it was, or of the builder that the request
changed. -/
theorem getElem?_edited {r : Request} {e : Entry} (h : s[k]? = some e) :
    (s.edited r)[k]? = some e ∨ ∃ b, s.changes? r = some (k, b) ∧
      (s.edited r)[k]? = some ⟨.builder b, r :: e.history⟩ := by
  rw [edited]
  split
  · next i b hchanges =>
    rw [List.getElem?_modify, h]
    by_cases hk : i = k
    · subst hk
      exact Or.inr ⟨b, hchanges, by simp⟩
    · exact Or.inl (by simp [hk])
  · exact Or.inl h

theorem length_edited (s : Assembly) (r : Request) : (s.edited r).length = s.length := by
  rw [edited]
  split
  · exact List.length_modify ..
  · rfl

/-- Histories grow. -/
theorem mem_history_perform {r q : Request} (h : q ∈ s.history k) :
    q ∈ (s.perform r).history k := by
  obtain ⟨e, he, hq⟩ := mem_history_iff.mp h
  have hentry : ∃ e', (s.edited r)[k]? = some e' ∧ q ∈ e'.history := by
    rcases getElem?_edited (r := r) he with hsame | ⟨b, -, hchanged⟩
    · exact ⟨e, hsame, hq⟩
    · exact ⟨_, hchanged, List.mem_cons_of_mem r hq⟩
  obtain ⟨e', he', hq'⟩ := hentry
  have hlt : k < (s.edited r).length := (List.getElem?_eq_some_iff.mp he').1
  exact mem_history_iff.mpr ⟨e', (List.getElem?_append_left hlt).trans he', hq'⟩

/-- An entry after a request was there before, or is of the builder that the
request changed, or of the object that it made. -/
theorem getElem?_perform {r : Request} {e : Entry} (h : (s.perform r)[k]? = some e) :
    s[k]? = some e ∨
      (∃ e₀ b, s[k]? = some e₀ ∧ s.changes? r = some (k, b) ∧
        e = ⟨.builder b, r :: e₀.history⟩) ∨
      ∃ o, s.makes? r = some o ∧ e = ⟨o, [r]⟩ := by
  by_cases hk : k < s.length
  · have hedited : (s.edited r)[k]? = some e := by
      rw [perform, List.getElem?_append_left (by rw [length_edited]; exact hk)] at h
      exact h
    have hold : s[k]? = some s[k] := List.getElem?_eq_getElem hk
    rcases getElem?_edited (r := r) hold with hsame | ⟨b, hb, hchanged⟩
    · exact Or.inl (hold.trans (hsame.symm.trans hedited))
    · exact Or.inr (Or.inl ⟨_, b, hold, hb, Option.some.inj (hedited.symm.trans hchanged)⟩)
  · have hnew : e ∈ ((s.makes? r).map fun o => Entry.mk o [r]).toList := by
      have hle : (s.edited r).length ≤ k := by
        rw [length_edited]
        omega
      rw [perform, List.getElem?_append_right hle] at h
      exact List.mem_of_getElem? h
    obtain ⟨o, ho, rfl⟩ := Option.map_eq_some_iff.mp (Option.mem_toList.mp hnew)
    exact Or.inr (Or.inr ⟨o, ho, rfl⟩)

/-! ### Descent -/

theorem Derived.mono (hhistory : ∀ k q, q ∈ s.history k → q ∈ t.history k) {i : Nat}
    (h : s.Derived i k) : t.Derived i k := by
  induction h with
  | refl => exact .refl _
  | next _ hr hj ih => exact .next ih (hhistory _ _ hr) hj

/-- What an object descends from is in every set that holds the object and
all that the requests for its members work on. -/
theorem Derived.mem_of_closed {C : List Nat} {i : Nat} (h : s.Derived i k) (hk : k ∈ C)
    (hclosed : ∀ j ∈ C, ∀ r ∈ s.history j, ∀ i ∈ r.operands, i ∈ C) : i ∈ C := by
  induction h with
  | refl => exact hk
  | next _ hr hj ih => exact ih (hclosed _ hk _ hr _ hj)

theorem FromMove.mono {p : Text} (hhistory : ∀ k q, q ∈ s.history k → q ∈ t.history k)
    (h : s.FromMove p k) : t.FromMove p k := by
  obtain ⟨i, hderived, r, hr, hmove⟩ := h
  exact ⟨i, hderived.mono hhistory, r, hhistory i r hr, hmove⟩

theorem FromMove.next {p : Text} {j : Nat} {r : Request} (h : s.FromMove p j)
    (hr : r ∈ s.history k) (hj : j ∈ r.operands) : s.FromMove p k := by
  obtain ⟨i, hderived, hmoved⟩ := h
  exact ⟨i, .next hderived hr hj, hmoved⟩

/-- Every object is free of the project of this name, or descends from one
that was moved there. -/
def AllAccounted (s : Assembly) (w : NoName) : Prop := ∀ k, s.FreeAt w k ∨ s.FromMove w.text k

/-- **One request.** It adds to the objects with a project of this name only
what descends from one that was moved there. -/
theorem AllAccounted.perform (h : s.AllAccounted w) (r : Request) :
    (s.perform r).AllAccounted w := by
  have hgrow : ∀ k q, q ∈ s.history k → q ∈ (s.perform r).history k :=
    fun _ _ => mem_history_perform
  intro k
  by_cases hfrom : (s.perform r).FromMove w.text k
  · exact Or.inr hfrom
  · -- if the request made or changed the object, neither itself nor what it works on is to blame
    have hnew : r ∈ (s.perform r).history k →
        r.destination? ≠ some w.text ∧ ∀ j ∈ r.operands, s.FreeAt w j := by
      intro hhistory
      refine ⟨fun hmove => hfrom ⟨k, .refl k, r, hhistory, hmove⟩, ?_⟩
      intro j hj
      exact (h j).resolve_right fun hjfrom => hfrom ((hjfrom.mono hgrow).next hhistory hj)
    refine Or.inl fun o ho => ?_
    obtain ⟨e, he, rfl⟩ := Option.map_eq_some_iff.mp ho
    rcases getElem?_perform he with hold | ⟨e₀, b, -, hchanges, rfl⟩ | ⟨o, hmakes, rfl⟩
    · have hfree := (h k).resolve_right fun hkfrom => hfrom (hkfrom.mono hgrow)
      exact hfree e.object (by rw [object?, hold]; rfl)
    · obtain ⟨-, hoperands⟩ := hnew (mem_history_iff.mpr ⟨_, he, List.mem_cons_self⟩)
      exact free_of_changes? hoperands hchanges
    · obtain ⟨hr, hoperands⟩ := hnew (mem_history_iff.mpr ⟨_, he, List.mem_cons_self⟩)
      exact free_of_makes? hoperands hr hmakes

/-! ### Runs -/

theorem allAccounted_foldl : ∀ (requests : List Request) {s : Assembly}, s.AllAccounted w →
    AllAccounted (requests.foldl perform s) w
  | [], _, h => h
  | r :: requests, _, h => allAccounted_foldl requests (h.perform r)

/-- **Projects stay named.** However an instance is put together, every
identity in it is of no project yet, or of one whose name is a string that is
not empty, or of one to which a request moved the instance or a part that it
descends from. That a rule of its parts is broken keeps the instance from
being written only if its own identity is of such a project, whose name is
empty or no string. -/
theorem projects_stay_named {requests : List Request} {k : Nat} {x : Instance}
    (h : (run requests).vm? k = some x) :
    (∀ id ∈ x.identities, ∀ p, id.2.project = some p →
      (p ≠ "" ∧ p.IsUnicode) ∨ (run requests).FromMove p k) ∧
    ∀ subject vs, x.payload = .error (.invalid subject vs) →
      ∃ p, x.id.project = some p ∧ (p = "" ∨ ¬ p.IsUnicode) ∧ (run requests).FromMove p k := by
  have hfrom : ∀ w : NoName, ∀ id ∈ x.identities, id.2.project = some w.text →
      (run requests).FromMove w.text k := by
    intro w id hid hproject
    have hempty : AllAccounted [] w := fun k => Or.inl fun o ho => by cases ho
    rcases allAccounted_foldl requests hempty k with hfree | hmoved
    · exact absurd hproject (hfree.vm h id hid)
    · exact hmoved
  constructor
  · intro id hid p hp
    by_cases hname : p ≠ "" ∧ p.IsUnicode
    · exact Or.inl hname
    · exact Or.inr (hfrom ⟨p, hname⟩ id hid hp)
  · intro subject vs hpayload
    obtain ⟨w, hproject, -⟩ := Instance.payload_eq_invalid_iff.mp hpayload
    have hodd : w.text = "" ∨ ¬ w.text.IsUnicode := by
      by_cases hempty : w.text = ""
      · exact Or.inl hempty
      · exact Or.inr fun hunicode => w.not_name ⟨hempty, hunicode⟩
    exact ⟨w.text, hproject, hodd, hfrom w ⟨.vm, x.id⟩ List.mem_cons_self hproject⟩

/-- An instance of parts that were moved one by one, and moved in its turn.
The same identity is moved to the empty name as well and the interface to half
of a surrogate pair; a move of the instance to the empty name fails. -/
def assembled : List Request :=
  [.ofUrl .vm (.text "zones/us-3/instances/db"), .move 0 [some "p"],
    .move 1 [some (.unicode "")],
    .make (.identity .machineType)
      (.object [("zone", .text "us-3"), ("machine_type", .text "tiny")]),
    .make .interface (.object [("network", .object [("network", .text "lan")])]),
    .move 4 [some "q"],
    .construct .persistentDisk [("source_disk", .plain (.object
      [("zone", .text "us-3"), ("disk", .text "root")])), ("boot", .plain (.bool true))],
    .construct .disk [("configuration", .object 6)],
    .of (.object 1) (.object 3) (.object 7) (.object 5), .move 8 [some (.unicode "")], .copy 8,
    .set 9 .description (.plain (.text "main")), .build 9, .move 10 [some "r"],
    .move 5 [some Text.halfPair]]
/-- What the instance descends from was moved to names only. -/
theorem assembled_stays_named : ∃ x, (run assembled).vm? 11 = some x ∧ x.id.project = some "r" ∧
    (∀ id ∈ x.identities, ∀ p, id.2.project = some p → p ≠ "" ∧ p.IsUnicode) ∧
      ∀ subject vs, x.payload ≠ .error (.invalid subject vs) := by
  obtain ⟨x, hx, hproject⟩ : ∃ x, (run assembled).vm? 11 = some x ∧ x.id.project = some "r" :=
    ⟨_, rfl, rfl⟩
  have hclosed : ∀ j ∈ [0, 1, 3, 4, 5, 6, 7, 8, 9, 10, 11], ∀ r ∈ (run assembled).history j,
      (∀ p ∈ r.destination?, p ≠ "" ∧ p.IsUnicode) ∧
        ∀ i ∈ r.operands, i ∈ [0, 1, 3, 4, 5, 6, 7, 8, 9, 10, 11] := by
    decide
  have hnames : ∀ p, (run assembled).FromMove p 11 → p ≠ "" ∧ p.IsUnicode := by
    rintro p ⟨i, hderived, r, hr, hmove⟩
    have hi := hderived.mem_of_closed (by decide) fun j hj q hq => (hclosed j hj q hq).2
    exact (hclosed i hi r hr).1 p hmove
  obtain ⟨hprojects, hpayload⟩ := projects_stay_named hx
  refine ⟨x, hx, hproject, fun id hid p hp => ?_, fun subject vs hinvalid => ?_⟩
  · exact (hprojects id hid p hp).elim (fun hname => hname) (hnames p)
  · obtain ⟨p, -, hodd, hmoved⟩ := hpayload subject vs hinvalid
    obtain ⟨hne, hunicode⟩ := hnames p hmoved
    exact hodd.elim hne fun hbroken => hbroken hunicode

/-- A builder that is started with an identity after this was moved to the
empty name. -/
def emptied : List Request :=
  [.ofUrl .vm (.text "projects/p/zones/us-4/instances/db"), .move 0 [some (.unicode "")],
    .make (.identity .machineType)
      (.object [("zone", .text "us-4"), ("machine_type", .text "tiny")]),
    .start (.object 1) (.object 2), .set 3 .disks (.plain (.list [])),
    .set 3 .interfaces (.plain (.list [])), .build 3]

/-- The instance is built, holds the project with the empty name, and is
refused when it is written. -/
theorem emptied_is_built : ∃ x, (run emptied).vm? 4 = some x ∧
    ¬ (∀ id ∈ x.identities, ∀ p, id.2.project = some p → p ≠ "") ∧
      ∃ vs, x.payload = .error (.invalid "ZoneId" vs) := by
  let w : NoName := ⟨"", by decide⟩
  obtain ⟨x, hx, hproject⟩ : ∃ x, (run emptied).vm? 4 = some x ∧ x.id.project = some w.text :=
    ⟨_, rfl, rfl⟩
  have hpayload := Instance.payload_eq_invalid_iff.mpr ⟨w, hproject, rfl, rfl⟩
  refine ⟨x, hx, fun hnamed => ?_, _, hpayload⟩
  exact hnamed ⟨.vm, x.id⟩ List.mem_cons_self w.text hproject rfl

end Assembly
end VmResource
