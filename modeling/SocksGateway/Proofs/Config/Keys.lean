import Mathlib.Data.List.Nodup
import SocksGateway.Config.Files

/-!
# Keys of a configuration document

The objects of a document are the configuration, its services and tunnels, and
its four groups of settings (`Config.objects`).  Each has its own keys
(`Config.Object.keys`), and a document that has another key in one of them is
not read, unless the object is a service: of a service the members that its type
does not have are dropped.

A misspelt key is therefore found everywhere but in a service, and there it is
found if its field is required.  Only `bind` is not, and a service that misspells
it listens at the loopback address.

A record is read member by member, and one member sets one field
(`RecordField.setMember_eq_some_iff`).  So what a field holds in the end was read
from the member with its key (`RecordField.Sets.read_of_record`), and what was
read there had to be an object with keys of its own.
-/

namespace SocksGateway

open Json

namespace Json

namespace Value

/-- What stands in an array. -/
def items : Value → List Value
  | array vs => vs
  | _ => []

/-- The values in a record, each with its key.  An array has the first of the
keys, in their order. -/
def entries (keys : List String) : Value → List (String × Value)
  | object members => members
  | array vs => keys.zip vs
  | _ => []

theorem exists_of_mapM {α : Type} {read : Value → Option α} {vs : List Value} {xs : List α}
    (h : vs.mapM read = some xs) : ∀ v ∈ vs, ∃ x ∈ xs, read v = some x := by
  induction vs generalizing xs with
  | nil => simp
  | cons v vs ih =>
    simp only [List.mapM_cons, Option.bind_eq_bind, Option.bind_eq_some_iff, Option.pure_def,
      Option.some.injEq] at h
    obtain ⟨x, hx, ys, hys, rfl⟩ := h
    intro w hw
    obtain rfl | hw := List.mem_cons.mp hw
    · exact ⟨x, List.mem_cons_self, hx⟩
    · obtain ⟨y, hy, hRead⟩ := ih hys w hw
      exact ⟨y, List.mem_cons_of_mem x hy, hRead⟩

theorem exists_of_list {α : Type} {read : Value → Option α} {v : Value} {xs : List α}
    (h : v.list read = some xs) : ∀ w ∈ v.items, ∃ x ∈ xs, read w = some x := by
  cases v with
  | array vs => exact exists_of_mapM h
  | _ => simp [items]

end Value

namespace RecordField

section Records

variable {α : Type} {fields : List (RecordField α)} {a b : α} {members : List (String × Value)}

/-! ### The keys of an object -/

theorem ofMembers_eq_some_iff :
    ofMembers fields a members = some b ↔
      accepts fields (members.map Prod.fst) = true ∧
        members.foldlM (setMember fields) a = some b := by
  simp [ofMembers]

theorem accepts_iff {keys : List String} :
    accepts fields keys = true ↔
      (∀ k ∈ keys, k ∈ fields.map key) ∧ keys.Nodup ∧
        ∀ f ∈ fields, f.required = true → f.key ∈ keys := by
  simp only [accepts, Bool.and_eq_true, List.all_eq_true, List.contains_iff_mem,
    decide_eq_true_eq, Bool.or_eq_true, Bool.not_eq_true', and_assoc]
  refine and_congr_right fun _ => and_congr_right fun _ => forall₂_congr fun f _ => ?_
  cases f.required <;> simp

theorem mem_keys_of_ofMembers (h : ofMembers fields a members = some b) :
    ∀ m ∈ members, m.1 ∈ fields.map key := fun m hm =>
  (accepts_iff.mp (ofMembers_eq_some_iff.mp h).1).1 m.1 (List.mem_map_of_mem hm)

theorem mem_of_required (h : ofMembers fields a members = some b) {f : RecordField α}
    (hf : f ∈ fields) (hRequired : f.required = true) : f.key ∈ members.map Prod.fst :=
  (accepts_iff.mp (ofMembers_eq_some_iff.mp h).1).2.2 f hf hRequired

/-! ### What a field holds -/

theorem setMember_eq_some_iff (hNodup : (fields.map key).Nodup) {m : String × Value} :
    setMember fields a m = some b ↔ ∃ f ∈ fields, f.key = m.1 ∧ f.set m.2 a = some b := by
  unfold setMember
  constructor
  · split
    next f hf =>
      exact fun h => ⟨f, List.mem_of_find?_eq_some hf, by simpa using List.find?_some hf, h⟩
    next => exact fun h => nomatch h
  · rintro ⟨f, hf, hKey, h⟩
    split
    next g hg =>
      have hSame : g.key = f.key := by rw [hKey]; simpa using List.find?_some hg
      rwa [List.inj_on_of_nodup_map hNodup (List.mem_of_find?_eq_some hg) hf hSame]
    next hNone => exact absurd hKey (by simpa using List.find?_eq_none.mp hNone f hf)

theorem foldlM_of_ofItems (hNodup : (fields.map key).Nodup) {rest : List (RecordField α)}
    (hRest : rest ⊆ fields) {vs : List Value} (h : ofItems a rest vs = some b) :
    ((rest.map key).zip vs).foldlM (setMember fields) a = some b := by
  induction rest generalizing a vs with
  | nil =>
    cases vs with
    | nil => exact h
    | cons => exact nomatch h
  | cons f rest ih =>
    have hTail : rest ⊆ fields := fun g hg => hRest (List.mem_cons_of_mem f hg)
    cases vs with
    | nil =>
      simp only [ofItems, Option.ite_none_left_eq_some] at h
      simpa using ih hTail h.2
    | cons v vs =>
      simp only [ofItems] at h
      split at h
      next a' hSet =>
        have hHead : setMember fields a (f.key, v) = some a' :=
          (setMember_eq_some_iff hNodup).mpr ⟨f, hRest List.mem_cons_self, rfl, hSet⟩
        simp only [List.map_cons, List.zip_cons_cons, List.foldlM_cons, hHead]
        exact ih hTail h
      next => exact nomatch h

theorem foldlM_of_record (hNodup : (fields.map key).Nodup) {v : Value}
    (h : record fields a v = some b) :
    ((v.entries (fields.map key)).map Prod.fst).Nodup ∧
      (v.entries (fields.map key)).foldlM (setMember fields) a = some b := by
  cases v with
  | object members =>
    obtain ⟨hAccepts, hFold⟩ := ofMembers_eq_some_iff.mp h
    exact ⟨(accepts_iff.mp hAccepts).2.1, hFold⟩
  | array vs =>
    refine ⟨?_, foldlM_of_ofItems hNodup (List.Subset.refl _) h⟩
    rw [Value.entries, List.zip_eq_zip_take_min, List.map_fst_zip (by simp)]
    exact hNodup.sublist (List.take_sublist _ _)
  | _ => exact nomatch h

/-- What `get` finds in a record is set by the field with this key and by no other
one: it is what `read` makes of the value. -/
structure Sets {β : Type} (fields : List (RecordField α)) (k : String)
    (read : Value → Option β) (get : α → β) : Prop where
  own : ∀ f ∈ fields, f.key = k → ∀ x a b, f.set x a = some b → read x = some (get b)
  other : ∀ f ∈ fields, f.key ≠ k → ∀ x a b, f.set x a = some b → get b = get a

namespace Sets

variable {β : Type} {k : String} {read : Value → Option β} {get : α → β}

theorem get_eq_of_foldlM (hSets : Sets fields k read get) (hNodup : (fields.map key).Nodup)
    (hOther : k ∉ members.map Prod.fst) (h : members.foldlM (setMember fields) a = some b) :
    get b = get a := by
  induction members generalizing a with
  | nil => cases h; rfl
  | cons m members ih =>
    simp only [List.foldlM_cons, Option.bind_eq_bind, Option.bind_eq_some_iff] at h
    obtain ⟨a', hHead, hTail⟩ := h
    simp only [List.map_cons, List.mem_cons, not_or] at hOther
    obtain ⟨f, hf, hKey, hSet⟩ := (setMember_eq_some_iff hNodup).mp hHead
    rw [ih hOther.2 hTail]
    exact hSets.other f hf (fun hk => hOther.1 (hk.symm.trans hKey)) m.2 a a' hSet

theorem read_of_foldlM (hSets : Sets fields k read get) (hNodup : (fields.map key).Nodup)
    (hKeys : (members.map Prod.fst).Nodup) (h : members.foldlM (setMember fields) a = some b)
    {x : Value} (hx : (k, x) ∈ members) : read x = some (get b) := by
  induction members generalizing a with
  | nil => exact absurd hx List.not_mem_nil
  | cons m members ih =>
    simp only [List.foldlM_cons, Option.bind_eq_bind, Option.bind_eq_some_iff] at h
    obtain ⟨a', hHead, hTail⟩ := h
    obtain ⟨hNew, hKeys⟩ := List.nodup_cons.mp hKeys
    obtain rfl | hx := List.mem_cons.mp hx
    · -- The member itself: the later ones have other keys.
      obtain ⟨f, hf, hKey, hSet⟩ := (setMember_eq_some_iff hNodup).mp hHead
      rw [hSets.get_eq_of_foldlM hNodup hNew hTail]
      exact hSets.own f hf hKey x a a' hSet
    · exact ih hKeys hTail hx

theorem read_of_record (hSets : Sets fields k read get) (hNodup : (fields.map key).Nodup)
    {v x : Value} (h : record fields a v = some b) (hx : (k, x) ∈ v.entries (fields.map key)) :
    read x = some (get b) :=
  have ⟨hKeys, hFold⟩ := foldlM_of_record hNodup h
  hSets.read_of_foldlM hNodup hKeys hFold hx

end Sets

end Records

end RecordField

end Json

open RecordField

/-! ### The objects of a document -/

namespace ServiceSpec

/-- The keys of a service of this type. -/
def keys (type : Option String) : List String :=
  match type with
  | some "socks" => ["type", "bind", "port"]
  | some "port_forward" => ["type", "bind", "port", "remote_host", "remote_port"]
  | _ => ["type"]

end ServiceSpec

namespace Config

/-- The keys of a configuration. -/
def keys : List String :=
  ["log_level", "services", "tunnels", "rules", "rules_file", "connect", "relay", "dns",
    "session_loiter_secs", "supervisor"]

/-- What an object of a document is about. -/
inductive Part where
  | config
  | service
  | tunnel
  | connect
  | relay
  | dns
  | supervisor
deriving DecidableEq, Repr

/-- An object of a document. -/
structure Object where
  part : Part
  members : List (String × Value)

namespace Object

/-- The keys that an object may have. -/
def keys (o : Object) : List String :=
  match o.part with
  | .config => Config.keys
  | .service => ServiceSpec.keys (ServiceSpec.typeOf? o.members)
  | .tunnel => ["name", "socks_port", "command"]
  | .connect => ["max_attempts", "backoff_ms", "timeout_secs", "single_candidate"]
  | .relay => ["buffer_size", "idle_timeout_secs", "handshake_timeout_secs"]
  | .dns => ["resolver", "doh_url", "retries"]
  | .supervisor => ["enabled", "scan_interval_ms", "restart_delay_secs"]

/-- The members under the keys that the object may have. -/
def declared (o : Object) : List (String × Value) :=
  o.members.filter fun m => o.keys.contains m.1

end Object

/-- The parts that a value of a configuration has, going by its key. -/
def partsUnder : String × Value → List (Part × Value)
  | ("services", v) => v.items.map (Part.service, ·)
  | ("tunnels", v) => v.items.map (Part.tunnel, ·)
  | ("connect", v) => [(.connect, v)]
  | ("relay", v) => [(.relay, v)]
  | ("dns", v) => [(.dns, v)]
  | ("supervisor", v) => [(.supervisor, v)]
  | _ => []

/-- The parts of a document, itself included. -/
def parts (document : Value) : List (Part × Value) :=
  (.config, document) :: (document.entries keys).flatMap partsUnder

/-- The objects of a document: the parts of it that are not written as arrays. -/
def objects (document : Value) : List Object :=
  (parts document).filterMap fun
    | (part, .object members) => some ⟨part, members⟩
    | _ => none

theorem mem_objects_iff {document : Value} {o : Object} :
    o ∈ objects document ↔ (o.part, .object o.members) ∈ parts document := by
  simp only [objects, List.mem_filterMap]
  constructor
  · rintro ⟨⟨part, v⟩, hPart, ho⟩
    cases v with
    | object members => cases ho; exact hPart
    | _ => exact nomatch ho
  · exact fun h => ⟨_, h, rfl⟩

/-- The part of the configuration `c` that `v` is about is what `v` is read to. -/
def Part.Holds (c : Config) : Part → Value → Prop
  | .config, v => ofJson? v = some c
  | .service, v => ∃ s ∈ c.services, ServiceSpec.ofJson? v = some s
  | .tunnel, v => ∃ t ∈ c.tunnels, TunnelSpec.ofJson? v = some t
  | .connect, v => record ConnectSettings.fields {} v = some c.connect
  | .relay, v => record RelaySettings.fields {} v = some c.relay
  | .dns, v => record DnsSettings.fields {} v = some c.dns
  | .supervisor, v => record SupervisorSettings.fields {} v = some c.supervisor

section Parts

variable {c : Config} {document : Value}

theorem read_of_mem_entries {β : Type} {k : String} {read : Value → Option β} {get : Config → β}
    (hSets : Sets fields k read get) (h : ofJson? document = some c) {x : Value}
    (hx : (k, x) ∈ document.entries keys) : read x = some (get c) :=
  hSets.read_of_record (by decide) h hx

theorem holds_of_mem_partsUnder (h : ofJson? document = some c) {m : String × Value}
    (hm : m ∈ document.entries keys) : ∀ p ∈ partsUnder m, p.1.Holds c p.2 := by
  unfold partsUnder
  split
  next v =>
    have hSets : Sets fields "services" (Value.list ServiceSpec.ofJson?) Config.services := by
      constructor <;> simp [fields, RecordField.of]
    have hRead := Value.exists_of_list (read_of_mem_entries hSets h hm)
    simpa [Part.Holds] using hRead
  next v =>
    have hSets : Sets fields "tunnels" (Value.list TunnelSpec.ofJson?) Config.tunnels := by
      constructor <;> simp [fields, RecordField.of]
    have hRead := Value.exists_of_list (read_of_mem_entries hSets h hm)
    simpa [Part.Holds] using hRead
  next v =>
    have hSets : Sets fields "connect" (record ConnectSettings.fields {}) Config.connect := by
      constructor <;> simp [fields, RecordField.of]
    simpa [Part.Holds] using read_of_mem_entries hSets h hm
  next v =>
    have hSets : Sets fields "relay" (record RelaySettings.fields {}) Config.relay := by
      constructor <;> simp [fields, RecordField.of]
    simpa [Part.Holds] using read_of_mem_entries hSets h hm
  next v =>
    have hSets : Sets fields "dns" (record DnsSettings.fields {}) Config.dns := by
      constructor <;> simp [fields, RecordField.of]
    simpa [Part.Holds] using read_of_mem_entries hSets h hm
  next v =>
    have hSets : Sets fields "supervisor" (record SupervisorSettings.fields {})
        Config.supervisor := by
      constructor <;> simp [fields, RecordField.of]
    simpa [Part.Holds] using read_of_mem_entries hSets h hm
  next => simp

theorem holds_of_mem_parts (h : ofJson? document = some c) :
    ∀ p ∈ parts document, p.1.Holds c p.2 := by
  intro p hp
  obtain rfl | hp := List.mem_cons.mp hp
  · exact h
  · obtain ⟨m, hm, hp⟩ := List.mem_flatMap.mp hp
    exact holds_of_mem_partsUnder h hm p hp

theorem Object.mem_keys {o : Object} (hService : o.part ≠ .service)
    (h : o.part.Holds c (.object o.members)) : ∀ m ∈ o.members, m.1 ∈ o.keys := by
  obtain ⟨part, members⟩ := o
  cases part with
  | service => exact absurd rfl hService
  | tunnel =>
    obtain ⟨t, -, h⟩ := h
    exact mem_keys_of_ofMembers h
  | config | connect | relay | dns | supervisor => exact mem_keys_of_ofMembers h

end Parts

end Config

/-! ### Services -/

namespace ServiceSpec

variable {s : ServiceSpec} {members : List (String × Value)}

theorem keys_of_typed? {type : String} {fields : List (RecordField Entry)}
    {make : Entry → ServiceSpec} (h : typed? type = some (fields, make)) :
    keys (some type) = typeKey :: fields.map RecordField.key ∧
      ∀ f ∈ fields, f.required = true ∨ f.key = "bind" := by
  unfold typed? at h
  split at h
  next =>
    cases h
    exact ⟨rfl, by simp [Entry.listening, RecordField.of]⟩
  next =>
    cases h
    exact ⟨rfl, by simp [Entry.forwarding, Entry.listening, RecordField.of]⟩
  next => exact nomatch h

theorem ofMembers?_eq_some_iff :
    ofMembers? members = some s ↔
      ∃ type fields make e, typeOf? members = some type ∧ typed? type = some (fields, make) ∧
        RecordField.ofMembers fields {} (RecordField.known fields members) = some e ∧
          make e = s := by
  simp only [ofMembers?, Option.bind_eq_bind, Option.bind_eq_some_iff, Option.map_eq_some_iff]
  constructor
  · rintro ⟨⟨fields, make⟩, ⟨type, hType, hTyped⟩, e, he, rfl⟩
    exact ⟨type, fields, make, e, hType, hTyped, he, rfl⟩
  · rintro ⟨type, fields, make, e, hType, hTyped, he, rfl⟩
    exact ⟨⟨fields, make⟩, ⟨type, hType, hTyped⟩, e, he, rfl⟩

theorem filter_filter_of_imp {p q : String × Value → Bool}
    (h : ∀ m ∈ members, q m = true → p m = true) :
    (members.filter p).filter q = members.filter q := by
  rw [List.filter_filter]
  refine List.filter_congr fun m hm => ?_
  cases hq : q m with
  | false => rfl
  | true => rw [h m hm hq, Bool.and_true]

theorem mem_of_typeOf? {type : String} (h : typeOf? members = some type) :
    typeKey ∈ members.map Prod.fst := by
  unfold typeOf? at h
  split at h
  next k t hFilter =>
    have hMember : (k, Value.string t) ∈ members.filter fun m => m.1 == typeKey := by
      rw [hFilter]
      exact List.mem_singleton_self _
    obtain ⟨hMember, hKey⟩ := List.mem_filter.mp hMember
    exact List.mem_map.mpr ⟨_, hMember, by simpa using hKey⟩
  next => exact nomatch h

/-- The members under other keys may as well be left out. -/
theorem ofMembers?_filter_keys (h : ofMembers? members = some s) :
    ofMembers? (members.filter fun m => (keys (typeOf? members)).contains m.1) = some s := by
  obtain ⟨type, fields, make, e, hType, hTyped, he, rfl⟩ := ofMembers?_eq_some_iff.mp h
  rw [hType, (keys_of_typed? hTyped).1]
  refine ofMembers?_eq_some_iff.mpr ⟨type, fields, make, e, ?_, hTyped, ?_, rfl⟩
  · rw [← hType, typeOf?, typeOf?, filter_filter_of_imp]
    intro m _ hm
    simpa using Or.inl hm
  · rw [RecordField.known, filter_filter_of_imp]
    · exact he
    · intro m _ hm
      simpa using Or.inr hm

theorem mem_or_eq_bind (h : ofMembers? members = some s) :
    ∀ k ∈ keys (typeOf? members), k ∈ members.map Prod.fst ∨ k = "bind" := by
  obtain ⟨type, fields, make, e, hType, hTyped, he, rfl⟩ := ofMembers?_eq_some_iff.mp h
  obtain ⟨hKeys, hRequired⟩ := keys_of_typed? hTyped
  rw [hType, hKeys]
  intro k hk
  obtain rfl | hk := List.mem_cons.mp hk
  · exact .inl (mem_of_typeOf? hType)
  · obtain ⟨f, hf, rfl⟩ := List.mem_map.mp hk
    refine (hRequired f hf).imp_left fun hRequired => ?_
    have hKnown := mem_of_required he hf hRequired
    exact List.map_subset _ (List.filter_subset_self _) hKnown

end ServiceSpec

/-! ### Files -/

namespace Config

section Files

variable {files : Files} {path text : String} {document : Value}

theorem load_eq (hText : files.readText path = .ok text)
    (hDocument : Value.parse? text.toList = some document) :
    load files path =
      match ofJson? document with
      | some c => .ok { c with source := some path }
      | none => .error (.unparsable path) := by
  have hParse : parse? text.toList = ofJson? document := by
    rw [parse?, hDocument, Option.bind_some]
  cases hRead : ofJson? document <;> simp only [load, hText, hParse, hRead]

/-- A service is in the configuration as it would be without its undeclared
members, and it has all the keys of its type, but perhaps not `bind`. -/
theorem Object.service_of_holds {c : Config} {o : Object} (hService : o.part = .service)
    (h : o.part.Holds c (.object o.members)) :
    ∃ s ∈ c.services, ServiceSpec.ofJson? (.object o.members) = some s ∧
      ServiceSpec.ofJson? (.object o.declared) = some s ∧
      ∀ k ∈ o.keys, k ∈ o.members.map Prod.fst ∨ k = "bind" := by
  obtain ⟨part, members⟩ := o
  cases hService
  obtain ⟨s, hs, hMembers⟩ := h
  exact ⟨s, hs, hMembers, ServiceSpec.ofMembers?_filter_keys hMembers,
    ServiceSpec.mem_or_eq_bind hMembers⟩

/-- **Misspelt keys.**  A document is refused if an object in it that is no
service has a key that the object may not have.  So in a configuration that is
loaded every key of every such object is one that it may have.  Of a service the
members under other keys are dropped: it is in the configuration as it would be
without them.  It has all the keys of its type, but perhaps not `bind`, so no
other key of a service can be misspelt. -/
theorem load_keys (hText : files.readText path = .ok text)
    (hDocument : Value.parse? text.toList = some document) :
    ((∃ o ∈ objects document, o.part ≠ .service ∧ ∃ m ∈ o.members, m.1 ∉ o.keys) →
      load files path = .error (.unparsable path)) ∧
    ∀ c, load files path = .ok c → ∀ o ∈ objects document,
      (o.part ≠ .service → ∀ m ∈ o.members, m.1 ∈ o.keys) ∧
      (o.part = .service →
        ∃ s ∈ c.services, ServiceSpec.ofJson? (.object o.members) = some s ∧
          ServiceSpec.ofJson? (.object o.declared) = some s ∧
          ∀ k ∈ o.keys, k ∈ o.members.map Prod.fst ∨ k = "bind") := by
  rw [load_eq hText hDocument]
  cases hRead : ofJson? document with
  | none => exact ⟨fun _ => rfl, fun c h => nomatch h⟩
  | some c =>
    have hHolds (o : Object) (ho : o ∈ objects document) : o.part.Holds c (.object o.members) :=
      holds_of_mem_parts hRead _ (mem_objects_iff.mp ho)
    refine ⟨?_, ?_⟩
    · rintro ⟨o, ho, hService, m, hm, hKey⟩
      exact absurd (Object.mem_keys hService (hHolds o ho) m hm) hKey
    · intro c' hLoad o ho
      cases hLoad
      refine ⟨fun hService => Object.mem_keys hService (hHolds o ho), fun hService => ?_⟩
      obtain ⟨s, hs, hDropped⟩ := Object.service_of_holds hService (hHolds o ho)
      exact ⟨s, hs, hDropped⟩

end Files

/-- A configuration that has `bnd` for the `bind` of a service. -/
def misspelt : String :=
  "\x7b\"services\": [\x7b\"type\": \"socks\", \"bnd\": \"0.0.0.0\", \"port\": 1080\x7d], " ++
    "\"connect\": \x7b\"max_attempts\": 3\x7d\x7d"

/-- What it is read to in the file `c.json`: the service listens at the loopback
address. -/
def misread : Config :=
  { services := [⟨IpAddress.loopback, 1080, .socks⟩]
    connect := { maxAttempts := 3 }
    source := some "c.json" }

theorem readText_toUTF8 (text path : String) :
    Files.readText (fun _ => .ok text.toUTF8) path = .ok text := by
  have hText : String.fromUTF8? text.toUTF8 = some text := dif_pos text.isValidUTF8
  simp only [Files.readText, hText]

theorem exists_misspelt : ∃ document, Value.parse? misspelt.toList = some document ∧
    ofJson? document = some { misread with source := none } := by
  have hParse : parse? misspelt.toList = some { misread with source := none } := by
    decide +kernel
  exact Option.bind_eq_some_iff.mp hParse

theorem load_misspelt : load (fun _ => .ok misspelt.toUTF8) "c.json" = .ok misread := by
  obtain ⟨document, hDocument, hRead⟩ := exists_misspelt
  rw [load_eq (readText_toUTF8 misspelt "c.json") hDocument, hRead]
  rfl

theorem load_keys_misspelt :
    Files.readText (fun _ => .ok misspelt.toUTF8) "c.json" = .ok misspelt ∧
      load (fun _ => .ok misspelt.toUTF8) "c.json" = .ok misread ∧
      ∃ document, Value.parse? misspelt.toList = some document ∧
        ∀ o ∈ objects document,
          (o.part ≠ .service → ∀ m ∈ o.members, m.1 ∈ o.keys) ∧
          (o.part = .service →
            ∃ s ∈ misread.services, ServiceSpec.ofJson? (.object o.members) = some s ∧
              ServiceSpec.ofJson? (.object o.declared) = some s ∧
              ∀ k ∈ o.keys, k ∈ o.members.map Prod.fst ∨ k = "bind") := by
  have hText := readText_toUTF8 misspelt "c.json"
  obtain ⟨document, hDocument, -⟩ := exists_misspelt
  exact ⟨hText, load_misspelt, document, hDocument,
    (load_keys hText hDocument).2 misread load_misspelt⟩

/-- A configuration with a misspelt key is loaded: the service listens at the
default address, not at the one that is written. -/
theorem load_misspelt_bind :
    load (fun _ => .ok misspelt.toUTF8) "c.json" = .ok misread ∧
      ∃ document, Value.parse? misspelt.toList = some document ∧
        ∃ o ∈ objects document, ∃ m ∈ o.members, m.1 ∉ o.keys := by
  have hUndeclared : ((Value.parse? misspelt.toList).any fun document =>
      (objects document).any fun o => o.members.any fun m => !o.keys.contains m.1) = true := by
    decide +kernel
  obtain ⟨document, hDocument, -⟩ := exists_misspelt
  rw [hDocument] at hUndeclared
  refine ⟨load_misspelt, document, hDocument, ?_⟩
  simpa using hUndeclared

end Config

end SocksGateway
